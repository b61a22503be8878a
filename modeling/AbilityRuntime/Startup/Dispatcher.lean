import AbilityRuntime.Library.Runs
import AbilityRuntime.Startup.TopologySort

set_option autoImplicit false

namespace AbilityRuntime.Startup

open Function

structure StartupTaskResult where
  resultCode : Int := errOk
  resultMessage : String := ""
deriving DecidableEq, Repr

structure OnCompletedCallback where
  callbackFunc : Bool
  isCalled : Bool := false
  calledWith : List StartupTaskResult := []
deriving DecidableEq, Repr

def OnCompletedCallback.call (callback : OnCompletedCallback) (result : StartupTaskResult) :
    OnCompletedCallback :=
  if !callback.callbackFunc then callback
  else if callback.isCalled then callback
  else { callback with isCalled := true, calledWith := callback.calledWith ++ [result] }

inductive TaskState where
  | invalid
  | created
  | initializing
  | initialized
deriving DecidableEq, Repr

-- What a task's own RunTaskInit does with its callback before it returns.
inductive Reply where
  | now (result : Option StartupTaskResult)
  | later
  | never

structure InitAnswer where
  reply : Reply
  code : Int

structure KeptCallback where
  name : String
  saves : Bool

inductive Frame where
  | run (names : List String)
  | dispatch (name : String) (result : Option StartupTaskResult)
  | notify (name : String) (result : StartupTaskResult) (children zeroInDegree : List String)
  | start (name : String) (result : StartupTaskResult) (zeroInDegree : List String)
  | await (name : String) (result : StartupTaskResult)
  | settle (name : String) (result : StartupTaskResult)
deriving DecidableEq, Repr

structure History where
  started : List String := []
  dispatched : List String := []
  completed : List String := []
  settled : List String := []
  notified : String -> List String := fun _ => []

/-- Each thread is the calls that run in it, the innermost first. -/
structure Dispatcher where
  inDegreeMap : String -> Option Int
  mainThreadAwaitCount : Int
  tasksCount : Int
  completedCallback : Option OnCompletedCallback
  mainThreadAwaitCallback : Option OnCompletedCallback
  isTimeoutStopped : Bool := false
  threads : List (List Frame)
  kept : List KeptCallback := []
  posted : List StartupTaskResult := []
  taskState : String -> TaskState
  taskResult : String -> Option StartupTaskResult
  history : History := { }

inductive Action where
  | advance (thread : Nat) (answer : InitAnswer)
  | arrive (thread callback : Nat) (result : Option StartupTaskResult)
  | timeoutStop
  | runPosted (index : Nat)
  | changeTask (name : String) (state : TaskState) (result : Option StartupTaskResult)

namespace Dispatcher

variable (tasks : StartupMap) (sortResult : StartupSortResult)

section

variable (disp : Dispatcher)

def saveResult (name : String) (result : Option StartupTaskResult) : Dispatcher :=
  match result with
  | none => disp
  | some saved =>
    { disp with
      taskResult := update disp.taskResult name result
      taskState := update disp.taskState name
        (if saved.resultCode = errOk then .initialized else .created) }

-- Both forms of OnError end like this; the main thread runs what is posted later.
def onError (result : StartupTaskResult) : Dispatcher :=
  { disp with
    completedCallback := disp.completedCallback.map fun callback => callback.call result
    posted := disp.posted ++ [result] }

def runTaskInit (name : String) (answer : InitAnswer) : Dispatcher × List Frame × Int :=
  match disp.taskState name with
  | .created =>
    let disp := { disp with
      taskState := update disp.taskState name .initializing
      history := { disp.history with started := disp.history.started ++ [name] } }
    match answer.reply with
    | .now result => (disp.saveResult name result, [.dispatch name result], answer.code)
    | .later => ({ disp with kept := disp.kept ++ [⟨name, true⟩] }, [], answer.code)
    | .never => (disp, [], answer.code)
  | .initialized => (disp, [.dispatch name (disp.taskResult name)], errOk)
  | .initializing => ({ disp with kept := disp.kept ++ [⟨name, false⟩] }, [], errOk)
  | .invalid => (disp, [], errStartupInternalError)

def startNext (name : String) (answer : InitAnswer) (rest : Frame) : Dispatcher × List Frame :=
  if disp.isTimeoutStopped then (disp, [])
  else
    let (disp, frames, code) := disp.runTaskInit name answer
    (disp, frames ++ if code = errOk then [rest] else [])

def dispatch (name : String) (result : Option StartupTaskResult) : Dispatcher × List Frame :=
  let history := { disp.history with dispatched := disp.history.dispatched ++ [name] }
  let disp := { disp with history := history }
  match result with
  | none => (disp.onError ⟨errStartupInternalError, name ++ ": result is null"⟩, [])
  | some result =>
    if result.resultCode ≠ errOk then
      (disp.onError { result with resultMessage := name ++ ": " ++ result.resultMessage }, [])
    else
      let disp := { disp with
        history := { history with completed := history.completed ++ [name] } }
      match tasks.find name with
      | none => (disp.onError ⟨errStartupInternalError, name ++ " not found"⟩, [])
      | some _ =>
        match sortResult.startupChildrenMap name with
        | none => (disp.onError ⟨errStartupInternalError, name ++ " is not found"⟩, [])
        | some children => (disp, [.notify name result children []])

def notifyChild (name : String) (result : StartupTaskResult) (child : String)
    (rest zeroInDegree : List String) : Dispatcher × List Frame :=
  match disp.inDegreeMap child with
  | none =>
    (disp.onError ⟨errStartupInternalError, child ++ "is not found in inDegreeMap_."⟩, [])
  | some degree =>
    match tasks.find child with
    | none => (disp.onError ⟨errStartupInternalError, child ++ "is not found in tasks_."⟩, [])
    | some _ =>
      ({ disp with
          inDegreeMap := update disp.inDegreeMap child (some (degree - 1))
          history := { disp.history with
            notified := update disp.history.notified child
              (disp.history.notified child ++ [name]) } },
        [.notify name result rest (if degree - 1 = 0 then zeroInDegree ++ [child] else zeroInDegree)])

def countAwait (name : String) (result : StartupTaskResult) : Dispatcher × List Frame :=
  let waits := (tasks.find name).any fun task => task.waitOnMainThread
  let disp :=
    if waits then
      { disp with
        mainThreadAwaitCount := disp.mainThreadAwaitCount - 1
        mainThreadAwaitCallback :=
          if disp.mainThreadAwaitCount = 1 then
            disp.mainThreadAwaitCallback.map fun callback => callback.call result
          else disp.mainThreadAwaitCallback }
    else disp
  (disp, [.settle name result])

def countTask (name : String) (result : StartupTaskResult) : Dispatcher × List Frame :=
  ({ disp with
      tasksCount := disp.tasksCount - 1
      completedCallback :=
        if disp.tasksCount = 1 then
          disp.completedCallback.map fun callback => callback.call result
        else disp.completedCallback
      history := { disp.history with settled := disp.history.settled ++ [name] } },
    [])

def stepFrame (answer : InitAnswer) : Frame -> Dispatcher × List Frame
  | .run [] => (disp, [])
  | .run (name :: rest) =>
    match tasks.find name with
    | none => (disp, [])
    | some _ => disp.startNext name answer (.run rest)
  | .dispatch name result => disp.dispatch tasks sortResult name result
  | .notify name result [] zeroInDegree => (disp, [.start name result zeroInDegree])
  | .notify name result (child :: rest) zeroInDegree =>
    disp.notifyChild tasks name result child rest zeroInDegree
  | .start name result [] => (disp, [.await name result])
  | .start name result (child :: rest) => disp.startNext child answer (.start name result rest)
  | .await name result => disp.countAwait tasks name result
  | .settle name result => disp.countTask name result

def advance (thread : Nat) (answer : InitAnswer) : Dispatcher :=
  match disp.threads[thread]? with
  | none | some [] => disp
  | some (frame :: below) =>
    let (disp, frames) := disp.stepFrame tasks sortResult answer frame
    { disp with threads := disp.threads.set thread (frames ++ below) }

def arrive (thread callback : Nat) (result : Option StartupTaskResult) : Dispatcher :=
  match disp.kept[callback]? with
  | none => disp
  | some waiting =>
    let disp := { disp with kept := disp.kept.eraseIdx callback }
    let disp := if waiting.saves then disp.saveResult waiting.name result else disp
    let frame := Frame.dispatch waiting.name result
    match disp.threads[thread]? with
    | none => { disp with threads := disp.threads ++ [[frame]] }
    | some below => { disp with threads := disp.threads.set thread (frame :: below) }

def step : Action -> Dispatcher
  | .advance thread answer => disp.advance tasks sortResult thread answer
  | .arrive thread callback result => disp.arrive thread callback result
  | .timeoutStop => { disp with isTimeoutStopped := true }
  | .runPosted index =>
    match disp.posted[index]? with
    | none => disp
    | some result =>
      { disp with
        posted := disp.posted.eraseIdx index
        mainThreadAwaitCallback :=
          disp.mainThreadAwaitCallback.map fun callback => callback.call result }
  | .changeTask name state result =>
    { disp with
      taskState := update disp.taskState name state
      taskResult := update disp.taskResult name result }

end

/-- Run up to its loop. Either callback may be null or hold no function. -/
def run (completedCallback mainThreadAwaitCallback : Option Bool) (taskState : String -> TaskState)
    (taskResult : String -> Option StartupTaskResult) : Dispatcher :=
  let awaited := (tasks.tasks.filter fun task => task.waitOnMainThread).length
  let callback : Option OnCompletedCallback :=
    mainThreadAwaitCallback.map fun callbackFunc => { callbackFunc }
  { inDegreeMap := fun name => (tasks.find name).map fun task => (task.dependencies.length : Int)
    mainThreadAwaitCount := awaited
    tasksCount := tasks.tasks.length
    completedCallback := completedCallback.map fun callbackFunc => { callbackFunc }
    mainThreadAwaitCallback :=
      if awaited = 0 then callback.map fun callback => callback.call { } else callback
    threads := [[.run sortResult.zeroDequeResult]]
    taskState := taskState
    taskResult := taskResult }

end Dispatcher

def dispatcher (tasks : StartupMap) (sortResult : StartupSortResult)
    (completedCallback mainThreadAwaitCallback : Option Bool) (taskState : String -> TaskState)
    (taskResult : String -> Option StartupTaskResult) : Library.Machine Dispatcher Action where
  start := Dispatcher.run tasks sortResult completedCallback mainThreadAwaitCallback taskState taskResult
  step := Dispatcher.step tasks sortResult

end AbilityRuntime.Startup
