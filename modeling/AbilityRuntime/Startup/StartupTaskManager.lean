import AbilityRuntime.Startup.DispatcherRuns

set_option autoImplicit false

namespace AbilityRuntime.Startup

def errStartupInvalidValue : Int := 401
def errStartupFailedToExecuteStartup : Int := 28800003
def errStartupTimeout : Int := 28800004

def errMsgMap : List (Int × String) :=
  [(errStartupInvalidValue, "invalid parameter."),
    (errStartupInternalError, "internal error."),
    (errStartupDependencyNotFound, "startup task or its dependency not found."),
    (errStartupCircularDependency, "the startup tasks have circular dependencies."),
    (errStartupFailedToExecuteStartup, "an error occurred while running the startup tasks."),
    (errStartupTimeout, "running startup tasks timeout.")]

def getErrorMessage (errCode : Int) : String := (errMsgMap.lookup errCode).getD "internal error."

/-- What a manager tells the world: its listener's calls, and its place in the map. -/
structure StartupTaskManager where
  startupTaskManagerId : Nat
  config : Bool
  startupTaskManagerMap : List Nat
  listenerResults : List StartupTaskResult := []
deriving DecidableEq, Repr

namespace StartupTaskManager

def completedResult (result : StartupTaskResult) : StartupTaskResult :=
  if result.resultMessage.isEmpty then ⟨result.resultCode, getErrorMessage result.resultCode⟩
  else result

def onStartupTaskManagerComplete (mgr : StartupTaskManager) : StartupTaskManager :=
  { mgr with
    startupTaskManagerMap :=
      mgr.startupTaskManagerMap.filter fun id => id ≠ mgr.startupTaskManagerId }

def callListenerOnCompleted (mgr : StartupTaskManager) (result : StartupTaskResult) :
    StartupTaskManager :=
  if mgr.config then
    { mgr with
      listenerResults := mgr.listenerResults ++ [completedResult result]
    }.onStartupTaskManagerComplete
  else mgr

def prepare (mgr : StartupTaskManager) (tasks : StartupMap) :
    StartupTaskManager × Except Int StartupSortResult :=
  match sort tasks with
  | .error code => (mgr.callListenerOnCompleted ⟨code, ""⟩, .error code)
  | .ok sortResult =>
    if tasks.tasks.isEmpty then (mgr, .error errStartupInternalError)
    else (mgr, .ok sortResult)

end StartupTaskManager

namespace Dispatcher

variable (tasks : StartupMap)

def topFrame (disp : Dispatcher) : Action -> Option (Frame × InitAnswer)
  | .advance thread answer =>
    match disp.threads[thread]? with
    | some (frame :: _) => some (frame, answer)
    | none | some [] => none
  | .arrive _ _ _ | .timeoutStop | .runPosted _ | .changeTask _ _ _ => none

-- What the loop of Run returns when it ends with this step.
def runReturns (disp : Dispatcher) : Frame × InitAnswer -> Option Int
  | (.run [], _) => some errOk
  | (.run (name :: _), answer) =>
    match tasks.find name with
    | none => some errStartupInternalError
    | some _ =>
      if disp.isTimeoutStopped then some errStartupTimeout
      else
        let code := (disp.runTaskInit name answer).2.2
        if code = errOk then none else some code
  | _ => none

def refused (disp : Dispatcher) : Frame × InitAnswer -> Option String
  | (.run (name :: _), answer) | (.start _ _ (name :: _), answer) =>
    if disp.isTimeoutStopped then none
    else if (disp.runTaskInit name answer).2.2 = errOk then none
    else some name
  | _ => none

def failure : Frame × InitAnswer -> Option (String × StartupTaskResult)
  | (.dispatch name none, _) =>
    some (name, ⟨errStartupInternalError, name ++ ": result is null"⟩)
  | (.dispatch name (some result), _) =>
    if result.resultCode = errOk then none
    else some (name, { result with resultMessage := name ++ ": " ++ result.resultMessage })
  | _ => none

-- A result that comes when the dispatcher is gone is only saved.
def arriveLate (disp : Dispatcher) (callback : Nat) (result : Option StartupTaskResult) :
    Dispatcher :=
  match disp.kept[callback]? with
  | none => disp
  | some waiting =>
    let disp := { disp with kept := disp.kept.eraseIdx callback }
    if waiting.saves then disp.saveResult waiting.name result else disp

def completedCalls (disp : Dispatcher) : List StartupTaskResult :=
  (disp.completedCallback.map OnCompletedCallback.calledWith).getD []

def isCalled (disp : Dispatcher) : Bool := disp.completedCallback.any OnCompletedCallback.isCalled

end Dispatcher

/-- A manager in or after its Run, with what the code does not keep of it. -/
structure ManagerRun where
  mgr : StartupTaskManager
  dispatcher : Dispatcher
  timer : Bool
  loopResult : Option Int := none
  runResult : Option Int := none
  timedOut : Bool := false
  failures : List (String × StartupTaskResult) := []
  refused : List String := []
  lost : List String := []

inductive ManagerAction where
  | dispatch (action : Action)
  | returnRun
  | onTimeout
  | otherManagers (ids : List Nat)

namespace ManagerRun

variable (tasks : StartupMap) (sortResult : StartupSortResult)

def held (state : ManagerRun) : Bool :=
  state.mgr.startupTaskManagerMap.contains state.mgr.startupTaskManagerId || state.runResult.isNone

def completed (state : ManagerRun) (result : StartupTaskResult) : ManagerRun :=
  if state.held then
    { state with timer := false, mgr := state.mgr.callListenerOnCompleted result }
  else state

def record (state : ManagerRun) (action : Action) : ManagerRun :=
  let top := state.dispatcher.topFrame action
  { state with
    dispatcher := state.dispatcher.step tasks sortResult action
    loopResult := state.loopResult <|> top.bind (state.dispatcher.runReturns tasks)
    failures := state.failures ++ (top.bind Dispatcher.failure).toList
    refused := state.refused ++ (top.bind state.dispatcher.refused).toList }

def dispatch (state : ManagerRun) (action : Action) : ManagerRun :=
  let after := state.record tasks sortResult action
  let newCalls := after.dispatcher.completedCalls.drop state.dispatcher.completedCalls.length
  newCalls.foldl completed after

def arriveLate (state : ManagerRun) (callback : Nat) (result : Option StartupTaskResult) :
    ManagerRun :=
  { state with
    dispatcher := state.dispatcher.arriveLate callback result
    lost := state.lost ++ (state.dispatcher.kept[callback]?.map KeptCallback.name).toList }

def returnRun (state : ManagerRun) : ManagerRun :=
  match state.loopResult with
  | none => state
  | some code =>
    if state.runResult.isNone && state.dispatcher.threads[0]? == some [] then
      if code = errOk then { state with runResult := some code }
      else
        { state with
          timer := false
          mgr :=
            if state.dispatcher.isCalled then state.mgr
            else state.mgr.callListenerOnCompleted ⟨code, ""⟩
          runResult := some code }
    else state

def onTimeout (state : ManagerRun) : ManagerRun :=
  if state.timer then
    { state with
      timer := false
      timedOut := true
      mgr := (state.mgr.callListenerOnCompleted
        ⟨errStartupTimeout, getErrorMessage errStartupTimeout⟩).onStartupTaskManagerComplete }
  else state

def step (state : ManagerRun) : ManagerAction -> ManagerRun
  | .dispatch (.arrive thread callback result) =>
    if state.held then state.dispatch tasks sortResult (.arrive thread callback result)
    else state.arriveLate callback result
  | .dispatch action => state.dispatch tasks sortResult action
  | .returnRun => state.returnRun
  | .onTimeout => state.onTimeout
  | .otherManagers ids =>
    let own (id : Nat) : Bool := id = state.mgr.startupTaskManagerId
    { state with
      mgr := { state.mgr with
        startupTaskManagerMap := state.mgr.startupTaskManagerMap.filter own ++
          ids.filter fun id => !own id } }

def run (mgr : StartupTaskManager) (timer : Bool) (mainThreadAwaitCallback : Option Bool)
    (taskState : String -> TaskState) (taskResult : String -> Option StartupTaskResult) : ManagerRun where
  mgr := mgr
  dispatcher := Dispatcher.run tasks sortResult (some true) mainThreadAwaitCallback taskState taskResult
  timer := timer

structure Idle (state : ManagerRun) : Prop where
  returned : state.runResult.isSome
  threads : ∀ thread ∈ state.dispatcher.threads, thread = []
  kept : state.dispatcher.kept = []
  ended : ∀ name ∈ state.dispatcher.history.started, name ∈ state.dispatcher.history.dispatched ∨
    name ∈ state.lost ∨ name ∈ state.refused

structure NoTimeOut (state : ManagerRun) : Prop where
  mgr : state.timedOut = false
  dispatcher : state.dispatcher.isTimeoutStopped = false

end ManagerRun

def startupTaskManager (tasks : StartupMap) (sortResult : StartupSortResult)
    (mgr : StartupTaskManager) (timer : Bool) (mainThreadAwaitCallback : Option Bool)
    (taskState : String -> TaskState) (taskResult : String -> Option StartupTaskResult) :
    Library.Machine ManagerRun ManagerAction where
  start := ManagerRun.run tasks sortResult mgr timer mainThreadAwaitCallback taskState taskResult
  step := ManagerRun.step tasks sortResult

end AbilityRuntime.Startup
