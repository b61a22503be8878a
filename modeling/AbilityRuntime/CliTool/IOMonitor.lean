import Mathlib.Data.String.Basic
import AbilityRuntime.Library.Runs

set_option autoImplicit false

namespace AbilityRuntime.CliTool

open Function

def inputWriteTimeoutMs : Nat := 30 * 1000
def maxPendingInputBytes : Nat := 4 * 1024 * 1024
def maxPendingInputMessages : Nat := 4096

structure FdInfo where
  sessionId : String
  isStdout : Bool := false
  isStdin : Bool := false

-- The serial, which the code does not have, tells accepted messages with the same content apart.
structure PendingInput where
  message : List UInt8
  eventId : String
  serial : Nat
deriving DecidableEq, Repr

structure InputQueue where
  pendingInputs : List PendingInput := []
  pendingBytes : Nat := 0
  writeTaskRunning : Bool := false

inductive PollAnswer where
  | timedOut
  | interrupted
  | failed
  | hungUp
  | writable

-- What one round of the write loop gets from the system; a write of 0 bytes is a closed pipe.
inductive WriteAnswer where
  | wrote (bytes : Nat)
  | interrupted
  | failed
  | wouldBlock (elapsed : Nat) (poll : PollAnswer)

def writeLoop (totalBytes bytesWritten : Nat) : List WriteAnswer -> Option Bool
  | [] => if bytesWritten < totalBytes then none else some true
  | answer :: rest =>
    if bytesWritten < totalBytes then
      match answer with
      | .wrote 0 => some false
      | .wrote bytes => writeLoop totalBytes (bytesWritten + bytes) rest
      | .interrupted => writeLoop totalBytes bytesWritten rest
      | .failed => some false
      | .wouldBlock elapsed poll =>
        if elapsed ≥ inputWriteTimeoutMs then some false
        else
          match poll with
          | .failed | .hungUp => some false
          | .timedOut | .interrupted | .writable => writeLoop totalBytes bytesWritten rest
    else some true

def writeMessage (message : List UInt8) (answers : List WriteAnswer) : Option Bool :=
  writeLoop message.length 0 answers

/-- A run of ProcessWriteQueue: before its look at the queue, with a message, failed, or over. -/
inductive WriteTask where
  | looping
  | writing (fd : Int) (input : PendingInput)
  | failed
  | returned
deriving DecidableEq, Repr

structure SessionLog where
  accepted : List PendingInput := []
  written : List PendingInput := []
  replied : List (PendingInput × Bool) := []
  rejected : List String := []

/-- The monitor with the write tasks by session. The last four fields are history. -/
structure IOMonitor where
  running : Bool := true
  fdMap : Std.ExtTreeMap Int FdInfo := ∅
  inputQueues : String -> Option InputQueue := fun _ => none
  writeTasks : String -> List WriteTask := fun _ => []
  log : String -> SessionLog := fun _ => { }
  acceptedCount : Nat := 0
  registered : List String := []
  unregistered : List String := []

def queued (queue : Option InputQueue) : List PendingInput :=
  queue.elim [] InputQueue.pendingInputs

def SessionLog.fail (log : SessionLog) (failedInputs : List PendingInput) : SessionLog :=
  { log with replied := log.replied ++ failedInputs.map fun input => (input, false) }

namespace IOMonitor

def setQueue (mon : IOMonitor) (sessionId : String) (queue : Option InputQueue) : IOMonitor :=
  { mon with inputQueues := update mon.inputQueues sessionId queue }

def setTask (mon : IOMonitor) (sessionId : String) (task : Nat) (place : WriteTask) : IOMonitor :=
  { mon with
    writeTasks := update mon.writeTasks sessionId ((mon.writeTasks sessionId).set task place) }

def setLog (mon : IOMonitor) (sessionId : String) (log : SessionLog) : IOMonitor :=
  { mon with log := update mon.log sessionId log }

def addFd (fdMap : Std.ExtTreeMap Int FdInfo) (fd : Int) (info : FdInfo) :
    Std.ExtTreeMap Int FdInfo :=
  if fd ≥ 0 then fdMap.insert fd info else fdMap

section

variable (mon : IOMonitor)

def registerSession (sessionId : String) (stdoutFd stderrFd stdinFd : Int)
    (stdoutAdded stderrAdded : Bool) : IOMonitor :=
  let mon := { mon with registered := sessionId :: mon.registered }
  if stdoutFd ≥ 0 ∧ ¬ stdoutAdded then mon
  else
    let fdMap := addFd mon.fdMap stdoutFd { sessionId, isStdout := true }
    if stderrFd ≥ 0 ∧ ¬ stderrAdded then
      { mon with fdMap := if stdoutFd ≥ 0 then fdMap.erase stdoutFd else fdMap }
    else
      { mon with
        fdMap := addFd (addFd fdMap stderrFd { sessionId }) stdinFd { sessionId, isStdin := true } }

def unregisterSession (sessionId : String) : IOMonitor :=
  let failedInputs := queued (mon.inputQueues sessionId)
  let mon := { mon with
    fdMap := mon.fdMap.filter fun _ info => info.sessionId != sessionId
    unregistered := sessionId :: mon.unregistered }
  (mon.setQueue sessionId none).setLog sessionId ((mon.log sessionId).fail failedInputs)

def stop : IOMonitor :=
  if mon.running then
    { mon with
      running := false
      fdMap := ∅
      inputQueues := fun _ => none
      log := fun sessionId => (mon.log sessionId).fail (queued (mon.inputQueues sessionId))
      unregistered := mon.registered ++ mon.unregistered }
  else mon

def getStdinFdLocked (sessionId : String) : Int :=
  match mon.fdMap.toList.find? fun entry => entry.2.sessionId == sessionId && entry.2.isStdin with
  | none => -1
  | some entry => entry.1

def reject (sessionId eventId : String) : IOMonitor :=
  mon.setLog sessionId
    { mon.log sessionId with rejected := (mon.log sessionId).rejected ++ [eventId] }

-- The message goes into the queue, and a task is submitted unless one is running.
def acceptMessage (sessionId : String) (queue : InputQueue) (message : List UInt8)
    (eventId : String) : IOMonitor :=
  let input : PendingInput := ⟨message, eventId, mon.acceptedCount⟩
  let log := mon.log sessionId
  let submitted := if queue.writeTaskRunning then [] else [WriteTask.looping]
  { mon with
    inputQueues := update mon.inputQueues sessionId (some
      { pendingInputs := queue.pendingInputs ++ [input]
        pendingBytes := queue.pendingBytes + message.length
        writeTaskRunning := true })
    writeTasks := update mon.writeTasks sessionId (mon.writeTasks sessionId ++ submitted)
    log := update mon.log sessionId { log with accepted := log.accepted ++ [input] }
    acceptedCount := mon.acceptedCount + 1 }

def sendMessage (sessionId : String) (message : List UInt8) (eventId : String) : IOMonitor :=
  if mon.getStdinFdLocked sessionId < 0 then mon.reject sessionId eventId
  else
    let queue := (mon.inputQueues sessionId).getD { }
    if queue.pendingBytes + message.length > maxPendingInputBytes ∨
        queue.pendingInputs.length ≥ maxPendingInputMessages then
      -- the lookup has already made an entry for the session
      (mon.setQueue sessionId (some queue)).reject sessionId eventId
    else mon.acceptMessage sessionId queue message eventId

def takeInput (sessionId : String) (task : Nat) (dup : Int) : IOMonitor :=
  match mon.inputQueues sessionId with
  | none => mon.setTask sessionId task .returned
  | some queue =>
    match queue.pendingInputs with
    | [] =>
      (mon.setQueue sessionId
        (if queue.pendingBytes = 0 then none
          else some { queue with writeTaskRunning := false })).setTask sessionId task .returned
    | input :: rest =>
      let fd := if mon.getStdinFdLocked sessionId ≥ 0 then dup else -1
      (mon.setQueue sessionId (some { queue with
        pendingInputs := rest
        pendingBytes := queue.pendingBytes - input.message.length })).setTask sessionId task
          (.writing fd input)

-- The write outside the lock, its reply, and what follows from the result.
def writeInput (sessionId : String) (task : Nat) (fd : Int) (input : PendingInput)
    (answers : List WriteAnswer) : IOMonitor :=
  let log := mon.log sessionId
  if fd ≥ 0 then
    match writeMessage input.message answers with
    | none => mon
    | some result =>
      (mon.setLog sessionId { log with
        written := log.written ++ [input]
        replied := log.replied ++ [(input, result)] }).setTask sessionId task
          (if result then .looping else .failed)
  else (mon.setLog sessionId (log.fail [input])).setTask sessionId task .failed

def failQueue (sessionId : String) (task : Nat) : IOMonitor :=
  ((mon.setQueue sessionId none).setLog sessionId
    ((mon.log sessionId).fail (queued (mon.inputQueues sessionId)))).setTask sessionId task .returned

def processWriteQueue (sessionId : String) (task : Nat) (dup : Int)
    (answers : List WriteAnswer) : IOMonitor :=
  match (mon.writeTasks sessionId)[task]? with
  | some .looping => mon.takeInput sessionId task dup
  | some (.writing fd input) => mon.writeInput sessionId task fd input answers
  | some .failed => mon.failQueue sessionId task
  | some .returned | none => mon

def closeFdLocked (fd : Int) (info : FdInfo) : IOMonitor :=
  match mon.fdMap[fd]? with
  | none => mon
  | some found =>
    if found.sessionId ≠ info.sessionId then mon else { mon with fdMap := mon.fdMap.erase fd }

end

end IOMonitor

/-- One step is a region under fdMutex_ with its replies, or the write between two. -/
inductive Step where
  | registerSession (sessionId : String) (stdoutFd stderrFd stdinFd : Int)
      (stdoutAdded stderrAdded : Bool)
  | unregisterSession (sessionId : String)
  | stop
  | sendMessage (sessionId : String) (message : List UInt8) (eventId : String)
  | processWriteQueue (sessionId : String) (task : Nat) (dup : Int) (answers : List WriteAnswer)
  | closeFdLocked (fd : Int) (info : FdInfo)

def IOMonitor.step (mon : IOMonitor) : Step -> IOMonitor
  | .registerSession sessionId stdoutFd stderrFd stdinFd stdoutAdded stderrAdded =>
    mon.registerSession sessionId stdoutFd stderrFd stdinFd stdoutAdded stderrAdded
  | .unregisterSession sessionId => mon.unregisterSession sessionId
  | .stop => mon.stop
  | .sendMessage sessionId message eventId => mon.sendMessage sessionId message eventId
  | .processWriteQueue sessionId task dup answers =>
    mon.processWriteQueue sessionId task dup answers
  | .closeFdLocked fd info => mon.closeFdLocked fd info

def monitor : Library.Machine IOMonitor Step where
  start := { }
  step := IOMonitor.step

def Step.NotAgain (mon : IOMonitor) : Step -> Prop
  | .registerSession sessionId _ _ _ _ _ => sessionId ∉ mon.unregistered
  | _ => True

instance (mon : IOMonitor) : DecidablePred (Step.NotAgain mon)
  | .registerSession sessionId _ _ _ _ _ => inferInstanceAs (Decidable (sessionId ∉ mon.unregistered))
  | .unregisterSession _ | .stop | .sendMessage _ _ _ | .processWriteQueue _ _ _ _ |
    .closeFdLocked _ _ => isTrue trivial

end AbilityRuntime.CliTool
