import AbilityRuntime.PendingWant.Manager

set_option autoImplicit false

namespace AbilityRuntime.PendingWant

open OperationType

inductive Operation where
  | startAbility
  | startAbilities
  | publishCommonEvent
  | startServiceExtension

def PendingWantRecord.executeOperation {Want : Type} (record : PendingWantRecord Want) :
    Option Operation :=
  let type := record.key.type
  if type = startAbility.toInt32 then some .startAbility
  else if type = startAbilities.toInt32 then
    if record.key.allWantsInfos.isEmpty then none else some .startAbilities
  else if type = startService.toInt32 ∨
      type = startForegroundService.toInt32 then some .startAbility
  else if type = sendCommonEvent.toInt32 then some .publishCommonEvent
  else if type = startServiceExtension.toInt32 then some .startServiceExtension
  else none

namespace PendingWantManager

variable {Want : Type}

def isCanceled (mgr : PendingWantManager Want) (r : Nat) : Bool :=
  mgr.records[r]?.any fun record => record.canceled

def isOneTime (mgr : PendingWantManager Want) (r : Nat) : Bool :=
  mgr.records[r]?.any fun record => Flags.has record.key.flags Flags.oneTimeFlag

def operationOf (mgr : PendingWantManager Want) (r : Nat) : Option Operation :=
  mgr.records[r]?.bind fun record => record.executeOperation

end PendingWantManager

inductive Task (Want : Type) where
  | senderInner (caller : Caller) (r : Nat)
  | cancelWantSender (caller : Caller) (isSystemAppCall : Bool) (r : Nat)
  | getWantSender (call : GetWantSenderCall Want)
  | getPendingWantRecordByCode (code : Int32)
  | clearPendingWantRecordTask (caller : Caller) (bundleName : String) (uid : Int32)

inductive SendPlace where
  | begun
  | locked
  | passed
  | canceling
  | marked
  | ready
  | executed

inductive Thread (Want : Type) where
  | idle
  | send (caller : Caller) (r : Nat) (canceledAtBegin : Bool) (place : SendPlace)
  | cancelBegun (caller : Caller) (r : Nat)
  | cancelLocked (caller : Caller) (r : Nat)
  | cancelMarked (caller : Caller) (r : Nat)
  | getBegun (call : GetWantSenderCall Want)
  | getLocked (call : GetWantSenderCall Want)
  | getMarked (call : GetWantSenderCall Want) (r : Nat) (canceledWhenFound : Bool)
  | byCode (code : Int32)
  | clear (caller : Caller) (bundleName : String) (uid : Int32)

structure Executed where
  r : Nat
  operation : Operation
  canceledAtBegin : Bool

structure Answer where
  r : Nat
  created : Bool
  cancelPresent : Bool
  canceledWhenFound : Bool
  canceledWhenReturned : Bool

structure System (Want : Type) where
  mgr : PendingWantManager Want := { }
  threads : Nat -> Thread Want := fun _ => .idle
  mutex : Option Nat := none
  lock : Nat -> Option Nat := fun _ => none
  executed : List Executed := []
  answers : List Answer := []

inductive Action (Want : Type) where
  | begin (thread : Nat) (task : Task Want)
  | advance (thread : Nat) (managerAlive : Bool)

namespace System

variable {Want : Type} (api : WantApi Want)

section

variable (sys : System Want)

def goTo (thread : Nat) (state : Thread Want) : System Want :=
  { sys with threads := Function.update sys.threads thread state }

def begin (thread : Nat) : Task Want -> System Want
  | .senderInner caller r =>
    if r < sys.mgr.records.length then
      sys.goTo thread (.send caller r (sys.mgr.isCanceled r) .begun)
    else sys
  | .cancelWantSender caller isSystemAppCall r =>
    if !caller.isSACall && !isSystemAppCall then sys
    else if r < sys.mgr.records.length then sys.goTo thread (.cancelBegun caller r)
    else sys
  | .getWantSender call => if call.isPermitted then sys.goTo thread (.getBegun call) else sys
  | .getPendingWantRecordByCode code => sys.goTo thread (.byCode code)
  | .clearPendingWantRecordTask caller bundleName uid =>
    sys.goTo thread (.clear caller bundleName uid)

def takeMutex (thread : Nat) (state : Thread Want) : System Want :=
  if sys.mutex = none then { sys.goTo thread state with mutex := some thread } else sys

def leave (thread : Nat) (mgr : PendingWantManager Want) (state : Thread Want) : System Want :=
  { sys.goTo thread state with mgr := mgr, mutex := none }

def unlock (thread r : Nat) : System Want :=
  { sys.goTo thread .idle with lock := Function.update sys.lock r none }

def answer (ref : Option Nat) (created cancelPresent canceledWhenFound : Bool) : System Want :=
  match ref with
  | none => sys
  | some r =>
    { sys with
      answers := sys.answers ++
        [⟨r, created, cancelPresent, canceledWhenFound, sys.mgr.isCanceled r⟩] }

def advanceSend (thread : Nat) (managerAlive : Bool) (caller : Caller) (r : Nat)
    (canceledAtBegin : Bool) : SendPlace -> System Want
  | .begun =>
    if sys.lock r = none then
      { sys.goTo thread (.send caller r canceledAtBegin .locked) with
        lock := Function.update sys.lock r (some thread) }
    else sys
  | .locked =>
    if sys.mgr.isCanceled r then sys.unlock thread r
    else if !managerAlive then sys.unlock thread r
    else sys.goTo thread (.send caller r canceledAtBegin .passed)
  | .passed =>
    if sys.mgr.isOneTime r then sys.takeMutex thread (.send caller r canceledAtBegin .canceling)
    else sys.goTo thread (.send caller r canceledAtBegin .ready)
  | .canceling =>
    { sys.goTo thread (.send caller r canceledAtBegin .marked) with
      mgr := sys.mgr.makeWantSenderCanceledLocked api r }
  | .marked =>
    sys.leave thread (sys.mgr.removeRecord caller r) (.send caller r canceledAtBegin .ready)
  | .ready =>
    let sys' := sys.goTo thread (.send caller r canceledAtBegin .executed)
    match sys.mgr.operationOf r with
    | none => sys'
    | some operation => { sys' with executed := sys.executed ++ [⟨r, operation, canceledAtBegin⟩] }
  | .executed => sys.unlock thread r

def advanceGet (thread : Nat) (call : GetWantSenderCall Want) : System Want :=
  match sys.mgr.getPendingWantRecordByKey api (call.pendingKey api) with
  | none =>
    let made := sys.mgr.createOrReturn api call none
    (sys.leave thread made.1 .idle).answer made.2 true call.needCancel false
  | some r =>
    if call.needCancel then
      { sys.goTo thread (.getMarked call r (sys.mgr.isCanceled r)) with
        mgr := sys.mgr.makeWantSenderCanceledLocked api r }
    else
      let mgr := if call.needUpdate then sys.mgr.updatePresent api r call else sys.mgr
      (sys.leave thread mgr .idle).answer (some r) false call.needCancel (sys.mgr.isCanceled r)

/-- The two locks as the code takes them; a cancelling call makes two steps. -/
def advance (thread : Nat) (managerAlive : Bool) : System Want :=
  match sys.threads thread with
  | .idle => sys
  | .send caller r canceledAtBegin place =>
    sys.advanceSend api thread managerAlive caller r canceledAtBegin place
  | .cancelBegun caller r => sys.takeMutex thread (.cancelLocked caller r)
  | .cancelLocked caller r =>
    { sys.goTo thread (.cancelMarked caller r) with
      mgr := sys.mgr.makeWantSenderCanceledLocked api r }
  | .cancelMarked caller r => sys.leave thread (sys.mgr.removeRecord caller r) .idle
  | .getBegun call => sys.takeMutex thread (.getLocked call)
  | .getLocked call => sys.advanceGet api thread call
  | .getMarked call r canceledWhenFound =>
    let made := (sys.mgr.removeRecord call.caller r).createOrReturn api call (some r)
    (sys.leave thread made.1 .idle).answer made.2 call.needCreate call.needCancel canceledWhenFound
  | .byCode code =>
    if sys.mutex = none then
      let ref := sys.mgr.getPendingWantRecordByCode code
      (sys.goTo thread .idle).answer ref false false (ref.any sys.mgr.isCanceled)
    else sys
  | .clear caller bundleName uid =>
    if sys.mutex = none then
      sys.leave thread (sys.mgr.clearPendingWantRecordTask api caller bundleName uid) .idle
    else sys

def step : Action Want -> System Want
  | .begin thread task =>
    match sys.threads thread with
    | .idle => sys.begin thread task
    | _ => sys
  | .advance thread managerAlive => sys.advance api thread managerAlive

end

end System

def system {Want : Type} (api : WantApi Want) : Library.Machine (System Want) (Action Want) where
  start := { }
  step := System.step api

end AbilityRuntime.PendingWant
