import AbilityRuntime.DataObs.Operations
import AbilityRuntime.Library.Runs

set_option autoImplicit false

namespace AbilityRuntime.DataObs

inductive Status where
  | SUCCESS
  | DATA_OBSERVER_IS_NULL
  | DATAOBS_SERVICE_OBS_LIMMIT
  | DATAOBS_INVALID_URI

structure ObserverInfo where
  tokenId : UInt32
  userId : Int
  pid : Int

structure DataObsMgrInnerExt where
  root : Node
  refs : RefCells
  obsRecipientRefs : Std.ExtTreeMap Nat Nat
  nextRef : Nat
  nextEntryId : Nat

namespace DataObsMgrInnerExt

def initial : DataObsMgrInnerExt := ⟨Node.fresh, fun _ => 0, ∅, 0, 1⟩

section

variable (mgr : DataObsMgrInnerExt)

def addObsDeathRecipient (dataObserver : Nat) : DataObsMgrInnerExt × Option Nat :=
  match mgr.obsRecipientRefs[dataObserver]? with
  | some cell => if (2 ^ 32 - 1) - 1 < (mgr.refs cell).toNat then (mgr, none) else (mgr, some cell)
  | none =>
    ({ mgr with
        refs := mgr.refs.make mgr.nextRef
        obsRecipientRefs := mgr.obsRecipientRefs.insert dataObserver mgr.nextRef
        nextRef := mgr.nextRef + 1 },
      some mgr.nextRef)

def removeObsDeathRecipient (dataObserver : Nat) (isForce : Bool) : DataObsMgrInnerExt :=
  match mgr.obsRecipientRefs[dataObserver]? with
  | none => mgr
  | some cell =>
    if isForce || (mgr.refs cell).toNat ≤ 1 then
      { mgr with obsRecipientRefs := mgr.obsRecipientRefs.erase dataObserver }
    else mgr

theorem addObsDeathRecipient_root (mgr : DataObsMgrInnerExt) (dataObserver : Nat) :
    (mgr.addObsDeathRecipient dataObserver).1.root = mgr.root := by
  unfold addObsDeathRecipient
  split
  · split <;> rfl
  · rfl

@[simp] theorem removeObsDeathRecipient_root (dataObserver : Nat) (isForce : Bool) :
    (mgr.removeObsDeathRecipient dataObserver isForce).root = mgr.root := by
  unfold removeObsDeathRecipient
  split
  · rfl
  · split <;> rfl

def handleRegisterObserver (uri : Uri) (dataObserver : IDataAbilityObserver) (info : ObserverInfo)
    (isDescendants : Bool) : DataObsMgrInnerExt × Status :=
  match dataObserver.asObject with
  | none => (mgr, .DATA_OBSERVER_IS_NULL)
  | some object =>
    match mgr.addObsDeathRecipient object with
    | (mgr, none) => (mgr, .DATAOBS_SERVICE_OBS_LIMMIT)
    | (mgr, some deathRecipientRef) =>
      if MAX_URI_PATH_SIZE ≤ uri.path.length then (mgr, .DATAOBS_INVALID_URI)
      else
        let entry : Entry := ⟨dataObserver, info.userId, info.tokenId, deathRecipientRef,
          isDescendants, info.pid, mgr.nextEntryId⟩
        let mgr := { mgr with nextEntryId := mgr.nextEntryId + 1 }
        match mgr.root.addObserver entry uri.path mgr.refs with
        | (root, refs, false) =>
          ({ mgr with root := root, refs := refs }.removeObsDeathRecipient object false,
            .DATAOBS_SERVICE_OBS_LIMMIT)
        | (root, refs, true) => ({ mgr with root := root, refs := refs }, .SUCCESS)

def handleUnregisterObserverAt (uri : Uri)
    (dataObserver : IDataAbilityObserver) : DataObsMgrInnerExt × Status :=
  match dataObserver.asObject with
  | none => (mgr, .DATA_OBSERVER_IS_NULL)
  | some object =>
    if MAX_URI_PATH_SIZE ≤ uri.path.length then (mgr, .DATAOBS_INVALID_URI)
    else
      let (root, refs, _) := mgr.root.removeObserver dataObserver uri.path mgr.refs
      ({ mgr with root := root, refs := refs }.removeObsDeathRecipient object false, .SUCCESS)

def handleUnregisterObserver (dataObserver : IDataAbilityObserver) : DataObsMgrInnerExt × Status :=
  match dataObserver.asObject with
  | none => (mgr, .DATA_OBSERVER_IS_NULL)
  | some object =>
    let (root, refs, _) := mgr.root.removeAll dataObserver mgr.refs
    ({ mgr with root := root, refs := refs }.removeObsDeathRecipient object true, .SUCCESS)

def onCallBackDied (remote : Option Nat) : DataObsMgrInnerExt :=
  match remote with
  | none => mgr
  | some object =>
    let (root, refs, _) := mgr.root.removeObject object mgr.refs
    { mgr with root := root, refs := refs }.removeObsDeathRecipient object true

theorem handleUnregisterObserver_died (dataObserver : IDataAbilityObserver) :
    (mgr.handleUnregisterObserver dataObserver).1 = mgr.onCallBackDied dataObserver.asObject := by
  unfold handleUnregisterObserver onCallBackDied Node.removeAll
  cases dataObserver.asObject <;> rfl

end

inductive Call where
  | register (uri : Uri) (dataObserver : IDataAbilityObserver) (info : ObserverInfo)
      (isDescendants : Bool)
  | unregisterAt (uri : Uri) (dataObserver : IDataAbilityObserver)
  | unregister (dataObserver : IDataAbilityObserver)
  | callBackDied (remote : Option Nat)

def apply (mgr : DataObsMgrInnerExt) : Call -> DataObsMgrInnerExt
  | .register uri dataObserver info isDescendants =>
    (mgr.handleRegisterObserver uri dataObserver info isDescendants).1
  | .unregisterAt uri dataObserver => (mgr.handleUnregisterObserverAt uri dataObserver).1
  | .unregister dataObserver => (mgr.handleUnregisterObserver dataObserver).1
  | .callBackDied remote => mgr.onCallBackDied remote

def machine : Library.Machine DataObsMgrInnerExt Call := ⟨initial, apply⟩

end DataObsMgrInnerExt

end AbilityRuntime.DataObs
