import AbilityRuntime.Library.KeyedQueues
import AbilityRuntime.Library.Runs

set_option autoImplicit false

namespace AbilityRuntime.UIExtension

open Library

structure Element where
  abilityName : String
  bundleName : String
  moduleName : String
deriving DecidableEq, Repr

structure PreLoadUIExtensionMapKey where
  element : Element
  hostPid : Int
deriving DecidableEq, Repr

/-- The want of a record names its element, and so does its ability info. -/
structure ExtensionRecord where
  wantElement : Element
  infoElement : Element
  hostPid : Int

def ExtensionRecord.wantKey (record : ExtensionRecord) : PreLoadUIExtensionMapKey :=
  ⟨record.wantElement, record.hostPid⟩

def ExtensionRecord.infoKey (record : ExtensionRecord) : PreLoadUIExtensionMapKey :=
  ⟨record.infoElement, record.hostPid⟩

inductive Notice where
  | onLoadedDone
  | onDestroyDone
deriving DecidableEq, Repr

inductive Holder where
  | addPreload (id : Nat)
  | consume (key : PreLoadUIExtensionMapKey) (id : Nat)
  | tellLoaded (id : Nat)
  | clear (id : Nat)
  | destroy (ids : List Nat)
  | remove (id : Nat) (rest : List Nat)
  | terminate (id : Nat) (rest : List Nat)
  | clearPreload (id : Nat)
  | removeRecord (id : Nat)

-- The unload that the observer of the host starts does not take `serialMutex_`.
inductive UnloadStage where
  | remove
  | terminate
deriving DecidableEq, Repr

/-- The records by their ids, with what was added, consumed and told. -/
structure ExtensionRecordManager where
  nextId : Nat := 0
  extensionRecords : List Nat := []
  preloadUIExtensionMap : KeyedQueues PreLoadUIExtensionMapKey Nat := ∅
  hostClients : List Int := []
  loading : List Nat := []
  serial : Option Holder := none
  unloads : List (Nat × UnloadStage) := []
  added : List Nat := []
  consumed : List Nat := []
  destroyed : List Nat := []
  told : List (Nat × Notice) := []

inductive PreloadStep where
  | registerHostClient (pid : Int)
  | unRegisterHostClient (pid : Int)
  | preloadUIExtensionAbility
  | abilityTransitionDone (id : Nat)
  | startAbility (key : PreLoadUIExtensionMapKey)
  | unPreloadUIExtensionAbility (id : Nat) (callingPid : Int)
  | clearAllPreloadUIExtensionAbility (callingPid : Int)
  | terminateDone (id : Nat) (isPreload : Bool)
  | proceed
  | onProcessDied (id : Nat)
  | unload (index : Nat)

variable (records : Nat -> ExtensionRecord)

namespace ExtensionRecordManager

variable (mgr : ExtensionRecordManager)

def hold (holder : Option Holder) : ExtensionRecordManager := { mgr with serial := holder }

def tell (id : Nat) (notice : Notice) : ExtensionRecordManager :=
  let hostPid := (records id).hostPid
  if hostPid = 0 || !mgr.hostClients.contains hostPid then mgr
  else { mgr with told := mgr.told ++ [(id, notice)] }

def addPreloadUIExtensionRecord (id : Nat) : ExtensionRecordManager :=
  if mgr.extensionRecords.contains id then
    { mgr with
      preloadUIExtensionMap := mgr.preloadUIExtensionMap.push (records id).wantKey id
      added := mgr.added ++ [id] }
  else mgr

def isPreloadExtensionRecord (key : PreLoadUIExtensionMapKey) : Option Nat :=
  (mgr.preloadUIExtensionMap.queue key).head?

def removePreloadUIExtensionRecord (key : PreLoadUIExtensionMapKey) : ExtensionRecordManager :=
  { mgr with preloadUIExtensionMap := mgr.preloadUIExtensionMap.pop key }

def removePreloadUIExtensionRecordById (key : PreLoadUIExtensionMapKey) (id : Nat) :
    ExtensionRecordManager × Bool :=
  match mgr.preloadUIExtensionMap.lookup key with
  | none => (mgr, false)
  | some [] =>
    ({ mgr with preloadUIExtensionMap := mgr.preloadUIExtensionMap.erase key }, false)
  | some ids =>
    if ids.contains id then
      let told := mgr.tell records id .onDestroyDone
      ({ told with preloadUIExtensionMap := told.preloadUIExtensionMap.remove key id }, true)
    else (mgr, false)

-- A preloaded extension has no connections that keep it, and one that is terminating is not found.
def terminateAbilityInner (id : Nat) : ExtensionRecordManager :=
  if mgr.destroyed.contains id then mgr
  else { mgr with destroyed := mgr.destroyed ++ [id] }

def proceed : Holder -> ExtensionRecordManager
  | .addPreload id => (mgr.addPreloadUIExtensionRecord records id).hold none
  | .consume key id =>
    let removed := mgr.removePreloadUIExtensionRecord key
    { removed with consumed := removed.consumed ++ [id] }.hold (some (.tellLoaded id))
  | .tellLoaded id => (mgr.tell records id .onLoadedDone).hold none
  | .clear id =>
    let (removed, isRemoved) :=
      mgr.removePreloadUIExtensionRecordById records (records id).infoKey id
    removed.hold (if isRemoved then some (.remove id []) else none)
  | .destroy [] => mgr.hold none
  | .destroy (id :: rest) => (mgr.tell records id .onDestroyDone).hold (some (.remove id rest))
  | .remove id rest =>
    (mgr.removePreloadUIExtensionRecordById records (records id).wantKey id).1.hold
      (some (.terminate id rest))
  | .terminate id rest => (mgr.terminateAbilityInner id).hold (some (.destroy rest))
  | .clearPreload id =>
    (mgr.removePreloadUIExtensionRecordById records (records id).wantKey id).1.hold
      (some (.removeRecord id))
  | .removeRecord id =>
    { mgr with extensionRecords := mgr.extensionRecords.erase id }.hold none

def unload (index id : Nat) : UnloadStage -> ExtensionRecordManager
  | .remove =>
    { (mgr.removePreloadUIExtensionRecordById records (records id).wantKey id).1 with
      unloads := mgr.unloads.set index (id, .terminate) }
  | .terminate =>
    { mgr.terminateAbilityInner id with unloads := mgr.unloads.eraseIdx index }

def begin : PreloadStep -> ExtensionRecordManager
  | .preloadUIExtensionAbility =>
    { mgr with
      nextId := mgr.nextId + 1
      extensionRecords := mgr.nextId :: mgr.extensionRecords
      loading := mgr.nextId :: mgr.loading }
  | .abilityTransitionDone id =>
    if mgr.loading.contains id && !mgr.destroyed.contains id then
      { mgr with loading := mgr.loading.erase id }.hold (some (.addPreload id))
    else mgr
  | .startAbility key =>
    match mgr.isPreloadExtensionRecord key with
    | none => mgr
    | some id => mgr.hold (some (.consume key id))
  | .unPreloadUIExtensionAbility id callingPid =>
    if mgr.extensionRecords.contains id && (records id).hostPid = callingPid then
      mgr.hold (some (.clear id))
    else mgr
  | .clearAllPreloadUIExtensionAbility callingPid =>
    let isOfHost (key : PreLoadUIExtensionMapKey) : Bool := key.hostPid = callingPid
    { mgr with
      preloadUIExtensionMap := mgr.preloadUIExtensionMap.without isOfHost
      serial := some (.destroy (mgr.preloadUIExtensionMap.taken isOfHost)) }
  | .terminateDone id isPreload =>
    if mgr.destroyed.contains id && mgr.extensionRecords.contains id then
      mgr.hold (some (if isPreload then .clearPreload id else .removeRecord id))
    else mgr
  | .registerHostClient _ | .unRegisterHostClient _ | .proceed | .onProcessDied _ | .unload _ =>
    mgr

def step : PreloadStep -> ExtensionRecordManager
  | .registerHostClient pid => { mgr with hostClients := pid :: mgr.hostClients }
  | .unRegisterHostClient pid =>
    { mgr with hostClients := mgr.hostClients.filter (· ≠ pid) }
  | .proceed =>
    match mgr.serial with
    | none => mgr
    | some holder => mgr.proceed records holder
  | .onProcessDied id =>
    if mgr.extensionRecords.contains id then
      { mgr with unloads := mgr.unloads ++ [(id, .remove)] }
    else mgr
  | .unload index =>
    match mgr.unloads[index]? with
    | none => mgr
    | some (id, stage) => mgr.unload records index id stage
  | step => if mgr.serial.isSome then mgr else mgr.begin records step

end ExtensionRecordManager

def extensionRecordManager : Machine ExtensionRecordManager PreloadStep where
  start := {}
  step := ExtensionRecordManager.step records

end AbilityRuntime.UIExtension
