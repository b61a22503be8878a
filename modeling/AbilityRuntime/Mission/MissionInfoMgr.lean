import Mathlib.Data.List.Dedup
import Mathlib.Data.List.Sort
import Mathlib.Data.String.Basic
import AbilityRuntime.Library.Runs

set_option autoImplicit false

namespace AbilityRuntime.Mission

def MIN_MISSION_ID : Int := 1
def MAX_MISSION_ID : Int := 2147483647

inductive StartMethod where
  | START_NORMAL
  | START_CALL
  | unnamed (value : Int)
deriving DecidableEq, Repr

inductive LaunchMode where
  | SINGLETON
  | STANDARD
  | SPECIFIED
  | unnamed (value : Int)
deriving DecidableEq, Repr

structure MissionInfo where
  id : Int
  runningState : Int
  lockedState : Bool
  unclearable : Bool
  time : String
  callToForeground : Bool
deriving DecidableEq, Repr

structure InnerMissionInfo where
  missionInfo : MissionInfo
  missionName : String
  specifiedFlag : String
  launchMode : LaunchMode
  startMethod : StartMethod
  uid : Int
  isTemporary : Bool
deriving DecidableEq, Repr

/-- The json files of one user: every mission is saved to the file that is named by its own id. -/
structure MissionDataStorage where
  files : Std.ExtTreeMap Int InnerMissionInfo
  ownFile : ∀ (id : Int) (info : InnerMissionInfo), files[id]? = some info -> info.missionInfo.id = id

namespace MissionDataStorage

def empty : MissionDataStorage := ⟨∅, by simp⟩

def saveMissionInfo (storage : MissionDataStorage) (missionInfo : InnerMissionInfo) :
    MissionDataStorage where
  files := storage.files.insert missionInfo.missionInfo.id missionInfo
  ownFile := by
    intro id info saved
    simp only [Std.ExtTreeMap.getElem?_insert, compare_eq_iff_eq] at saved
    split at saved
    next same => cases saved; exact same
    · exact storage.ownFile id info saved

def deleteMissionInfo (storage : MissionDataStorage) (missionId : Int) : MissionDataStorage where
  files := storage.files.erase missionId
  ownFile := by
    intro id info kept
    simp only [Std.ExtTreeMap.getElem?_erase] at kept
    split at kept
    · cases kept
    · exact storage.ownFile id info kept

-- The loadable files of the directory in the order it lists them, each once.
def loadAllMissionInfo (storage : MissionDataStorage) (fileNameVec : List Int) :
    List InnerMissionInfo :=
  fileNameVec.dedup.filterMap fun id =>
    storage.files[id]?.filter fun missionInfo => !missionInfo.isTemporary

end MissionDataStorage

structure MissionInfoMgr where
  currentMissionId : Int := MIN_MISSION_ID
  missionIdMap : Std.ExtTreeMap Int Bool := ∅
  missionInfoList : List InnerMissionInfo := []

namespace MissionInfoMgr

-- sort() is stable and its comparison is time >, so an element may stand before one that is not later.
def notLater (infoBase infoCmp : InnerMissionInfo) : Bool :=
  infoCmp.missionInfo.time ≤ infoBase.missionInfo.time

-- The loop of GenerateMissionId over the ids from index up to MAX_MISSION_ID.
def freeMissionId (missionIdMap : Std.ExtTreeMap Int Bool) (index : Int) : Nat -> Option Int
  | 0 => none
  | left + 1 =>
    if missionIdMap.contains index then freeMissionId missionIdMap (index + 1) left else some index

def generateMissionId (mgr : MissionInfoMgr) : MissionInfoMgr × Option Int :=
  let current := if mgr.currentMissionId = MAX_MISSION_ID then MIN_MISSION_ID else mgr.currentMissionId
  match freeMissionId mgr.missionIdMap current (MAX_MISSION_ID - current).toNat with
  | some missionId =>
    ({ mgr with
        missionIdMap := mgr.missionIdMap.insert missionId false
        currentMissionId := missionId + 1 },
      some missionId)
  | none => ({ mgr with currentMissionId := current }, none)

def init (mgr : MissionInfoMgr) (persistenceInit : Bool) (storage : Option MissionDataStorage)
    (fileNameVec : List Int) : MissionInfoMgr × Bool :=
  if !persistenceInit then (mgr, false)
  else
    match storage with
    | none => ({ mgr with missionInfoList := [], missionIdMap := ∅ }, false)
    | some storage =>
      let sorted := (storage.loadAllMissionInfo fileNameVec).mergeSort notLater
      ({ mgr with
          missionInfoList := sorted
          missionIdMap := sorted.foldl (fun map info => map.insert info.missionInfo.id true) ∅ },
        true)

def addMissionInfo (mgr : MissionInfoMgr) (missionInfo : InnerMissionInfo) (saved : Bool) :
    MissionInfoMgr × Bool :=
  let id := missionInfo.missionInfo.id
  if mgr.missionIdMap[id]? = some true then (mgr, false)
  else if !saved then (mgr, false)
  else
    ({ mgr with
        missionInfoList := mgr.missionInfoList.orderedInsert
          (fun new item => item.missionInfo.time < new.missionInfo.time) missionInfo
        missionIdMap := mgr.missionIdMap.insert id true },
      true)

def updateMissionInfo (mgr : MissionInfoMgr) (missionInfo : InnerMissionInfo) (saved : Bool) :
    MissionInfoMgr × Bool :=
  let id := missionInfo.missionInfo.id
  if mgr.missionIdMap[id]? ≠ some true then (mgr, false)
  else
    match mgr.missionInfoList.find? fun item => item.missionInfo.id == id with
    | none => (mgr, false)
    | some item =>
      if missionInfo.missionInfo.time = item.missionInfo.time then
        ({ mgr with missionInfoList := mgr.missionInfoList.replaceF fun item =>
            if item.missionInfo.id = id then some missionInfo else none }, saved)
      else
        { mgr with
          missionInfoList := mgr.missionInfoList.eraseP fun item => item.missionInfo.id == id
          missionIdMap := mgr.missionIdMap.erase id }.addMissionInfo missionInfo saved

def deleteMissionInfo (mgr : MissionInfoMgr) (missionId : Int) (persistence : Option Bool) :
    MissionInfoMgr × Bool :=
  match mgr.missionIdMap[missionId]? with
  | none => (mgr, true)
  | some false => ({ mgr with missionIdMap := mgr.missionIdMap.erase missionId }, true)
  | some true =>
    if persistence ≠ some true then (mgr, false)
    else
      ({ mgr with
          missionInfoList := mgr.missionInfoList.eraseP fun item => item.missionInfo.id == missionId
          missionIdMap := mgr.missionIdMap.erase missionId },
        true)

def clearable (isBackgroundTaskUid : Int -> Bool) (info : InnerMissionInfo) : Bool :=
  let isUnclearable := info.missionInfo.unclearable && info.missionInfo.runningState == 0
  !(info.missionInfo.lockedState || isBackgroundTaskUid info.uid || isUnclearable)

def deleteAllMissionInfos (mgr : MissionInfoMgr) (isBackgroundTaskUid : Int -> Bool)
    (persistence : Bool) : MissionInfoMgr × Bool :=
  if !persistence then (mgr, false)
  else
    ({ mgr with
        missionInfoList := mgr.missionInfoList.filter fun info => !clearable isBackgroundTaskUid info
        missionIdMap := (mgr.missionInfoList.filter (clearable isBackgroundTaskUid)).foldl
          (fun map info => map.erase info.missionInfo.id) mgr.missionIdMap },
      true)

def doesNotShowInTheMissionList (mission : InnerMissionInfo) : Bool :=
  mission.startMethod == .START_CALL && !mission.missionInfo.callToForeground

-- The loop of GetMissionInfos, which appends to what the caller's vector holds.
def collectMissionInfos (numMax : Nat) : List InnerMissionInfo → List MissionInfo → List MissionInfo
  | [], missionInfos => missionInfos
  | mission :: rest, missionInfos =>
    if numMax ≤ missionInfos.length then missionInfos
    else if doesNotShowInTheMissionList mission then collectMissionInfos numMax rest missionInfos
    else collectMissionInfos numMax rest (missionInfos ++ [mission.missionInfo])

def getMissionInfos (mgr : MissionInfoMgr) (numMax : Int) (missionInfos : List MissionInfo) :
    List MissionInfo × Int :=
  if numMax < 0 then (missionInfos, -1)
  else (collectMissionInfos numMax.toNat mgr.missionInfoList missionInfos, 0)

def isReused (missionName flag : String) (isFindRecentStandard : Bool) (item : InnerMissionInfo) :
    Bool :=
  if missionName ≠ item.missionName then false
  else if isFindRecentStandard && item.launchMode == .STANDARD then true
  else
    match item.launchMode with
    | .SINGLETON => true
    | .SPECIFIED => flag == item.specifiedFlag
    | .STANDARD => false
    | .unnamed _ => false

def findReusedMissionInfo (mgr : MissionInfoMgr) (missionName flag : String)
    (isFindRecentStandard : Bool) : Option InnerMissionInfo :=
  if missionName.isEmpty then none
  else mgr.missionInfoList.find? (isReused missionName flag isFindRecentStandard)

inductive Call where
  | generateMissionId
  | init (persistenceInit : Bool) (storage : Option MissionDataStorage) (fileNameVec : List Int)
  | addMissionInfo (missionInfo : InnerMissionInfo) (saved : Bool)
  | updateMissionInfo (missionInfo : InnerMissionInfo) (saved : Bool)
  | deleteMissionInfo (missionId : Int) (persistence : Option Bool)
  | deleteAllMissionInfos (isBackgroundTaskUid : Int -> Bool) (persistence : Bool)

def apply (mgr : MissionInfoMgr) : Call -> MissionInfoMgr
  | .generateMissionId => mgr.generateMissionId.1
  | .init persistenceInit storage fileNameVec => (mgr.init persistenceInit storage fileNameVec).1
  | .addMissionInfo missionInfo saved => (mgr.addMissionInfo missionInfo saved).1
  | .updateMissionInfo missionInfo saved => (mgr.updateMissionInfo missionInfo saved).1
  | .deleteMissionInfo missionId persistence => (mgr.deleteMissionInfo missionId persistence).1
  | .deleteAllMissionInfos isBackgroundTaskUid persistence =>
    (mgr.deleteAllMissionInfos isBackgroundTaskUid persistence).1

def machine : Library.Machine MissionInfoMgr Call := ⟨{}, apply⟩

end MissionInfoMgr

end AbilityRuntime.Mission
