import Mathlib.Data.List.Dedup
import AbilityRuntime.Library.Runs

set_option autoImplicit false

namespace AbilityRuntime.Mission

inductive ListRef where
  | launcherList
  | defaultStandardList
  | defaultSingleList
  | current (id : Nat)
deriving DecidableEq, Repr

structure MissionListManager where
  missions : ListRef -> List Nat
  missionList : Nat -> Option ListRef
  currentMissionLists : List ListRef

namespace MissionListManager

def initial : MissionListManager := ⟨fun _ => [], fun _ => none, [.launcherList]⟩

def addMissionToTop (mgr : MissionListManager) (list : ListRef) (mission : Nat) :
    MissionListManager :=
  if (mgr.missions list).head? = some mission then mgr
  else
    { mgr with
      missions := Function.update mgr.missions list
        (mission :: (mgr.missions list).filter (· != mission))
      missionList := Function.update mgr.missionList mission (some list) }

def removeMission (mgr : MissionListManager) (list : ListRef) (mission : Nat) :
    MissionListManager :=
  { mgr with missions := Function.update mgr.missions list ((mgr.missions list).erase mission) }

section

variable (isSingletonAbility : Nat -> Bool)

def defaultList (item : Nat) : ListRef :=
  if isSingletonAbility item then .defaultSingleList else .defaultStandardList

-- The while loop; none stands for a loop that is still running when the fuel is spent.
def popUntilTop (list : ListRef) (mission : Nat) : Nat -> MissionListManager -> Option MissionListManager
  | fuel, mgr =>
    match mgr.missions list with
    | [] => some mgr
    | item :: _ =>
      if item = mission then some mgr
      else
        match fuel with
        | 0 => none
        | fuel + 1 =>
          popUntilTop list mission fuel
            ((mgr.removeMission list item).addMissionToTop (defaultList isSingletonAbility item) item)

section

variable (mgr : MissionListManager)

def moveNoneTopMissionToDefaultList (mission : Nat) : Option MissionListManager :=
  match mgr.missionList mission with
  | none => some mgr
  | some list => popUntilTop isSingletonAbility list mission (mgr.missions list).length mgr

def dropIfEmpty (list : ListRef) : MissionListManager :=
  if (mgr.missions list).isEmpty then
    { mgr with currentMissionLists := mgr.currentMissionLists.filter (· != list) }
  else mgr

def moveMissionToTargetList (isCallFromLauncher : Bool) (targetMissionList : ListRef)
    (mission : Nat) : Option MissionListManager :=
  match mgr.missionList mission with
  -- 1. new mission, move to target list.
  | none => some (mgr.addMissionToTop targetMissionList mission)
  | some missionList =>
    -- 2. launcher call launcher
    if isCallFromLauncher && targetMissionList == .launcherList then
      some (mgr.addMissionToTop targetMissionList mission)
    -- 3. reused mission is in default, move from default to target list.
    else if missionList == .defaultSingleList || missionList == .defaultStandardList then
      some ((mgr.removeMission missionList mission).addMissionToTop targetMissionList mission)
    -- 4. reused mission is in a valid list.
    else do
      let popped <-
        if targetMissionList ≠ missionList then do
          let popped <- mgr.moveNoneTopMissionToDefaultList isSingletonAbility mission
          some (popped.removeMission missionList mission)
        else if isCallFromLauncher then mgr.moveNoneTopMissionToDefaultList isSingletonAbility mission
        else some mgr
      some ((popped.addMissionToTop targetMissionList mission).dropIfEmpty missionList)

def moveMissionListToTop (missionList : ListRef) : MissionListManager :=
  if mgr.currentMissionLists.head? = some missionList then mgr
  else
    { mgr with
      currentMissionLists := missionList :: mgr.currentMissionLists.filter (· != missionList) }

def moveMissionToFront (isCallFromLauncher : Bool) (targetMissionList : ListRef)
    (mission : Nat) : Option MissionListManager := do
  let moved <- mgr.moveMissionToTargetList isSingletonAbility isCallFromLauncher targetMissionList
    mission
  some (moved.moveMissionListToTop targetMissionList)

end

inductive Call where
  | moveMissionToTargetList (isCallFromLauncher : Bool) (targetMissionList : ListRef) (mission : Nat)
  | moveMissionToFront (isCallFromLauncher : Bool) (targetMissionList : ListRef) (mission : Nat)
  | moveNoneTopMissionToDefaultList (mission : Nat)
  | moveMissionListToTop (missionList : ListRef)

def apply (mgr : MissionListManager) : Call -> Option MissionListManager
  | .moveMissionToTargetList isCallFromLauncher targetMissionList mission =>
    mgr.moveMissionToTargetList isSingletonAbility isCallFromLauncher targetMissionList mission
  | .moveMissionToFront isCallFromLauncher targetMissionList mission =>
    mgr.moveMissionToFront isSingletonAbility isCallFromLauncher targetMissionList mission
  | .moveNoneTopMissionToDefaultList mission =>
    mgr.moveNoneTopMissionToDefaultList isSingletonAbility mission
  | .moveMissionListToTop missionList => some (mgr.moveMissionListToTop missionList)

def machine (start : MissionListManager) : Library.Machine (Option MissionListManager) Call :=
  ⟨some start, fun state call => state.bind fun mgr => mgr.apply isSingletonAbility call⟩

end

end MissionListManager

end AbilityRuntime.Mission
