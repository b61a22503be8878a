import AbilityRuntime.Library.FirstMatch
import AbilityRuntime.Mission.InnerMissionInfo

set_option autoImplicit false

namespace AbilityRuntime.Mission

open List

structure MissionRecords (Want : Type) where
  missionIdMap : Std.ExtTreeMap Int Bool := ∅
  missionInfoList : List (SavedMissionInfo Want) := []

namespace MissionRecords

variable {Want : Type}

def find (mgr : MissionRecords Want) (missionId : Int) : Option (SavedMissionInfo Want) :=
  mgr.missionInfoList.find? fun item => item.id.toInt == missionId

def overwrite (mgr : MissionRecords Want) (missionId : Int)
    (change : SavedMissionInfo Want -> SavedMissionInfo Want) : MissionRecords Want :=
  { mgr with missionInfoList := mgr.missionInfoList.replaceF fun item =>
      if item.id.toInt = missionId then some (change item) else none }

def addMissionInfoInner (mgr : MissionRecords Want) (missionInfo : SavedMissionInfo Want)
    (saved : Bool) : MissionRecords Want × Bool :=
  let id := missionInfo.id.toInt
  if mgr.missionIdMap[id]? = some true then (mgr, false)
  else if !saved then (mgr, false)
  else
    ({ mgr with
        missionInfoList := mgr.missionInfoList.orderedInsert
          (fun new item => item.time < new.time) missionInfo
        missionIdMap := mgr.missionIdMap.insert id true },
      true)

def updateMissionInfo (mgr : MissionRecords Want) (missionInfo : SavedMissionInfo Want)
    (saved : Bool) : MissionRecords Want × Bool :=
  let id := missionInfo.id.toInt
  if mgr.missionIdMap[id]? ≠ some true then (mgr, false)
  else
    match mgr.find id with
    | none => (mgr, false)
    | some item =>
      if missionInfo.time = item.time then (mgr.overwrite id fun _ => missionInfo, saved)
      else
        { mgr with
          missionInfoList := mgr.missionInfoList.eraseP fun item => item.id.toInt == id
          missionIdMap := mgr.missionIdMap.erase id }.addMissionInfoInner missionInfo saved

def updateMissionLabel (mgr : MissionRecords Want) (missionId : Int) (label : String)
    (persistence : Option Bool) : MissionRecords Want × Int :=
  match persistence with
  | none => (mgr, -1)
  | some saved =>
    match mgr.find missionId with
    | none => (mgr, -1)
    | some _ =>
      (mgr.overwrite missionId fun item => { item with label := label }, if saved then 0 else -1)

def view (wants : WantApi Want) (mgr : MissionRecords Want) : MissionInfoMgr where
  missionIdMap := mgr.missionIdMap
  missionInfoList := mgr.missionInfoList.map (·.view wants)

variable {mgr : MissionRecords Want} {missionId : Int}
  {change : SavedMissionInfo Want -> SavedMissionInfo Want}

theorem overwrite_eq_self {item : SavedMissionInfo Want} (found : mgr.find missionId = some item) :
    mgr.overwrite missionId change = mgr ↔ change item = item := by
  have replaced := @Library.replaceF_eq_self _ _ _ item change found
  simp only [beq_iff_eq] at replaced
  rw [<- replaced]
  exact ⟨fun same => congrArg missionInfoList same, fun same => by rw [overwrite, same]⟩

theorem erase_ne_self {item : SavedMissionInfo Want} (found : mgr.find missionId = some item) :
    mgr.missionInfoList.eraseP (fun item => item.id.toInt == missionId) ≠ mgr.missionInfoList := by
  intro same
  have shorter := length_eraseP_of_mem (mem_of_find?_eq_some found) (find?_some found)
  rw [same] at shorter
  have := length_pos_of_mem (mem_of_find?_eq_some found)
  omega

theorem view_overwrite (wants : WantApi Want) {missionInfo : SavedMissionInfo Want} :
    (mgr.overwrite missionInfo.id.toInt fun _ => missionInfo).view wants =
      { mgr.view wants with
        missionInfoList := (mgr.view wants).missionInfoList.replaceF fun item =>
          if item.missionInfo.id = (missionInfo.view wants).missionInfo.id then
            some (missionInfo.view wants)
          else none } := by
  have general : ∀ list : List (SavedMissionInfo Want),
      (list.replaceF fun item =>
        if item.id.toInt = missionInfo.id.toInt then some missionInfo else none).map (·.view wants) =
      (list.map (·.view wants)).replaceF fun item =>
        if item.missionInfo.id = (missionInfo.view wants).missionInfo.id then
          some (missionInfo.view wants)
        else none := by
    intro list
    induction list with
    | nil => rfl
    | cons first rest ih =>
      by_cases same : first.id.toInt = missionInfo.id.toInt
      · simp [SavedMissionInfo.view, same]
      · have viewed : (first.view wants).missionInfo.id ≠ (missionInfo.view wants).missionInfo.id :=
          same
        simpa [same, viewed] using ih
  simp only [view, overwrite, general]

theorem view_addMissionInfoInner (wants : WantApi Want) (missionInfo : SavedMissionInfo Want)
    (saved : Bool) :
    ((mgr.addMissionInfoInner missionInfo saved).1.view wants,
        (mgr.addMissionInfoInner missionInfo saved).2) =
      (mgr.view wants).addMissionInfo (missionInfo.view wants) saved := by
  have inserted : ∀ list : List (SavedMissionInfo Want),
      (list.orderedInsert (fun new item => item.time < new.time) missionInfo).map (·.view wants) =
      (list.map (·.view wants)).orderedInsert
        (fun new item => item.missionInfo.time < new.missionInfo.time) (missionInfo.view wants) := by
    intro list
    induction list with
    | nil => rfl
    | cons first rest ih =>
      rw [orderedInsert_cons, map_cons, orderedInsert_cons]
      by_cases earlier : first.time < missionInfo.time
      · have viewed : (first.view wants).missionInfo.time < (missionInfo.view wants).missionInfo.time :=
          earlier
        rw [if_pos earlier, if_pos viewed, map_cons, map_cons]
      · have viewed : ¬(first.view wants).missionInfo.time <
            (missionInfo.view wants).missionInfo.time := earlier
        rw [if_neg earlier, if_neg viewed, map_cons, ih]
  unfold addMissionInfoInner MissionInfoMgr.addMissionInfo
  by_cases known : mgr.missionIdMap[missionInfo.id.toInt]? = some true
  · simp [known, view, SavedMissionInfo.view]
  · cases saved with
    | false => simp [known, view, SavedMissionInfo.view]
    | true =>
      simp only [known, if_false, Bool.not_true, Bool.false_eq_true, view, inserted]
      simp [known, SavedMissionInfo.view]

theorem view_updateMissionInfo (wants : WantApi Want) (missionInfo : SavedMissionInfo Want)
    (saved : Bool) :
    ((mgr.updateMissionInfo missionInfo saved).1.view wants,
        (mgr.updateMissionInfo missionInfo saved).2) =
      (mgr.view wants).updateMissionInfo (missionInfo.view wants) saved := by
  have found : ((mgr.view wants).missionInfoList.find? fun item =>
      item.missionInfo.id == (missionInfo.view wants).missionInfo.id) =
      (mgr.find missionInfo.id.toInt).map (·.view wants) := by
    rw [view, find?_map]
    rfl
  unfold updateMissionInfo MissionInfoMgr.updateMissionInfo
  by_cases known : mgr.missionIdMap[missionInfo.id.toInt]? = some true
  case neg => simp [known, view, SavedMissionInfo.view]
  case pos =>
    have viewedKnown : (mgr.view wants).missionIdMap[(missionInfo.view wants).missionInfo.id]? =
        some true := known
    rw [if_neg (not_not_intro known), if_neg (not_not_intro viewedKnown), found]
    cases mgr.find missionInfo.id.toInt with
    | none => rfl
    | some item =>
      dsimp only [Option.map_some]
      by_cases sameTime : missionInfo.time = item.time
      · have viewed : (missionInfo.view wants).missionInfo.time = (item.view wants).missionInfo.time :=
          sameTime
        rw [if_pos sameTime, if_pos viewed, view_overwrite]
      · have viewed : (missionInfo.view wants).missionInfo.time ≠ (item.view wants).missionInfo.time :=
          sameTime
        rw [if_neg sameTime, if_neg viewed, view_addMissionInfoInner]
        simp only [view, eraseP_map]
        rfl

/-- An error has changed nothing, except where it is the save that failed. -/
theorem updates_unchanged_iff (mgr : MissionRecords Want) :
    (∀ (missionInfo : SavedMissionInfo Want) (saved : Bool),
      ((mgr.updateMissionInfo missionInfo saved).2 = false ->
        (mgr.updateMissionInfo missionInfo saved).1 = mgr) ↔
      saved = true ∨ mgr.missionIdMap[missionInfo.id.toInt]? ≠ some true ∨
        mgr.find missionInfo.id.toInt = none ∨
        mgr.find missionInfo.id.toInt = some missionInfo) ∧
    ∀ (missionId : Int) (label : String) (persistence : Option Bool),
      ((mgr.updateMissionLabel missionId label persistence).2 ≠ 0 ->
        (mgr.updateMissionLabel missionId label persistence).1 = mgr) ↔
      persistence ≠ some false ∨ ∀ item, mgr.find missionId = some item -> item.label = label := by
  constructor
  · intro missionInfo saved
    unfold updateMissionInfo
    by_cases known : mgr.missionIdMap[missionInfo.id.toInt]? = some true
    case neg => simp [known]
    case pos =>
      simp only [known, ne_eq, not_true_eq_false, if_false, false_or]
      cases found : mgr.find missionInfo.id.toInt with
      | none => simp
      | some item =>
        simp only [reduceCtorEq, false_or, Option.some.injEq]
        by_cases sameTime : missionInfo.time = item.time
        · simp only [if_pos sameTime, overwrite_eq_self found]
          cases saved with
          | true => simp
          | false => simp [eq_comm]
        · have other : item ≠ missionInfo := fun same => sameTime (same ▸ rfl)
          simp only [if_neg sameTime, other, or_false]
          cases saved with
          | true => simp [addMissionInfoInner]
          | false =>
            simp only [Bool.false_eq_true, iff_false, addMissionInfoInner]
            intro kept
            have erased := congrArg missionInfoList (kept (by split <;> rfl))
            split at erased <;> exact erase_ne_self found erased
  · intro missionId label persistence
    unfold updateMissionLabel
    cases persistence with
    | none => simp
    | some saved =>
      cases found : mgr.find missionId with
      | none => simp
      | some item =>
        have relabelled : ({ item with label := label } : SavedMissionInfo Want) = item ↔
            item.label = label := by
          constructor
          · exact fun same => (congrArg SavedMissionInfo.label same).symm
          · rintro rfl; rfl
        simp only [overwrite_eq_self found, relabelled, Option.some.injEq, forall_eq']
        cases saved <;> simp

def notes : SavedMissionInfo Unit where
  id := 1
  time := "5"
  label := "Notes"
  want := ()
  launchMode := 0
  startMethod := 0
  uid := 10
  isTemporary := false
  hasRecoverInfo := false

def oneMission : MissionRecords Unit where
  missionIdMap := (∅ : Std.ExtTreeMap Int Bool).insert 1 true
  missionInfoList := [notes]

theorem failed_updates_change :
    ((oneMission.updateMissionInfo { notes with time := "6" } false).2 = false ∧
      (oneMission.updateMissionInfo { notes with time := "6" } false).1 ≠ oneMission) ∧
    (oneMission.updateMissionLabel 1 "Draft" (some false)).2 = -1 ∧
      (oneMission.updateMissionLabel 1 "Draft" (some false)).1 ≠ oneMission := by
  have erased : (oneMission.updateMissionInfo { notes with time := "6" }
      false).1.missionInfoList.length = 0 := by decide +kernel
  have relabelled : (oneMission.updateMissionLabel 1 "Draft"
      (some false)).1.missionInfoList.map (·.label) = ["Draft"] := by decide +kernel
  refine ⟨⟨by decide +kernel, fun same => ?_⟩, by decide +kernel, fun same => ?_⟩
  · rw [same] at erased; cases erased
  · rw [same] at relabelled; exact absurd relabelled (by decide)

end MissionRecords

end AbilityRuntime.Mission
