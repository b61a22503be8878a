import AbilityRuntime.Mission.MissionInfoMgr

set_option autoImplicit false

namespace AbilityRuntime.Mission.MissionInfoMgr

/-- A new id is in the range and was free; none is given only when all are taken. -/
def GeneratesFresh (mgr : MissionInfoMgr) : Prop :=
  match mgr.generateMissionId with
  | (after, some missionId) =>
    MIN_MISSION_ID ≤ missionId ∧ missionId < MAX_MISSION_ID ∧
      missionId ∉ mgr.missionIdMap ∧
      after.missionIdMap = mgr.missionIdMap.insert missionId false
  | (_, none) =>
    ∀ id, MIN_MISSION_ID ≤ id -> id < MAX_MISSION_ID -> id ∈ mgr.missionIdMap

def scanStart (mgr : MissionInfoMgr) : Int :=
  if mgr.currentMissionId = MAX_MISSION_ID then MIN_MISSION_ID else mgr.currentMissionId

theorem freeMissionId_some {missionIdMap : Std.ExtTreeMap Int Bool} {index found : Int} {left : Nat}
    (free : freeMissionId missionIdMap index left = some found) :
    index ≤ found ∧ found < index + left ∧ found ∉ missionIdMap ∧
      ∀ id, index ≤ id -> id < found -> id ∈ missionIdMap := by
  induction left generalizing index with
  | zero => cases free
  | succ left ih =>
    rw [freeMissionId] at free
    split at free
    next taken =>
      obtain ⟨after, before, absent, passed⟩ := ih free
      refine ⟨by omega, by omega, absent, fun id lower upper => ?_⟩
      rcases eq_or_lt_of_le lower with rfl | later
      · simpa using taken
      · exact passed id (by omega) upper
    next absent =>
      cases free
      exact ⟨le_refl _, by omega, by simpa using absent, fun id lower upper => absurd upper (by omega)⟩

theorem freeMissionId_none {missionIdMap : Std.ExtTreeMap Int Bool} {index : Int} {left : Nat}
    (none : freeMissionId missionIdMap index left = none) :
    ∀ id, index ≤ id -> id < index + left -> id ∈ missionIdMap := by
  induction left generalizing index with
  | zero => omega
  | succ left ih =>
    rw [freeMissionId] at none
    split at none
    next taken =>
      intro id lower upper
      rcases eq_or_lt_of_le lower with rfl | later
      · simpa using taken
      · exact ih none id (by omega) (by omega)
    · cases none

/-- The scan does not come back to the ids below its start: they must be taken. -/
theorem generatesFresh_iff (mgr : MissionInfoMgr) (int32 : mgr.currentMissionId ≤ MAX_MISSION_ID) :
    mgr.GeneratesFresh ↔
      (∀ id, mgr.scanStart ≤ id -> id < MIN_MISSION_ID -> id ∈ mgr.missionIdMap) ∧
      ((∃ id, mgr.scanStart ≤ id ∧ id < MAX_MISSION_ID ∧ id ∉ mgr.missionIdMap) ∨
        ∀ id, MIN_MISSION_ID ≤ id -> id < mgr.scanStart -> id ∈ mgr.missionIdMap) := by
  have start : mgr.scanStart ≤ MAX_MISSION_ID := by
    rw [scanStart]
    split
    · decide
    · exact int32
  have span : mgr.scanStart + ((MAX_MISSION_ID - mgr.scanStart).toNat : Int) = MAX_MISSION_ID := by
    omega
  cases scan : freeMissionId mgr.missionIdMap mgr.scanStart (MAX_MISSION_ID - mgr.scanStart).toNat with
  | some found =>
    obtain ⟨lower, upper, absent, passed⟩ := freeMissionId_some scan
    rw [span] at upper
    have generated : mgr.GeneratesFresh ↔ MIN_MISSION_ID ≤ found := by
      have result : mgr.generateMissionId = ({ mgr with
          missionIdMap := mgr.missionIdMap.insert found false
          currentMissionId := found + 1 }, some found) := by
        rw [scanStart] at scan
        simp only [generateMissionId, scan]
      rw [GeneratesFresh, result]
      exact ⟨fun fresh => fresh.1, fun least => ⟨least, upper, absent, rfl⟩⟩
    rw [generated]
    constructor
    · intro least
      exact ⟨fun id after below => passed id after (by omega), .inl ⟨found, lower, upper, absent⟩⟩
    · rintro ⟨below, _⟩
      by_contra less
      exact absent (below found lower (by omega))
  | none =>
    have taken := freeMissionId_none scan
    rw [span] at taken
    have generated : mgr.GeneratesFresh ↔
        ∀ id, MIN_MISSION_ID ≤ id -> id < MAX_MISSION_ID -> id ∈ mgr.missionIdMap := by
      have result : mgr.generateMissionId =
          ({ mgr with currentMissionId := mgr.scanStart }, none) := by
        rw [scanStart] at scan
        simp only [generateMissionId, scan, scanStart]
      rw [GeneratesFresh, result]
    rw [generated]
    constructor
    · intro all
      have small : MIN_MISSION_ID < MAX_MISSION_ID := by decide
      exact ⟨fun id after below => taken id after (by omega),
        .inr fun id least below => all id least (by omega)⟩
    · rintro ⟨_, ⟨id, after, before, absent⟩ | below⟩ id' least before'
      · exact absurd (taken id after before) absent
      · by_cases after : mgr.scanStart ≤ id'
        · exact taken id' after before'
        · exact below id' least (by omega)

theorem generatesFresh_first : ({} : MissionInfoMgr).GeneratesFresh := by
  refine (generatesFresh_iff {} (by decide)).mpr ⟨?_, .inl ⟨1, by decide, by decide, by simp⟩⟩
  intro id after below
  have : MIN_MISSION_ID ≤ id := after
  omega

def atTheEnd : MissionInfoMgr where
  currentMissionId := 2147483646
  missionIdMap := (∅ : Std.ExtTreeMap Int Bool).insert 2147483646 true

theorem atTheEnd_generates_none :
    atTheEnd.generateMissionId.2 = none ∧ (1 : Int) ∉ atTheEnd.missionIdMap ∧
      ¬atTheEnd.GeneratesFresh := by
  have none : atTheEnd.generateMissionId.2 = none := by decide +kernel
  have free : (1 : Int) ∉ atTheEnd.missionIdMap := by decide +kernel
  refine ⟨none, free, fun fresh => ?_⟩
  rw [GeneratesFresh] at fresh
  split at fresh
  next after missionId result => rw [result] at none; cases none
  · exact free (fresh 1 (by decide) (by decide))

theorem run_currentMissionId (calls : List Call) :
    MIN_MISSION_ID ≤ (machine.run calls).currentMissionId ∧
      (machine.run calls).currentMissionId ≤ MAX_MISSION_ID := by
  refine Library.Machine.run_invariant (fun mgr : MissionInfoMgr =>
    MIN_MISSION_ID ≤ mgr.currentMissionId ∧ mgr.currentMissionId ≤ MAX_MISSION_ID)
    (by decide) ?_ calls
  intro mgr call within
  have kept : ∀ after : MissionInfoMgr, after.currentMissionId = mgr.currentMissionId ->
      MIN_MISSION_ID ≤ after.currentMissionId ∧ after.currentMissionId ≤ MAX_MISSION_ID :=
    fun after same => same ▸ within
  cases call with
  | generateMissionId =>
    dsimp only [machine, apply, generateMissionId]
    split
    next found free =>
      obtain ⟨lower, upper, -⟩ := freeMissionId_some free
      dsimp only
      split at lower <;> constructor <;> split at upper <;> omega
    · dsimp only
      split <;> omega
  | init persistenceInit storage fileNameVec =>
    refine kept _ ?_
    dsimp only [machine, apply, init]
    split
    · rfl
    · split <;> rfl
  | addMissionInfo missionInfo saved =>
    refine kept _ ?_
    dsimp only [machine, apply, addMissionInfo]
    split
    · rfl
    · split <;> rfl
  | updateMissionInfo missionInfo saved =>
    refine kept _ ?_
    dsimp only [machine, apply, updateMissionInfo, addMissionInfo]
    split
    · rfl
    · split
      · rfl
      · split
        · rfl
        · split
          · rfl
          · split <;> rfl
  | deleteMissionInfo missionId persistence =>
    refine kept _ ?_
    dsimp only [machine, apply, deleteMissionInfo]
    split
    · rfl
    · rfl
    · split <;> rfl
  | deleteAllMissionInfos isBackgroundTaskUid persistence =>
    refine kept _ ?_
    dsimp only [machine, apply, deleteAllMissionInfos]
    split <;> rfl

/-- A call that does not let go of the id. -/
def Holds (missionId : Int) (mgr : MissionInfoMgr) : Call -> Prop
  | .generateMissionId | .addMissionInfo _ _ => True
  | .init persistenceInit _ _ => persistenceInit = false
  | .updateMissionInfo missionInfo saved => missionInfo.missionInfo.id = missionId -> saved
  | .deleteMissionInfo other _ => other ≠ missionId
  | .deleteAllMissionInfos isBackgroundTaskUid _ => ∀ info ∈ mgr.missionInfoList,
      clearable isBackgroundTaskUid info -> info.missionInfo.id ≠ missionId

variable {mgr : MissionInfoMgr} {missionId : Int}

theorem mem_addMissionInfo {missionInfo : InnerMissionInfo} {saved : Bool}
    (known : missionId ∈ mgr.missionIdMap ∨ missionInfo.missionInfo.id = missionId ∧ saved) :
    missionId ∈ (mgr.addMissionInfo missionInfo saved).1.missionIdMap := by
  unfold addMissionInfo
  dsimp only
  split
  · grind
  · split <;> grind

theorem Holds.kept {call : Call} (holds : mgr.Holds missionId call)
    (known : missionId ∈ mgr.missionIdMap) : missionId ∈ (mgr.apply call).missionIdMap := by
  cases call with
  | generateMissionId =>
    dsimp only [apply, generateMissionId]
    split <;> simp [known]
  | init persistenceInit storage fileNameVec =>
    obtain rfl : persistenceInit = false := holds
    exact known
  | addMissionInfo missionInfo saved => exact mem_addMissionInfo (.inl known)
  | updateMissionInfo missionInfo saved =>
    dsimp only [apply, updateMissionInfo]
    split
    · exact known
    split
    · exact known
    split
    · exact known
    refine mem_addMissionInfo ?_
    by_cases same : missionInfo.missionInfo.id = missionId
    · exact .inr ⟨same, holds same⟩
    · exact .inl (by simp [known, same])
  | deleteMissionInfo other persistence =>
    have apart : other ≠ missionId := holds
    dsimp only [apply, deleteMissionInfo]
    split
    · exact known
    · simp [known, apart]
    · split <;> simp [known, apart]
  | deleteAllMissionInfos isBackgroundTaskUid persistence =>
    dsimp only [apply, deleteAllMissionInfos]
    split
    · exact known
    refine List.foldlRecOn (motive := (missionId ∈ ·)) _ _ known ?_
    intro map kept info mem
    obtain ⟨listed, clears⟩ := List.mem_filter.mp mem
    simp [kept, holds info listed clears]

theorem generateMissionId_some (given : mgr.generateMissionId.2 = some missionId) :
    missionId ∉ mgr.missionIdMap ∧ missionId ∈ mgr.generateMissionId.1.missionIdMap := by
  unfold generateMissionId at given ⊢
  dsimp only at given ⊢
  split at given
  next free =>
    cases given
    exact ⟨(freeMissionId_some free).2.2.1, by simp⟩
  · cases given

theorem generateMissionId_apart {calls later : List Call}
    (given : (machine.run calls).generateMissionId.2 = some missionId)
    (held : machine.StepsFrom (Holds missionId) (machine.run calls).generateMissionId.1 later) :
    (machine.run (calls ++ .generateMissionId :: later)).generateMissionId.2 ≠ some missionId := by
  have run : ∀ {mgr : MissionInfoMgr}, machine.StepsFrom (Holds missionId) mgr later ->
      missionId ∈ mgr.missionIdMap -> missionId ∈ (later.foldl apply mgr).missionIdMap := by
    clear held
    induction later with
    | nil => exact fun _ known => known
    | cons call rest ih => exact fun steps known => ih steps.2 (steps.1.kept known)
  intro again
  rw [Library.Machine.run, List.foldl_append] at again
  exact (generateMissionId_some again).1 (run held (generateMissionId_some given).2)

theorem generateMissionId_apart_first :
    (machine.run [.generateMissionId, .deleteMissionInfo 2 none]).generateMissionId.2 ≠ some 1 :=
  @generateMissionId_apart 1 [] [_] (by decide +kernel) ⟨show (2 : Int) ≠ 1 by decide, trivial⟩

end AbilityRuntime.Mission.MissionInfoMgr
