import AbilityRuntime.Mission.MissionListManager

set_option autoImplicit false

namespace AbilityRuntime.Mission.MissionListManager

open List Function

structure Placed (mgr : MissionListManager) : Prop where
  pointer : ∀ (mission : Nat) (list : ListRef),
    mission ∈ mgr.missions list ↔ mgr.missionList mission = some list
  once : ∀ list : ListRef, (mgr.missions list).Nodup

def allLists (mgr : MissionListManager) : List ListRef :=
  (.launcherList :: .defaultStandardList :: .defaultSingleList :: mgr.currentMissionLists).dedup

def allMissions (mgr : MissionListManager) : List Nat := mgr.allLists.flatMap mgr.missions

structure WellFormed (mgr : MissionListManager) : Prop extends Placed mgr where
  known : ∀ list : ListRef, mgr.missions list ≠ [] -> list ∈ mgr.allLists

structure Ready (mgr : MissionListManager) (list : ListRef) (mission : Nat) : Prop where
  others : ∀ (other : Nat) (place : ListRef), other ≠ mission ->
    (other ∈ mgr.missions place ↔ mgr.missionList other = some place)
  apart : ∀ place : ListRef, place ≠ list -> mission ∉ mgr.missions place
  own : mission ∈ mgr.missions list -> mgr.missionList mission = some list
  once : ∀ place : ListRef, (mgr.missions place).Nodup

variable {mgr : MissionListManager} {list : ListRef} {mission : Nat}

section

variable (ready : mgr.Ready list mission)
include ready

theorem addMissionToTop_ready :
    mgr.addMissionToTop list mission =
      { mgr with
        missions := update mgr.missions list (mission :: (mgr.missions list).filter (· != mission))
        missionList := update mgr.missionList mission (some list) } := by
  simp only [addMissionToTop]
  split
  next top =>
    obtain ⟨rest, shape⟩ := head?_eq_some_iff.mp top
    have once := ready.once list
    have pointer := ready.own (shape ▸ mem_cons_self)
    rw [shape, nodup_cons] at once
    have others : rest.filter (· != mission) = rest := by
      rw [filter_eq_self]
      intro other mem
      have ne : other ≠ mission := fun same => once.1 (same ▸ mem)
      simpa using ne
    have missions : mission :: (mgr.missions list).filter (· != mission) = mgr.missions list := by
      simp [shape, others]
    rw [missions, <- pointer, update_eq_self, update_eq_self]
  · rfl

theorem addMissionToTop_placed : (mgr.addMissionToTop list mission).Placed := by
  rw [addMissionToTop_ready ready]
  constructor
  · intro other place
    by_cases same : other = mission
    · subst same
      by_cases here : place = list
      · simp [here]
      · simp [here, Ne.symm here, ready.apart place here]
    · have before := ready.others other place same
      by_cases here : place = list
      · simpa [here, same] using here ▸ before
      · simpa [here, same] using before
  · intro place
    by_cases here : place = list
    · simp [here, Nodup.filter, ready.once list]
    · simpa [here] using ready.once place

theorem addMissionToTop_top :
    ((mgr.addMissionToTop list mission).missions list).head? = some mission := by
  simp [addMissionToTop_ready ready]

theorem addMissionToTop_pointer (other : Nat) :
    ((mgr.addMissionToTop list mission).missionList other).isSome =
      ((mgr.missionList other).isSome || other == mission) := by
  rw [addMissionToTop_ready ready]
  by_cases same : other = mission
  · simp [same]
  · simp [same]

end

theorem addMissionToTop_current (mgr : MissionListManager) (list : ListRef) (mission : Nat) :
    (mgr.addMissionToTop list mission).currentMissionLists = mgr.currentMissionLists := by
  simp only [addMissionToTop]
  split <;> rfl

theorem addMissionToTop_lists {place : ListRef}
    (used : (mgr.addMissionToTop list mission).missions place ≠ []) :
    mgr.missions place ≠ [] ∨ place = list := by
  simp only [addMissionToTop] at used
  split at used
  · exact .inl used
  · by_cases here : place = list
    · exact .inr here
    · exact .inl (by simpa [here] using used)

theorem Placed.ready_new (placed : mgr.Placed) (new : mgr.missionList mission = none)
    (list : ListRef) : mgr.Ready list mission := by
  have absent : ∀ place, mission ∉ mgr.missions place := by
    intro place mem
    simp [(placed.pointer mission place).mp mem] at new
  exact ⟨fun other place _ => placed.pointer other place, fun place _ => absent place,
    fun mem => absurd mem (absent list), placed.once⟩

theorem Placed.ready_own (placed : mgr.Placed)
    (own : mgr.missionList mission = some list) : mgr.Ready list mission := by
  refine ⟨fun other place _ => placed.pointer other place, ?_, fun _ => own, placed.once⟩
  intro place elsewhere mem
  have pointer := (placed.pointer mission place).mp mem
  exact elsewhere (Option.some.inj (pointer.symm.trans own))

theorem Placed.ready_removed (placed : mgr.Placed) (own : mgr.missionList mission = some list)
    (target : ListRef) :
    (mgr.removeMission list mission).Ready target mission := by
  have absent : ∀ place, mission ∉ (mgr.removeMission list mission).missions place := by
    intro place
    by_cases here : place = list
    · simp [removeMission, here, (placed.once list).mem_erase_iff]
    · simpa [removeMission, here] using (placed.ready_own own).apart place here
  refine ⟨?_, fun place _ => absent place, fun mem => absurd mem (absent target), ?_⟩
  · intro other place ne
    have before := placed.pointer other place
    by_cases here : place = list
    · simpa [removeMission, here, mem_erase_of_ne ne] using here ▸ before
    · simpa [removeMission, here] using before
  · intro place
    by_cases here : place = list
    · simpa [removeMission, here] using (placed.once list).erase mission
    · simpa [removeMission, here] using placed.once place

theorem removeMission_lists {place : ListRef}
    (used : (mgr.removeMission list mission).missions place ≠ []) :
    mgr.missions place ≠ [] := by
  by_cases here : place = list
  · intro empty
    subst here
    simp [removeMission, empty] at used
  · simpa [removeMission, here] using used

section

variable {isSingletonAbility : Nat -> Bool}

structure Popped (before after : MissionListManager) (list : ListRef) (mission : Nat) : Prop where
  placed : after.Placed
  own : after.missionList mission = some list
  top : (after.missions list).head? = some mission
  kept : ∀ other : Nat, (after.missionList other).isSome = (before.missionList other).isSome
  current : after.currentMissionLists = before.currentMissionLists
  lists : ∀ place : ListRef, after.missions place ≠ [] -> before.missions place ≠ [] ∨
    place = .defaultStandardList ∨ place = .defaultSingleList

theorem popUntilTop_popped {list : ListRef} (standard : list ≠ .defaultStandardList)
    (single : list ≠ .defaultSingleList) {mission : Nat} {fuel : Nat} {mgr : MissionListManager}
    (placed : mgr.Placed) (own : mgr.missionList mission = some list)
    (enough : (mgr.missions list).length ≤ fuel) :
    ∃ popped, popUntilTop isSingletonAbility list mission fuel mgr = some popped ∧
      Popped mgr popped list mission := by
  induction fuel generalizing mgr with
  | zero =>
    have empty := eq_nil_of_length_eq_zero (Nat.le_zero.mp enough)
    have mem := (placed.pointer mission list).mpr own
    simp [empty] at mem
  | succ fuel ih =>
    have mem := (placed.pointer mission list).mpr own
    cases shape : mgr.missions list with
    | nil => simp [shape] at mem
    | cons item rest =>
      by_cases top : item = mission
      · refine ⟨mgr, by simp [popUntilTop, shape, top], placed, own, by simp [shape, top],
          fun _ => rfl, rfl, fun _ used => .inl used⟩
      · have itemOwn := (placed.pointer item list).mp (by simp [shape])
        have ready := placed.ready_removed itemOwn (defaultList isSingletonAbility item)
        have ne : list ≠ defaultList isSingletonAbility item := by
          simp only [defaultList]
          split
          · exact single
          · exact standard
        generalize reached : (mgr.removeMission list item).addMissionToTop
          (defaultList isSingletonAbility item) item = next
        have pushed := addMissionToTop_ready ready
        rw [reached] at pushed
        have remaining : next.missions list = rest := by
          simp [pushed, removeMission, ne, shape]
        have pointer : next.missionList mission = some list := by
          simp [pushed, removeMission, Ne.symm top, own]
        have shorter : (next.missions list).length ≤ fuel := by
          rw [shape, length_cons] at enough
          rw [remaining]
          omega
        obtain ⟨popped, loop, result⟩ := ih (reached ▸ addMissionToTop_placed ready) pointer shorter
        refine ⟨popped, ?_, result.placed, result.own, result.top, ?_, ?_, ?_⟩
        · rw [popUntilTop]; simp [shape, top, reached, loop]
        · intro other
          rw [result.kept, <- reached, addMissionToTop_pointer ready]
          by_cases same : other = item
          · simp [same, removeMission, itemOwn]
          · simp [same, removeMission]
        · rw [result.current, <- reached, addMissionToTop_current]; rfl
        · intro place used
          rcases result.lists place used with before | default
          · rw [<- reached] at before
            rcases addMissionToTop_lists before with earlier | here
            · exact .inl (removeMission_lists earlier)
            · simp only [defaultList] at here
              split at here
              · exact .inr (.inr here)
              · exact .inr (.inl here)
          · exact .inr default

theorem moveNoneTop_popped (isSingletonAbility : Nat -> Bool) {mgr : MissionListManager}
    (placed : mgr.Placed) {mission : Nat} {list : ListRef} (own : mgr.missionList mission = some list)
    (standard : list ≠ .defaultStandardList) (single : list ≠ .defaultSingleList) :
    ∃ popped, mgr.moveNoneTopMissionToDefaultList isSingletonAbility mission = some popped ∧
      Popped mgr popped list mission := by
  simp only [moveNoneTopMissionToDefaultList, own]
  exact popUntilTop_popped standard single placed own (Nat.le_refl _)

structure Moved (before after : MissionListManager) (list : ListRef) (mission : Nat) : Prop where
  placed : after.Placed
  top : (after.missions list).head? = some mission
  kept : ∀ other : Nat,
    (after.missionList other).isSome = ((before.missionList other).isSome || other == mission)
  lists : ∀ place : ListRef, after.missions place ≠ [] ->
    before.missions place ≠ [] ∨ place = list ∨ place = .defaultStandardList ∨
      place = .defaultSingleList
  current : ∀ place : ListRef, place ∈ before.currentMissionLists -> after.missions place ≠ [] ->
    place ∈ after.currentMissionLists

theorem addMissionToTop_moved {mgr : MissionListManager} {list : ListRef} {mission : Nat}
    (ready : mgr.Ready list mission) : Moved mgr (mgr.addMissionToTop list mission) list mission := by
  refine ⟨addMissionToTop_placed ready, addMissionToTop_top ready, addMissionToTop_pointer ready,
    ?_, ?_⟩
  · intro place used
    rcases addMissionToTop_lists used with before | here
    · exact .inl before
    · exact .inr (.inl here)
  · intro place mem _
    rwa [addMissionToTop_current]

theorem Moved.of_earlier {first second third : MissionListManager} {list : ListRef} {mission : Nat}
    (moved : Moved second third list mission)
    (kept : ∀ other : Nat, (second.missionList other).isSome = (first.missionList other).isSome)
    (current : second.currentMissionLists = first.currentMissionLists)
    (lists : ∀ place : ListRef, second.missions place ≠ [] -> first.missions place ≠ [] ∨
      place = .defaultStandardList ∨ place = .defaultSingleList) :
    Moved first third list mission := by
  refine ⟨moved.placed, moved.top, fun other => by rw [moved.kept, kept], ?_, ?_⟩
  · intro place used
    rcases moved.lists place used with earlier | other
    · rcases lists place earlier with first | default
      · exact .inl first
      · exact .inr (.inr default)
    · exact .inr other
  · intro place mem used
    exact moved.current place (current ▸ mem) used

theorem Moved.dropIfEmpty {before after : MissionListManager} {list : ListRef} {mission : Nat}
    (moved : Moved before after list mission) (emptied : ListRef) :
    Moved before (after.dropIfEmpty emptied) list mission := by
  simp only [MissionListManager.dropIfEmpty]
  split
  next empty =>
    refine { moved with placed := ⟨moved.placed.pointer, moved.placed.once⟩, current := ?_ }
    intro place mem used
    have ne : place ≠ emptied := fun same => used (by simpa [same] using empty)
    simpa [ne] using moved.current place mem used
  · exact moved

theorem removed_moved {mgr : MissionListManager} (placed : mgr.Placed) {mission : Nat}
    {list : ListRef} (own : mgr.missionList mission = some list) (target : ListRef) :
    Moved mgr ((mgr.removeMission list mission).addMissionToTop target mission) target mission :=
  (addMissionToTop_moved (placed.ready_removed own target)).of_earlier (fun _ => rfl) rfl
    fun _ used => .inl (removeMission_lists used)

theorem Popped.moved {before popped after : MissionListManager} {list target : ListRef}
    {mission : Nat} (pop : Popped before popped list mission)
    (moved : Moved popped after target mission) : Moved before after target mission :=
  moved.of_earlier pop.kept pop.current pop.lists

theorem moveMissionToTargetList_valid {mgr : MissionListManager} (placed : mgr.Placed)
    {isCallFromLauncher : Bool} {target list : ListRef} {mission : Nat}
    (own : mgr.missionList mission = some list)
    (launcher : (isCallFromLauncher && target == .launcherList) = false)
    (standard : list ≠ .defaultStandardList) (single : list ≠ .defaultSingleList) :
    ∃ moved, mgr.moveMissionToTargetList isSingletonAbility isCallFromLauncher target mission =
        some moved ∧ Moved mgr moved target mission := by
  obtain ⟨popped, loop, pop⟩ := moveNoneTop_popped isSingletonAbility placed own standard single
  by_cases change : target = list
  · subst change
    cases isCallFromLauncher with
    | true =>
      have moved := addMissionToTop_moved (pop.placed.ready_own pop.own)
      refine ⟨_, ?_, (pop.moved moved).dropIfEmpty target⟩
      simp [moveMissionToTargetList, own, launcher, standard, single, loop]
    | false =>
      have moved := addMissionToTop_moved (placed.ready_own own)
      refine ⟨_, ?_, moved.dropIfEmpty target⟩
      simp [moveMissionToTargetList, own, standard, single]
  · have moved := removed_moved pop.placed pop.own target
    refine ⟨_, ?_, (pop.moved moved).dropIfEmpty list⟩
    simp [moveMissionToTargetList, own, launcher, standard, single, loop, change]

theorem moveMissionToTargetList_moved (isSingletonAbility : Nat -> Bool)
    {mgr : MissionListManager} (placed : mgr.Placed) {isCallFromLauncher : Bool}
    {target : ListRef} {mission : Nat}
    (ownLauncher : isCallFromLauncher = true -> target = .launcherList ->
      ∀ list, mgr.missionList mission = some list -> list = .launcherList) :
    ∃ moved, mgr.moveMissionToTargetList isSingletonAbility isCallFromLauncher target mission =
        some moved ∧ Moved mgr moved target mission := by
  cases own : mgr.missionList mission with
  | none =>
    have moved := addMissionToTop_moved (placed.ready_new own target)
    exact ⟨_, by simp [moveMissionToTargetList, own], moved⟩
  | some list =>
    cases launcher : isCallFromLauncher && target == .launcherList with
    | true =>
      obtain ⟨rfl, rfl⟩ : isCallFromLauncher = true ∧ target = .launcherList := by
        simpa using launcher
      obtain rfl := ownLauncher rfl rfl list own
      have moved := addMissionToTop_moved (placed.ready_own own)
      exact ⟨_, by simp [moveMissionToTargetList, own], moved⟩
    | false =>
      by_cases default : list = .defaultSingleList ∨ list = .defaultStandardList
      · have moved := removed_moved placed own target
        exact ⟨_, by simp [moveMissionToTargetList, own, launcher, default], moved⟩
      · obtain ⟨single, standard⟩ := not_or.mp default
        exact moveMissionToTargetList_valid placed own launcher standard single

end

end AbilityRuntime.Mission.MissionListManager
