import AbilityRuntime.Library.Graphs
import AbilityRuntime.Startup.SortOrder

set_option autoImplicit false

namespace AbilityRuntime.Startup

open StartupMap List Library

namespace StartupMap

def DependsOn (startupMap : StartupMap) (name dependency : String) : Prop :=
  ∃ task, startupMap.find name = some task ∧ dependency ∈ task.dependencies

def Complete (startupMap : StartupMap) : Prop :=
  ∀ name dependency, startupMap.DependsOn name dependency -> dependency ∈ startupMap.names

end StartupMap

variable {startupMap : StartupMap}

theorem StartupMap.find_of_mem {name : String} (known : name ∈ startupMap.names) :
    ∃ task, startupMap.find name = some task := by
  obtain ⟨task, mem, rfl⟩ := mem_map.mp known
  exact ⟨task, find_name mem⟩

theorem StartupMap.dependsOn_of_mem {task : StartupTask} (mem : task ∈ startupMap.tasks)
    {dependency : String} (needed : dependency ∈ task.dependencies) :
    startupMap.DependsOn task.name dependency :=
  ⟨task, find_name mem, needed⟩

section FirstPass

theorem addToParents_found {key : String} {dependencies : List String}
    (found : ∀ dependency ∈ dependencies, dependency ∈ startupMap.names)
    (before : StartupSortResult) :
    ∃ after, addToParents startupMap key dependencies before = .ok after := by
  induction dependencies generalizing before with
  | nil => exact ⟨before, rfl⟩
  | cons dependency rest ih =>
    obtain ⟨task, known⟩ := find_of_mem (found dependency (by simp))
    simp only [addToParents, known]
    exact ih (fun other mem => found other (by simp [mem])) _

theorem addToParents_missing {key : String} {dependencies : List String} {missing : String}
    (needed : missing ∈ dependencies) (unknown : missing ∉ startupMap.names)
    (before : StartupSortResult) :
    addToParents startupMap key dependencies before = .error errStartupDependencyNotFound := by
  induction dependencies generalizing before with
  | nil => cases needed
  | cons dependency rest ih =>
    rw [addToParents]
    cases known : startupMap.find dependency with
    | none => rfl
    | some task =>
      rcases mem_cons.mp needed with rfl | later
      · exact absurd (mem_names known) unknown
      · exact ih later _

theorem sortZeroDeque_found {startup : StartupTask} {before : SortState}
    (new : before.inDegreeMap startup.name = none)
    (found : ∀ dependency ∈ startup.dependencies, dependency ∈ startupMap.names) :
    ∃ after, sortZeroDeque startupMap startup before = .ok after ∧
      ∀ name, name ≠ startup.name -> after.inDegreeMap name = before.inDegreeMap name := by
  rw [sortZeroDeque, new]
  dsimp only
  split
  · exact ⟨_, rfl, fun name other => Function.update_of_ne other _ _⟩
  · obtain ⟨after, added⟩ := addToParents_found found before.sortResult
    rw [added]
    exact ⟨_, rfl, fun name other => Function.update_of_ne other _ _⟩

theorem sortZeroDeque_missing {startup : StartupTask} {before : SortState}
    (new : before.inDegreeMap startup.name = none) {missing : String}
    (needed : missing ∈ startup.dependencies) (unknown : missing ∉ startupMap.names) :
    sortZeroDeque startupMap startup before = .error errStartupDependencyNotFound := by
  have some : startup.dependencies.isEmpty = false := by
    cases empty : startup.dependencies with
    | nil => rw [empty] at needed; cases needed
    | cons => rfl
  rw [sortZeroDeque, new]
  simp only [some, Bool.false_eq_true, if_false, addToParents_missing needed unknown]

theorem sortZeroDeques_outcome {rest : List StartupTask} {before : SortState}
    (distinct : (rest.map StartupTask.name).Nodup)
    (new : ∀ task ∈ rest, before.inDegreeMap task.name = none) :
    ((∀ task ∈ rest, ∀ dependency ∈ task.dependencies, dependency ∈ startupMap.names) ->
      ∃ after, sortZeroDeques startupMap rest before = .ok after) ∧
    ∀ task ∈ rest, ∀ dependency ∈ task.dependencies, dependency ∉ startupMap.names ->
      sortZeroDeques startupMap rest before = .error errStartupDependencyNotFound := by
  induction rest generalizing before with
  | nil => exact ⟨fun _ => ⟨before, rfl⟩, by simp⟩
  | cons startup rest ih =>
    obtain ⟨absent, distinct⟩ := nodup_cons.mp distinct
    rw [sortZeroDeques]
    by_cases found : ∀ dependency ∈ startup.dependencies, dependency ∈ startupMap.names
    · obtain ⟨after, first, others⟩ := sortZeroDeque_found (new startup (by simp)) found
      have later : ∀ task ∈ rest, after.inDegreeMap task.name = none := by
        intro task mem
        rw [others task.name fun same => absent (same ▸ mem_map_of_mem mem)]
        exact new task (by simp [mem])
      obtain ⟨accepts, rejects⟩ := ih distinct later
      rw [first]
      refine ⟨fun all => accepts fun task mem => all task (by simp [mem]), ?_⟩
      intro task mem dependency needed unknown
      rcases mem_cons.mp mem with rfl | inside
      · exact absurd (found dependency needed) unknown
      · exact rejects task inside dependency needed unknown
    · push Not at found
      obtain ⟨missing, needed, unknown⟩ := found
      rw [sortZeroDeque_missing (new startup (by simp)) needed unknown]
      exact ⟨fun all => absurd (all startup (by simp) missing needed) unknown, fun _ _ _ _ _ => rfl⟩

theorem sortZeroDeques_complete (complete : startupMap.Complete) :
    ∃ state, sortZeroDeques startupMap startupMap.tasks { } = .ok state :=
  (sortZeroDeques_outcome startupMap.distinct fun _ _ => rfl).1 fun _ mem _ needed =>
    complete _ _ (dependsOn_of_mem mem needed)

theorem sortZeroDeques_missing {name dependency : String}
    (needed : startupMap.DependsOn name dependency) (unknown : dependency ∉ startupMap.names) :
    sortZeroDeques startupMap startupMap.tasks { } = .error errStartupDependencyNotFound := by
  obtain ⟨task, found, mem⟩ := needed
  exact (sortZeroDeques_outcome startupMap.distinct fun _ _ => rfl).2 task
    (mem_of_find?_eq_some found) dependency mem unknown

end FirstPass

section Loop

variable {state : SortState} {taken : List String}

variable {name : String}

theorem releaseChild_keeps {state : SortState} (child : String)
    (queued : name ∈ state.zeroDeque) : name ∈ (releaseChild state child).zeroDeque := by
  rw [releaseChild_zeroDeque]
  split
  · exact mem_append_left _ queued
  · exact queued

theorem releaseChildren_keeps {state : SortState} (children : List String)
    (queued : name ∈ state.zeroDeque) : name ∈ (children.foldl releaseChild state).zeroDeque := by
  induction children generalizing state with
  | nil => exact queued
  | cons child rest ih => exact ih (releaseChild_keeps child queued)

theorem releaseChildren_queued {state : SortState} {children : List String}
    (child : name ∈ children) (gone : (children.foldl releaseChild state).degree name = 0) :
    name ∈ (children.foldl releaseChild state).zeroDeque := by
  induction children generalizing state with
  | nil => cases child
  | cons first rest ih =>
    by_cases later : name ∈ rest
    · exact ih later gone
    · obtain rfl := (mem_cons.mp child).resolve_right later
      rw [releaseChildren_degree, count_cons_self, count_eq_zero.mpr later] at gone
      refine releaseChildren_keeps rest ?_
      rw [releaseChild_zeroDeque, if_pos (by omega)]
      exact mem_append_right _ mem_cons_self

/-- Between two turns: the order so far, and every name without a dependency left was queued. -/
structure Turn (startupMap : StartupMap) (state : SortState) (taken : List String) : Prop where
  ordered : Ordered startupMap (· ∈ startupMap.names) state taken
  queued : ∀ name ∈ startupMap.names, state.degree name = 0 -> name ∈ taken ∨ name ∈ state.zeroDeque

theorem names_closed : ∀ task ∈ startupMap.tasks,
    (∀ dependency ∈ task.dependencies, dependency ∈ startupMap.names) ->
      task.name ∈ startupMap.names :=
  fun _ mem _ => mem_map_of_mem mem

section

variable (turn : Turn startupMap state taken)
include turn

theorem Turn.take {key : String} {rest : List String} (queue : state.zeroDeque = key :: rest)
    (known : key ∈ startupMap.names) :
    let children := state.sortResult.children key
    Turn startupMap
      (children.foldl releaseChild { state with
        zeroDeque := rest
        sortResult := state.sortResult.setChildren key children })
      (key :: taken) := by
  intro children
  refine ⟨turn.ordered.take names_closed queue known, fun name inside gone => ?_⟩
  by_cases child : name ∈ children
  · exact .inr (releaseChildren_queued child gone)
  · rw [releaseChildren_degree, count_eq_zero.mpr child, Int.natCast_zero, Int.sub_zero] at gone
    rcases turn.queued name inside gone with before | waiting
    · exact .inl (mem_cons_of_mem _ before)
    · rw [queue] at waiting
      rcases mem_cons.mp waiting with rfl | later
      · exact .inl mem_cons_self
      · exact .inr (releaseChildren_keeps children later)

theorem Turn.taken_nodup : taken.Nodup :=
  nodup_iff_count_le_one.mpr fun name => by
    have := turn.ordered.once name
    omega

theorem Turn.taken_subperm : taken.Subperm startupMap.names :=
  subperm_of_subset turn.taken_nodup turn.ordered.known

theorem Turn.taken_length : taken.length ≤ startupMap.tasks.length := by
  simpa [names] using turn.taken_subperm.length_le

theorem Turn.left_waits (complete : startupMap.Complete) (empty : state.zeroDeque = [])
    (known : name ∈ startupMap.names) (left : name ∉ taken) :
    ∃ dependency, startupMap.DependsOn name dependency ∧ dependency ∈ startupMap.names ∧
      dependency ∉ taken := by
  obtain ⟨task, found⟩ := find_of_mem known
  have waits : state.degree name ≠ 0 := by
    intro gone
    rcases turn.queued name known gone with before | waiting
    · exact left before
    · rw [empty] at waiting; cases waiting
  rw [turn.ordered.degree name task found] at waits
  have positive : 0 < task.dependencies.countP fun dependency => decide (dependency ∉ taken) := by
    omega
  obtain ⟨dependency, needed, waited⟩ := countP_pos_iff.mp positive
  exact ⟨dependency, ⟨task, found, needed⟩, complete name dependency ⟨task, found, needed⟩,
    of_decide_eq_true waited⟩

theorem Turn.circular (complete : startupMap.Complete) (empty : state.zeroDeque = [])
    (less : taken.length ≠ startupMap.tasks.length) :
    ¬Acyclic startupMap.DependsOn := by
  intro acyclic
  have remaining : startupMap.names.filter (· ∉ taken) ≠ [] := by
    intro none
    rw [filter_eq_nil_iff] at none
    have all : startupMap.names ⊆ taken := fun name known => by simpa using none name known
    have fewer := (subperm_of_subset startupMap.distinct all).length_le
    have bound := turn.taken_length
    simp only [length_map] at fewer
    omega
  obtain ⟨name, mem, sink⟩ := acyclic.exists_sink remaining
  obtain ⟨known, left⟩ := mem_filter.mp mem
  obtain ⟨dependency, needed, inside, waits⟩ :=
    turn.left_waits complete empty known (of_decide_eq_true left)
  exact sink dependency (mem_filter.mpr ⟨inside, decide_eq_true waits⟩) needed

end

theorem sortLoop_outcome {turns mainCount threadCount : Nat} (complete : startupMap.Complete)
    (turn : Turn startupMap state taken) (count : mainCount + threadCount = taken.length)
    (enough : startupMap.tasks.length < turns + taken.length) :
    (∃ sortResult, sortLoop startupMap turns mainCount threadCount state = some (.ok sortResult)) ∨
      sortLoop startupMap turns mainCount threadCount state =
        some (.error errStartupCircularDependency) ∧ ¬Acyclic startupMap.DependsOn := by
  induction turns generalizing mainCount threadCount state taken with
  | zero =>
    have := turn.taken_length
    omega
  | succ turns ih =>
    cases queue : state.zeroDeque with
    | nil =>
      simp only [sortLoop, queue]
      by_cases all : mainCount + threadCount = startupMap.tasks.length
      · exact .inl ⟨state.sortResult, by simp [all]⟩
      · exact .inr ⟨by simp [all], turn.circular complete queue (by omega)⟩
    | cons key rest =>
      have known : key ∈ startupMap.names := turn.ordered.reached key (.inr (by simp [queue]))
      obtain ⟨task, found⟩ := find_of_mem known
      have later := turn.take queue known
      simp only [sortLoop, queue, found]
      split
      · exact ih later (by rw [length_cons]; omega) (by rw [length_cons]; omega)
      · exact ih later (by rw [length_cons]; omega) (by rw [length_cons]; omega)

theorem firstTurn (first : sortZeroDeques startupMap startupMap.tasks { } = .ok state) :
    Turn startupMap state [] := by
  have emptySorted : Sorted [] ({ } : SortState).sortResult := ⟨rfl, fun _ => rfl⟩
  have emptyFilled : Filled [] { } := ⟨by simp, rfl⟩
  have sorted := sortZeroDeques_sorted emptySorted first
  have filled := sortZeroDeques_filled emptyFilled first
  refine ⟨filled.ordered sorted names_closed, fun name known gone => .inr ?_⟩
  obtain ⟨task, mem, rfl⟩ := mem_map.mp known
  rw [SortState.degree, filled.degree task mem] at gone
  have none : task.dependencies = [] := length_eq_zero_iff.mp (by simpa using gone)
  rw [filled.zeroDeque, sorted.zeroDeque]
  exact mem_map_of_mem (mem_filter.mpr ⟨mem, by simp [none]⟩)

end Loop

theorem sort_missing (incomplete : ¬startupMap.Complete) (turns : Nat) :
    sortWithin startupMap turns = some (.error errStartupDependencyNotFound) ∧
      sort startupMap = .error errStartupDependencyNotFound := by
  simp only [StartupMap.Complete] at incomplete
  push Not at incomplete
  obtain ⟨name, dependency, needed, unknown⟩ := incomplete
  simp only [sort, sortWithin, sortZeroDeques_missing needed unknown, Option.getD_some, and_self]

theorem sort_complete (complete : startupMap.Complete) :
    sortWithin startupMap (startupMap.tasks.length + 1) = some (sort startupMap) ∧
      ((∃ sortResult, sort startupMap = .ok sortResult) ∨
        sort startupMap = .error errStartupCircularDependency ∧ ¬Acyclic startupMap.DependsOn) := by
  obtain ⟨state, first⟩ := sortZeroDeques_complete complete
  have enough : startupMap.tasks.length < (startupMap.tasks.length + 1) + ([] : List String).length :=
    Nat.lt_succ_self _
  simp only [sort, sortWithin, first]
  rcases sortLoop_outcome complete (firstTurn first) (rfl : 0 + 0 = _) enough with
    ⟨sortResult, ok⟩ | ⟨circular, circle⟩
  · rw [ok]; exact ⟨rfl, .inl ⟨sortResult, rfl⟩⟩
  · rw [circular]; exact ⟨rfl, .inr ⟨rfl, circle⟩⟩

variable {sortResult : StartupSortResult}

theorem sort_acyclic (accepted : sort startupMap = .ok sortResult) :
    Acyclic startupMap.DependsOn := by
  have closed : ∀ task ∈ startupMap.tasks,
      (∀ dependency ∈ task.dependencies, Acc (flip startupMap.DependsOn) dependency) ->
        Acc (flip startupMap.DependsOn) task.name := by
    intro task mem reached
    constructor
    rintro dependency ⟨other, found, needed⟩
    rw [find_name mem] at found
    cases found
    exact reached dependency needed
  refine acyclic_of_wellFounded ⟨fun name => ?_⟩
  by_cases known : name ∈ startupMap.names
  · exact (sort_induction accepted closed name known).1
  · constructor
    rintro dependency ⟨task, found, _⟩
    exact absurd (mem_names found) known

theorem Sorted.mem_children (sorted : Sorted startupMap.tasks sortResult)
    (name dependency : String) :
    name ∈ sortResult.children dependency ↔ startupMap.DependsOn name dependency := by
  rw [sorted.children dependency, mem_flatMap]
  constructor
  · rintro ⟨task, mem, listed⟩
    obtain ⟨some, rfl⟩ := mem_replicate.mp listed
    exact dependsOn_of_mem mem (count_pos_iff.mp (Nat.pos_of_ne_zero some))
  · rintro ⟨task, found, needed⟩
    have same : task.name = name := by simpa using find?_some found
    refine ⟨task, mem_of_find?_eq_some found, mem_replicate.mpr ⟨?_, same.symm⟩⟩
    exact (count_pos_iff.mpr needed).ne'

theorem Sorted.mem_zeroDeque (sorted : Sorted startupMap.tasks sortResult) (name : String) :
    name ∈ sortResult.zeroDequeResult ↔
      ∃ task, startupMap.find name = some task ∧ task.dependencies = [] := by
  refine ⟨sorted.zeroDeque_find, ?_⟩
  rintro ⟨task, found, none⟩
  have same : task.name = name := by simpa using find?_some found
  rw [sorted.zeroDeque, <- same]
  exact mem_map_of_mem (mem_filter.mpr ⟨mem_of_find?_eq_some found, by simp [none]⟩)

/-- Sort accepts exactly the complete maps without a circle. -/
theorem sort_outcome (startupMap : StartupMap) :
    (∃ turns, sortWithin startupMap turns = some (sort startupMap)) ∧
      ((∃ sortResult, sort startupMap = .ok sortResult) ↔
        startupMap.Complete ∧ Acyclic startupMap.DependsOn) ∧
      (sort startupMap = .error errStartupDependencyNotFound ↔ ¬startupMap.Complete) ∧
      (sort startupMap = .error errStartupCircularDependency ↔
        startupMap.Complete ∧ ¬Acyclic startupMap.DependsOn) ∧
      ∀ sortResult, sort startupMap = .ok sortResult ->
        (∀ name, name ∈ sortResult.zeroDequeResult ↔
          ∃ task, startupMap.find name = some task ∧ task.dependencies = []) ∧
        sortResult.zeroDequeResult.Nodup ∧
        (∀ name ∈ startupMap.names, (sortResult.startupChildrenMap name).isSome) ∧
        ∀ name dependency, name ∈ sortResult.children dependency ↔
          startupMap.DependsOn name dependency := by
  refine ⟨?_, ?_, ?_, ?_, fun sortResult accepted => ?_⟩
  case refine_1 =>
    refine ⟨startupMap.tasks.length + 1, ?_⟩
    by_cases complete : startupMap.Complete
    · exact (sort_complete complete).1
    · obtain ⟨ends, missing⟩ := sort_missing complete (startupMap.tasks.length + 1)
      rw [ends, missing]
  case refine_2 =>
    constructor
    · rintro ⟨sortResult, accepted⟩
      refine ⟨by_contra fun incomplete => ?_, sort_acyclic accepted⟩
      rw [(sort_missing incomplete 0).2] at accepted
      cases accepted
    · rintro ⟨complete, acyclic⟩
      exact (sort_complete complete).2.resolve_right fun circular => circular.2 acyclic
  case refine_3 =>
    refine ⟨fun missing complete => ?_, fun incomplete => (sort_missing incomplete 0).2⟩
    rcases (sort_complete complete).2 with ⟨_, accepted⟩ | ⟨circular, -⟩
    · rw [accepted] at missing; cases missing
    · rw [circular] at missing; cases missing
  case refine_4 =>
    constructor
    · intro circular
      have complete : startupMap.Complete := by
        by_contra incomplete
        rw [(sort_missing incomplete 0).2] at circular
        cases circular
      refine ⟨complete, ?_⟩
      rcases (sort_complete complete).2 with ⟨_, accepted⟩ | ⟨-, circle⟩
      · rw [accepted] at circular; cases circular
      · exact circle
    · rintro ⟨complete, circle⟩
      rcases (sort_complete complete).2 with ⟨_, accepted⟩ | ⟨circular, -⟩
      · exact absurd (sort_acyclic accepted) circle
      · exact circular
  case refine_5 =>
    have sorted := sort_sorted accepted
    exact ⟨sorted.mem_zeroDeque, sorted.zeroDeque_nodup, sort_listed accepted, sorted.mem_children⟩

end AbilityRuntime.Startup
