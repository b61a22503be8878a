import Mathlib.Data.List.Perm.Subperm
import AbilityRuntime.Startup.TopologySort

set_option autoImplicit false

namespace AbilityRuntime.Startup

open List SortState Function StartupMap
variable {startupMap : StartupMap} {sortResult : StartupSortResult}

def SortState.degree (state : SortState) (name : String) : Int := (state.inDegreeMap name).getD 0

theorem releaseChild_zeroDeque (state : SortState) (child : String) :
    (releaseChild state child).zeroDeque =
      if state.degree child - 1 = 0 then state.zeroDeque ++ [child] else state.zeroDeque := rfl

theorem releaseChild_degree (state : SortState) (child name : String) :
    (releaseChild state child).degree name = state.degree name - [child].count name := by
  by_cases same : child = name
  · simp [releaseChild, degree, same]
  · simp [releaseChild, degree, update_of_ne (Ne.symm same), same]

theorem releaseChildren_degree (children : List String) (state : SortState) (name : String) :
    (children.foldl releaseChild state).degree name = state.degree name - children.count name := by
  induction children generalizing state with
  | nil => simp
  | cons child rest ih =>
    rw [foldl_cons, ih, releaseChild_degree, count_cons (l := rest)]
    simp only [count_singleton]
    omega

theorem releaseChildren_mem {children : List String} {state : SortState} {name : String}
    (mem : name ∈ (children.foldl releaseChild state).zeroDeque) :
    name ∈ state.zeroDeque ∨
      (name ∈ children ∧ (children.foldl releaseChild state).degree name ≤ 0) := by
  induction children generalizing state with
  | nil => exact .inl mem
  | cons child rest ih =>
    rcases ih mem with before | ⟨later, gone⟩
    · rw [releaseChild_zeroDeque] at before
      split at before
      next zero =>
        rcases mem_append.mp before with old | new
        · exact .inl old
        · obtain rfl := mem_singleton.mp new
          refine .inr ⟨mem_cons_self, ?_⟩
          rw [releaseChildren_degree, count_cons_self]
          omega
      · exact .inl before
    · exact .inr ⟨mem_cons_of_mem _ later, gone⟩

def SortState.Once (state : SortState) (taken : List String) : Prop :=
  ∀ name, taken.count name + state.zeroDeque.count name +
    (if 0 < state.degree name then 1 else 0) ≤ 1

theorem SortState.Once.releaseChild {state : SortState} {taken : List String}
    (once : state.Once taken) (child : String) : (releaseChild state child).Once taken := by
  intro name
  have before := once name
  rw [releaseChild_degree, releaseChild_zeroDeque]
  by_cases same : child = name
  · subst same
    split at before
    next positive =>
      by_cases zero : state.degree child - 1 = 0
      · rw [if_pos zero, count_append, count_singleton_self, if_neg (by omega)]
        omega
      · rw [if_neg zero]
        split <;> omega
    · rw [if_neg (by omega), if_neg (by omega)]
      omega
  · have queue : (if state.degree child - 1 = 0 then state.zeroDeque ++ [child]
        else state.zeroDeque).count name = state.zeroDeque.count name := by
      split <;> simp [same]
    simpa [queue, same] using before

theorem SortState.Once.releaseChildren {state : SortState} {taken : List String}
    (once : state.Once taken) (children : List String) :
    (children.foldl Startup.releaseChild state).Once taken := by
  induction children generalizing state with
  | nil => exact once
  | cons child rest ih => exact ih (once.releaseChild child)

/-- What the loop of Sort keeps about the names that it has taken so far. -/
structure Ordered (startupMap : StartupMap) (holds : String -> Prop) (state : SortState)
    (taken : List String) : Prop where
  once : state.Once taken
  degree : ∀ name task, startupMap.find name = some task ->
    state.degree name = task.dependencies.countP fun dependency => decide (dependency ∉ taken)
  reached : ∀ name, name ∈ taken ∨ name ∈ state.zeroDeque -> holds name
  known : ∀ name ∈ taken, name ∈ startupMap.names
  children : ∀ name ∈ taken, (state.sortResult.startupChildrenMap name).isSome
  sorted : Sorted startupMap.tasks state.sortResult

theorem Sorted.children_known (sorted : Sorted startupMap.tasks sortResult) {parent name : String}
    (mem : name ∈ sortResult.children parent) :
    ∃ task ∈ startupMap.tasks, task.name = name ∧ startupMap.find name = some task := by
  rw [sorted.children parent] at mem
  obtain ⟨task, there, same⟩ := mem_flatMap.mp mem
  obtain rfl := eq_of_mem_replicate same
  exact ⟨task, there, rfl, find_name there⟩

theorem countP_not_mem_cons {key : String} {taken : List String} (fresh : key ∉ taken)
    (dependencies : List String) :
    dependencies.countP (fun dependency => decide (dependency ∉ taken)) =
      dependencies.count key +
        dependencies.countP (fun dependency => decide (dependency ∉ key :: taken)) := by
  induction dependencies with
  | nil => rfl
  | cons dependency rest ih =>
    rw [countP_cons, countP_cons, count_cons, ih]
    by_cases same : dependency = key
    · subst same
      simp [fresh]
      omega
    · simp [same]
      omega

section Loop

variable {holds : String -> Prop} {state : SortState} {taken : List String}

theorem Ordered.take (ordered : Ordered startupMap holds state taken)
    (closed : ∀ task ∈ startupMap.tasks,
      (∀ dependency ∈ task.dependencies, holds dependency) -> holds task.name)
    {key : String} {rest : List String} (queue : state.zeroDeque = key :: rest)
    (known : key ∈ startupMap.names) :
    let children := state.sortResult.children key
    Ordered startupMap holds
      (children.foldl releaseChild { state with
        zeroDeque := rest
        sortResult := state.sortResult.setChildren key children })
      (key :: taken) := by
  intro children
  have fresh : key ∉ taken := by
    have := ordered.once key
    rw [queue, count_cons_self] at this
    exact count_eq_zero.mp (by omega)
  have degree (name : String) (task : StartupTask) (found : startupMap.find name = some task) :
      (children.foldl releaseChild { state with
        zeroDeque := rest
        sortResult := state.sortResult.setChildren key children }).degree name =
        task.dependencies.countP fun dependency => decide (dependency ∉ key :: taken) := by
    have before : state.degree name = _ := ordered.degree name task found
    have count := ordered.sorted.children_count found key
    rw [countP_not_mem_cons fresh] at before
    rw [releaseChildren_degree]
    simp only [SortState.degree, children] at before ⊢
    omega
  have taken_holds (name : String) (mem : name ∈ key :: taken) : holds name := by
    rcases mem_cons.mp mem with rfl | earlier
    · exact ordered.reached name (.inr (by simp [queue]))
    · exact ordered.reached name (.inl earlier)
  constructor
  case once =>
    apply SortState.Once.releaseChildren
    intro name
    have before := ordered.once name
    change (key :: taken).count name + rest.count name + (if 0 < state.degree name then 1 else 0) ≤ 1
    rw [queue, count_cons] at before
    rw [count_cons]
    omega
  case degree => exact degree
  case reached =>
    rintro name (mem | mem)
    · exact taken_holds name mem
    · rcases releaseChildren_mem mem with queued | ⟨child, gone⟩
      · exact ordered.reached name (.inr (by simp [queue, show name ∈ rest from queued]))
      · obtain ⟨task, there, rfl, found⟩ := ordered.sorted.children_known child
        rw [degree task.name task found] at gone
        refine closed task there fun dependency needed => taken_holds dependency ?_
        have none := countP_eq_zero.mp (Nat.le_zero.mp (Int.ofNat_le.mp gone)) dependency needed
        simpa only [decide_eq_true_eq, not_not] using none
  case known => exact forall_mem_cons.mpr ⟨known, ordered.known⟩
  case children =>
    rw [releaseChildren_sortResult]
    intro name mem
    by_cases same : name = key
    · simp [StartupSortResult.setChildren, same]
    · have earlier := ordered.children name ((mem_cons.mp mem).resolve_left same)
      simpa [StartupSortResult.setChildren, same] using earlier
  case sorted =>
    rw [releaseChildren_sortResult]
    exact ordered.sorted.setChildren key

theorem Ordered.all_taken (ordered : Ordered startupMap holds state taken)
    (all : taken.length = startupMap.tasks.length) {name : String} (known : name ∈ startupMap.names) :
    name ∈ taken := by
  have distinct : taken.Nodup := nodup_iff_count_le_one.mpr fun name => by
    have := ordered.once name
    omega
  have fewer : taken.Subperm startupMap.names := subperm_of_subset distinct ordered.known
  have same : taken.Perm startupMap.names := by
    apply fewer.perm_of_length_le
    simp [all, StartupMap.names]
  exact same.mem_iff.mpr known

theorem sortLoop_ordered {turns mainCount threadCount : Nat}
    (closed : ∀ task ∈ startupMap.tasks,
      (∀ dependency ∈ task.dependencies, holds dependency) -> holds task.name)
    (ordered : Ordered startupMap holds state taken) (count : mainCount + threadCount = taken.length)
    (ok : sortLoop startupMap turns mainCount threadCount state = some (.ok sortResult)) :
    ∀ name ∈ startupMap.names, holds name ∧ (sortResult.startupChildrenMap name).isSome := by
  induction turns generalizing mainCount threadCount state taken with
  | zero => cases ok
  | succ turns ih =>
    simp only [sortLoop] at ok
    split at ok
    · split at ok
      · cases ok
      next all =>
        cases ok
        intro name known
        have mem := ordered.all_taken (by omega) known
        exact ⟨ordered.reached name (.inl mem), ordered.children name mem⟩
    next key rest queue =>
      split at ok
      · cases ok
      next task found =>
        have later := ordered.take closed queue (mem_names found)
        split at ok
        · exact ih later (by rw [length_cons]; omega) ok
        · exact ih later (by rw [length_cons]; omega) ok

end Loop

structure Filled (done : List StartupTask) (state : SortState) : Prop where
  degree : ∀ task ∈ done, state.inDegreeMap task.name = some (task.dependencies.length : Int)
  zeroDeque : state.zeroDeque = state.sortResult.zeroDequeResult

theorem Filled.count {done : List StartupTask} {state : SortState} (filled : Filled done state)
    {startup : StartupTask} (new : state.inDegreeMap startup.name = none) :
    ∀ task ∈ done ++ [startup], update state.inDegreeMap startup.name
      (some (startup.dependencies.length : Int)) task.name = some (task.dependencies.length : Int) := by
  intro task mem
  rcases mem_append.mp mem with earlier | last
  · have counted := filled.degree task earlier
    have ne : task.name ≠ startup.name := by
      intro same
      rw [same, new] at counted
      cases counted
    rw [update_of_ne ne, counted]
  · obtain rfl := mem_singleton.mp last
    rw [update_self]

theorem sortZeroDeque_filled {startup : StartupTask} {done : List StartupTask}
    {before after : SortState} (filled : Filled done before)
    (ok : sortZeroDeque startupMap startup before = .ok after) :
    Filled (done ++ [startup]) after := by
  simp only [sortZeroDeque] at ok
  split at ok
  · cases ok
  next new =>
    split at ok
    · cases ok
      exact ⟨filled.count new, by rw [filled.zeroDeque]⟩
    · split at ok
      · cases ok
      next added =>
        cases ok
        exact ⟨filled.count new, by rw [filled.zeroDeque, (addToParents_ok added).1]⟩

theorem sortZeroDeques_filled {rest done : List StartupTask} {before after : SortState}
    (filled : Filled done before) (ok : sortZeroDeques startupMap rest before = .ok after) :
    Filled (done ++ rest) after := by
  induction rest generalizing done before with
  | nil =>
    cases ok
    simpa using filled
  | cons startup rest ih =>
    simp only [sortZeroDeques] at ok
    split at ok
    · cases ok
    next state first =>
      have later := ih (sortZeroDeque_filled filled first) ok
      simpa using later

theorem Filled.ordered {state : SortState} (filled : Filled startupMap.tasks state)
    (sorted : Sorted startupMap.tasks state.sortResult) {holds : String -> Prop}
    (closed : ∀ task ∈ startupMap.tasks,
      (∀ dependency ∈ task.dependencies, holds dependency) -> holds task.name) :
    Ordered startupMap holds state [] := by
  have degree (name : String) (task : StartupTask) (found : startupMap.find name = some task) :
      state.degree name = task.dependencies.length := by
    obtain rfl : task.name = name := by simpa using find?_some found
    simp [SortState.degree, filled.degree task (mem_of_find?_eq_some found)]
  have leaf (name : String) (mem : name ∈ state.zeroDeque) :
      ∃ task, startupMap.find name = some task ∧ task.dependencies = [] :=
    sorted.zeroDeque_find (filled.zeroDeque ▸ mem)
  constructor
  case once =>
    intro name
    have distinct : state.zeroDeque.Nodup := filled.zeroDeque ▸ sorted.zeroDeque_nodup
    have count := nodup_iff_count_le_one.mp distinct name
    by_cases queued : name ∈ state.zeroDeque
    · obtain ⟨task, found, none⟩ := leaf name queued
      simpa [degree name task found, none] using count
    · rw [count_eq_zero.mpr queued]
      split <;> simp
  case degree => simpa using degree
  case reached =>
    rintro name (mem | mem)
    · cases mem
    · obtain ⟨task, found, none⟩ := leaf name mem
      obtain rfl : task.name = name := by simpa using find?_some found
      exact closed task (mem_of_find?_eq_some found) (by simp [none])
  case known => simp
  case children => simp
  case sorted => exact sorted

/-- The accepted tasks can be done one after another, each after its dependencies. -/
theorem sort_induction (accepted : sort startupMap = .ok sortResult) {holds : String -> Prop}
    (closed : ∀ task ∈ startupMap.tasks,
      (∀ dependency ∈ task.dependencies, holds dependency) -> holds task.name) :
    ∀ name ∈ startupMap.names, holds name ∧ (sortResult.startupChildrenMap name).isSome := by
  obtain ⟨state, first, ok⟩ := sort_ok accepted
  have emptySorted : Sorted [] ({ } : SortState).sortResult := ⟨rfl, fun _ => rfl⟩
  have emptyFilled : Filled [] { } := ⟨by simp, rfl⟩
  have sorted := sortZeroDeques_sorted emptySorted first
  have filled := sortZeroDeques_filled emptyFilled first
  exact sortLoop_ordered closed (filled.ordered sorted closed) rfl ok

theorem sort_listed (accepted : sort startupMap = .ok sortResult) :
    ∀ name ∈ startupMap.names, (sortResult.startupChildrenMap name).isSome := by
  intro name mem
  have both := @sort_induction startupMap sortResult accepted (fun _ => True) (fun _ _ _ => trivial)
  exact (both name mem).2

end AbilityRuntime.Startup
