import Mathlib.Data.List.Nodup

set_option autoImplicit false

namespace AbilityRuntime.Startup

open List

def errOk : Int := 0
def errStartupInternalError : Int := 16000050
def errStartupDependencyNotFound : Int := 28800001
def errStartupCircularDependency : Int := 28800002

structure StartupTask where
  name : String
  dependencies : List String := []
  waitOnMainThread : Bool := true
  callCreateOnMainThread : Bool := true

/-- The map of the tasks, which AddTask and the managers fill with every task under its own name. -/
structure StartupMap where
  tasks : List StartupTask
  distinct : (tasks.map StartupTask.name).Nodup

structure StartupSortResult where
  startupChildrenMap : String -> Option (List String) := fun _ => none
  zeroDequeResult : List String := []

structure SortState where
  inDegreeMap : String -> Option Int := fun _ => none
  zeroDeque : List String := []
  sortResult : StartupSortResult := { }

namespace StartupMap

def find (startupMap : StartupMap) (name : String) : Option StartupTask :=
  startupMap.tasks.find? fun task => task.name == name

def names (startupMap : StartupMap) : List String := startupMap.tasks.map StartupTask.name

end StartupMap

namespace StartupSortResult

def children (sortResult : StartupSortResult) (key : String) : List String :=
  (sortResult.startupChildrenMap key).getD []

def setChildren (sortResult : StartupSortResult) (key : String) (list : List String) :
    StartupSortResult :=
  { sortResult with
    startupChildrenMap := Function.update sortResult.startupChildrenMap key (some list) }

end StartupSortResult

def addToParents (startupMap : StartupMap) (key : String) :
    List String -> StartupSortResult -> Except Int StartupSortResult
  | [], sortResult => .ok sortResult
  | parentName :: rest, sortResult =>
    match startupMap.find parentName with
    | none => .error errStartupDependencyNotFound
    | some _ =>
      addToParents startupMap key rest
        (sortResult.setChildren parentName (sortResult.children parentName ++ [key]))

def sortZeroDeque (startupMap : StartupMap) (startup : StartupTask) (state : SortState) :
    Except Int SortState :=
  let key := startup.name
  match state.inDegreeMap key with
  | some _ => .error errStartupInternalError
  | none =>
    let inDegreeMap := Function.update state.inDegreeMap key (some startup.dependencies.length)
    if startup.dependencies.isEmpty then
      .ok
        { inDegreeMap := inDegreeMap
          zeroDeque := state.zeroDeque ++ [key]
          sortResult := { state.sortResult with
            zeroDequeResult := state.sortResult.zeroDequeResult ++ [key] } }
    else
      match addToParents startupMap key startup.dependencies state.sortResult with
      | .error code => .error code
      | .ok sortResult => .ok { state with inDegreeMap := inDegreeMap, sortResult := sortResult }

def sortZeroDeques (startupMap : StartupMap) : List StartupTask -> SortState -> Except Int SortState
  | [], state => .ok state
  | startup :: rest, state =>
    match sortZeroDeque startupMap startup state with
    | .error code => .error code
    | .ok state => sortZeroDeques startupMap rest state

def releaseChild (state : SortState) (child : String) : SortState :=
  let degree := (state.inDegreeMap child).getD 0 - 1
  { state with
    inDegreeMap := Function.update state.inDegreeMap child (some degree)
    zeroDeque := if degree = 0 then state.zeroDeque ++ [child] else state.zeroDeque }

-- None stands for a loop that is still running after so many turns.
def sortLoop (startupMap : StartupMap) :
    Nat -> Nat -> Nat -> SortState -> Option (Except Int StartupSortResult)
  | 0, _, _, _ => none
  | turns + 1, mainStartupCount, threadStartupCount, state =>
    match state.zeroDeque with
    | [] =>
      if mainStartupCount + threadStartupCount ≠ startupMap.tasks.length then
        some (.error errStartupCircularDependency)
      else some (.ok state.sortResult)
    | key :: rest =>
      match startupMap.find key with
      | none => some (.error errStartupInternalError)
      | some task =>
        let children := state.sortResult.children key
        let state := { state with
          zeroDeque := rest
          sortResult := state.sortResult.setChildren key children }
        let state := children.foldl releaseChild state
        if task.callCreateOnMainThread then
          sortLoop startupMap turns (mainStartupCount + 1) threadStartupCount state
        else sortLoop startupMap turns mainStartupCount (threadStartupCount + 1) state

def sortWithin (startupMap : StartupMap) (turns : Nat) : Option (Except Int StartupSortResult) :=
  match sortZeroDeques startupMap startupMap.tasks { } with
  | .error code => some (.error code)
  | .ok state => sortLoop startupMap turns 0 0 state

/-- A run that takes more names than there are tasks is a circle. -/
def sort (startupMap : StartupMap) : Except Int StartupSortResult :=
  (sortWithin startupMap (startupMap.tasks.length + 1)).getD (.error errStartupCircularDependency)

structure Sorted (tasks : List StartupTask) (sortResult : StartupSortResult) : Prop where
  zeroDeque : sortResult.zeroDequeResult =
    (tasks.filter fun task => task.dependencies.isEmpty).map StartupTask.name
  children : ∀ parent, sortResult.children parent =
    tasks.flatMap fun task => List.replicate (task.dependencies.count parent) task.name

variable {startupMap : StartupMap}

theorem StartupMap.mem_names {name : String} {task : StartupTask}
    (found : startupMap.find name = some task) : name ∈ startupMap.names := by
  have same := find?_some found
  exact mem_map.mpr ⟨task, mem_of_find?_eq_some found, by simpa using same⟩

@[simp] theorem setChildren_children (sortResult : StartupSortResult) (key parent : String)
    (list : List String) : (sortResult.setChildren key list).children parent =
      if parent = key then list else sortResult.children parent := by
  by_cases same : parent = key <;>
    simp [StartupSortResult.setChildren, StartupSortResult.children, same]

theorem addToParents_ok {key : String} {dependencies : List String}
    {before after : StartupSortResult}
    (added : addToParents startupMap key dependencies before = .ok after) :
    after.zeroDequeResult = before.zeroDequeResult ∧
      ∀ parent, after.children parent =
        before.children parent ++ replicate (dependencies.count parent) key := by
  induction dependencies generalizing before with
  | nil =>
    cases added
    simp
  | cons dependency rest ih =>
    simp only [addToParents] at added
    split at added
    · cases added
    · obtain ⟨zero, children⟩ := ih added
      refine ⟨zero, fun parent => ?_⟩
      rw [children parent, setChildren_children, count_cons]
      by_cases same : parent = dependency
      · simp [same, replicate_succ]
      · simp [same, Ne.symm same]

theorem sortZeroDeque_sorted {startup : StartupTask} {done : List StartupTask}
    {before after : SortState} (sorted : Sorted done before.sortResult)
    (ok : sortZeroDeque startupMap startup before = .ok after) :
    Sorted (done ++ [startup]) after.sortResult := by
  simp only [sortZeroDeque] at ok
  split at ok
  · cases ok
  · split at ok
    next leaf =>
      cases ok
      have none : startup.dependencies = [] := isEmpty_iff.mp leaf
      constructor
      · simp [sorted.zeroDeque, none]
      · intro parent
        simpa [StartupSortResult.children, none] using sorted.children parent
    next inner =>
      split at ok
      · cases ok
      next sortResult added =>
        cases ok
        obtain ⟨zero, children⟩ := addToParents_ok added
        constructor
        · simp [zero, sorted.zeroDeque, inner]
        · intro parent
          simp [children parent, sorted.children parent]

theorem sortZeroDeques_sorted {rest done : List StartupTask} {before after : SortState}
    (sorted : Sorted done before.sortResult)
    (ok : sortZeroDeques startupMap rest before = .ok after) :
    Sorted (done ++ rest) after.sortResult := by
  induction rest generalizing done before with
  | nil =>
    cases ok
    simpa using sorted
  | cons startup rest ih =>
    simp only [sortZeroDeques] at ok
    split at ok
    · cases ok
    next state first =>
      have later := ih (sortZeroDeque_sorted sorted first) ok
      simpa using later

theorem releaseChildren_sortResult (children : List String) (state : SortState) :
    (children.foldl releaseChild state).sortResult = state.sortResult := by
  induction children generalizing state with
  | nil => rfl
  | cons child rest ih => rw [foldl_cons, ih]; rfl

theorem Sorted.setChildren {tasks : List StartupTask} {sortResult : StartupSortResult}
    (sorted : Sorted tasks sortResult) (key : String) :
    Sorted tasks (sortResult.setChildren key (sortResult.children key)) := by
  refine ⟨sorted.zeroDeque, fun parent => ?_⟩
  rw [setChildren_children]
  split
  next same => rw [same, sorted.children key]
  · exact sorted.children parent

theorem sortLoop_sorted {tasks : List StartupTask} {turns mainCount threadCount : Nat}
    {state : SortState} {sortResult : StartupSortResult} (sorted : Sorted tasks state.sortResult)
    (ok : sortLoop startupMap turns mainCount threadCount state = some (.ok sortResult)) :
    Sorted tasks sortResult := by
  induction turns generalizing mainCount threadCount state with
  | zero => cases ok
  | succ turns ih =>
    simp only [sortLoop] at ok
    split at ok
    · split at ok
      · cases ok
      · cases ok; exact sorted
    next key rest _ =>
      split at ok
      · cases ok
      next task _ =>
        have released (state' : SortState)
            (same : state'.sortResult =
              state.sortResult.setChildren key (state.sortResult.children key)) :
            Sorted tasks
              ((state.sortResult.children key).foldl releaseChild state').sortResult := by
          rw [releaseChildren_sortResult, same]
          exact sorted.setChildren key
        split at ok
        · exact ih (released _ rfl) ok
        · exact ih (released _ rfl) ok

theorem sort_ok {sortResult : StartupSortResult} (accepted : sort startupMap = .ok sortResult) :
    ∃ state, sortZeroDeques startupMap startupMap.tasks { } = .ok state ∧
      sortLoop startupMap (startupMap.tasks.length + 1) 0 0 state = some (.ok sortResult) := by
  unfold sort sortWithin at accepted
  split at accepted
  · cases accepted
  next state first =>
    refine ⟨state, first, ?_⟩
    cases answer : sortLoop startupMap (startupMap.tasks.length + 1) 0 0 state with
    | none => simp [answer] at accepted
    | some outcome => simpa [answer] using accepted

theorem sort_sorted {sortResult : StartupSortResult} (accepted : sort startupMap = .ok sortResult) :
    Sorted startupMap.tasks sortResult := by
  obtain ⟨state, first, ok⟩ := sort_ok accepted
  have start : Sorted [] ({ } : SortState).sortResult := ⟨rfl, fun _ => rfl⟩
  exact sortLoop_sorted (sortZeroDeques_sorted start first) ok

namespace StartupMap

theorem find_name {task : StartupTask} (mem : task ∈ startupMap.tasks) :
    startupMap.find task.name = some task := by
  have general : ∀ list : List StartupTask, (list.map StartupTask.name).Nodup -> task ∈ list ->
      list.find? (fun other => other.name == task.name) = some task := by
    intro list
    induction list with
    | nil => simp
    | cons first rest ih =>
      intro distinct mem
      obtain ⟨absent, distinct⟩ := nodup_cons.mp distinct
      rcases mem_cons.mp mem with rfl | later
      · simp
      · have ne : first.name ≠ task.name := by
          intro same
          exact absent (same ▸ mem_map_of_mem later)
        rw [find?_cons_of_neg (by simpa using ne)]
        exact ih distinct later
  exact general startupMap.tasks startupMap.distinct mem

theorem count_replicate_name {list : List StartupTask} (distinct : (list.map StartupTask.name).Nodup)
    (weight : StartupTask -> Nat) {task : StartupTask} (mem : task ∈ list) :
    (list.flatMap fun other => replicate (weight other) other.name).count task.name =
      weight task := by
  induction list with
  | nil => cases mem
  | cons first rest ih =>
    obtain ⟨absent, distinct⟩ := nodup_cons.mp distinct
    rw [flatMap_cons, count_append]
    rcases mem_cons.mp mem with rfl | later
    · have none : (rest.flatMap fun other => replicate (weight other) other.name).count
          task.name = 0 := by
        refine count_eq_zero.mpr fun found => absent ?_
        obtain ⟨other, there, same⟩ := mem_flatMap.mp found
        rw [eq_of_mem_replicate same]
        exact mem_map_of_mem there
      rw [none, count_replicate_self, Nat.add_zero]
    · have ne : task.name ≠ first.name := by
        intro same
        exact absent (same ▸ mem_map_of_mem later)
      rw [ih distinct later, count_replicate, if_neg (by simpa using Ne.symm ne), Nat.zero_add]

end StartupMap

variable {sortResult : StartupSortResult}

section

variable (sorted : Sorted startupMap.tasks sortResult)
include sorted

theorem Sorted.zeroDeque_nodup :
    sortResult.zeroDequeResult.Nodup := by
  rw [sorted.zeroDeque]
  exact startupMap.distinct.sublist (filter_sublist.map _)

theorem Sorted.zeroDeque_find {name : String} (mem : name ∈ sortResult.zeroDequeResult) :
    ∃ task, startupMap.find name = some task ∧ task.dependencies = [] := by
  rw [sorted.zeroDeque] at mem
  obtain ⟨task, listed, rfl⟩ := mem_map.mp mem
  obtain ⟨there, leaf⟩ := mem_filter.mp listed
  exact ⟨task, StartupMap.find_name there, isEmpty_iff.mp leaf⟩

theorem Sorted.children_count {name : String} {task : StartupTask}
    (found : startupMap.find name = some task) (parent : String) :
    (sortResult.children parent).count name = task.dependencies.count parent := by
  have same : task.name = name := by simpa using find?_some found
  rw [sorted.children parent, <- same]
  exact StartupMap.count_replicate_name startupMap.distinct _ (mem_of_find?_eq_some found)

end

end AbilityRuntime.Startup
