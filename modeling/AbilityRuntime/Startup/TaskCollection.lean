import Mathlib.Algebra.GroupWithZero.Nat
import Mathlib.Algebra.Order.BigOperators.Group.List
import Mathlib.Algebra.Order.Group.Nat
import Mathlib.Order.Bounds.Basic
import AbilityRuntime.Startup.SortOutcome

set_option autoImplicit false

namespace AbilityRuntime.Startup

open StartupMap List Relation

namespace StartupMap

def empty : StartupMap := ⟨[], nodup_nil⟩

-- emplace leaves a task of that name as it is.
def emplace (taskMap : StartupMap) (task : StartupTask) : StartupMap :=
  if absent : task.name ∈ taskMap.names then taskMap
  else
    { tasks := taskMap.tasks ++ [task]
      distinct := by
        rw [map_append, map_singleton]
        exact taskMap.distinct.append (nodup_singleton _) (by simpa [names] using absent) }

end StartupMap

def stdSet (names : List String) : List String := names.dedup.mergeSort (· ≤ ·)

section

variable (allTasks : StartupMap)

def pushMissing (taskMap : StartupMap) (dependencies taskStack : List String) : List String :=
  (dependencies.filter (· ∉ taskMap.names)).reverse ++ taskStack

-- The loop of AddStartupTask: none stands for a loop that still runs when the turns are used up.
def addTurns : Nat -> List String -> StartupMap -> Option (StartupMap × Int)
  | _, [], taskMap => some (taskMap, errOk)
  | 0, _ :: _, _ => none
  | turns + 1, taskName :: taskStack, taskMap =>
    match allTasks.find taskName with
    | none => some (taskMap, errStartupDependencyNotFound)
    | some task =>
      let taskMap := taskMap.emplace task
      addTurns turns (pushMissing taskMap task.dependencies taskStack) taskMap

def addStartupTask (turns : Nat) (name : String) (taskMap : StartupMap) :
    Option (StartupMap × Int) :=
  if name ∈ taskMap.names then some (taskMap, errOk) else addTurns allTasks turns [name] taskMap

end

structure Selection where
  preloadSoTaskName : List String := []
  currentStartupTasks : StartupMap := .empty
  dependencies : List String := []

section

variable (allTasks : StartupMap) (isFeature : StartupTask -> Bool) (supportFeatureModule : Bool)

def selectTasks : List String -> Selection -> Except Int Selection
  | [], selection => .ok selection
  | name :: rest, selection =>
    match allTasks.find name with
    | none =>
      selectTasks rest { selection with preloadSoTaskName := selection.preloadSoTaskName ++ [name] }
    | some task =>
      if !supportFeatureModule && isFeature task then .error errStartupDependencyNotFound
      else
        selectTasks rest
          { selection with
            currentStartupTasks := selection.currentStartupTasks.emplace task
            dependencies := selection.dependencies ++ task.dependencies }

-- The answer of AddStartupTask is not looked at.
def addDependencies (turns : Nat) : List String -> StartupMap -> Option StartupMap
  | [], taskMap => some taskMap
  | dep :: rest, taskMap =>
    if dep ∈ taskMap.names then addDependencies turns rest taskMap
    else do
      let (taskMap, _) <- addStartupTask allTasks turns dep taskMap
      addDependencies turns rest taskMap

/-- The names that BuildAppStartupTaskManager leaves to the preload-so tasks, and the tasks that it
runs. -/
def collectTasks (turns : Nat) (inputDependencies : List String) :
    Except Int (Option (List String × StartupMap)) := do
  let selection <- selectTasks allTasks isFeature supportFeatureModule inputDependencies { }
  return do
    let tasks <- addDependencies allTasks turns (stdSet selection.dependencies)
      selection.currentStartupTasks
    return (selection.preloadSoTaskName, tasks)

end

variable {allTasks taskMap before after : StartupMap} {name : String}

namespace StartupMap

theorem mem_names_emplace (taskMap : StartupMap) (task : StartupTask) :
    name ∈ (taskMap.emplace task).names ↔ name ∈ taskMap.names ∨ name = task.name := by
  rw [emplace]
  split
  next present =>
    constructor
    · exact .inl
    · rintro (inside | rfl)
      · exact inside
      · exact present
  · simp [names]

theorem mem_emplace {taskMap : StartupMap} {task other : StartupTask}
    (member : other ∈ (taskMap.emplace task).tasks) : other ∈ taskMap.tasks ∨ other = task := by
  rw [emplace] at member
  split at member
  · exact .inl member
  · simpa using member

theorem emplace_of_mem {task : StartupTask} (present : task.name ∈ taskMap.names) :
    taskMap.emplace task = taskMap := by
  rw [emplace, dif_pos present]

theorem name_of_find {task : StartupTask} (found : allTasks.find name = some task) :
    task.name = name := by
  simpa using find?_some found

end StartupMap

theorem mem_pushMissing {dependencies taskStack : List String} :
    name ∈ pushMissing taskMap dependencies taskStack ↔
      name ∈ dependencies ∧ name ∉ taskMap.names ∨ name ∈ taskStack := by
  simp [pushMissing]

section Turns

def unexpanded (taskMap : StartupMap) (task : StartupTask) : Nat :=
  if task.name ∈ taskMap.names then 0 else task.dependencies.length

def StartupMap.unexpanded (allTasks taskMap : StartupMap) : Nat :=
  (allTasks.tasks.map (Startup.unexpanded taskMap)).sum

theorem unexpanded_le (task other : StartupTask) :
    unexpanded (taskMap.emplace task) other ≤ unexpanded taskMap other := by
  simp only [unexpanded, mem_names_emplace]
  split
  · exact Nat.zero_le _
  next absent => rw [if_neg fun inside => absent (.inl inside)]

variable {task : StartupTask}

theorem unexpanded_emplace (member : task ∈ allTasks.tasks) (absent : task.name ∉ taskMap.names) :
    allTasks.unexpanded (taskMap.emplace task) + task.dependencies.length ≤
      allTasks.unexpanded taskMap := by
  have general : ∀ tasks : List StartupTask, task ∈ tasks ->
      (tasks.map (unexpanded (taskMap.emplace task))).sum + task.dependencies.length ≤
        (tasks.map (unexpanded taskMap)).sum := by
    intro tasks
    induction tasks with
    | nil => simp
    | cons first rest ih =>
      intro member
      rw [map_cons, map_cons, sum_cons, sum_cons]
      rcases mem_cons.mp member with rfl | later
      · have others : (rest.map (unexpanded (taskMap.emplace task))).sum ≤
            (rest.map (unexpanded taskMap)).sum :=
          sum_le_sum fun other _ => unexpanded_le task other
        have done : unexpanded (taskMap.emplace task) task = 0 :=
          if_pos ((mem_names_emplace taskMap task).mpr (.inr rfl))
        have before : unexpanded taskMap task = task.dependencies.length := if_neg absent
        omega
      · have others := ih later
        have own : unexpanded (taskMap.emplace task) first ≤ unexpanded taskMap first :=
          unexpanded_le task first
        omega
  exact general allTasks.tasks member

/-- Between two turns of AddStartupTask. A name pushed twice pushes nothing. -/
structure Expanding (allTasks before : StartupMap) (start : String) (taskStack : List String)
    (taskMap : StartupMap) : Prop where
  within : ∀ task ∈ taskMap.tasks, task ∈ allTasks.tasks
  kept : ∀ name ∈ before.names, name ∈ taskMap.names
  begun : start ∈ taskMap.names ∨ start ∈ taskStack
  pushed : ∀ name ∈ taskStack, ReflTransGen allTasks.DependsOn start name
  reached : ∀ name ∈ taskMap.names, name ∈ before.names ∨ ReflTransGen allTasks.DependsOn start name
  expanded : ∀ name ∈ taskMap.names, name ∈ before.names ∨ ∀ dependency,
    allTasks.DependsOn name dependency -> dependency ∈ taskMap.names ∨ dependency ∈ taskStack
  lastInFirstOut : ∀ above name below, taskStack = above ++ name :: below ->
    name ∈ taskMap.names -> ∀ dependency, allTasks.DependsOn name dependency ->
      dependency ∈ taskMap.names ∨ dependency ∈ above

variable {start taskName : String} {taskStack : List String}

theorem Expanding.begin (within : ∀ task ∈ before.tasks, task ∈ allTasks.tasks)
    (absent : start ∉ before.names) : Expanding allTasks before start [start] before where
  within := within
  kept := fun _ inside => inside
  begun := .inr mem_cons_self
  pushed := fun name member => by rw [mem_singleton.mp member]
  reached := fun _ inside => .inl inside
  expanded := fun _ inside => .inl inside
  lastInFirstOut := by
    intro above name below split inside
    have member : name ∈ [start] := split ▸ mem_append_right _ mem_cons_self
    exact absurd (mem_singleton.mp member ▸ inside) absent

theorem StartupMap.dependsOn_iff (found : allTasks.find name = some task) {dependency : String} :
    allTasks.DependsOn name dependency ↔ dependency ∈ task.dependencies := by
  constructor
  · rintro ⟨other, same, needed⟩
    rw [found] at same
    cases same
    exact needed
  · exact fun needed => ⟨task, found, needed⟩

theorem Expanding.take (expanding : Expanding allTasks before start (taskName :: taskStack) taskMap)
    (found : allTasks.find taskName = some task) :
    Expanding allTasks before start
      (pushMissing (taskMap.emplace task) task.dependencies taskStack) (taskMap.emplace task) := by
  obtain rfl : task.name = taskName := name_of_find found
  have mem (name : String) : name ∈ (taskMap.emplace task).names ↔
      name ∈ taskMap.names ∨ name = task.name := mem_names_emplace taskMap task
  have grown : ∀ name ∈ taskMap.names, name ∈ (taskMap.emplace task).names :=
    fun name inside => (mem name).mpr (.inl inside)
  have own : task.name ∈ (taskMap.emplace task).names := (mem _).mpr (.inr rfl)
  have startReaches := expanding.pushed task.name mem_cons_self
  have pushedOwn {dependency : String} (needed : allTasks.DependsOn task.name dependency) :
      dependency ∈ (taskMap.emplace task).names ∨
        dependency ∈ task.dependencies.filter (· ∉ (taskMap.emplace task).names) := by
    by_cases inside : dependency ∈ (taskMap.emplace task).names
    · exact .inl inside
    · exact .inr (mem_filter.mpr ⟨(dependsOn_iff found).mp needed, decide_eq_true inside⟩)
  constructor
  case within =>
    intro other member
    rcases mem_emplace member with inside | rfl
    · exact expanding.within other inside
    · exact mem_of_find?_eq_some found
  case kept => exact fun name inside => grown name (expanding.kept name inside)
  case begun =>
    rcases expanding.begun with inside | waiting
    · exact .inl (grown _ inside)
    · rcases mem_cons.mp waiting with rfl | later
      · exact .inl own
      · exact .inr (mem_pushMissing.mpr (.inr later))
  case pushed =>
    intro name member
    rcases mem_pushMissing.mp member with ⟨needed, -⟩ | later
    · exact startReaches.tail ((dependsOn_iff found).mpr needed)
    · exact expanding.pushed name (mem_cons_of_mem _ later)
  case reached =>
    intro name inside
    rcases (mem name).mp inside with earlier | rfl
    · exact expanding.reached name earlier
    · exact .inr startReaches
  case expanded =>
    intro name inside
    rcases (mem name).mp inside with earlier | rfl
    · refine (expanding.expanded name earlier).imp_right fun expanded dependency needed => ?_
      rcases expanded dependency needed with present | waiting
      · exact .inl (grown _ present)
      · rcases mem_cons.mp waiting with rfl | later
        · exact .inl own
        · exact .inr (mem_pushMissing.mpr (.inr later))
    · refine .inr fun dependency needed => (pushedOwn needed).imp_right fun pushed => ?_
      exact mem_append_left _ (mem_reverse.mpr pushed)
  case lastInFirstOut =>
    intro above name below split inside dependency needed
    have old : ∃ between, above = (task.dependencies.filter
        (· ∉ (taskMap.emplace task).names)).reverse ++ between ∧
          taskStack = between ++ name :: below := by
      rcases append_eq_append_iff.mp split with old | ⟨left, pushed, rest⟩
      · exact old
      · cases left with
        | nil => exact ⟨[], by simpa using pushed.symm, rest.symm⟩
        | cons first left =>
          obtain ⟨rfl, -⟩ := cons.inj rest
          have new : name ∈ task.dependencies.filter (· ∉ (taskMap.emplace task).names) :=
            mem_reverse.mp (pushed ▸ mem_append_right _ mem_cons_self)
          exact absurd inside (of_decide_eq_true (mem_filter.mp new).2)
    obtain ⟨between, rfl, rest⟩ := old
    rcases (mem name).mp inside with earlier | rfl
    · have waits := expanding.lastInFirstOut (task.name :: between) name below
        (by rw [rest]; rfl) earlier dependency needed
      rcases waits with present | waiting
      · exact .inl (grown _ present)
      · rcases mem_cons.mp waiting with rfl | later
        · exact .inl own
        · exact .inr (mem_append_right _ later)
    · exact (pushedOwn needed).imp_right fun pushed =>
        mem_append_left _ (mem_reverse.mpr pushed)

theorem Expanding.shrinks
    (expanding : Expanding allTasks before start (taskName :: taskStack) taskMap)
    (found : allTasks.find taskName = some task) :
    (pushMissing (taskMap.emplace task) task.dependencies taskStack).length +
        allTasks.unexpanded (taskMap.emplace task) <
      (taskName :: taskStack).length + allTasks.unexpanded taskMap := by
  obtain rfl : task.name = taskName := name_of_find found
  rw [pushMissing, length_append, length_reverse, length_cons]
  by_cases inside : task.name ∈ taskMap.names
  · have none : task.dependencies.filter (· ∉ taskMap.names) = [] := by
      rw [filter_eq_nil_iff]
      intro dependency needed
      have present := expanding.lastInFirstOut [] task.name taskStack rfl inside dependency
        ((dependsOn_iff found).mpr needed)
      simpa using present
    rw [emplace_of_mem inside, none, length_nil]
    omega
  · have less := unexpanded_emplace (mem_of_find?_eq_some found) inside
    have pushed := length_filter_le (· ∉ (taskMap.emplace task).names) task.dependencies
    omega

theorem addTurns_ends (turns : Nat) (expanding : Expanding allTasks before start taskStack taskMap)
    (enough : taskStack.length + allTasks.unexpanded taskMap ≤ turns) :
    ∃ after code left, addTurns allTasks turns taskStack taskMap = some (after, code) ∧
      Expanding allTasks before start left after ∧
      (left = [] ∨ ∃ missing ∈ left, missing ∉ allTasks.names) := by
  induction turns generalizing taskStack taskMap with
  | zero =>
    have empty : taskStack = [] := length_eq_zero_iff.mp (by omega)
    subst empty
    exact ⟨taskMap, errOk, [], by rw [addTurns], expanding, .inl rfl⟩
  | succ turns ih =>
    cases taskStack with
    | nil => exact ⟨taskMap, errOk, [], by rw [addTurns], expanding, .inl rfl⟩
    | cons taskName taskStack =>
      rw [addTurns]
      cases found : allTasks.find taskName with
      | none =>
        refine ⟨taskMap, errStartupDependencyNotFound, taskName :: taskStack, rfl, expanding, .inr
          ⟨taskName, mem_cons_self, fun known => ?_⟩⟩
        obtain ⟨task, other⟩ := find_of_mem known
        rw [found] at other
        cases other
      | some task =>
        have less := expanding.shrinks found
        exact ih (expanding.take found) (by omega)

end Turns

namespace StartupMap

def Reaches (allTasks : StartupMap) (selected : Set String) (name : String) : Prop :=
  ∃ start ∈ selected, ReflTransGen allTasks.DependsOn start name

structure Closed (allTasks : StartupMap) (selected names : Set String) : Prop where
  selection : ∀ name ∈ selected, name ∈ names
  dependencies : ∀ name ∈ names, ∀ dependency, allTasks.DependsOn name dependency ->
    dependency ∈ names

theorem Closed.reaches {selected names : Set String} (closed : allTasks.Closed selected names)
    (needed : allTasks.Reaches selected name) : name ∈ names := by
  obtain ⟨start, member, path⟩ := needed
  induction path with
  | refl => exact closed.selection start member
  | tail _ edge ih => exact closed.dependencies _ ih _ edge

theorem dependsOn_of_within (within : ∀ task ∈ taskMap.tasks, task ∈ allTasks.tasks)
    (inside : name ∈ taskMap.names) {dependency : String} :
    taskMap.DependsOn name dependency ↔ allTasks.DependsOn name dependency := by
  obtain ⟨task, member, rfl⟩ := mem_map.mp inside
  rw [dependsOn_iff (find_name member), dependsOn_iff (find_name (within task member))]

end StartupMap

section Gathering

variable {selected : StartupMap} {turns : Nat}

/-- Between two calls of AddStartupTask. -/
structure Gathering (allTasks selected taskMap : StartupMap) : Prop where
  within : ∀ task ∈ taskMap.tasks, task ∈ allTasks.tasks
  kept : ∀ name ∈ selected.names, name ∈ taskMap.names
  reached : ∀ name ∈ taskMap.names, allTasks.Reaches {name | name ∈ selected.names} name
  expanded : (∀ name, allTasks.Reaches {name | name ∈ selected.names} name -> name ∈ allTasks.names) ->
    ∀ name ∈ taskMap.names, name ∈ selected.names ∨ ∀ dependency,
      allTasks.DependsOn name dependency -> dependency ∈ taskMap.names

theorem unexpanded_le_sum (allTasks taskMap : StartupMap) :
    allTasks.unexpanded taskMap ≤ (allTasks.tasks.map (·.dependencies.length)).sum := by
  refine sum_le_sum fun task _ => ?_
  rw [unexpanded]
  split
  · exact Nat.zero_le _
  · exact le_refl _

theorem Gathering.addStartupTask (gathering : Gathering allTasks selected taskMap)
    (needed : allTasks.Reaches {name | name ∈ selected.names} name)
    (enough : (allTasks.tasks.map (·.dependencies.length)).sum < turns) :
    ∃ after code, addStartupTask allTasks turns name taskMap = some (after, code) ∧
      Gathering allTasks selected after ∧ (∀ other ∈ taskMap.names, other ∈ after.names) ∧
      ((∀ other, allTasks.Reaches {name | name ∈ selected.names} other -> other ∈ allTasks.names) ->
        name ∈ after.names) := by
  rw [Startup.addStartupTask]
  by_cases inside : name ∈ taskMap.names
  · exact ⟨taskMap, errOk, if_pos inside, gathering, fun _ member => member, fun _ => inside⟩
  · have bound := unexpanded_le_sum allTasks taskMap
    obtain ⟨after, code, left, ends, expanding, stopped⟩ :=
      addTurns_ends turns (.begin gathering.within inside) (by rw [length_singleton]; omega)
    have reached (other : String) (path : ReflTransGen allTasks.DependsOn name other) :
        allTasks.Reaches {name | name ∈ selected.names} other := by
      obtain ⟨start, member, first⟩ := needed
      exact ⟨start, member, first.trans path⟩
    have empty (registered : ∀ other, allTasks.Reaches {name | name ∈ selected.names} other ->
        other ∈ allTasks.names) : left = [] := by
      rcases stopped with empty | ⟨missing, waiting, unknown⟩
      · exact empty
      · exact absurd (registered _ (reached missing (expanding.pushed missing waiting))) unknown
    refine ⟨after, code, by rw [if_neg inside, ends], ⟨expanding.within, ?_, ?_, ?_⟩,
      expanding.kept, ?_⟩
    · exact fun other member => expanding.kept other (gathering.kept other member)
    · intro other member
      rcases expanding.reached other member with earlier | path
      · exact gathering.reached other earlier
      · exact reached other path
    · intro registered other member
      rcases expanding.expanded other member with earlier | expanded
      · refine (gathering.expanded registered other earlier).imp_right ?_
        exact fun expanded dependency edge => expanding.kept dependency (expanded dependency edge)
      · refine .inr fun dependency edge => (expanded dependency edge).resolve_right ?_
        simp [empty registered]
    · intro registered
      refine expanding.begun.resolve_right ?_
      simp [empty registered]

theorem Gathering.addDependencies {dependencies : List String}
    (gathering : Gathering allTasks selected taskMap)
    (needed : ∀ dep ∈ dependencies, allTasks.Reaches {name | name ∈ selected.names} dep)
    (enough : (allTasks.tasks.map (·.dependencies.length)).sum < turns) :
    ∃ after, addDependencies allTasks turns dependencies taskMap = some after ∧
      Gathering allTasks selected after ∧ (∀ other ∈ taskMap.names, other ∈ after.names) ∧
      ((∀ other, allTasks.Reaches {name | name ∈ selected.names} other -> other ∈ allTasks.names) ->
        ∀ dep ∈ dependencies, dep ∈ after.names) := by
  induction dependencies generalizing taskMap with
  | nil => exact ⟨taskMap, rfl, gathering, fun _ member => member, fun _ _ member => by cases member⟩
  | cons dep rest ih =>
    have needsRest : ∀ other ∈ rest, allTasks.Reaches {name | name ∈ selected.names} other :=
      fun other member => needed other (mem_cons_of_mem _ member)
    rw [addDependencies]
    by_cases inside : dep ∈ taskMap.names
    · obtain ⟨after, added, gathered, kept, present⟩ := ih gathering needsRest
      refine ⟨after, by rw [if_pos inside, added], gathered, kept, fun registered => ?_⟩
      exact forall_mem_cons.mpr ⟨kept dep inside, present registered⟩
    · obtain ⟨between, code, first, between', keptFirst, own⟩ :=
        gathering.addStartupTask (needed dep mem_cons_self) enough
      obtain ⟨after, added, gathered, kept, present⟩ := ih between' needsRest
      refine ⟨after, by simp [inside, first, added], gathered,
        fun other member => kept other (keptFirst other member), fun registered => ?_⟩
      exact forall_mem_cons.mpr ⟨kept dep (own registered), present registered⟩

end Gathering

section Selecting

variable {isFeature : StartupTask -> Bool} {supportFeatureModule : Bool}

structure Selected (allTasks : StartupMap) (inputs : List String) (selection : Selection) : Prop where
  preload : selection.preloadSoTaskName = inputs.filter (· ∉ allTasks.names)
  within : ∀ task ∈ selection.currentStartupTasks.tasks, task ∈ allTasks.tasks
  names : ∀ name, name ∈ selection.currentStartupTasks.names ↔ name ∈ inputs ∧ name ∈ allTasks.names
  dependencies : ∀ dep ∈ selection.dependencies, ∃ name ∈ inputs, allTasks.DependsOn name dep
  all : ∀ name ∈ inputs, ∀ dep, allTasks.DependsOn name dep -> dep ∈ selection.dependencies

variable {done : List String} {selection : Selection}

theorem Selected.skip (selected : Selected allTasks done selection)
    (unknown : name ∉ allTasks.names) :
    Selected allTasks (done ++ [name])
      { selection with preloadSoTaskName := selection.preloadSoTaskName ++ [name] } where
  preload := by
    rw [filter_append, selected.preload]
    simp [unknown]
  within := selected.within
  names other := by
    rw [selected.names, mem_append, mem_singleton]
    constructor
    · exact fun ⟨member, known⟩ => ⟨.inl member, known⟩
    · rintro ⟨member | rfl, known⟩
      · exact ⟨member, known⟩
      · exact absurd known unknown
  dependencies dep member := by
    obtain ⟨other, inside, needed⟩ := selected.dependencies dep member
    exact ⟨other, mem_append_left _ inside, needed⟩
  all other member dep needed := by
    rcases mem_append.mp member with inside | last
    · exact selected.all other inside dep needed
    · obtain ⟨task, found, _⟩ := needed
      exact absurd (mem_names found) (mem_singleton.mp last ▸ unknown)

theorem Selected.take (selected : Selected allTasks done selection) {task : StartupTask}
    (found : allTasks.find name = some task) :
    Selected allTasks (done ++ [name])
      { selection with
        currentStartupTasks := selection.currentStartupTasks.emplace task
        dependencies := selection.dependencies ++ task.dependencies } where
  preload := by
    rw [filter_append, selected.preload]
    simp [mem_names found]
  within other member := by
    rcases mem_emplace member with inside | rfl
    · exact selected.within other inside
    · exact mem_of_find?_eq_some found
  names other := by
    rw [mem_names_emplace, selected.names, name_of_find found, mem_append, mem_singleton]
    constructor
    · rintro (⟨member, known⟩ | rfl)
      · exact ⟨.inl member, known⟩
      · exact ⟨.inr rfl, mem_names found⟩
    · exact fun ⟨member, known⟩ => member.imp_left fun inside => ⟨inside, known⟩
  dependencies dep member := by
    rcases mem_append.mp member with earlier | own
    · obtain ⟨other, inside, needed⟩ := selected.dependencies dep earlier
      exact ⟨other, mem_append_left _ inside, needed⟩
    · exact ⟨name, by simp, task, found, own⟩
  all other member dep needed := by
    rcases mem_append.mp member with inside | last
    · exact mem_append_left _ (selected.all other inside dep needed)
    · rw [mem_singleton.mp last] at needed
      exact mem_append_right _ ((dependsOn_iff found).mp needed)

theorem selectTasks_selected (isFeature : StartupTask -> Bool) (supportFeatureModule : Bool)
    (inputs : List String) (selected : Selected allTasks done selection) :
    match selectTasks allTasks isFeature supportFeatureModule inputs selection with
    | .ok after => Selected allTasks (done ++ inputs) after
    | .error code => code = errStartupDependencyNotFound ∧ supportFeatureModule = false ∧
        ∃ name ∈ inputs, ∃ task, allTasks.find name = some task ∧ isFeature task = true := by
  induction inputs generalizing done selection with
  | nil => simpa [selectTasks] using selected
  | cons name rest ih =>
    have carried {selection : Selection} (next : Selected allTasks (done ++ [name]) selection) :
        match selectTasks allTasks isFeature supportFeatureModule rest selection with
        | .ok after => Selected allTasks (done ++ name :: rest) after
        | .error code => code = errStartupDependencyNotFound ∧ supportFeatureModule = false ∧
            ∃ other ∈ name :: rest, ∃ task, allTasks.find other = some task ∧
              isFeature task = true := by
      have later := ih next
      split at later
      · simpa using later
      · obtain ⟨code, unsupported, other, member, feature⟩ := later
        exact ⟨code, unsupported, other, mem_cons_of_mem _ member, feature⟩
    rw [selectTasks]
    cases found : allTasks.find name with
    | none =>
      refine carried (selected.skip fun known => ?_)
      obtain ⟨task, other⟩ := find_of_mem known
      rw [found] at other
      cases other
    | some task =>
      dsimp only
      by_cases refused : (!supportFeatureModule && isFeature task) = true
      · rw [if_pos refused]
        rw [Bool.and_eq_true, Bool.not_eq_true'] at refused
        exact ⟨rfl, refused.1, name, mem_cons_self, task, found, refused.2⟩
      · rw [if_neg refused]
        exact carried (selected.take found)

end Selecting

theorem mem_stdSet {names : List String} : name ∈ stdSet names ↔ name ∈ names := by
  rw [stdSet, mem_mergeSort, mem_dedup]

/-- Collecting ends with the least closed set, or with a set that Sort refuses. -/
theorem collectTasks_outcome (allTasks : StartupMap) (isFeature : StartupTask -> Bool)
    (supportFeatureModule : Bool) (inputDependencies : List String) :
    let selected : Set String := {name | name ∈ inputDependencies ∧ name ∈ allTasks.names}
    ∃ turns, match collectTasks allTasks isFeature supportFeatureModule turns inputDependencies with
      | .error code => code = errStartupDependencyNotFound ∧ supportFeatureModule = false ∧
          ∃ name ∈ inputDependencies, ∃ task, allTasks.find name = some task ∧ isFeature task = true
      | .ok none => False
      | .ok (some (preloadSoTaskName, tasks)) =>
        preloadSoTaskName = inputDependencies.filter (· ∉ allTasks.names) ∧
        (∀ task ∈ tasks.tasks, task ∈ allTasks.tasks) ∧ tasks.names.Nodup ∧
        ((∀ name, allTasks.Reaches selected name -> name ∈ allTasks.names) ->
          IsLeast {names | allTasks.Closed selected names} {name | name ∈ tasks.names}) ∧
        ((∃ name, allTasks.Reaches selected name ∧ name ∉ allTasks.names) ->
          sort tasks = .error errStartupDependencyNotFound) := by
  intro selected
  refine ⟨(allTasks.tasks.map (·.dependencies.length)).sum + 1, ?_⟩
  rw [collectTasks]
  have start : Selected allTasks [] { } := by
    constructor <;> simp [empty, names]
  have select := selectTasks_selected isFeature supportFeatureModule inputDependencies start
  cases chosen : selectTasks allTasks isFeature supportFeatureModule inputDependencies { } with
  | error code =>
    rw [chosen] at select
    exact select
  | ok selection =>
    rw [chosen, nil_append] at select
    have same : {name | name ∈ selection.currentStartupTasks.names} = selected :=
      Set.ext select.names
    have gathering : Gathering allTasks selection.currentStartupTasks
        selection.currentStartupTasks :=
      ⟨select.within, fun _ inside => inside, fun name inside => ⟨name, inside, .refl⟩,
        fun _ _ inside => .inl inside⟩
    have needed : ∀ dep ∈ stdSet selection.dependencies,
        allTasks.Reaches {name | name ∈ selection.currentStartupTasks.names} dep := by
      intro dep member
      obtain ⟨name, inside, edge⟩ := select.dependencies dep (mem_stdSet.mp member)
      have known : name ∈ allTasks.names := by
        obtain ⟨task, found, _⟩ := edge
        exact mem_names found
      exact ⟨name, (select.names name).mpr ⟨inside, known⟩, .single edge⟩
    obtain ⟨tasks, added, gathered, -, present⟩ :=
      gathering.addDependencies needed (Nat.lt_succ_self _)
    rw [same] at present
    have reached := gathered.reached
    have expanded := gathered.expanded
    rw [same] at reached expanded
    dsimp only [bind, Except.bind, pure, Except.pure, Option.bind]
    rw [added]
    refine ⟨select.preload, gathered.within, tasks.distinct, fun registered => ⟨?_, ?_⟩, ?_⟩
    · constructor
      · exact fun name member => gathered.kept name ((select.names name).mpr member)
      · intro name inside dependency edge
        rcases expanded registered name inside with own | closed
        · exact present registered dependency (mem_stdSet.mpr
            (select.all name ((select.names name).mp own).1 dependency edge))
        · exact closed dependency edge
    · exact fun names closed name inside => closed.reaches (reached name inside)
    · rintro ⟨missing, path, unknown⟩
      refine (sort_missing (fun complete => unknown ?_) 0).2
      have closed : allTasks.Closed selected {name | name ∈ tasks.names} := by
        constructor
        · exact fun name member => gathered.kept name ((select.names name).mpr member)
        · intro name inside dependency edge
          exact complete name dependency ((dependsOn_of_within gathered.within inside).mpr edge)
      obtain ⟨task, member, rfl⟩ := mem_map.mp (closed.reaches path)
      exact mem_map_of_mem (gathered.within task member)

end AbilityRuntime.Startup
