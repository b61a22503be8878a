import AbilityRuntime.Startup.DispatcherInvariant

set_option autoImplicit false

namespace AbilityRuntime.Startup.Dispatcher

open Startup.Frame List
variable {tasks : StartupMap} {sortResult : StartupSortResult} {disp : Dispatcher}

theorem exists_flatten_perm {α : Type} {threads : List (List α)} {index : Nat} {below : List α}
    (top : List α) (found : threads[index]? = some (top ++ below)) :
    ∃ others, threads.flatten.Perm (top ++ others) ∧
      ∀ next, (threads.set index (next ++ below)).flatten.Perm (next ++ others) := by
  induction threads generalizing index with
  | nil => cases found
  | cons thread rest ih =>
    cases index with
    | zero =>
      obtain rfl : thread = top ++ below := Option.some.inj found
      exact ⟨below ++ rest.flatten, by simp, by simp⟩
    | succ index =>
      obtain ⟨others, before, after⟩ := ih found
      refine ⟨thread ++ others, ?_, fun next => ?_⟩
      · exact (before.append_left thread).trans (perm_append_comm_assoc thread top others)
      · exact ((after next).append_left thread).trans (perm_append_comm_assoc thread next others)

@[simp] theorem saveResult_threads (name : String) (result : Option StartupTaskResult) :
    (disp.saveResult name result).threads = disp.threads := by
  cases result <;> rfl

@[simp] theorem runTaskInit_threads (name : String) (answer : InitAnswer) :
    (disp.runTaskInit name answer).1.threads = disp.threads := by
  unfold runTaskInit
  cases disp.taskState name <;> cases answer.reply <;> simp

@[simp] theorem startNext_threads (name : String) (answer : InitAnswer) (rest : Frame) :
    (disp.startNext name answer rest).1.threads = disp.threads := by
  unfold startNext
  split
  · rfl
  · simp

theorem stepFrame_threads (answer : InitAnswer) (frame : Frame) :
    (disp.stepFrame tasks sortResult answer frame).1.threads = disp.threads := by
  unfold stepFrame
  split
  · rfl
  · split <;> simp
  · unfold dispatch; (repeat' split) <;> rfl
  · rfl
  · unfold notifyChild; (repeat' split) <;> rfl
  · rfl
  · simp
  · unfold countAwait; simp only; split <;> rfl
  · rfl

theorem Invariant.rethread {frames : List Frame} (inv : Invariant tasks sortResult disp frames)
    {threads : List (List Frame)} (same : frames.Perm threads.flatten) :
    Invariant tasks sortResult { disp with threads := threads } threads.flatten :=
  { inv.perm same with }

theorem advance_eq {thread : Nat} {frame : Frame} {below : List Frame}
    (found : disp.threads[thread]? = some (frame :: below)) (answer : InitAnswer) :
    disp.advance tasks sortResult thread answer =
      { (disp.stepFrame tasks sortResult answer frame).1 with
        threads := disp.threads.set thread
          ((disp.stepFrame tasks sortResult answer frame).2 ++ below) } := by
  simp [advance, found, stepFrame_threads]

theorem advance_invariant (inv : Invariant tasks sortResult disp disp.threads.flatten) (thread : Nat)
    (answer : InitAnswer) :
    Invariant tasks sortResult (disp.advance tasks sortResult thread answer)
      (disp.advance tasks sortResult thread answer).threads.flatten := by
  cases found : disp.threads[thread]? with
  | none => simpa only [advance, found] using inv
  | some frames =>
    cases frames with
    | nil => simpa only [advance, found] using inv
    | cons frame below =>
      obtain ⟨others, before, after⟩ := exists_flatten_perm [frame] found
      rw [advance_eq found]
      exact (stepFrame_invariant (inv.perm before) answer).rethread (after _).symm

theorem Invariant.push {frame : Frame}
    (inv : Invariant tasks sortResult disp (frame :: disp.threads.flatten)) (thread : Nat) :
    let pushed := match disp.threads[thread]? with
      | none => { disp with threads := disp.threads ++ [[frame]] }
      | some below => { disp with threads := disp.threads.set thread (frame :: below) }
    Invariant tasks sortResult pushed pushed.threads.flatten := by
  split
  · apply inv.rethread
    simpa using (perm_append_singleton frame disp.threads.flatten).symm
  next below found =>
    obtain ⟨others, before, after⟩ := exists_flatten_perm [] found
    exact inv.rethread ((before.cons frame).trans (after [frame]).symm)

theorem arrive_invariant (inv : Invariant tasks sortResult disp disp.threads.flatten)
    (thread callback : Nat) (result : Option StartupTaskResult) :
    Invariant tasks sortResult (disp.arrive thread callback result)
      (disp.arrive thread callback result).threads.flatten := by
  unfold arrive
  split
  · exact inv
  next waiting found =>
    refine Invariant.push ?_ thread
    have taken := inv.unkeep found result
    split
    · rw [saveResult_threads]
      exact taken.saveResult waiting.name result
    · exact taken

theorem step_invariant (inv : Invariant tasks sortResult disp disp.threads.flatten) (action : Action) :
    Invariant tasks sortResult (disp.step tasks sortResult action)
      (disp.step tasks sortResult action).threads.flatten := by
  cases action with
  | advance thread answer => exact advance_invariant inv thread answer
  | arrive thread callback result => exact arrive_invariant inv thread callback result
  | timeoutStop => exact { inv with }
  | runPosted index =>
    simp only [step]
    split
    · exact inv
    next result _ => exact { inv with awaitCallback := inv.awaitCalled result }
  | changeTask name state result => exact inv.changeTask _ _

theorem run_start_invariant (sorted : Sorted tasks.tasks sortResult)
    (completedCallback mainThreadAwaitCallback : Option Bool) (taskState : String -> TaskState)
    (taskResult : String -> Option StartupTaskResult) :
    let disp := run tasks sortResult completedCallback mainThreadAwaitCallback taskState taskResult
    Invariant tasks sortResult disp disp.threads.flatten := by
  have unused (callbackFunc : Bool) : ({ callbackFunc } : OnCompletedCallback).Fits := by
    simp [OnCompletedCallback.Fits]
  have distinct (name : String) : sortResult.zeroDequeResult.count name ≤ 1 :=
    nodup_iff_count_le_one.mp sorted.zeroDeque_nodup name
  constructor
  case once => simpa [run, Frame.queued, dispatching] using distinct
  case startedOnce => simpa [run, Frame.queued] using distinct
  case released =>
    intro name present
    have queued : 0 < sortResult.zeroDequeResult.count name := by
      simpa [run, Frame.queued, dispatching] using present
    obtain ⟨task, found, leaf⟩ := sorted.zeroDeque_find (count_pos_iff.mp queued)
    exact ⟨task, found, leaf ▸ List.Perm.nil⟩
  case degree => simp [run]
  case budget =>
    intro name task found parent
    simp [run, owed, sorted.children_count found parent]
  case notified => simp [run]
  case workedOnce => simp [run, working]
  case worked => simp [run, working]
  case succeeded => simp [run, Frame.Succeeded]
  case tasksCount => simp [run]
  case awaitCount => simp [run, settling]
  case completedCallback =>
    intro callback present
    obtain ⟨callbackFunc, -, rfl⟩ := Option.map_eq_some_iff.mp present
    exact ⟨unused callbackFunc, by simp⟩
  case awaitCallback =>
    intro callback present
    simp only [run, Option.map_map] at present
    split at present
    · obtain ⟨callbackFunc, -, rfl⟩ := Option.map_eq_some_iff.mp present
      exact (unused callbackFunc).call { }
    · obtain ⟨callbackFunc, -, rfl⟩ := Option.map_eq_some_iff.mp present
      exact unused callbackFunc

structure Orderly (tasks : StartupMap) (disp : Dispatcher) : Prop where
  startedOnce : disp.history.started.Nodup
  dependenciesFirst : ∀ name ∈ disp.history.started, ∃ task, tasks.find name = some task ∧
    ∀ dependency ∈ task.dependencies, dependency ∈ disp.history.completed
  completedLast : ∀ callback, disp.completedCallback = some callback ->
    ∀ result ∈ callback.calledWith, result.resultCode = errOk ->
      ∀ name ∈ tasks.names, name ∈ disp.history.completed
  completedOnce : ∀ callback, disp.completedCallback = some callback -> callback.calledWith.length ≤ 1
  awaitOnce : ∀ callback, disp.mainThreadAwaitCallback = some callback ->
    callback.calledWith.length ≤ 1
  tasksCount : 0 ≤ disp.tasksCount
  awaitCount : 0 ≤ disp.mainThreadAwaitCount
  inDegree : ∀ name degree, disp.inDegreeMap name = some degree -> 0 ≤ degree

theorem tally_settling_le (frames : List Frame) (name : String) :
    tally settling frames name ≤ tally working frames name := by
  induction frames with
  | nil => exact Nat.le_refl 0
  | cons frame rest ih =>
    rw [tally_cons, tally_cons]
    cases frame <;> simp only [settling, working, count_nil] <;> omega

variable {frames : List Frame}

theorem Invariant.settling_subperm (inv : Invariant tasks sortResult disp frames) :
    (frames.flatMap settling ++ disp.history.settled).Subperm tasks.names := by
  have counted (name : String) :
      (frames.flatMap settling ++ disp.history.settled).count name ≤
        tally working frames name + disp.history.settled.count name := by
    have := tally_settling_le frames name
    rw [count_append]
    exact Nat.add_le_add_right this _
  have distinct : (frames.flatMap settling ++ disp.history.settled).Nodup :=
    nodup_iff_count_le_one.mpr fun name => Nat.le_trans (counted name) (inv.workedOnce name)
  refine subperm_of_subset distinct fun name mem => ?_
  have positive := Nat.lt_of_lt_of_le (count_pos_iff.mpr mem) (counted name)
  exact (inv.worked name positive).2.2

theorem names_filter_waits (tasks : StartupMap) :
    tasks.names.filter (waits tasks) =
      (tasks.tasks.filter fun task => task.waitOnMainThread).map StartupTask.name := by
  rw [StartupMap.names, filter_map]
  congr 1
  refine filter_congr fun task mem => ?_
  simp [waits, StartupMap.find_name mem]

theorem Invariant.orderly (inv : Invariant tasks sortResult disp frames) : Orderly tasks disp where
  startedOnce := nodup_iff_count_le_one.mpr fun name => by
    have := inv.startedOnce name
    omega
  dependenciesFirst := fun name mem => by
    have started := count_pos_iff.mpr mem
    obtain ⟨task, found, complete⟩ := inv.released name (by omega)
    refine ⟨task, found, fun dependency needed => ?_⟩
    exact inv.notified name dependency (complete.mem_iff.mpr needed)
  completedLast := fun callback present => (inv.completedCallback callback present).2
  completedOnce := fun callback present => (inv.completedCallback callback present).1.1
  awaitOnce := fun callback present => (inv.awaitCallback callback present).1
  tasksCount := by
    have fewer := inv.settling_subperm.length_le
    rw [length_append, StartupMap.names, length_map] at fewer
    rw [inv.tasksCount]
    omega
  awaitCount := by
    have fewer := (inv.settling_subperm.filter (waits tasks)).length_le
    rw [names_filter_waits, length_map] at fewer
    rw [inv.awaitCount]
    omega
  inDegree := fun name degree lookup => by
    rw [inv.degree name] at lookup
    obtain ⟨task, found, rfl⟩ := Option.map_eq_some_iff.mp lookup
    have lowered : (disp.history.notified name).Subperm task.dependencies :=
      subperm_ext_iff.mpr fun parent _ => by
        have := inv.budget name task found parent
        omega
    have := lowered.length_le
    omega

variable (completedCallback mainThreadAwaitCallback : Option Bool) (taskState : String -> TaskState)
  (taskResult : String -> Option StartupTaskResult) (actions : List Action)

theorem dispatcher_invariant (sorted : Sorted tasks.tasks sortResult) :
    let disp := (dispatcher tasks sortResult completedCallback mainThreadAwaitCallback taskState
      taskResult).run actions
    Invariant tasks sortResult disp disp.threads.flatten :=
  Library.Machine.run_invariant (fun disp => Invariant tasks sortResult disp disp.threads.flatten)
    (run_start_invariant sorted completedCallback mainThreadAwaitCallback taskState taskResult)
    (fun _ action before => step_invariant before action) actions

theorem dispatcher_orderly (accepted : sort tasks = .ok sortResult) :
    (dispatcher tasks sortResult completedCallback mainThreadAwaitCallback taskState
      taskResult).Throughout actions (Orderly tasks) := by
  intro done rest _
  exact (dispatcher_invariant _ _ _ _ done (sort_sorted accepted)).orderly

def loggerFirst : StartupMap where
  tasks := [{ name := "logger" }, { name := "network", dependencies := ["logger"] }]
  distinct := by decide

def loggerFirstSorted : StartupSortResult where
  startupChildrenMap :=
    Function.update
      (Function.update
        (Function.update (fun _ => none) "logger" (some ["network"])) "logger" (some ["network"]))
      "network" (some [])
  zeroDequeResult := ["logger"]

def loggerFirstActions : List Action :=
  [.advance 0 ⟨.later, errOk⟩, .arrive 1 0 (some { })] ++
    List.replicate 12 (.advance 1 ⟨.now (some { }), errOk⟩)

theorem dispatcher_orderly_loggerFirst :
    sort loggerFirst = .ok loggerFirstSorted ∧
      (dispatcher loggerFirst loggerFirstSorted (some true) (some true) (fun _ => .created)
        fun _ => none).Throughout loggerFirstActions (Orderly loggerFirst) ∧
      ((dispatcher loggerFirst loggerFirstSorted (some true) (some true) (fun _ => .created)
        fun _ => none).run loggerFirstActions).completedCallback =
          some { callbackFunc := true, isCalled := true, calledWith := [{ }] } :=
  ⟨rfl, dispatcher_orderly _ _ _ _ _ rfl, by decide⟩

end AbilityRuntime.Startup.Dispatcher
