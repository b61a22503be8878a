import AbilityRuntime.Startup.DispatcherProgress

set_option autoImplicit false

namespace AbilityRuntime.Startup

open StartupTaskManager Startup.Frame List Option Dispatcher ManagerRun

def Frame.isRun : Frame -> Bool
  | .run _ => true
  | .dispatch _ _ | .notify _ _ _ _ | .start _ _ _ | .await _ _ | .settle _ _ => false

namespace Dispatcher

variable {tasks : StartupMap} {sortResult : StartupSortResult} {disp : Dispatcher}
  {frames others : List Frame} {failures : List (String × StartupTaskResult)}

def Known (tasks : StartupMap) (frames : List Frame) : Prop :=
  ∀ frame ∈ frames, ∀ child ∈ frame.untold, ∃ task, tasks.find child = some task

theorem runTaskInit_frames (name : String) (answer : InitAnswer) :
    ∀ frame ∈ (disp.runTaskInit name answer).2.1, ∃ result, frame = .dispatch name result := by
  unfold runTaskInit
  split
  · split <;> simp
  · simp
  · simp
  · simp

theorem startNext_frames {name : String} {answer : InitAnswer} {rest frame : Frame}
    (mem : frame ∈ (disp.startNext name answer rest).2) :
    (∃ result, frame = .dispatch name result) ∨ frame = rest := by
  unfold startNext at mem
  split at mem
  · cases mem
  · rcases mem_append.mp mem with inner | outer
    · exact .inl (runTaskInit_frames name answer frame inner)
    · split at outer
      · exact .inr (mem_singleton.mp outer)
      · cases outer

theorem startNext_known {name : String} {answer : InitAnswer} {rest : Frame} (none : rest.untold = []) :
    Known tasks (disp.startNext name answer rest).2 := by
  intro frame mem child told
  rcases startNext_frames mem with ⟨result, rfl⟩ | rfl
  · cases told
  · rw [none] at told; cases told

theorem stepFrame_known (sorted : Sorted tasks.tasks sortResult) {frame : Frame}
    (known : Known tasks (frame :: others)) (answer : InitAnswer) :
    Known tasks ((disp.stepFrame tasks sortResult answer frame).2 ++ others) := by
  obtain ⟨first, rest⟩ := forall_mem_cons.mp known
  refine forall_mem_append.mpr ⟨?_, rest⟩
  cases frame with
  | run names =>
    cases names with
    | nil => simp [stepFrame]
    | cons name rest =>
      simp only [stepFrame]
      split
      · simp
      · exact startNext_known rfl
  | dispatch name result =>
    cases result with
    | none => simp [stepFrame, dispatch]
    | some result =>
      simp only [stepFrame, dispatch]
      split
      · simp
      · split
        · simp
        · split
          · simp
          next children entry =>
            intro part mem child told
            obtain rfl := mem_singleton.mp mem
            have listed : child ∈ sortResult.children name := by
              simpa [StartupSortResult.children, entry, untold] using told
            obtain ⟨task, -, -, found⟩ := sorted.children_known listed
            exact ⟨task, found⟩
  | notify name result children zeroInDegree =>
    cases children with
    | nil => simp [stepFrame, untold]
    | cons child rest =>
      simp only [stepFrame, notifyChild]
      split
      · simp
      · split
        · simp
        · intro part mem other told
          obtain rfl := mem_singleton.mp mem
          exact first other (mem_cons_of_mem _ told)
  | start name result zeroInDegree =>
    cases zeroInDegree with
    | nil => simp [stepFrame, untold]
    | cons child rest => exact startNext_known rfl
  | await name result => simp [stepFrame, countAwait, untold]
  | settle name result => simp [stepFrame, countTask]

@[simp] theorem startNext_history (name : String) (answer : InitAnswer) (rest : Frame) :
    (disp.startNext name answer rest).1.history.dispatched = disp.history.dispatched ∧
      (disp.startNext name answer rest).1.history.completed = disp.history.completed := by
  unfold startNext
  split
  · exact ⟨rfl, rfl⟩
  · unfold runTaskInit
    cases disp.taskState name with
    | created =>
      cases answer.reply with
      | now result => cases result <;> exact ⟨rfl, rfl⟩
      | later | never => exact ⟨rfl, rfl⟩
    | invalid | initializing | initialized => exact ⟨rfl, rfl⟩

theorem stepFrame_noted (answer : InitAnswer) (frame : Frame) :
    let after := (disp.stepFrame tasks sortResult answer frame).1.history
    (after.dispatched = disp.history.dispatched ∧ after.completed = disp.history.completed ∧
        failure (frame, answer) = none) ∨
      ∃ name result, frame = .dispatch name result ∧
        after.dispatched = disp.history.dispatched ++ [name] ∧
        ((after.completed = disp.history.completed ++ [name] ∧ failure (frame, answer) = none) ∨
          after.completed = disp.history.completed ∧
            ∃ handed, failure (frame, answer) = some (name, handed)) := by
  cases frame with
  | run names =>
    left
    cases names with
    | nil => exact ⟨rfl, rfl, rfl⟩
    | cons name rest =>
      simp only [stepFrame]
      split
      · exact ⟨rfl, rfl, rfl⟩
      · exact ⟨(startNext_history ..).1, (startNext_history ..).2, rfl⟩
  | dispatch name result =>
    refine .inr ⟨name, result, rfl, ?_⟩
    cases result with
    | none => exact ⟨rfl, .inr ⟨rfl, _, rfl⟩⟩
    | some result =>
      by_cases ok : result.resultCode = errOk
      · simp only [stepFrame, dispatch, ok, ne_eq, not_true_eq_false, if_false, failure, if_true]
        split
        · exact ⟨rfl, .inl ⟨rfl, trivial⟩⟩
        · split
          · exact ⟨rfl, .inl ⟨rfl, trivial⟩⟩
          · exact ⟨rfl, .inl ⟨rfl, trivial⟩⟩
      · simp only [stepFrame, dispatch, ok, ne_eq, not_false_eq_true, if_true, failure, if_false]
        exact ⟨rfl, .inr ⟨rfl, _, rfl⟩⟩
  | notify name result children zeroInDegree =>
    left
    cases children with
    | nil => exact ⟨rfl, rfl, rfl⟩
    | cons child rest =>
      simp only [stepFrame, notifyChild]
      split
      · exact ⟨rfl, rfl, rfl⟩
      · split <;> exact ⟨rfl, rfl, rfl⟩
  | start name result zeroInDegree =>
    left
    cases zeroInDegree with
    | nil => exact ⟨rfl, rfl, rfl⟩
    | cons child rest => exact ⟨(startNext_history ..).1, (startNext_history ..).2, rfl⟩
  | await name result =>
    left
    simp only [stepFrame, countAwait]
    split <;> exact ⟨rfl, rfl, rfl⟩
  | settle name result => exact .inl ⟨rfl, rfl, rfl⟩

theorem stepFrame_run {frame : Frame} (answer : InitAnswer) :
    (disp.stepFrame tasks sortResult answer frame).2.countP isRun +
      (disp.runReturns tasks (frame, answer)).toList.length = [frame].countP isRun := by
  have dispatches (name : String) : (disp.runTaskInit name answer).2.1.countP isRun = 0 := by
    refine countP_eq_zero.mpr fun frame mem => ?_
    obtain ⟨result, rfl⟩ := runTaskInit_frames name answer frame mem
    simp [isRun]
  have starts (name : String) (rest : Frame) :
      (disp.startNext name answer rest).2.countP isRun =
        if disp.isTimeoutStopped = false ∧ (disp.runTaskInit name answer).2.2 = errOk then
          [rest].countP isRun
        else 0 := by
    unfold startNext
    cases stopped : disp.isTimeoutStopped with
    | true => simp
    | false =>
      by_cases ok : (disp.runTaskInit name answer).2.2 = errOk <;> simp [ok, dispatches]
  cases frame with
  | run names =>
    cases names with
    | nil => simp [stepFrame, runReturns, isRun]
    | cons name rest =>
      cases found : tasks.find name with
      | none => simp [stepFrame, runReturns, found, isRun]
      | some task =>
        simp only [stepFrame, runReturns, found, starts]
        cases stopped : disp.isTimeoutStopped with
        | true => simp [isRun]
        | false =>
          by_cases ok : (disp.runTaskInit name answer).2.2 = errOk <;> simp [ok, isRun]
  | dispatch name result =>
    simp only [stepFrame, dispatch, runReturns]
    (repeat' split) <;> simp [isRun]
  | notify name result children zeroInDegree =>
    cases children with
    | nil => simp [stepFrame, runReturns, isRun]
    | cons child rest =>
      simp only [stepFrame, notifyChild, runReturns]
      (repeat' split) <;> simp [isRun]
  | start name result zeroInDegree =>
    cases zeroInDegree with
    | nil => simp [stepFrame, runReturns, isRun]
    | cons child rest => simp [stepFrame, starts, runReturns, isRun]
  | await name result => simp [stepFrame, countAwait, runReturns, isRun]
  | settle name result => simp [stepFrame, countTask, runReturns, isRun]

theorem arrive_flatten {thread callback : Nat} {result : Option StartupTaskResult}
    {waiting : KeptCallback} (found : disp.kept[callback]? = some waiting) :
    (disp.arrive thread callback result).threads.flatten.Perm
      (.dispatch waiting.name result :: disp.threads.flatten) := by
  have threads : (if waiting.saves then
      ({ disp with kept := disp.kept.eraseIdx callback }).saveResult waiting.name result
    else { disp with kept := disp.kept.eraseIdx callback }).threads = disp.threads := by
    split
    · exact saveResult_threads ..
    · rfl
  simp only [arrive, found, threads]
  split
  · simp
  next below top =>
    obtain ⟨others, before, after⟩ := exists_flatten_perm [] top
    exact (after [_]).trans (before.symm.cons _)

@[simp] theorem saveResult_history (name : String) (result : Option StartupTaskResult) :
    (disp.saveResult name result).history = disp.history := by
  cases result <;> rfl

theorem arrive_same (thread callback : Nat) (result : Option StartupTaskResult) :
    (disp.arrive thread callback result).history = disp.history ∧
      (disp.arrive thread callback result).completedCallback = disp.completedCallback := by
  unfold arrive
  split
  · exact ⟨rfl, rfl⟩
  · simp only
    (repeat' split) <;> simp

theorem arriveLate_same (callback : Nat) (result : Option StartupTaskResult) :
    (disp.arriveLate callback result).history = disp.history ∧
      (disp.arriveLate callback result).completedCallback = disp.completedCallback ∧
      (disp.arriveLate callback result).threads = disp.threads := by
  unfold arriveLate
  split
  · exact ⟨rfl, rfl, rfl⟩
  · split <;> simp

@[simp] theorem saveResult_isTimeoutStopped (name : String) (result : Option StartupTaskResult) :
    (disp.saveResult name result).isTimeoutStopped = disp.isTimeoutStopped := by
  cases result <;> rfl

@[simp] theorem startNext_isTimeoutStopped (name : String) (answer : InitAnswer) (rest : Frame) :
    (disp.startNext name answer rest).1.isTimeoutStopped = disp.isTimeoutStopped := by
  unfold startNext
  split
  · rfl
  · unfold runTaskInit
    cases disp.taskState name <;> cases answer.reply <;> simp

theorem stepFrame_isTimeoutStopped (answer : InitAnswer) (frame : Frame) :
    (disp.stepFrame tasks sortResult answer frame).1.isTimeoutStopped = disp.isTimeoutStopped := by
  unfold stepFrame
  split
  · rfl
  · split <;> simp
  · unfold dispatch; (repeat' split) <;> rfl
  · rfl
  · unfold notifyChild; (repeat' split) <;> rfl
  · rfl
  · simp
  · unfold countAwait; simp only; split <;> rfl
  · rfl

theorem completedCalls_of_some {callback : OnCompletedCallback}
    (present : disp.completedCallback = some callback) : disp.completedCalls = callback.calledWith := by
  simp [completedCalls, present]

theorem Calls.cases {after : Dispatcher} {cause : Option (String × StartupTaskResult)}
    (calls : disp.Calls after cause) (ready : disp.Ready) :
    after.Ready ∧ (after.completedCalls = disp.completedCalls ∨
      (disp.completedCalls = [] ∧ ∃ result, after.completedCalls = [result] ∧
        (result.resultCode = errOk ∨ ∃ name, cause = some (name, result)))) := by
  obtain ⟨callback, present, function, called⟩ := ready
  rcases calls with same | ⟨result, more, reason⟩
  · refine ⟨⟨callback, same.trans present, function, called⟩, .inl ?_⟩
    rw [completedCalls, completedCalls, same]
  · rw [present, map_some] at more
    by_cases again : callback.isCalled = true
    · have unchanged : callback.call result = callback := by
        simp [OnCompletedCallback.call, again]
      rw [unchanged] at more
      refine ⟨⟨callback, more, function, called⟩, .inl ?_⟩
      rw [completedCalls_of_some more, completedCalls_of_some present]
    · have none : callback.calledWith = [] := by
        by_contra some
        exact again (called.mpr some)
      have first : callback.call result =
          { callback with isCalled := true, calledWith := [result] } := by
        simp [OnCompletedCallback.call, function, again, none]
      rw [first] at more
      refine ⟨⟨_, more, function, by simp⟩, .inr ⟨?_, result, ?_, reason⟩⟩
      · rw [completedCalls_of_some present, none]
      · rw [completedCalls_of_some more]

theorem isCalled_iff (ready : disp.Ready) : disp.isCalled = true ↔ disp.completedCalls ≠ [] := by
  obtain ⟨callback, present, -, called⟩ := ready
  simpa [isCalled, completedCalls, present] using called

theorem isCalled_congr {after : Dispatcher}
    (same : after.completedCallback = disp.completedCallback) : after.isCalled = disp.isCalled := by
  rw [isCalled, isCalled, same]

theorem Progress.arrive {thread callback : Nat} {result : Option StartupTaskResult}
    {waiting : KeptCallback}
    (progress : Progress tasks sortResult disp disp.threads.flatten)
    (found : disp.kept[callback]? = some waiting)
    (moved : (disp.arrive thread callback result).threads.flatten.Perm
      (.dispatch waiting.name result :: disp.threads.flatten)) :
    Progress tasks sortResult (disp.arrive thread callback result)
      (disp.arrive thread callback result).threads.flatten := by
  have taken := (progress.unkeep found result).perm moved.symm
  obtain ⟨history, -⟩ := @arrive_same disp thread callback result
  have kept : (disp.arrive thread callback result).kept = disp.kept.eraseIdx callback := by
    simp only [Dispatcher.arrive, found]
    (repeat' split) <;> cases result <;> rfl
  exact
    { reached := fun name released => by
        have := taken.reached name (by rw [history] at released; exact released)
        rw [cared, kept, history]
        exact this
      working := by rw [history]; exact taken.working
      budget := by rw [history]; exact taken.budget
      left := by rw [history]; exact taken.left }

end Dispatcher

open Dispatcher

namespace ManagerRun

variable {tasks : StartupMap} {sortResult : StartupSortResult} {state : ManagerRun}

/-- What holds of the dispatcher and of what is noted about it, errors or not. -/
structure Sound (tasks : StartupMap) (sortResult : StartupSortResult) (state : ManagerRun) : Prop where
  inv : Invariant tasks sortResult state.dispatcher state.dispatcher.threads.flatten
  known : Known tasks state.dispatcher.threads.flatten
  ready : state.dispatcher.Ready
  completed : state.dispatcher.history.completed ⊆ state.dispatcher.history.dispatched
  failures : ∀ name result, (name, result) ∈ state.failures -> name ∈ tasks.names ∧
    name ∈ state.dispatcher.history.dispatched ∧ name ∉ state.dispatcher.history.completed
  reported : ∀ result ∈ state.dispatcher.completedCalls, result.resultCode = errOk ∨
    ∃ name, (name, result) ∈ state.failures
  loop : state.dispatcher.threads.flatten.countP Frame.isRun + state.loopResult.toList.length = 1

theorem Sound.unnoted (sound : Sound tasks sortResult state) {dispatcher : Dispatcher}
    (inv : Invariant tasks sortResult dispatcher dispatcher.threads.flatten)
    (known : Known tasks dispatcher.threads.flatten)
    (history : dispatcher.history = state.dispatcher.history)
    (callback : dispatcher.completedCallback = state.dispatcher.completedCallback)
    (loop : dispatcher.threads.flatten.countP isRun =
      state.dispatcher.threads.flatten.countP isRun) :
    Sound tasks sortResult { state with dispatcher := dispatcher } where
  inv := inv
  known := known
  ready := by simpa only [Ready, callback] using sound.ready
  completed := by simpa only [history] using sound.completed
  failures := by simpa only [history] using sound.failures
  reported := by simpa only [completedCalls, callback] using sound.reported
  loop := by simpa only [loop] using sound.loop

theorem record_advance {thread : Nat} {frame : Frame} {below : List Frame}
    (found : state.dispatcher.threads[thread]? = some (frame :: below)) (answer : InitAnswer) :
    state.record tasks sortResult (.advance thread answer) =
      { state with
        dispatcher := state.dispatcher.advance tasks sortResult thread answer
        loopResult := state.loopResult <|> state.dispatcher.runReturns tasks (frame, answer)
        failures := state.failures ++ (failure (frame, answer)).toList
        refused := state.refused ++ (state.dispatcher.refused (frame, answer)).toList } := by
  simp [record, topFrame, found, Dispatcher.step]

theorem Sound.advance (sound : Sound tasks sortResult state) (sorted : Sorted tasks.tasks sortResult)
    (listed : ∀ name ∈ tasks.names, (sortResult.startupChildrenMap name).isSome) {thread : Nat}
    {frame : Frame} {below : List Frame}
    (found : state.dispatcher.threads[thread]? = some (frame :: below)) (answer : InitAnswer) :
    Sound tasks sortResult (state.record tasks sortResult (.advance thread answer)) := by
  obtain ⟨others, before, after⟩ := exists_flatten_perm [frame] found
  have inv : Invariant tasks sortResult state.dispatcher (frame :: others) := sound.inv.perm before
  have known : Known tasks (frame :: others) := fun part mem =>
    sound.known part (before.mem_iff.mpr mem)
  have calls := stepFrame_calls inv listed (known frame mem_cons_self) answer
  obtain ⟨ready, called⟩ := calls.cases sound.ready
  have noted := @stepFrame_noted tasks sortResult state.dispatcher answer frame
  have fresh (name : String) (result : Option StartupTaskResult) (same : frame = .dispatch name result) :
      name ∉ state.dispatcher.history.dispatched := by
    subst same
    have := inv.once name
    simp only [tally_cons, dispatching, count_singleton_self] at this
    exact count_eq_zero.mp (by omega)
  have listedName (name : String) (result : Option StartupTaskResult)
      (same : frame = .dispatch name result) : name ∈ tasks.names := by
    subst same
    obtain ⟨task, found⟩ := inv.dispatching_known
    exact StartupMap.mem_names found
  rw [record_advance found, advance_eq found]
  constructor
  case inv =>
    rw [<- advance_eq found]
    exact advance_invariant sound.inv thread answer
  case known =>
    intro part mem
    exact stepFrame_known sorted known answer part ((after _).mem_iff.mp mem)
  case ready => exact ready
  case completed =>
    rcases noted with ⟨dispatched, completed, -⟩ | ⟨name, result, rfl, dispatched, completed⟩
    · rw [dispatched, completed]
      exact sound.completed
    · rw [dispatched]
      rcases completed with ⟨completed, -⟩ | ⟨completed, -⟩
      · rw [completed]
        exact append_subset.mpr ⟨subset_append_of_subset_left _ sound.completed,
          subset_append_right _ _⟩
      · rw [completed]
        exact subset_append_of_subset_left _ sound.completed
  case failures =>
    intro failed handed mem
    rcases noted with ⟨dispatched, completed, none⟩ | ⟨name, result, same, dispatched, completed⟩
    · rw [none] at mem
      rw [dispatched, completed]
      exact sound.failures failed handed (by simpa using mem)
    · have new := fresh name result same
      rw [dispatched]
      rcases completed with ⟨completed, none⟩ | ⟨completed, error, some⟩
      · rw [none] at mem
        obtain ⟨known, there, incomplete⟩ := sound.failures failed handed (by simpa using mem)
        rw [completed]
        refine ⟨known, mem_append_left _ there, fun later => ?_⟩
        rcases mem_append.mp later with earlier | last
        · exact incomplete earlier
        · exact new (mem_singleton.mp last ▸ there)
      · rw [some] at mem
        rw [completed]
        rcases mem_append.mp mem with earlier | last
        · obtain ⟨known, there, incomplete⟩ := sound.failures failed handed earlier
          exact ⟨known, mem_append_left _ there, incomplete⟩
        · obtain ⟨rfl, rfl⟩ : failed = name ∧ handed = error := by simpa using last
          exact ⟨listedName failed result same, mem_append_right _ mem_cons_self,
            fun done => new (sound.completed done)⟩
  case reported =>
    intro result mem
    rcases called with same | ⟨-, only, one, reason⟩
    · rcases sound.reported result (same ▸ mem) with ok | ⟨name, failed⟩
      · exact .inl ok
      · exact .inr ⟨name, mem_append_left _ failed⟩
    · obtain rfl : result = only := mem_singleton.mp (one ▸ mem)
      rcases reason with ok | ⟨name, cause⟩
      · exact .inl ok
      · exact .inr ⟨name, by simp [cause]⟩
  case loop =>
    have count := (after (state.dispatcher.stepFrame tasks sortResult answer frame).2).countP_eq
      isRun
    have earlier := before.countP_eq isRun
    have run := @stepFrame_run tasks sortResult state.dispatcher frame answer
    have total := sound.loop
    rw [countP_append] at count earlier
    simp only [count]
    cases result : state.loopResult with
    | none =>
      rw [result, toList_none, length_nil] at total
      change _ + (state.dispatcher.runReturns tasks (frame, answer)).toList.length = 1
      omega
    | some code =>
      rw [result, toList_some, length_singleton] at total
      change _ + 1 = 1
      omega

theorem record_of_none {action : Action} (none : state.dispatcher.topFrame action = none) :
    state.record tasks sortResult action =
      { state with dispatcher := state.dispatcher.step tasks sortResult action } := by
  simp [record, none]

theorem topFrame_advance (thread : Nat) (answer : InitAnswer) :
    (∃ frame below, state.dispatcher.threads[thread]? = some (frame :: below)) ∨
      state.dispatcher.topFrame (.advance thread answer) = none ∧
        state.dispatcher.advance tasks sortResult thread answer = state.dispatcher := by
  cases found : state.dispatcher.threads[thread]? with
  | none => exact .inr (by simp [topFrame, advance, found])
  | some frames =>
    cases frames with
    | nil => exact .inr (by simp [topFrame, advance, found])
    | cons frame below => exact .inl ⟨frame, below, rfl⟩

theorem Sound.record (sound : Sound tasks sortResult state) (sorted : Sorted tasks.tasks sortResult)
    (listed : ∀ name ∈ tasks.names, (sortResult.startupChildrenMap name).isSome) (action : Action) :
    Sound tasks sortResult (state.record tasks sortResult action) := by
  cases action with
  | advance thread answer =>
    rcases @topFrame_advance tasks sortResult state thread answer with ⟨frame, below, found⟩ | ⟨none, same⟩
    · exact sound.advance sorted listed found answer
    · rw [record_of_none none, Dispatcher.step, same]
      exact sound
  | arrive thread callback result =>
    rw [record_of_none rfl]
    have inv := step_invariant sound.inv (.arrive thread callback result)
    obtain ⟨history, called⟩ := @arrive_same state.dispatcher thread callback result
    cases found : state.dispatcher.kept[callback]? with
    | none =>
      have same : state.dispatcher.arrive thread callback result = state.dispatcher := by
        simp [arrive, found]
      rw [Dispatcher.step, same]
      exact sound
    | some waiting =>
      have moved := @arrive_flatten state.dispatcher thread callback result waiting found
      refine sound.unnoted inv (fun frame mem => ?_) history called ?_
      · rcases mem_cons.mp (moved.mem_iff.mp mem) with rfl | old
        · simp [untold]
        · exact sound.known frame old
      · rw [Dispatcher.step, moved.countP_eq isRun]
        simp [isRun]
  | timeoutStop =>
    rw [record_of_none rfl]
    exact sound.unnoted (step_invariant sound.inv .timeoutStop) sound.known rfl rfl rfl
  | runPosted index =>
    rw [record_of_none rfl]
    have inv := step_invariant sound.inv (.runPosted index)
    simp only [Dispatcher.step] at inv ⊢
    split
    · exact sound
    next result found =>
      rw [found] at inv
      exact sound.unnoted inv sound.known rfl rfl rfl
  | changeTask name taskState result =>
    rw [record_of_none rfl]
    exact sound.unnoted (sound.inv.changeTask _ _) sound.known rfl rfl rfl

theorem record_calls (sound : Sound tasks sortResult state)
    (listed : ∀ name ∈ tasks.names, (sortResult.startupChildrenMap name).isSome) (action : Action) :
    ∃ cause, state.dispatcher.Calls (state.record tasks sortResult action).dispatcher cause := by
  cases action with
  | advance thread answer =>
    rcases @topFrame_advance tasks sortResult state thread answer with ⟨frame, below, found⟩ | ⟨idle, same⟩
    · obtain ⟨others, before, -⟩ := exists_flatten_perm [frame] found
      have known := sound.known frame (before.mem_iff.mpr mem_cons_self)
      refine ⟨failure (frame, answer), ?_⟩
      rw [record_advance found, advance_eq found]
      exact stepFrame_calls (sound.inv.perm before) listed known answer
    · exact ⟨none, .inl (by rw [record_of_none idle, Dispatcher.step, same])⟩
  | arrive thread callback result =>
    exact ⟨none, .inl (by exact (arrive_same ..).2)⟩
  | timeoutStop | changeTask => exact ⟨none, .inl (by rfl)⟩
  | runPosted index =>
    refine ⟨none, .inl ?_⟩
    rw [record_of_none rfl, Dispatcher.step]
    split <;> rfl

theorem Sound.arriveLate (sound : Sound tasks sortResult state) (callback : Nat)
    (result : Option StartupTaskResult) : Sound tasks sortResult (state.arriveLate callback result) := by
  obtain ⟨history, called, threads⟩ := @arriveLate_same state.dispatcher callback result
  have inv : Invariant tasks sortResult (state.dispatcher.arriveLate callback result)
      state.dispatcher.threads.flatten := by
    unfold Dispatcher.arriveLate
    split
    · exact sound.inv
    next waiting found =>
      have lost := (sound.inv.unkeep found result).drop rfl
      split
      · exact lost.saveResult _ _
      · exact lost
  have same := sound.unnoted (threads.symm ▸ inv) (threads.symm ▸ sound.known) history called
    (by rw [threads])
  exact { same with }

def Listened (state : ManagerRun) : Prop :=
  (state.mgr.listenerResults = state.dispatcher.completedCalls.map completedResult ∧
    (state.dispatcher.completedCalls = [] ↔
      state.mgr.startupTaskManagerId ∈ state.mgr.startupTaskManagerMap) ∧
    ∀ code, state.runResult = some code -> code ≠ errOk -> state.dispatcher.completedCalls ≠ []) ∨
  ∃ code, code ≠ errOk ∧ state.runResult = some code ∧
    state.mgr.listenerResults = [completedResult ⟨code, ""⟩] ∧
    state.mgr.startupTaskManagerId ∉ state.mgr.startupTaskManagerMap

theorem Listened.completed (listened : Listened state) (config : state.mgr.config = true)
    (after : ManagerRun) (mgr : after.mgr = state.mgr)
    (runResult : after.runResult = state.runResult) (none : state.dispatcher.completedCalls = [])
    {result : StartupTaskResult} (called : after.dispatcher.completedCalls = [result]) :
    Listened (after.completed result) := by
  unfold ManagerRun.completed
  rcases listened with ⟨results, present, -⟩ | ⟨code, failed, returned, results, gone⟩
  · have held : after.held = true := by simp [held, mgr, present.mp none]
    rw [if_pos held]
    left
    simp [callListenerOnCompleted, onStartupTaskManagerComplete, mgr, config, results, none, called]
  · have released : after.held = false := by simp [held, mgr, runResult, returned, gone]
    rw [released, if_neg Bool.false_ne_true]
    refine .inr ⟨code, failed, runResult.trans returned, ?_, ?_⟩
    · rw [mgr, results]
    · rw [mgr]; exact gone

theorem Listened.unchanged (listened : Listened state) {after : ManagerRun}
    (mgr : after.mgr = state.mgr) (runResult : after.runResult = state.runResult)
    (calls : after.dispatcher.completedCalls = state.dispatcher.completedCalls) : Listened after := by
  simpa only [Listened, mgr, runResult, calls] using listened

theorem Listened.returnRun (listened : Listened state) (config : state.mgr.config = true)
    (ready : state.dispatcher.Ready) : Listened state.returnRun := by
  unfold ManagerRun.returnRun
  split
  · exact listened
  next code _ =>
    split
    next returns =>
      have running : state.runResult = none := by
        rw [Bool.and_eq_true] at returns
        exact isNone_iff_eq_none.mp returns.1
      obtain ⟨results, present, -⟩ := listened.resolve_right (by simp [running])
      split
      next ok => exact .inl ⟨results, present, by simp [ok]⟩
      next failed =>
        by_cases called : state.dispatcher.isCalled = true
        · rw [called, if_pos rfl]
          exact .inl ⟨results, present, fun _ _ _ => (isCalled_iff ready).mp called⟩
        · have none : state.dispatcher.completedCalls = [] := by
            by_contra some
            exact called ((isCalled_iff ready).mpr some)
          rw [if_neg called]
          right
          simp [callListenerOnCompleted,
            onStartupTaskManagerComplete, config, results, none, failed]
    · exact listened

/-- As long as there is no time-out: Run has failed, or an error stops the tasks, or nothing has
been forgotten. -/
def Good (tasks : StartupMap) (sortResult : StartupSortResult) (state : ManagerRun) : Prop :=
  (∃ code, state.loopResult = some code ∧ code ≠ errOk) ∨
    state.dispatcher.Stopped state.dispatcher.threads.flatten ∨
    (Progress tasks sortResult state.dispatcher state.dispatcher.threads.flatten ∧
      state.refused = [] ∧ state.lost = [])

def ReportsTop (disp : Dispatcher) : Option (Frame × InitAnswer) -> Prop
  | some (.start _ _ (child :: _), answer) => disp.Reported child answer
  | _ => True

instance (disp : Dispatcher) : DecidablePred (ReportsTop disp)
  | some (.start _ _ (child :: _), answer) => inferInstanceAs (Decidable (disp.Reported child answer))
  | some (.start _ _ [], _) | some (.run _, _) | some (.dispatch _ _, _) | some (.notify _ _ _ _, _)
  | some (.await _ _, _) | some (.settle _ _, _) | none => isTrue trivial

/-- A task that is started when its parents are done hands over the error that its RunTaskInit
returns. -/
def Reports (state : ManagerRun) : ManagerAction -> Prop
  | .dispatch action => ReportsTop state.dispatcher (state.dispatcher.topFrame action)
  | .returnRun | .onTimeout | .otherManagers _ => True

instance (state : ManagerRun) : DecidablePred state.Reports
  | .dispatch action =>
    inferInstanceAs (Decidable (ReportsTop state.dispatcher (state.dispatcher.topFrame action)))
  | .returnRun | .onTimeout | .otherManagers _ => isTrue trivial

theorem Good.advance (good : Good tasks sortResult state) (sound : Sound tasks sortResult state)
    (listed : ∀ name ∈ tasks.names, (sortResult.startupChildrenMap name).isSome)
    (running : state.dispatcher.isTimeoutStopped = false) {thread : Nat} {frame : Frame}
    {below : List Frame} (found : state.dispatcher.threads[thread]? = some (frame :: below))
    {answer : InitAnswer} (reports : state.Reports (.dispatch (.advance thread answer))) :
    Good tasks sortResult (state.record tasks sortResult (.advance thread answer)) := by
  rcases good with ⟨code, loop, failed⟩ | good
  · refine .inl ⟨code, ?_, failed⟩
    rw [record_advance found]
    simp [loop]
  · obtain ⟨others, before, after⟩ := exists_flatten_perm [frame] found
    have inv : Invariant tasks sortResult state.dispatcher (frame :: others) := sound.inv.perm before
    have known := sound.known frame (before.mem_iff.mpr mem_cons_self)
    cases refuses : state.dispatcher.refused (frame, answer) with
    | none =>
      have goesOn : state.dispatcher.GoesOn answer frame := by
        cases frame with
        | run names =>
          cases names with
          | nil => trivial
          | cons name rest =>
            refine ⟨running, .inl ?_⟩
            simpa [Dispatcher.refused, running] using refuses
        | start name result zeroInDegree =>
          cases zeroInDegree with
          | nil => trivial
          | cons child rest =>
            refine ⟨running, .inl ?_⟩
            simpa [Dispatcher.refused, running] using refuses
        | dispatch | notify | await | settle => trivial
      right
      rw [record_advance found, advance_eq found, refuses]
      rcases good with stopped | ⟨progress, refused, lost⟩
      · have stays := stepFrame_stopped inv (stopped.perm before) sound.ready listed known answer
        exact .inl (stays.perm (after _).symm)
      · rcases stepFrame_goes inv (progress.perm before) sound.ready listed known goesOn with
          stopped | progress
        · exact .inl (stopped.perm (after _).symm)
        · refine .inr ⟨?_, by simpa using refused, lost⟩
          exact { progress.perm (after _).symm with }
    | some name =>
      cases frame with
      | run names =>
        cases names with
        | nil => cases refuses
        | cons first rest =>
          have failed : (state.dispatcher.runTaskInit first answer).2.2 ≠ errOk := by
            intro ok
            simp [Dispatcher.refused, ok] at refuses
          obtain ⟨task, listed⟩ := inv.queued_known
          have unreturned : state.loopResult = none := by
            have total := sound.loop
            rw [before.countP_eq isRun] at total
            cases result : state.loopResult with
            | none => rfl
            | some code => simp [result, isRun] at total
          refine .inl ⟨_, ?_, failed⟩
          rw [record_advance found, unreturned]
          simp [runReturns, listed, running, failed]
      | start parent result zeroInDegree =>
        cases zeroInDegree with
        | nil => cases refuses
        | cons child rest =>
          have failed : (state.dispatcher.runTaskInit child answer).2.2 ≠ errOk := by
            intro ok
            simp [Dispatcher.refused, ok] at refuses
          have reported : state.dispatcher.Reported child answer := by
            simpa [Reports, ReportsTop, topFrame, found] using reports
          refine .inr (.inl ?_)
          rw [record_advance found, advance_eq found]
          exact (startNext_stopped running failed reported).perm (after _).symm
      | dispatch | notify | await | settle => cases refuses

theorem Good.unnoted (good : Good tasks sortResult state) {dispatcher : Dispatcher}
    (threads : dispatcher.threads = state.dispatcher.threads)
    (kept : dispatcher.kept = state.dispatcher.kept)
    (history : dispatcher.history = state.dispatcher.history)
    (callback : dispatcher.completedCallback = state.dispatcher.completedCallback) :
    Good tasks sortResult { state with dispatcher := dispatcher } := by
  rcases good with failed | stopped | ⟨progress, refused, lost⟩
  · exact .inl failed
  · exact .inr (.inl (by simpa only [Stopped, isCalled, threads, callback] using stopped))
  · refine .inr (.inr ⟨?_, refused, lost⟩)
    exact
      { reached := by simpa only [cared, threads, kept, history] using progress.reached
        working := by simpa only [threads, history] using progress.working
        budget := by simpa only [threads, history] using progress.budget
        left := by simpa only [history] using progress.left }

theorem Good.record (good : Good tasks sortResult state) (sound : Sound tasks sortResult state)
    (listed : ∀ name ∈ tasks.names, (sortResult.startupChildrenMap name).isSome)
    (running : state.dispatcher.isTimeoutStopped = false) {action : Action}
    (reports : state.Reports (.dispatch action)) :
    Good tasks sortResult (state.record tasks sortResult action) := by
  cases action with
  | advance thread answer =>
    rcases @topFrame_advance tasks sortResult state thread answer with ⟨frame, below, found⟩ | ⟨none, same⟩
    · exact good.advance sound listed running found reports
    · rw [record_of_none none, Dispatcher.step, same]
      exact good
  | arrive thread callback result =>
    rw [record_of_none rfl, Dispatcher.step]
    obtain ⟨-, called⟩ := @arrive_same state.dispatcher thread callback result
    cases found : state.dispatcher.kept[callback]? with
    | none =>
      have same : state.dispatcher.arrive thread callback result = state.dispatcher := by
        simp [arrive, found]
      rw [same]
      exact good
    | some waiting =>
      have moved := @arrive_flatten state.dispatcher thread callback result waiting found
      rcases good with failed | (isCalled | ⟨frame, mem, fails⟩) | ⟨progress, refused, lost⟩
      · exact .inl failed
      · exact .inr (.inl (.inl (by rw [isCalled_congr called]; exact isCalled)))
      · exact .inr (.inl (.inr ⟨frame, moved.mem_iff.mpr (mem_cons_of_mem _ mem), fails⟩))
      · refine .inr (.inr ⟨?_, refused, lost⟩)
        exact progress.arrive found moved
  | timeoutStop | changeTask =>
    rw [record_of_none rfl]
    exact good.unnoted rfl rfl rfl rfl
  | runPosted index =>
    rw [record_of_none rfl, Dispatcher.step]
    split
    · exact good
    · exact good.unnoted rfl rfl rfl rfl

structure Told (tasks : StartupMap) (sortResult : StartupSortResult) (state : ManagerRun) : Prop where
  sound : Sound tasks sortResult state
  config : state.mgr.config = true
  returned : ∀ code, state.runResult = some code -> state.loopResult = some code
  listened : state.timedOut = false -> Listened state
  good : state.NoTimeOut -> Good tasks sortResult state

theorem completed_eq (state : ManagerRun) (result : StartupTaskResult) :
    ∃ mgr timer, state.completed result = { state with mgr := mgr, timer := timer } ∧
      mgr.config = state.mgr.config := by
  unfold completed
  split
  · refine ⟨_, _, rfl, ?_⟩
    unfold callListenerOnCompleted
    split <;> rfl
  · exact ⟨state.mgr, state.timer, rfl, rfl⟩

theorem step_isTimeoutStopped {action : Action} (disp : Dispatcher)
    (running : (disp.step tasks sortResult action).isTimeoutStopped = false) :
    disp.isTimeoutStopped = false := by
  cases action with
  | advance thread answer =>
    simp only [Dispatcher.step, Dispatcher.advance] at running
    split at running
    · exact running
    · exact running
    · rw [<- running]; exact (stepFrame_isTimeoutStopped ..).symm
  | arrive thread callback result =>
    simp only [Dispatcher.step, Dispatcher.arrive] at running
    (repeat' split at running) <;> simpa using running
  | timeoutStop => cases running
  | runPosted index =>
    simp only [Dispatcher.step] at running
    split at running <;> exact running
  | changeTask => exact running

section

variable (told : Told tasks sortResult state)
include told

theorem Told.dispatch (sorted : Sorted tasks.tasks sortResult)
    (listed : ∀ name ∈ tasks.names, (sortResult.startupChildrenMap name).isSome) {action : Action}
    (reports : state.Reports (.dispatch action)) :
    Told tasks sortResult (state.dispatch tasks sortResult action) := by
  have sound := told.sound.record sorted listed action
  obtain ⟨cause, calls⟩ := record_calls told.sound listed action
  have returned (code : Int) (result : state.runResult = some code) :
      (state.record tasks sortResult action).loopResult = some code := by
    simp [record, told.returned code result]
  have good (quiet : (state.record tasks sortResult action).NoTimeOut) :
      Good tasks sortResult (state.record tasks sortResult action) := by
    have running := step_isTimeoutStopped state.dispatcher quiet.dispatcher
    exact (told.good ⟨quiet.mgr, running⟩).record told.sound listed running reports
  unfold ManagerRun.dispatch
  rcases (calls.cases told.sound.ready).2 with same | ⟨none, result, called, -⟩
  · simp only [same, drop_length, foldl_nil]
    exact ⟨sound, told.config, returned, fun quiet => (told.listened quiet).unchanged rfl rfl same, good⟩
  · have listened (quiet : state.timedOut = false) :
        Listened ((state.record tasks sortResult action).completed result) :=
      (told.listened quiet).completed told.config (state.record tasks sortResult action) rfl rfl none
        called
    simp only [called, none, length_nil, drop_zero, foldl_cons, foldl_nil]
    obtain ⟨mgr, timer, after, config⟩ := completed_eq (state.record tasks sortResult action) result
    rw [after] at listened ⊢
    exact ⟨{ sound with }, config.trans told.config, returned, listened,
      fun quiet => good ⟨quiet.mgr, quiet.dispatcher⟩⟩

theorem Told.arriveLate (released : state.held = false) (callback : Nat)
    (result : Option StartupTaskResult) :
    Told tasks sortResult (state.arriveLate callback result) := by
  obtain ⟨history, called, threads⟩ := @arriveLate_same state.dispatcher callback result
  have calls : (state.arriveLate callback result).dispatcher.completedCalls =
      state.dispatcher.completedCalls := by
    simp only [ManagerRun.arriveLate, completedCalls, called]
  refine ⟨told.sound.arriveLate callback result, told.config, told.returned,
    fun quiet => (told.listened quiet).unchanged rfl rfl calls, fun quiet => ?_⟩
  simp only [held, Bool.or_eq_false_iff] at released
  rcases told.listened quiet.mgr with ⟨-, present, -⟩ | ⟨code, failed, returned, -⟩
  · have gone : state.dispatcher.completedCalls ≠ [] := by
      intro none
      simpa [present.mp none] using released.1
    have called := (isCalled_congr called).trans ((isCalled_iff told.sound.ready).mpr gone)
    exact .inr (.inl (.inl called))
  · exact .inl ⟨code, told.returned code returned, failed⟩

theorem Told.returnRun : Told tasks sortResult state.returnRun := by
  have listened (quiet : state.timedOut = false) :=
    (told.listened quiet).returnRun told.config told.sound.ready
  revert listened
  unfold ManagerRun.returnRun
  split
  · exact fun _ => told
  next code loop =>
    split
    · have config : (state.mgr.callListenerOnCompleted ⟨code, ""⟩).config = true := by
        simp [callListenerOnCompleted, told.config, onStartupTaskManagerComplete]
      have returned (other : Int) (same : some code = some other) : state.loopResult = some other :=
        loop.trans same
      split
      · exact fun listened => ⟨{ told.sound with }, told.config, returned, listened,
          fun quiet => told.good ⟨quiet.mgr, quiet.dispatcher⟩⟩
      · refine fun listened => ⟨{ told.sound with }, ?_, returned, listened,
          fun quiet => told.good ⟨quiet.mgr, quiet.dispatcher⟩⟩
        split
        · exact told.config
        · exact config
    · exact fun _ => told

theorem Told.step (sorted : Sorted tasks.tasks sortResult)
    (listed : ∀ name ∈ tasks.names, (sortResult.startupChildrenMap name).isSome)
    {action : ManagerAction} (reports : state.Reports action) :
    Told tasks sortResult (state.step tasks sortResult action) := by
  cases action with
  | dispatch action =>
    cases action with
    | arrive thread callback result =>
      simp only [ManagerRun.step]
      split
      · exact told.dispatch sorted listed reports
      next released => exact told.arriveLate (by simpa using released) callback result
    | advance | timeoutStop | runPosted | changeTask => exact told.dispatch sorted listed reports
  | returnRun => exact told.returnRun
  | onTimeout =>
    simp only [ManagerRun.step, onTimeout]
    split
    · refine ⟨{ told.sound with }, ?_, told.returned, by simp, fun quiet => by cases quiet.mgr⟩
      simp [callListenerOnCompleted, told.config, onStartupTaskManagerComplete]
    · exact told
  | otherManagers ids =>
    refine ⟨{ told.sound with }, told.config, told.returned, fun quiet => ?_,
      fun quiet => told.good ⟨quiet.mgr, quiet.dispatcher⟩⟩
    have before := told.listened quiet
    simpa [Listened, ManagerRun.step] using before

end

theorem run_told (accepted : sort tasks = .ok sortResult) (some : tasks.tasks ≠ [])
    {mgr : StartupTaskManager} (config : mgr.config = true)
    (unused : mgr.listenerResults = [])
    (present : mgr.startupTaskManagerId ∈ mgr.startupTaskManagerMap) (timer : Bool)
    (mainThreadAwaitCallback : Option Bool) (taskState : String -> TaskState)
    (taskResult : String -> Option StartupTaskResult) :
    Told tasks sortResult
      (run tasks sortResult mgr timer mainThreadAwaitCallback taskState taskResult) := by
  have sorted := sort_sorted accepted
  have inv := run_start_invariant sorted (Option.some true) mainThreadAwaitCallback taskState taskResult
  constructor
  case sound =>
    constructor
    case inv => exact inv
    case known => simp [Known, run, Dispatcher.run, untold]
    case ready => exact ⟨_, rfl, rfl, by simp⟩
    case completed => simp [run, Dispatcher.run]
    case failures => simp [run]
    case reported => simp [run, Dispatcher.run, completedCalls]
    case loop => simp [run, Dispatcher.run, isRun]
  case config => exact config
  case returned => simp [run]
  case listened => simp [Listened, run, Dispatcher.run, completedCalls, unused, present]
  case good =>
    refine fun _ => .inr (.inr ⟨?_, rfl, rfl⟩)
    constructor
    case reached =>
      rintro name ⟨task, found, complete⟩
      have leaf : task.dependencies = [] := complete.symm.eq_nil
      obtain rfl : task.name = name := by simpa using find?_some found
      have queued : task.name ∈ sortResult.zeroDequeResult := by
        rw [sorted.zeroDeque]
        refine mem_map_of_mem (mem_filter.mpr ⟨mem_of_find?_eq_some found, ?_⟩)
        simp [leaf]
      simpa [cared, run, Dispatcher.run, Frame.queued, dispatching] using queued
    case working => simp [run, Dispatcher.run]
    case budget =>
      intro name task found parent
      simp [run, Dispatcher.run, owed, sorted.children_count found parent]
    case left => simpa [run, Dispatcher.run, length_pos_iff] using some

structure Answered (tasks : StartupMap) (state : ManagerRun) : Prop where
  listener : ∃ result, state.mgr.listenerResults = [result]
  removed : state.mgr.startupTaskManagerId ∉ state.mgr.startupTaskManagerMap
  completed : state.runResult = some errOk -> ∃ result,
    state.dispatcher.completedCalls = [result] ∧
      state.mgr.listenerResults = [StartupTaskManager.completedResult result] ∧
      (result.resultCode = errOk ↔ ∀ name ∈ tasks.names, name ∈ state.dispatcher.history.completed) ∧
      (result.resultCode ≠ errOk -> ∃ name ∈ tasks.names, (name, result) ∈ state.failures)
  failed : ∀ code, state.runResult = some code -> code ≠ errOk ->
    state.mgr.listenerResults =
        state.dispatcher.completedCalls.map StartupTaskManager.completedResult ∨
      state.mgr.listenerResults = [StartupTaskManager.completedResult ⟨code, ""⟩]

theorem Sound.one_call (sound : Sound tasks sortResult state)
    (called : state.dispatcher.completedCalls ≠ []) :
    ∃ result, state.dispatcher.completedCalls = [result] ∧
      (result.resultCode = errOk ↔ ∀ name ∈ tasks.names, name ∈ state.dispatcher.history.completed) ∧
      (result.resultCode ≠ errOk -> ∃ name ∈ tasks.names, (name, result) ∈ state.failures) := by
  obtain ⟨callback, present, -, -⟩ := sound.ready
  obtain ⟨fits, complete⟩ := sound.inv.completedCallback callback present
  rw [completedCalls_of_some present] at called
  obtain ⟨result, only⟩ := length_eq_one_iff.mp (Nat.le_antisymm fits.1 (length_pos_iff.mpr called))
  have failed (error : result.resultCode ≠ errOk) :
      ∃ name ∈ tasks.names, (name, result) ∈ state.failures ∧
        name ∉ state.dispatcher.history.completed := by
    have reported := sound.reported result (by simp [completedCalls_of_some present, only])
    obtain ⟨name, failure⟩ := reported.resolve_left error
    obtain ⟨known, -, incomplete⟩ := sound.failures name result failure
    exact ⟨name, known, failure, incomplete⟩
  refine ⟨result, by rw [completedCalls_of_some present, only], ⟨?_, ?_⟩, fun error => ?_⟩
  · exact complete result (by simp [only])
  · intro all
    by_contra error
    obtain ⟨name, known, -, incomplete⟩ := failed error
    exact incomplete (all name known)
  · obtain ⟨name, known, failure, -⟩ := failed error
    exact ⟨name, known, failure⟩

theorem Told.called (told : Told tasks sortResult state) (accepted : sort tasks = .ok sortResult)
    (idle : state.Idle) (quiet : state.NoTimeOut) (ok : state.runResult = some errOk) :
    state.dispatcher.completedCalls ≠ [] := by
  have noFrames : state.dispatcher.threads.flatten = [] := flatten_eq_nil_iff.mpr idle.threads
  rcases told.good quiet with ⟨code, loop, failed⟩ | (called | ⟨frame, mem, -⟩) |
    ⟨progress, refused, lost⟩
  · exact absurd (Option.some.inj (loop.symm.trans (told.returned errOk ok))) failed
  · exact (isCalled_iff told.sound.ready).mp called
  · rw [noFrames] at mem; cases mem
  · rw [noFrames] at progress
    refine (progress.not_idle (noFrames ▸ told.sound.inv) accepted idle.kept fun name started => ?_).elim
    simpa [refused, lost] using idle.ended name started

theorem Told.answered (told : Told tasks sortResult state) (accepted : sort tasks = .ok sortResult)
    (idle : state.Idle) (quiet : state.NoTimeOut) : Answered tasks state := by
  obtain ⟨code, returned⟩ := Option.isSome_iff_exists.mp idle.returned
  rcases told.listened quiet.mgr with ⟨results, present, errors⟩ | ⟨other, failed, same, results, gone⟩
  · have called : state.dispatcher.completedCalls ≠ [] := by
      by_cases ok : code = errOk
      · exact told.called accepted idle quiet (ok ▸ returned)
      · exact errors code returned ok
    obtain ⟨result, only, complete, failed⟩ := told.sound.one_call called
    have listener : state.mgr.listenerResults = [completedResult result] := by
      rw [results, only, map_cons, map_nil]
    exact
      { listener := ⟨_, listener⟩
        removed := mt present.mpr called
        completed := fun _ => ⟨result, only, listener, complete, failed⟩
        failed := fun _ _ _ => .inl results }
  · exact
      { listener := ⟨_, results⟩
        removed := gone
        completed := fun ok => absurd (some.inj (same.symm.trans ok)) failed
        failed := fun code again _ => by
          obtain rfl : other = code := some.inj (same.symm.trans again)
          exact .inr results }

end ManagerRun

/-- A manager whose Prepare accepts the tasks answers its caller, whatever the order of the
results. -/
theorem startup_answered {tasks : StartupMap} {sortResult : StartupSortResult}
    {mgr : StartupTaskManager} (accepted : (mgr.prepare tasks).2 = .ok sortResult)
    (config : mgr.config = true) (unused : mgr.listenerResults = [])
    (present : mgr.startupTaskManagerId ∈ mgr.startupTaskManagerMap) (timer : Bool)
    (mainThreadAwaitCallback : Option Bool) (taskState : String -> TaskState)
    (taskResult : String -> Option StartupTaskResult) {actions : List ManagerAction}
    (reports : (startupTaskManager tasks sortResult mgr timer mainThreadAwaitCallback taskState
      taskResult).EveryStep actions Reports)
    (idle : ((startupTaskManager tasks sortResult mgr timer mainThreadAwaitCallback taskState
      taskResult).run actions).Idle)
    (quiet : ((startupTaskManager tasks sortResult mgr timer mainThreadAwaitCallback taskState
      taskResult).run actions).NoTimeOut) :
    ((startupTaskManager tasks sortResult mgr timer mainThreadAwaitCallback taskState
      taskResult).run actions).Answered tasks := by
  unfold prepare at accepted
  split at accepted
  · cases accepted
  next result sorted =>
    split at accepted
    · cases accepted
    next some =>
      obtain rfl : result = sortResult := by simpa using accepted
      have start := run_told sorted (by simpa using some) config unused present timer
        mainThreadAwaitCallback taskState taskResult
      have told := reports.throughout start fun _ _ before step =>
        before.step (sort_sorted sorted) (sort_listed sorted) step
      exact (told actions [] (by simp)).answered sorted idle quiet

def firstManager : StartupTaskManager where
  startupTaskManagerId := 0
  config := true
  startupTaskManagerMap := [0]

def loggerManager : Library.Machine ManagerRun ManagerAction :=
  startupTaskManager loggerFirst loggerFirstSorted firstManager true (some true) (fun _ => .created)
    fun _ => none

def networkFails : List ManagerAction :=
  [.dispatch (.advance 0 ⟨.later, errOk⟩), .dispatch (.advance 0 ⟨.never, errOk⟩), .returnRun,
    .dispatch (.arrive 1 0 (some { }))] ++
  List.replicate 5 (.dispatch (.advance 1
    ⟨.now (some ⟨errStartupFailedToExecuteStartup, "no route"⟩), errStartupFailedToExecuteStartup⟩))

theorem startup_answered_loggerFirst :
    (loggerManager.run networkFails).Answered loggerFirst ∧
      (loggerManager.run networkFails).mgr.listenerResults =
        [⟨errStartupFailedToExecuteStartup, "network: no route"⟩] := by
  have steps : loggerManager.StepsFrom Reports loggerManager.start networkFails := by decide
  have accepted : (firstManager.prepare loggerFirst).2 = .ok loggerFirstSorted := rfl
  refine ⟨startup_answered accepted rfl rfl (by decide) _ _ _ _ steps.everyStep ?_ ?_, by decide⟩
  · exact ⟨by decide, by decide, by decide, by decide⟩
  · exact ⟨by decide, by decide⟩

def loggerRefused : List ManagerAction :=
  [.dispatch (.advance 0 ⟨.never, errStartupFailedToExecuteStartup⟩), .returnRun]

def networkRefused : List ManagerAction :=
  [.dispatch (.advance 0 ⟨.later, errOk⟩), .dispatch (.advance 0 ⟨.never, errOk⟩), .returnRun,
    .dispatch (.arrive 1 0 (some { }))] ++
  List.replicate 5 (.dispatch (.advance 1 ⟨.never, errStartupFailedToExecuteStartup⟩))

theorem completion_callback_not_called :
    (firstManager.prepare loggerFirst).2 = .ok loggerFirstSorted ∧
    ((loggerManager.run loggerRefused).Idle ∧ (loggerManager.run loggerRefused).NoTimeOut ∧
      (loggerManager.run loggerRefused).dispatcher.completedCalls = []) ∧
    (loggerManager.run networkRefused).Idle ∧ (loggerManager.run networkRefused).NoTimeOut ∧
      (loggerManager.run networkRefused).dispatcher.completedCalls = [] ∧
      (loggerManager.run networkRefused).mgr = firstManager := by
  refine ⟨rfl, ⟨?_, ?_, by decide⟩, ?_, ?_, by decide, by decide⟩
  · exact ⟨by decide, by decide, by decide, by decide⟩
  · exact ⟨by decide, by decide⟩
  · exact ⟨by decide, by decide, by decide, by decide⟩
  · exact ⟨by decide, by decide⟩

end AbilityRuntime.Startup
