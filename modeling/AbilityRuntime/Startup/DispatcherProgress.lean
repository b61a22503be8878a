import AbilityRuntime.Startup.SortOrder
import AbilityRuntime.Startup.StartupTaskManager

set_option autoImplicit false

namespace AbilityRuntime.Startup

open Startup.Frame StartupMap Dispatcher OnCompletedCallback List

def Failing : Option StartupTaskResult -> Prop
  | none => True
  | some result => result.resultCode ≠ errOk

instance : DecidablePred Failing
  | none => isTrue trivial
  | some result => inferInstanceAs (Decidable (result.resultCode ≠ errOk))

def Reply.Fails : Reply -> Prop
  | .now result => Failing result
  | .later | .never => False

instance : DecidablePred Reply.Fails
  | .now result => inferInstanceAs (Decidable (Failing result))
  | .later | .never => isFalse id

namespace Frame

def Fails : Frame -> Prop
  | .dispatch _ result => Failing result
  | .run _ | .notify _ _ _ _ | .start _ _ _ | .await _ _ | .settle _ _ => False

def untold : Frame -> List String
  | .notify _ _ children _ => children
  | .run _ | .dispatch _ _ | .start _ _ _ | .await _ _ | .settle _ _ => []

end Frame

namespace Dispatcher

def cared (disp : Dispatcher) (frames : List Frame) (name : String) : Nat :=
  tally queued frames name + tally dispatching frames name +
    (disp.kept.map KeptCallback.name).count name + disp.history.dispatched.count name +
    disp.history.started.count name

/-- Nothing is forgotten as long as no error stops the tasks: the bounds of the invariant from
the other side. -/
structure Progress (tasks : StartupMap) (sortResult : StartupSortResult) (disp : Dispatcher)
    (frames : List Frame) : Prop where
  reached : ∀ name, Released tasks disp.history name -> 0 < disp.cared frames name
  working : ∀ name ∈ disp.history.dispatched,
    0 < tally working frames name + disp.history.settled.count name
  budget : ∀ name task, tasks.find name = some task -> ∀ parent,
    task.dependencies.count parent ≤
      (disp.history.notified name).count parent + tally (owed parent) frames name +
        (if parent ∈ disp.history.dispatched then 0 else (sortResult.children parent).count name)
  left : disp.history.settled.length < tasks.tasks.length

def Stopped (disp : Dispatcher) (frames : List Frame) : Prop :=
  disp.isCalled = true ∨ ∃ frame ∈ frames, frame.Fails

def Goes (tasks : StartupMap) (sortResult : StartupSortResult) (disp : Dispatcher)
    (frames : List Frame) : Prop :=
  disp.Stopped frames ∨ Progress tasks sortResult disp frames

def Reported (disp : Dispatcher) (name : String) (answer : InitAnswer) : Prop :=
  (disp.runTaskInit name answer).2.2 = errOk ∨ (disp.taskState name = .created ∧ answer.reply.Fails)
deriving Decidable

variable {tasks : StartupMap} {sortResult : StartupSortResult} {disp : Dispatcher}
  {frames others : List Frame}

open Progress Option List

theorem Progress.reframe (progress : Progress tasks sortResult disp frames)
    (cared : ∀ name, disp.cared frames name ≤ disp.cared others name)
    (working : ∀ name, tally Frame.working frames name ≤ tally Frame.working others name)
    (owed : ∀ parent name, tally (owed parent) frames name ≤ tally (owed parent) others name) :
    Progress tasks sortResult disp others where
  reached name released := Nat.lt_of_lt_of_le (progress.reached name released) (cared name)
  working name mem := by
    have := progress.working name mem
    have := working name
    omega
  budget name task found parent := by
    have := progress.budget name task found parent
    have := owed parent name
    omega
  left := progress.left

theorem Progress.perm (progress : Progress tasks sortResult disp frames) (same : frames.Perm others) :
    Progress tasks sortResult disp others := by
  have equal (role : Frame -> List String) (name : String) :
      tally role frames name = tally role others name := tally_perm role same name
  refine progress.reframe ?_ ?_ ?_
  · exact fun name => by simp only [Dispatcher.cared, equal]; exact Nat.le_refl _
  · exact fun name => Nat.le_of_eq (equal _ name)
  · exact fun parent name => Nat.le_of_eq (equal _ name)

variable {frame : Frame}

theorem Progress.replace (progress : Progress tasks sortResult disp (frame :: others))
    (next : List Frame) (queued : next.flatMap queued = frame.queued)
    (dispatching : next.flatMap dispatching = frame.dispatching)
    (working : next.flatMap Frame.working = frame.working)
    (owed : ∀ parent, next.flatMap (Frame.owed parent) = frame.owed parent) :
    Progress tasks sortResult disp (next ++ others) := by
  have same {role : Frame -> List String} (equal : next.flatMap role = role frame) (name : String) :
      tally role (frame :: others) name = tally role (next ++ others) name := by
    simp [tally, equal]
  refine progress.reframe ?_ ?_ ?_
  · intro name
    simp only [cared, same queued, same dispatching]
    exact Nat.le_refl _
  · exact fun name => Nat.le_of_eq (same working name)
  · exact fun parent name => Nat.le_of_eq (same (owed parent) name)

theorem Progress.changeTask (progress : Progress tasks sortResult disp frames)
    (taskState : String -> TaskState) (taskResult : String -> Option StartupTaskResult) :
    Progress tasks sortResult { disp with taskState := taskState, taskResult := taskResult } frames :=
  { progress with }

theorem Progress.saveResult (progress : Progress tasks sortResult disp frames) (name : String)
    (result : Option StartupTaskResult) :
    Progress tasks sortResult (disp.saveResult name result) frames := by
  cases result with
  | none => exact progress
  | some saved => exact progress.changeTask _ _

variable {name : String}

theorem Progress.take (progress : Progress tasks sortResult disp (.run [name] :: others))
    {started : List String} {kept : List KeptCallback} {frames : List Frame} (cared : ∀ other,
      (cared { disp with
        kept := kept
        history := { disp.history with started := started } } (frames ++ others) other) ≥
        disp.cared (.run [name] :: others) other)
    (quiet : ∀ frame ∈ frames, frame.working = [] ∧ ∀ parent, frame.owed parent = []) :
    Progress tasks sortResult
      { disp with kept := kept, history := { disp.history with started := started } }
      (frames ++ others) := by
  have none {role : Frame -> List String} (empty : ∀ frame ∈ frames, role frame = [])
      (other : String) : tally role (frames ++ others) other = tally role others other := by
    simp [tally, flatMap_eq_nil_iff.mpr empty]
  have noWork (other : String) : tally Frame.working (frames ++ others) other =
      tally Frame.working others other := none (fun frame mem => (quiet frame mem).1) other
  have noDebt (parent other : String) : tally (Frame.owed parent) (frames ++ others) other =
      tally (owed parent) others other :=
    none (fun frame mem => (quiet frame mem).2 parent) other
  exact
    { reached := fun other released => Nat.lt_of_lt_of_le (progress.reached other released) (cared other)
      working := fun other mem => by
        rw [noWork]
        simpa [Frame.working] using progress.working other mem
      budget := fun child task found parent => by
        rw [noDebt]
        simpa [owed] using progress.budget child task found parent
      left := progress.left }

theorem runTaskInit_progress (progress : Progress tasks sortResult disp (.run [name] :: others))
    (answer : InitAnswer) (valid : disp.taskState name ≠ .invalid) :
    Progress tasks sortResult (disp.runTaskInit name answer).1
      ((disp.runTaskInit name answer).2.1 ++ others) := by
  have dispatching (result : Option StartupTaskResult) (frame : Frame)
      (mem : frame ∈ [Frame.dispatch name result]) :
      frame.working = [] ∧ ∀ parent, frame.owed parent = [] := by
    obtain rfl := mem_singleton.mp mem
    exact ⟨rfl, fun _ => rfl⟩
  have counts (kept : List KeptCallback) (started : List String) (frames : List Frame)
      (more : ∀ other, [name].count other + (disp.kept.map KeptCallback.name).count other +
        disp.history.started.count other ≤
          tally Frame.queued frames other + tally Frame.dispatching frames other +
            (kept.map KeptCallback.name).count other + started.count other) (other : String) :
      (Dispatcher.cared { disp with
        kept := kept
        history := { disp.history with started := started } } (frames ++ others) other) ≥
        disp.cared (.run [name] :: others) other := by
    have := more other
    simp only [cared, tally, flatMap_append, flatMap_cons, count_append,
      Frame.queued, Frame.dispatching, count_nil] at this ⊢
    omega
  unfold runTaskInit
  split
  · cases answer.reply with
    | now result =>
      have taken := progress.take (counts disp.kept (disp.history.started ++ [name])
        [.dispatch name result] (by simp [Frame.queued, Frame.dispatching])) (dispatching result)
      exact (taken.changeTask _ _).saveResult name result
    | later =>
      have taken := progress.take (counts (disp.kept ++ [⟨name, true⟩])
        (disp.history.started ++ [name]) [] (by simp; omega)) (by simp)
      exact taken.changeTask _ _
    | never =>
      have taken := progress.take (counts disp.kept (disp.history.started ++ [name]) []
        (by simp; omega)) (by simp)
      exact taken.changeTask _ _
  · exact progress.take (counts disp.kept disp.history.started
      [.dispatch name (disp.taskResult name)] (by simp [Frame.queued, Frame.dispatching]))
      (dispatching _)
  · exact progress.take (counts (disp.kept ++ [⟨name, false⟩]) disp.history.started []
      (by simp; omega)) (by simp)
  next invalid => exact absurd invalid valid

theorem startNext_stopped {rest : Frame} {answer : InitAnswer}
    (running : disp.isTimeoutStopped = false) (refused : (disp.runTaskInit name answer).2.2 ≠ errOk)
    (reported : disp.Reported name answer) :
    (disp.startNext name answer rest).1.Stopped ((disp.startNext name answer rest).2 ++ others) := by
  obtain ⟨created, fails⟩ := reported.resolve_left refused
  cases reply : answer.reply with
  | now result =>
    rw [reply] at fails
    refine .inr ⟨.dispatch name result, ?_, fails⟩
    simp [startNext, running, runTaskInit, created, reply]
  | later | never =>
    rw [reply] at fails
    cases fails

theorem startNext_goes {rest : Frame}
    (progress : Progress tasks sortResult disp (.run [name] :: rest :: others))
    {answer : InitAnswer} (running : disp.isTimeoutStopped = false)
    (reported : disp.Reported name answer) :
    Goes tasks sortResult (disp.startNext name answer rest).1
      ((disp.startNext name answer rest).2 ++ others) := by
  by_cases ok : (disp.runTaskInit name answer).2.2 = errOk
  · have valid : disp.taskState name ≠ .invalid := by
      intro invalid
      simp only [runTaskInit, invalid] at ok
      exact internalError_ne_ok ok
    have ran := runTaskInit_progress progress answer valid
    refine .inr ?_
    simpa [startNext, running, ok] using ran
  · exact .inl (startNext_stopped running ok reported)

def Ready (disp : Dispatcher) : Prop :=
  ∃ callback, disp.completedCallback = some callback ∧ callback.callbackFunc = true ∧
    (callback.isCalled = true ↔ callback.calledWith ≠ [])

variable {result : StartupTaskResult}

theorem isCalled_of_call (ready : disp.Ready) {after : Dispatcher}
    (called : after.completedCallback = disp.completedCallback.map fun callback => callback.call result) :
    after.isCalled = true := by
  obtain ⟨callback, present, function, -⟩ := ready
  simp only [isCalled, called, present, map_some, any_some, call,
    function, Bool.not_true, Bool.false_eq_true, if_false]
  split
  next called => exact called
  · rfl

theorem Progress.completed {children : List String}
    (progress : Progress tasks sortResult disp (.dispatch name (some result) :: others))
    (inv : Invariant tasks sortResult disp (.dispatch name (some result) :: others))
    (found : sortResult.startupChildrenMap name = some children) {completed : List String} :
    Progress tasks sortResult
      { disp with
        history := { disp.history with
          dispatched := disp.history.dispatched ++ [name]
          completed := completed } }
      (.notify name result children [] :: others) where
  reached other released := by
    have := progress.reached other released
    simp only [cared, tally_cons, Frame.queued, Frame.dispatching, count_nil,
      count_append] at this ⊢
    omega
  working other mem := by
    rcases mem_append.mp mem with earlier | last
    · have := progress.working other earlier
      simp only [tally_cons, Frame.working, count_nil] at this ⊢
      omega
    · obtain rfl := mem_singleton.mp last
      simp only [tally_cons, Frame.working, count_singleton_self]
      omega
  budget child task known parent := by
    have fresh : name ∉ disp.history.dispatched := by
      have := inv.once name
      simp only [tally_cons, Frame.dispatching, count_singleton_self] at this
      exact count_eq_zero.mp (by omega)
    have before := progress.budget child task known parent
    simp only [tally_cons, Frame.owed, count_nil, mem_append, mem_singleton] at before ⊢
    by_cases same : name = parent
    · subst same
      rw [if_neg fresh] at before
      simp only [StartupSortResult.children, found, getD_some] at before
      simp only [if_true, or_true]
      omega
    · simp only [same, Ne.symm same, or_false, if_false, count_nil]
      omega
  left := progress.left

theorem dispatch_goes {result : Option StartupTaskResult}
    (inv : Invariant tasks sortResult disp (.dispatch name result :: others))
    (progress : Progress tasks sortResult disp (.dispatch name result :: others))
    (ready : disp.Ready)
    (listed : ∀ name ∈ tasks.names, (sortResult.startupChildrenMap name).isSome) :
    Goes tasks sortResult (disp.dispatch tasks sortResult name result).1
      ((disp.dispatch tasks sortResult name result).2 ++ others) := by
  obtain ⟨task, found⟩ := inv.dispatching_known
  obtain ⟨children, entry⟩ := isSome_iff_exists.mp (listed name (StartupMap.mem_names found))
  unfold dispatch
  cases result with
  | none => exact .inl (.inl (isCalled_of_call ready rfl))
  | some result =>
    simp only
    split
    · exact .inl (.inl (isCalled_of_call ready rfl))
    · simp only [found, entry]
      exact .inr (progress.completed inv entry)

theorem Progress.lower {child : String} {rest zeroInDegree : List String} {task : StartupTask}
    (progress : Progress tasks sortResult disp
      (.notify name result (child :: rest) zeroInDegree :: others))
    (found : tasks.find child = some task) {inDegreeMap : String → Option Int} {queue : List String}
    (kept : zeroInDegree ⊆ queue)
    (queued : (disp.history.notified child ++ [name]).Perm task.dependencies -> child ∈ queue) :
    Progress tasks sortResult
      { disp with
        inDegreeMap := inDegreeMap
        history := { disp.history with
          notified := Function.update disp.history.notified child
            (disp.history.notified child ++ [name]) } }
      (.notify name result rest queue :: others) where
  reached other released := by
    by_cases same : other = child
    · subst same
      obtain ⟨again, foundAgain, complete⟩ := released
      obtain rfl : task = again := Option.some.inj (found.symm.trans foundAgain)
      have queued := count_pos_iff.mpr (queued (by simpa using complete))
      simp only [cared, tally_cons, Frame.queued]
      omega
    · obtain ⟨task, known, complete⟩ := released
      have before := progress.reached other
        ⟨task, known, by simpa [Function.update_of_ne same] using complete⟩
      have more : 0 < zeroInDegree.count other -> 0 < queue.count other := fun some =>
        count_pos_iff.mpr (kept (count_pos_iff.mp some))
      simp only [cared, tally_cons, Frame.queued, Frame.dispatching] at before ⊢
      omega
  __ := progress
  budget other task known parent := by
    have room := progress.budget other task known parent
    have moved := notified_add_owed disp.history.notified name child result rest zeroInDegree queue
      parent other
    simp only [tally_cons] at room ⊢
    omega

theorem notifyChild_goes {child : String} {rest zeroInDegree : List String}
    (inv : Invariant tasks sortResult disp (.notify name result (child :: rest) zeroInDegree :: others))
    (progress : Progress tasks sortResult disp
      (.notify name result (child :: rest) zeroInDegree :: others))
    (known : ∃ task, tasks.find child = some task) :
    Goes tasks sortResult (disp.notifyChild tasks name result child rest zeroInDegree).1
      ((disp.notifyChild tasks name result child rest zeroInDegree).2 ++ others) := by
  obtain ⟨task, found⟩ := known
  have degree := inv.degree child
  rw [found, map_some] at degree
  simp only [notifyChild, degree, found]
  refine .inr (progress.lower found ?_ fun complete => ?_)
  · split
    · exact subset_append_left _ _
    · exact List.Subset.refl _
  · have length := complete.length_eq
    rw [length_append, length_singleton] at length
    rw [if_pos (by omega)]
    exact mem_append_right _ mem_cons_self

theorem countTask_goes (inv : Invariant tasks sortResult disp (.settle name result :: others))
    (progress : Progress tasks sortResult disp (.settle name result :: others))
    (ready : disp.Ready) :
    Goes tasks sortResult (disp.countTask name result).1
      ((disp.countTask name result).2 ++ others) := by
  by_cases last : disp.tasksCount = 1
  · have called : (disp.countTask name result).1.completedCallback =
        disp.completedCallback.map fun callback => callback.call result := by
      simp [countTask, last]
    exact .inl (.inl (isCalled_of_call ready called))
  · refine .inr { progress with working := fun other mem => ?_, left := ?_ }
    · have := progress.working other mem
      simp only [tally_cons, Frame.working, countTask, count_append, nil_append] at this ⊢
      omega
    · have := inv.tasksCount
      have := progress.left
      simp only [countTask, length_append, length_singleton]
      omega

@[simp] theorem saveResult_completedCallback (name : String) (result : Option StartupTaskResult) :
    (disp.saveResult name result).completedCallback = disp.completedCallback := by
  cases result <;> rfl

@[simp] theorem startNext_completedCallback (name : String) (answer : InitAnswer) (rest : Frame) :
    (disp.startNext name answer rest).1.completedCallback = disp.completedCallback := by
  unfold startNext
  split
  · rfl
  · unfold runTaskInit
    cases disp.taskState name <;> cases answer.reply <;> simp

def Calls (before after : Dispatcher) (cause : Option (String × StartupTaskResult)) : Prop :=
  after.completedCallback = before.completedCallback ∨
    ∃ result, after.completedCallback =
        (before.completedCallback.map fun callback => callback.call result) ∧
      (result.resultCode = errOk ∨ ∃ name, cause = some (name, result))

theorem stepFrame_calls (inv : Invariant tasks sortResult disp (frame :: others))
    (listed : ∀ name ∈ tasks.names, (sortResult.startupChildrenMap name).isSome)
    (known : ∀ child ∈ frame.untold, ∃ task, tasks.find child = some task) (answer : InitAnswer) :
    disp.Calls (disp.stepFrame tasks sortResult answer frame).1 (failure (frame, answer)) := by
  cases frame with
  | run names =>
    cases names with
    | nil => exact .inl rfl
    | cons name rest =>
      simp only [stepFrame]
      split
      · exact .inl rfl
      · exact .inl (startNext_completedCallback ..)
  | dispatch name result =>
    obtain ⟨task, found⟩ := inv.dispatching_known
    obtain ⟨children, entry⟩ := isSome_iff_exists.mp (listed name (mem_names found))
    cases result with
    | none => exact .inr ⟨_, rfl, .inr ⟨name, rfl⟩⟩
    | some result =>
      by_cases ok : result.resultCode = errOk
      · refine .inl ?_
        simp [stepFrame, dispatch, ok, found, entry]
      · refine .inr ⟨{ result with resultMessage := name ++ ": " ++ result.resultMessage }, ?_,
          .inr ⟨name, by simp [failure, ok]⟩⟩
        simp [stepFrame, dispatch, ok, onError]
  | notify name result children zeroInDegree =>
    cases children with
    | nil => exact .inl rfl
    | cons child rest =>
      obtain ⟨task, found⟩ := known child mem_cons_self
      have degree := inv.degree child
      refine .inl ?_
      simp [stepFrame, notifyChild, degree, found]
  | start name result zeroInDegree =>
    cases zeroInDegree with
    | nil => exact .inl rfl
    | cons child rest => exact .inl (startNext_completedCallback ..)
  | await name result =>
    refine .inl ?_
    simp only [stepFrame, countAwait]
    split <;> rfl
  | settle name result =>
    have ok : result.resultCode = errOk := inv.succeeded _ mem_cons_self
    simp only [stepFrame, countTask, Calls]
    split
    · exact .inr ⟨result, rfl, .inl ok⟩
    · exact .inl rfl

theorem Calls.isCalled {after : Dispatcher} {cause : Option (String × StartupTaskResult)}
    (calls : disp.Calls after cause) (called : disp.isCalled = true) : after.isCalled = true := by
  rcases calls with same | ⟨result, more, -⟩
  · rw [Dispatcher.isCalled, same]; exact called
  · rw [Dispatcher.isCalled] at called ⊢
    rw [more]
    cases present : disp.completedCallback with
    | none => rw [present] at called; cases called
    | some callback =>
      rw [present, any_some] at called
      simp [call, called]

def GoesOn (disp : Dispatcher) (answer : InitAnswer) : Frame -> Prop
  | .run (name :: _) | .start _ _ (name :: _) =>
    disp.isTimeoutStopped = false ∧ disp.Reported name answer
  | .run [] | .dispatch _ _ | .notify _ _ _ _ | .start _ _ [] | .await _ _ | .settle _ _ => True

theorem stepFrame_stopped (inv : Invariant tasks sortResult disp (frame :: others))
    (stopped : disp.Stopped (frame :: others)) (ready : disp.Ready)
    (listed : ∀ name ∈ tasks.names, (sortResult.startupChildrenMap name).isSome)
    (known : ∀ child ∈ frame.untold, ∃ task, tasks.find child = some task) (answer : InitAnswer) :
    (disp.stepFrame tasks sortResult answer frame).1.Stopped
      ((disp.stepFrame tasks sortResult answer frame).2 ++ others) := by
  rcases stopped with called | ⟨failed, mem, fails⟩
  · exact .inl ((stepFrame_calls inv listed known answer).isCalled called)
  · rcases mem_cons.mp mem with rfl | other
    · -- The failure is handed over now.
      cases failed with
      | dispatch name result =>
        cases result with
        | none => exact .inl (isCalled_of_call ready rfl)
        | some result =>
          have failed : result.resultCode ≠ errOk := fails
          refine .inl ?_
          simp only [stepFrame, dispatch, ne_eq, failed, not_false_eq_true, if_true]
          exact isCalled_of_call ready rfl
      | run | notify | start | await | settle => cases fails
    · exact .inr ⟨failed, mem_append_right _ other, fails⟩

theorem stepFrame_goes (inv : Invariant tasks sortResult disp (frame :: others))
    (progress : Progress tasks sortResult disp (frame :: others)) (ready : disp.Ready)
    (listed : ∀ name ∈ tasks.names, (sortResult.startupChildrenMap name).isSome)
    (known : ∀ child ∈ frame.untold, ∃ task, tasks.find child = some task) {answer : InitAnswer}
    (goesOn : disp.GoesOn answer frame) :
    Goes tasks sortResult (disp.stepFrame tasks sortResult answer frame).1
      ((disp.stepFrame tasks sortResult answer frame).2 ++ others) := by
  cases frame with
  | run names =>
    cases names with
    | nil => exact .inr (progress.replace [] rfl rfl rfl fun _ => rfl)
    | cons name rest =>
      obtain ⟨task, found⟩ := inv.queued_known
      simp only [stepFrame, found]
      refine startNext_goes ?_ goesOn.1 goesOn.2
      exact progress.replace [.run [name], .run rest] (by simp [Frame.queued]) rfl rfl fun _ => rfl
  | dispatch name result => exact dispatch_goes inv progress ready listed
  | notify name result children zeroInDegree =>
    cases children with
    | nil =>
      exact .inr (progress.replace [.start name result zeroInDegree] (by simp [Frame.queued]) rfl rfl
        (by simp [Frame.owed]))
    | cons child rest => exact notifyChild_goes inv progress (known child mem_cons_self)
  | start name result zeroInDegree =>
    cases zeroInDegree with
    | nil => exact .inr (progress.replace [.await name result] rfl rfl rfl fun _ => rfl)
    | cons child rest =>
      refine startNext_goes ?_ goesOn.1 goesOn.2
      exact progress.replace [.run [child], .start name result rest] (by simp [Frame.queued]) rfl
        (by simp [Frame.working]) fun _ => rfl
  | await name result =>
    have settle := progress.replace [.settle name result] rfl rfl rfl fun _ => rfl
    simp only [stepFrame, countAwait]
    split
    · exact .inr { settle with }
    · exact .inr settle
  | settle name result => exact countTask_goes inv progress ready

theorem Stopped.perm (stopped : disp.Stopped frames) (same : frames.Perm others) :
    disp.Stopped others := by
  rcases stopped with called | ⟨frame, mem, fails⟩
  · exact .inl called
  · exact .inr ⟨frame, same.mem_iff.mp mem, fails⟩

theorem Progress.unkeep (progress : Progress tasks sortResult disp frames) {callback : Nat}
    {waiting : KeptCallback} (found : disp.kept[callback]? = some waiting)
    (result : Option StartupTaskResult) :
    Progress tasks sortResult { disp with kept := disp.kept.eraseIdx callback }
      (.dispatch waiting.name result :: frames) where
  reached name released := by
    have before := progress.reached name released
    obtain ⟨bound, rfl⟩ := List.getElem?_eq_some_iff.mp found
    have moved := ((List.getElem_cons_eraseIdx_perm bound).map KeptCallback.name).count_eq name
    rw [map_cons, count_cons] at moved
    simp only [cared, tally_cons, queued, dispatching, count_nil, count_singleton] at before ⊢
    omega
  working name mem := by
    simpa [Frame.working] using progress.working name mem
  budget name task known parent := by
    simpa [owed] using progress.budget name task known parent
  left := progress.left

theorem Progress.not_idle (progress : Progress tasks sortResult disp [])
    (inv : Invariant tasks sortResult disp []) (accepted : sort tasks = .ok sortResult)
    (kept : disp.kept = [])
    (ended : ∀ name ∈ disp.history.started, name ∈ disp.history.dispatched) : False := by
  have settled (name : String) (mem : name ∈ disp.history.dispatched) :
      name ∈ disp.history.settled := by
    have := progress.working name mem
    exact count_pos_iff.mp (by simpa using this)
  have dispatched (name : String) (released : Released tasks disp.history name) :
      name ∈ disp.history.dispatched := by
    have some := progress.reached name released
    simp only [cared, tally_nil, kept, map_nil, count_nil, Nat.zero_add] at some
    by_contra none
    have never : name ∉ disp.history.started := fun mem => none (ended name mem)
    rw [count_eq_zero.mpr none, count_eq_zero.mpr never] at some
    omega
  have closed : ∀ task ∈ tasks.tasks,
      (∀ dependency ∈ task.dependencies, dependency ∈ disp.history.dispatched) ->
        task.name ∈ disp.history.dispatched := by
    intro task mem before
    have found := find_name mem
    refine dispatched task.name ⟨task, found, perm_iff_count.mpr fun parent => ?_⟩
    have upper := inv.budget task.name task found parent
    have lower := progress.budget task.name task found parent
    rw [tally_nil] at upper lower
    by_cases needed : parent ∈ task.dependencies
    · rw [if_pos (before parent needed)] at upper lower
      omega
    · rw [count_eq_zero.mpr needed] at upper lower ⊢
      omega
  have all : tasks.names.Subperm disp.history.settled := by
    refine subperm_of_subset tasks.distinct fun name mem => ?_
    exact settled name (sort_induction accepted closed name mem).1
  have longer := all.length_le
  rw [names, length_map] at longer
  have := progress.left
  omega

end Dispatcher

end AbilityRuntime.Startup
