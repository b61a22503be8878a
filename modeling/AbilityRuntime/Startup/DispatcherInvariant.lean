import Mathlib.Data.List.Perm.Subperm
import AbilityRuntime.Startup.Dispatcher

set_option autoImplicit false

namespace AbilityRuntime.Startup

open Function Startup.Frame List OnCompletedCallback KeptCallback Option

namespace Frame

def queued : Frame -> List String
  | .run names => names
  | .notify _ _ _ zeroInDegree | .start _ _ zeroInDegree => zeroInDegree
  | .dispatch _ _ | .await _ _ | .settle _ _ => []

def dispatching : Frame -> List String
  | .dispatch name _ => [name]
  | .run _ | .notify _ _ _ _ | .start _ _ _ | .await _ _ | .settle _ _ => []

def working : Frame -> List String
  | .notify name _ _ _ | .start name _ _ | .await name _ | .settle name _ => [name]
  | .run _ | .dispatch _ _ => []

def settling : Frame -> List String
  | .settle name _ => [name]
  | .run _ | .dispatch _ _ | .notify _ _ _ _ | .start _ _ _ | .await _ _ => []

def owed (parent : String) : Frame -> List String
  | .notify name _ children _ => if name = parent then children else []
  | .run _ | .dispatch _ _ | .start _ _ _ | .await _ _ | .settle _ _ => []

def Succeeded : Frame -> Prop
  | .notify _ result _ _ | .start _ result _ | .await _ result | .settle _ result =>
    result.resultCode = errOk
  | .run _ | .dispatch _ _ => True

end Frame

def tally (role : Frame -> List String) (frames : List Frame) (name : String) : Nat :=
  (frames.flatMap role).count name

@[simp] theorem tally_nil (role : Frame -> List String) (name : String) : tally role [] name = 0 :=
  rfl

@[simp] theorem tally_cons (role : Frame -> List String) (frame : Frame) (frames : List Frame)
    (name : String) :
    tally role (frame :: frames) name = (role frame).count name + tally role frames name := by
  simp [tally]

theorem tally_perm (role : Frame -> List String) {frames other : List Frame}
    (same : frames.Perm other) (name : String) : tally role frames name = tally role other name :=
  (same.flatMap_right role).count_eq name

def OnCompletedCallback.Fits (callback : OnCompletedCallback) : Prop :=
  callback.calledWith.length ≤ 1 ∧ (callback.isCalled = false -> callback.calledWith = [])

theorem OnCompletedCallback.Fits.call {callback : OnCompletedCallback} (fits : callback.Fits)
    (result : StartupTaskResult) : (callback.call result).Fits := by
  unfold OnCompletedCallback.call
  split_ifs with noFunc called
  · exact fits
  · exact fits
  · simp [Fits, fits.2 (by simpa using called)]

theorem OnCompletedCallback.mem_call {callback : OnCompletedCallback} {result called : StartupTaskResult}
    (mem : called ∈ (callback.call result).calledWith) :
    called ∈ callback.calledWith ∨ called = result := by
  unfold call at mem
  split_ifs at mem
  · exact .inl mem
  · exact .inl mem
  · simpa using mem

theorem internalError_ne_ok : errStartupInternalError ≠ errOk := by decide

namespace Dispatcher

def Released (tasks : StartupMap) (history : History) (name : String) : Prop :=
  ∃ task, tasks.find name = some task ∧ (history.notified name).Perm task.dependencies

def waits (tasks : StartupMap) (name : String) : Bool :=
  (tasks.find name).any fun task => task.waitOnMainThread

structure Invariant (tasks : StartupMap) (sortResult : StartupSortResult) (disp : Dispatcher)
    (frames : List Frame) : Prop where
  once : ∀ name, tally queued frames name + tally dispatching frames name +
    (disp.kept.map KeptCallback.name).count name + disp.history.dispatched.count name ≤ 1
  startedOnce : ∀ name, tally Frame.queued frames name + disp.history.started.count name ≤ 1
  released : ∀ name, 0 < tally queued frames name + tally dispatching frames name +
      (disp.kept.map KeptCallback.name).count name + disp.history.dispatched.count name +
      disp.history.started.count name ->
    Released tasks disp.history name
  degree : ∀ name, disp.inDegreeMap name = (tasks.find name).map fun task =>
    (task.dependencies.length : Int) - (disp.history.notified name).length
  budget : ∀ name task, tasks.find name = some task -> ∀ parent,
    (disp.history.notified name).count parent + tally (owed parent) frames name +
      (if parent ∈ disp.history.dispatched then 0 else (sortResult.children parent).count name) ≤
        task.dependencies.count parent
  notified : ∀ name, ∀ parent ∈ disp.history.notified name, parent ∈ disp.history.completed
  workedOnce : ∀ name, tally working frames name + disp.history.settled.count name ≤ 1
  worked : ∀ name, 0 < tally working frames name + disp.history.settled.count name ->
    name ∈ disp.history.dispatched ∧ name ∈ disp.history.completed ∧ name ∈ tasks.names
  succeeded : ∀ frame ∈ frames, frame.Succeeded
  tasksCount : disp.tasksCount = (tasks.tasks.length : Int) - disp.history.settled.length
  awaitCount : disp.mainThreadAwaitCount =
    ((tasks.tasks.filter fun task => task.waitOnMainThread).length : Int) -
      (((frames.flatMap settling) ++ disp.history.settled).filter (waits tasks)).length
  completedCallback : ∀ callback, disp.completedCallback = some callback -> callback.Fits ∧
    ∀ result ∈ callback.calledWith, result.resultCode = errOk ->
      ∀ name ∈ tasks.names, name ∈ disp.history.completed
  awaitCallback : ∀ callback, disp.mainThreadAwaitCallback = some callback -> callback.Fits

variable {tasks : StartupMap} {sortResult : StartupSortResult} {disp : Dispatcher}
  {frames others : List Frame}

variable {name : String}

theorem Invariant.dispatching_known {result : Option StartupTaskResult}
    (inv : Invariant tasks sortResult disp (.dispatch name result :: others)) :
    ∃ task, tasks.find name = some task := by
  obtain ⟨task, found, -⟩ := inv.released name (by
    rw [tally_cons dispatching, dispatching, count_singleton_self]
    omega)
  exact ⟨task, found⟩

variable {rest : List String}

theorem Invariant.queued_known
    (inv : Invariant tasks sortResult disp (.run (name :: rest) :: others)) :
    ∃ task, tasks.find name = some task := by
  obtain ⟨task, found, -⟩ := inv.released name (by
    rw [tally_cons queued, queued, count_cons_self]
    omega)
  exact ⟨task, found⟩

theorem Invariant.reframe (inv : Invariant tasks sortResult disp frames)
    (queued : ∀ name, tally queued others name ≤ tally queued frames name)
    (dispatching : ∀ name, tally dispatching others name ≤ tally dispatching frames name)
    (owed : ∀ parent name, tally (owed parent) others name ≤ tally (owed parent) frames name)
    (working : ∀ name, tally working others name ≤ tally working frames name)
    (settling : (others.flatMap settling).Perm (frames.flatMap settling))
    (succeeded : ∀ frame ∈ others, frame.Succeeded) :
    Invariant tasks sortResult disp others where
  once name := by
    have := inv.once name
    have := queued name
    have := dispatching name
    omega
  startedOnce name := by
    have := inv.startedOnce name
    have := queued name
    omega
  released name present := by
    apply inv.released
    have := queued name
    have := dispatching name
    omega
  __ := inv
  budget name task found parent := by
    have := inv.budget name task found parent
    have := owed parent name
    omega
  workedOnce name := by
    have := inv.workedOnce name
    have := working name
    omega
  worked name present := by
    apply inv.worked
    have := working name
    omega
  succeeded := succeeded
  awaitCount := by
    rw [inv.awaitCount, ((settling.append_right disp.history.settled).filter (waits tasks)).length_eq]

theorem Invariant.perm (inv : Invariant tasks sortResult disp frames) (same : frames.Perm others) :
    Invariant tasks sortResult disp others := by
  refine inv.reframe ?_ ?_ ?_ ?_ (same.symm.flatMap_right _) ?_
  · exact fun name => Nat.le_of_eq (tally_perm _ same.symm name)
  · exact fun name => Nat.le_of_eq (tally_perm _ same.symm name)
  · exact fun parent name => Nat.le_of_eq (tally_perm _ same.symm name)
  · exact fun name => Nat.le_of_eq (tally_perm _ same.symm name)
  · exact fun frame mem => inv.succeeded frame (same.mem_iff.mpr mem)

theorem Invariant.replace {frame : Frame} (inv : Invariant tasks sortResult disp (frame :: others))
    (next : List Frame) (queued : next.flatMap queued = frame.queued)
    (dispatching : next.flatMap dispatching = frame.dispatching)
    (owed : ∀ parent, next.flatMap (owed parent) = frame.owed parent)
    (working : next.flatMap working = frame.working)
    (settling : next.flatMap settling = frame.settling)
    (succeeded : frame.Succeeded -> ∀ part ∈ next, part.Succeeded) :
    Invariant tasks sortResult disp (next ++ others) := by
  have same {role : Frame -> List String} (equal : next.flatMap role = role frame) (name : String) :
      tally role (next ++ others) name ≤ tally role (frame :: others) name := by
    simp [tally, equal]
  refine inv.reframe (same queued) (same dispatching) (fun parent => same (owed parent))
    (same working) (by simp [settling]) ?_
  intro part mem
  rcases mem_append.mp mem with new | old
  · exact succeeded (inv.succeeded frame mem_cons_self) part new
  · exact inv.succeeded part (mem_cons_of_mem _ old)

theorem Invariant.drop {frame : Frame} (inv : Invariant tasks sortResult disp (frame :: others))
    (unsettled : frame.settling = []) : Invariant tasks sortResult disp others := by
  refine inv.reframe ?_ ?_ ?_ ?_ (by simp [unsettled]) ?_
  · simp
  · simp
  · simp
  · simp
  · exact fun frame mem => inv.succeeded frame (mem_cons_of_mem _ mem)

theorem Invariant.changeTask (inv : Invariant tasks sortResult disp frames)
    (taskState : String -> TaskState) (taskResult : String -> Option StartupTaskResult) :
    Invariant tasks sortResult { disp with taskState := taskState, taskResult := taskResult } frames :=
  { inv with }

theorem Invariant.saveResult (inv : Invariant tasks sortResult disp frames) (name : String)
    (result : Option StartupTaskResult) :
    Invariant tasks sortResult (disp.saveResult name result) frames := by
  cases result with
  | none => exact inv
  | some saved => exact inv.changeTask _ _

variable {result : StartupTaskResult}

theorem Invariant.onError (inv : Invariant tasks sortResult disp frames)
    (failed : result.resultCode ≠ errOk) :
    Invariant tasks sortResult (disp.onError result) frames :=
  { inv with
    completedCallback := by
      intro callback present
      obtain ⟨before, found, rfl⟩ := map_eq_some_iff.mp present
      obtain ⟨fits, reported⟩ := inv.completedCallback before found
      refine ⟨fits.call result, fun called mem ok => ?_⟩
      rcases mem_call mem with earlier | rfl
      · exact reported called earlier ok
      · exact absurd ok failed }

theorem Invariant.take (inv : Invariant tasks sortResult disp (.run [name] :: others))
    {started : List String}
    (more : started = disp.history.started ∨ started = disp.history.started ++ [name])
    (result : Option StartupTaskResult) :
    Invariant tasks sortResult { disp with history := { disp.history with started := started } }
      (.dispatch name result :: others) := by
  have counted (other : String) :
      started.count other ≤ disp.history.started.count other + [name].count other := by
    rcases more with rfl | rfl <;> simp
  exact
    { inv with
      once := fun other => by
        have := inv.once other
        simp only [tally_cons, queued, dispatching, count_nil] at this ⊢
        omega
      startedOnce := fun other => by
        have := inv.startedOnce other
        have := counted other
        simp only [tally_cons, queued, count_nil] at *
        omega
      released := fun other present => by
        apply inv.released other
        have := counted other
        simp only [tally_cons, queued, dispatching, count_nil] at *
        omega
      budget := inv.budget
      workedOnce := inv.workedOnce
      worked := inv.worked
      succeeded := forall_mem_cons.mpr ⟨trivial, (inv.drop rfl).succeeded⟩
      awaitCount := inv.awaitCount }

theorem Invariant.keep {result : Option StartupTaskResult}
    (inv : Invariant tasks sortResult disp (.dispatch name result :: others)) (saves : Bool) :
    Invariant tasks sortResult { disp with kept := disp.kept ++ [⟨name, saves⟩] } others :=
  { inv.drop rfl with
    once := fun other => by
      have := inv.once other
      simp only [tally_cons, queued, dispatching, count_nil, map_append,
        map_cons, map_nil, count_append] at this ⊢
      omega
    released := fun other present => by
      apply inv.released other
      simp only [tally_cons, queued, dispatching, count_nil, map_append,
        map_cons, map_nil, count_append] at present ⊢
      omega }

theorem Invariant.unkeep (inv : Invariant tasks sortResult disp others) {callback : Nat}
    {waiting : KeptCallback} (found : disp.kept[callback]? = some waiting)
    (result : Option StartupTaskResult) :
    Invariant tasks sortResult { disp with kept := disp.kept.eraseIdx callback }
      (.dispatch waiting.name result :: others) := by
  have counted (other : String) : (disp.kept.map name).count other =
      ((disp.kept.eraseIdx callback).map name).count other + [waiting.name].count other := by
    obtain ⟨bound, rfl⟩ := List.getElem?_eq_some_iff.mp found
    have moved := (List.getElem_cons_eraseIdx_perm bound).map name
    rw [<- moved.count_eq, map_cons, count_cons, count_singleton]
  exact
    { inv with
      once := fun other => by
        have := inv.once other
        have := counted other
        simp only [tally_cons, queued, dispatching, count_nil] at *
        omega
      startedOnce := fun other => by
        have := inv.startedOnce other
        simp only [tally_cons, queued, count_nil] at *
        omega
      released := fun other present => by
        apply inv.released other
        have := counted other
        simp only [tally_cons, queued, dispatching, count_nil] at *
        omega
      budget := fun name task known parent => by
        have := inv.budget name task known parent
        simp only [tally_cons, owed, count_nil] at *
        omega
      workedOnce := fun other => by
        have := inv.workedOnce other
        simp only [tally_cons, working, count_nil] at *
        omega
      worked := fun other present => by
        apply inv.worked other
        simp only [tally_cons, working, count_nil] at *
        omega
      succeeded := forall_mem_cons.mpr ⟨trivial, inv.succeeded⟩
      awaitCount := inv.awaitCount }

theorem runTaskInit_invariant (inv : Invariant tasks sortResult disp (.run [name] :: others))
    (answer : InitAnswer) :
    Invariant tasks sortResult (disp.runTaskInit name answer).1
      ((disp.runTaskInit name answer).2.1 ++ others) := by
  unfold runTaskInit
  split
  · have taken := inv.take (.inr rfl)
    cases answer.reply with
    | now result => exact ((taken result).changeTask _ _).saveResult name result
    | later => exact ((taken none).changeTask _ _).keep true
    | never => exact ((taken none).changeTask _ _).drop rfl
  · exact inv.take (.inl rfl) _
  · exact (inv.take (.inl rfl) none).keep false
  · exact inv.drop rfl

theorem startNext_invariant {rest : Frame}
    (inv : Invariant tasks sortResult disp (.run [name] :: rest :: others))
    (unsettled : rest.settling = []) (answer : InitAnswer) :
    Invariant tasks sortResult (disp.startNext name answer rest).1
      ((disp.startNext name answer rest).2 ++ others) := by
  unfold startNext
  split
  · exact (inv.drop rfl).drop unsettled
  · have ran := runTaskInit_invariant inv answer
    simp only
    split
    · simpa using ran
    · simpa using (ran.perm perm_middle).drop unsettled

theorem Invariant.dispatched {result : Option StartupTaskResult}
    (inv : Invariant tasks sortResult disp (.dispatch name result :: others))
    {completed : List String} (more : disp.history.completed ⊆ completed) :
    Invariant tasks sortResult
      { disp with
        history := { disp.history with
          dispatched := disp.history.dispatched ++ [name]
          completed := completed } } others :=
  { inv.drop rfl with
    once := fun other => by
      have := inv.once other
      simp only [tally_cons, queued, dispatching, count_nil, count_append] at this ⊢
      omega
    released := fun other present => by
      apply inv.released other
      simp only [tally_cons, queued, dispatching, count_nil, count_append] at present ⊢
      omega
    budget := fun child task known parent => by
      have before := inv.budget child task known parent
      simp only [tally_cons, owed, count_nil, mem_append] at before ⊢
      by_cases taken : parent ∈ disp.history.dispatched
      · simpa [taken] using before
      · rw [if_neg taken] at before
        split
        · omega
        · omega
    notified := fun child parent mem => more (inv.notified child parent mem)
    worked := fun other present => by
      obtain ⟨taken, done, known⟩ := (inv.drop rfl).worked other present
      exact ⟨mem_append_left _ taken, more done, known⟩
    completedCallback := fun callback present => by
      obtain ⟨fits, reported⟩ := inv.completedCallback callback present
      exact ⟨fits, fun result mem ok other known => more (reported result mem ok other known)⟩ }

theorem Invariant.completed {children : List String}
    (inv : Invariant tasks sortResult disp (.dispatch name (some result) :: others))
    (known : name ∈ tasks.names) (ok : result.resultCode = errOk)
    (found : sortResult.startupChildrenMap name = some children) :
    Invariant tasks sortResult
      { disp with
        history := { disp.history with
          dispatched := disp.history.dispatched ++ [name]
          completed := disp.history.completed ++ [name] } }
      (.notify name result children [] :: others) := by
  have fresh : name ∉ disp.history.dispatched := by
    have := inv.once name
    simp only [tally_cons, queued, dispatching, count_nil, count_singleton_self] at this
    exact count_eq_zero.mp (by omega)
  have unworked : tally working others name + disp.history.settled.count name = 0 := by
    by_contra some
    exact fresh ((inv.drop rfl).worked name (Nat.pos_of_ne_zero some)).1
  have rest := inv.dispatched (subset_append_left disp.history.completed [name])
  exact
    { rest with
      once := fun other => by
        have := rest.once other
        simpa [queued, dispatching] using this
      startedOnce := fun other => by
        have := rest.startedOnce other
        simpa [queued] using this
      released := fun other present => by
        apply rest.released other
        simpa [queued, dispatching] using present
      budget := fun child task mem parent => by
        have later := rest.budget child task mem parent
        simp only [tally_cons, owed]
        by_cases same : name = parent
        · subst same
          have before := (inv.drop rfl).budget child task mem name
          rw [if_neg fresh] at before
          simp only [StartupSortResult.children, found, getD_some] at before
          simp only [if_true, mem_append, mem_singleton, or_true]
          omega
        · simpa [same] using later
      workedOnce := fun other => by
        have := rest.workedOnce other
        simp only [tally_cons, working]
        by_cases same : name = other
        · subst same
          simp only [count_singleton_self]
          omega
        · simpa [same] using this
      worked := fun other present => by
        by_cases same : name = other
        · subst same; exact ⟨by simp, by simp, known⟩
        · apply rest.worked other
          simpa [working, same] using present
      succeeded := forall_mem_cons.mpr ⟨ok, rest.succeeded⟩
      awaitCount := rest.awaitCount }

theorem dispatch_invariant {result : Option StartupTaskResult}
    (inv : Invariant tasks sortResult disp (.dispatch name result :: others)) :
    Invariant tasks sortResult (disp.dispatch tasks sortResult name result).1
      ((disp.dispatch tasks sortResult name result).2 ++ others) := by
  have unknown := inv.dispatched (subset_append_left disp.history.completed [name])
  unfold dispatch
  cases result with
  | none => exact (inv.dispatched (Subset.refl _)).onError internalError_ne_ok
  | some result =>
    simp only
    split
    next failed => exact (inv.dispatched (Subset.refl _)).onError failed
    next ok =>
      split
      · exact unknown.onError internalError_ne_ok
      next task found =>
        split
        · exact unknown.onError internalError_ne_ok
        next children listed =>
          exact inv.completed (StartupMap.mem_names found) (not_not.mp ok) listed

variable {child : String} {zeroInDegree : List String}

theorem Invariant.unreleased {task : StartupTask}
    (inv : Invariant tasks sortResult disp (.notify name result (child :: rest) zeroInDegree :: others))
    (found : tasks.find child = some task) : ¬ Released tasks disp.history child := by
  rintro ⟨same, foundAgain, complete⟩
  obtain rfl : task = same := some.inj (found.symm.trans foundAgain)
  have room := inv.budget child task found name
  simp only [tally_cons, owed, if_true, count_cons_self, complete.count_eq] at room
  omega

theorem notified_add_owed (notified : String -> List String) (name child : String)
    (result : StartupTaskResult) (rest zeroInDegree queue : List String) (parent other : String) :
    (update notified child (notified child ++ [name]) other).count parent +
        ((notify name result rest queue).owed parent).count other =
      (notified other).count parent +
        ((notify name result (child :: rest) zeroInDegree).owed parent).count other := by
  simp only [owed]
  by_cases same : other = child
  · subst same
    rw [update_self, count_append, count_singleton]
    by_cases whose : name = parent
    · simp only [whose, if_true, BEq.rfl, count_cons_self]
      omega
    · simp [whose]
  · rw [update_of_ne same]
    by_cases whose : name = parent
    · simp only [whose, if_true, count_cons_of_ne (Ne.symm same)]
    · simp [whose]

section

variable (inv : Invariant tasks sortResult disp (.notify name result (child :: rest) zeroInDegree :: others))
include inv

theorem Invariant.lowered {task : StartupTask} (found : tasks.find child = some task) :
    (disp.history.notified child ++ [name]).Subperm task.dependencies := by
  rw [subperm_ext_iff]
  intro parent _
  have room := inv.budget child task found parent
  have moved := notified_add_owed disp.history.notified name child result rest zeroInDegree [] parent
    child
  rw [update_self] at moved
  rw [tally_cons] at room
  omega

theorem Invariant.lower {queue : List String} {task : StartupTask}
    (found : tasks.find child = some task)
    (grown : queue = zeroInDegree ∨ queue = zeroInDegree ++ [child] ∧
      (disp.history.notified child ++ [name]).Perm task.dependencies) :
    Invariant tasks sortResult
      { disp with
        inDegreeMap := update disp.inDegreeMap child
          (some ((task.dependencies.length : Int) - (disp.history.notified child).length - 1))
        history := { disp.history with
          notified := update disp.history.notified child (disp.history.notified child ++ [name]) } }
      (.notify name result rest queue :: others) := by
  have unused := mt (inv.released child) (inv.unreleased found)
  have others_same (other : String) (ne : child ≠ other) :
      queue.count other = zeroInDegree.count other := by
    rcases grown with rfl | ⟨rfl, -⟩
    · rfl
    · simp [ne]
  have child_once : queue.count child ≤ zeroInDegree.count child + 1 := by
    rcases grown with rfl | ⟨rfl, -⟩ <;> simp
  simp only [tally_cons, queued, dispatching] at unused
  exact
    { inv with
      once := fun other => by
        have := inv.once other
        simp only [tally_cons, queued, dispatching] at this ⊢
        by_cases same : child = other
        · subst same; omega
        · rw [others_same other same]; exact this
      startedOnce := fun other => by
        have := inv.startedOnce other
        simp only [tally_cons, queued] at this ⊢
        by_cases same : child = other
        · subst same; omega
        · rw [others_same other same]; exact this
      released := fun other present => by
        simp only [tally_cons, queued, dispatching] at present
        by_cases same : child = other
        · subst same
          rcases grown with rfl | ⟨rfl, complete⟩
          · exact absurd present unused
          · exact ⟨task, found, by simpa using complete⟩
        · rw [others_same other same] at present
          obtain ⟨task, known, complete⟩ := inv.released other (by
            simpa only [tally_cons, queued, dispatching] using present)
          exact ⟨task, known, by simpa [update_of_ne (Ne.symm same)] using complete⟩
      degree := fun other => by
        by_cases same : other = child
        · subst same
          simp [found]
          omega
        · simpa [update_of_ne same] using inv.degree other
      budget := fun other task known parent => by
        have room := inv.budget other task known parent
        have moved := notified_add_owed disp.history.notified name child result rest zeroInDegree queue
          parent other
        simp only [tally_cons] at room ⊢
        omega
      notified := fun other parent mem => by
        by_cases same : other = child
        · subst same
          simp only [update_self, mem_append, mem_singleton] at mem
          rcases mem with earlier | rfl
          · exact inv.notified other parent earlier
          · have working : 0 < tally working (.notify parent result (other :: rest) zeroInDegree :: others)
                parent + disp.history.settled.count parent := by
              simp only [tally_cons, working, count_singleton_self]
              omega
            exact (inv.worked parent working).2.1
        · simp only [update_of_ne same] at mem
          exact inv.notified other parent mem
      workedOnce := inv.workedOnce
      worked := inv.worked
      succeeded := forall_mem_cons.mpr
        ⟨(forall_mem_cons.mp inv.succeeded).1, (inv.drop rfl).succeeded⟩
      awaitCount := inv.awaitCount }

theorem notifyChild_invariant :
    Invariant tasks sortResult (disp.notifyChild tasks name result child rest zeroInDegree).1
      ((disp.notifyChild tasks name result child rest zeroInDegree).2 ++ others) := by
  unfold notifyChild
  split
  · exact (inv.drop rfl).onError internalError_ne_ok
  next degree lookup =>
    split
    · exact (inv.drop rfl).onError internalError_ne_ok
    next task found =>
      have left : degree = (task.dependencies.length : Int) - (disp.history.notified child).length := by
        have := inv.degree child
        rw [lookup, found] at this
        simpa using this
      subst left
      apply inv.lower found
      split
      next zero =>
        refine .inr ⟨rfl, (inv.lowered found).perm_of_length_le ?_⟩
        rw [length_append, length_singleton]
        omega
      · exact .inl rfl

end

theorem Invariant.awaitCalled (inv : Invariant tasks sortResult disp frames) (result : StartupTaskResult)
    (callback : OnCompletedCallback)
    (present : disp.mainThreadAwaitCallback.map (fun callback => callback.call result) = some callback) :
    callback.Fits := by
  obtain ⟨before, found, rfl⟩ := map_eq_some_iff.mp present
  exact (inv.awaitCallback before found).call result

theorem Invariant.awaited (inv : Invariant tasks sortResult disp (.await name result :: others))
    {callback : Option OnCompletedCallback}
    (fits : ∀ present, callback = some present -> present.Fits) :
    Invariant tasks sortResult
      { disp with
        mainThreadAwaitCount := disp.mainThreadAwaitCount - if waits tasks name then 1 else 0
        mainThreadAwaitCallback := callback }
      (.settle name result :: others) :=
  { inv with
    once := inv.once
    startedOnce := inv.startedOnce
    released := inv.released
    budget := inv.budget
    workedOnce := inv.workedOnce
    worked := inv.worked
    succeeded := forall_mem_cons.mpr
      ⟨(forall_mem_cons.mp inv.succeeded).1, (inv.drop rfl).succeeded⟩
    awaitCount := by
      have before := inv.awaitCount
      simp only [flatMap_cons, settling, nil_append] at before
      simp only [flatMap_cons, settling, cons_append, nil_append, filter_cons]
      split
      · rw [length_cons]; omega
      · omega
    awaitCallback := fits }

theorem countAwait_invariant
    (inv : Invariant tasks sortResult disp (.await name result :: others)) :
    Invariant tasks sortResult (disp.countAwait tasks name result).1
      ((disp.countAwait tasks name result).2 ++ others) := by
  unfold countAwait
  cases waiting : waits tasks name with
  | false =>
    have after := inv.awaited inv.awaitCallback
    simp only [waiting, Bool.false_eq_true, if_false, Int.sub_zero] at after
    unfold waits at waiting
    simpa only [waiting, Bool.false_eq_true, if_false, singleton_append] using after
  | true =>
    have fits : ∀ callback,
        (if disp.mainThreadAwaitCount = 1 then
            disp.mainThreadAwaitCallback.map fun callback => callback.call result
          else disp.mainThreadAwaitCallback) = some callback -> callback.Fits := by
      split
      · exact inv.awaitCalled result
      · exact inv.awaitCallback
    have after := inv.awaited fits
    simp only [waiting, if_true] at after
    unfold waits at waiting
    simpa only [waiting, if_true, singleton_append] using after

theorem Invariant.all_completed
    (inv : Invariant tasks sortResult disp (.settle name result :: others))
    (last : disp.tasksCount = 1) : ∀ other ∈ tasks.names, other ∈ disp.history.completed := by
  have counted (other : String) : (name :: disp.history.settled).count other ≤
      tally working (.settle name result :: others) other + disp.history.settled.count other := by
    simp only [tally_cons, working, count_cons, count_nil]
    omega
  have present (other : String) (mem : other ∈ name :: disp.history.settled) :=
    inv.worked other (Nat.lt_of_lt_of_le (count_pos_iff.mpr mem) (counted other))
  have distinct : (name :: disp.history.settled).Nodup :=
    nodup_iff_count_le_one.mpr fun other => Nat.le_trans (counted other) (inv.workedOnce other)
  have some_names : (name :: disp.history.settled).Subperm tasks.names :=
    subperm_of_subset distinct fun other mem => (present other mem).2.2
  have all_names : (name :: disp.history.settled).Perm tasks.names := by
    refine some_names.perm_of_length_le ?_
    have := inv.tasksCount
    rw [StartupMap.names, length_map, length_cons]
    omega
  intro other known
  exact (present other (all_names.mem_iff.mpr known)).2.1

theorem countTask_invariant
    (inv : Invariant tasks sortResult disp (.settle name result :: others)) :
    Invariant tasks sortResult (disp.countTask name result).1
      ((disp.countTask name result).2 ++ others) := by
  have moved (other : String) :
      tally working others other + (disp.history.settled ++ [name]).count other =
        tally working (.settle name result :: others) other + disp.history.settled.count other := by
    simp only [tally_cons, working, count_append]
    omega
  exact
    { inv with
      once := inv.once
      startedOnce := inv.startedOnce
      released := inv.released
      budget := inv.budget
      workedOnce := fun other => by
        have := inv.workedOnce other
        rw [<- moved] at this
        exact this
      worked := fun other present => by
        apply inv.worked other
        rw [<- moved]
        exact present
      succeeded := fun frame mem => inv.succeeded frame (mem_cons_of_mem _ mem)
      tasksCount := by
        have := inv.tasksCount
        simp only [countTask, length_append, length_singleton]
        omega
      awaitCount := by
        have same : (others.flatMap settling ++ (disp.history.settled ++ [name])).Perm
            ((settle name result :: others).flatMap settling ++ disp.history.settled) := by
          rw [<- append_assoc]
          exact perm_append_singleton name _
        have before := inv.awaitCount
        rw [<- (same.filter (waits tasks)).length_eq] at before
        exact before
      completedCallback := by
        intro callback present
        simp only [countTask] at present
        split at present
        next last =>
          obtain ⟨before, found, rfl⟩ := map_eq_some_iff.mp present
          obtain ⟨fits, -⟩ := inv.completedCallback before found
          exact ⟨fits.call result, fun _ _ _ => inv.all_completed last⟩
        · exact inv.completedCallback callback present }

theorem stepFrame_invariant {frame : Frame} (inv : Invariant tasks sortResult disp (frame :: others))
    (answer : InitAnswer) :
    Invariant tasks sortResult (disp.stepFrame tasks sortResult answer frame).1
      ((disp.stepFrame tasks sortResult answer frame).2 ++ others) := by
  cases frame with
  | run names =>
    cases names with
    | nil => exact inv.drop rfl
    | cons name rest =>
      simp only [stepFrame]
      split
      · exact inv.drop rfl
      · apply startNext_invariant _ rfl
        exact inv.replace [.run [name], .run rest] (by simp [queued]) rfl (fun _ => rfl) rfl rfl
          (by simp [Succeeded])
  | dispatch name result => exact dispatch_invariant inv
  | notify name result children zeroInDegree =>
    cases children with
    | nil =>
      exact inv.replace [.start name result zeroInDegree] (by simp [queued]) rfl
        (by simp [owed]) rfl rfl (by simp [Succeeded])
    | cons child rest => exact notifyChild_invariant inv
  | start name result zeroInDegree =>
    cases zeroInDegree with
    | nil =>
      exact inv.replace [.await name result] rfl rfl (fun _ => rfl) rfl rfl (by simp [Succeeded])
    | cons child rest =>
      apply startNext_invariant _ rfl
      exact inv.replace [.run [child], .start name result rest] (by simp [queued]) rfl
        (fun _ => rfl) rfl rfl (by simp [Succeeded])
  | await name result => exact countAwait_invariant inv
  | settle name result => exact countTask_invariant inv

end Dispatcher

end AbilityRuntime.Startup
