import Mathlib.Tactic.Common

set_option autoImplicit false

namespace AbilityRuntime.Library

inductive TaskStatus where
  | PENDING
  | EXECUTING
  | FINISHED
  | CANCELED
deriving DecidableEq, Repr

structure DelayedTask (Work : Type) where
  work : Work
  due : Nat
  status : TaskStatus := .PENDING
deriving DecidableEq, Repr

/-- The tasks of a handler that runs the elapsed ones in any order. A handle is a number. -/
structure DelayedTasks (Work : Type) where
  now : Nat := 0
  entries : List (DelayedTask Work) := []

namespace DelayedTasks

variable {Work : Type}

section

variable (tasks : DelayedTasks Work)

def task (handle : Nat) : Option (DelayedTask Work) :=
  tasks.entries[handle]?

def next : Nat := tasks.entries.length

def submit (work : Work) (delay : Nat) : DelayedTasks Work :=
  { tasks with entries := tasks.entries ++ [⟨work, tasks.now + delay, .PENDING⟩] }

def elapse (time : Nat) : DelayedTasks Work :=
  { tasks with now := tasks.now + time }

def move (handle : Nat) (status : TaskStatus) : DelayedTasks Work :=
  { tasks with entries := tasks.entries.modify handle ({ · with status := status }) }

def Pending (handle : Nat) : Prop :=
  (tasks.task handle).map (·.status) = some .PENDING

end

instance (tasks : DelayedTasks Work) (handle : Nat) : Decidable (tasks.Pending handle) :=
  inferInstanceAs (Decidable (_ = _))

def Canceled (tasks : DelayedTasks Work) (handle : Nat) : Prop :=
  (tasks.task handle).map (·.status) = some .CANCELED

instance (tasks : DelayedTasks Work) (handle : Nat) : Decidable (tasks.Canceled handle) :=
  inferInstanceAs (Decidable (_ = _))

def Started (tasks : DelayedTasks Work) (handle : Nat) : Prop :=
  (tasks.task handle).map (·.status) ∈ [some .EXECUTING, some .FINISHED]

instance (tasks : DelayedTasks Work) (handle : Nat) : Decidable (tasks.Started handle) :=
  inferInstanceAs (Decidable (_ ∈ _))

def cancel (tasks : DelayedTasks Work) (handle : Nat) : DelayedTasks Work × Bool :=
  if tasks.Pending handle then (tasks.move handle .CANCELED, true) else (tasks, false)

def starts (tasks : DelayedTasks Work) (handle : Nat) : Option (DelayedTask Work) :=
  (tasks.task handle).filter fun task => task.status = .PENDING && task.due ≤ tasks.now

def executing (tasks : DelayedTasks Work) (handle : Nat) : Option (DelayedTask Work) :=
  (tasks.task handle).filter (·.status = .EXECUTING)

section

variable (tasks : DelayedTasks Work)

theorem task_submit (work : Work) (delay handle : Nat) :
    (tasks.submit work delay).task handle =
      if handle = tasks.next then some ⟨work, tasks.now + delay, .PENDING⟩
      else tasks.task handle := by
  unfold task submit next
  rw [List.getElem?_append]
  split
  next inside => rw [if_neg (by omega)]
  next outside =>
    split
    next last => simp [last]
    · grind

theorem task_move (handle other : Nat) (status : TaskStatus) :
    (tasks.move handle status).task other =
      if other = handle then (tasks.task other).map ({ · with status := status })
      else tasks.task other := by
  unfold task move
  by_cases same : handle = other
  · simp [same]
  · simp [same, Ne.symm same]

theorem task_cancel (handle other : Nat) :
    (tasks.cancel handle).1.task other =
      if other = handle ∧ tasks.Pending handle then
        (tasks.task other).map ({ · with status := .CANCELED })
      else tasks.task other := by
  unfold cancel
  by_cases pending : tasks.Pending handle
  · simp [pending, task_move]
  · simp [pending]

@[simp] theorem next_submit (work : Work) (delay : Nat) :
    (tasks.submit work delay).next = tasks.next + 1 := by
  simp [next, submit]

@[simp] theorem next_move (handle : Nat) (status : TaskStatus) :
    (tasks.move handle status).next = tasks.next := by
  simp [next, move]

@[simp] theorem next_cancel (handle : Nat) : (tasks.cancel handle).1.next = tasks.next := by
  unfold cancel
  split
  · exact next_move tasks handle .CANCELED
  · rfl

theorem not_pending_cancel (handle : Nat) : ¬ (tasks.cancel handle).1.Pending handle := by
  unfold Pending
  rw [task_cancel]
  split
  · cases tasks.task handle <;> simp
  next still =>
    intro pending
    exact still ⟨rfl, pending⟩

theorem not_started_of_canceled {handle : Nat} (canceled : tasks.Canceled handle) :
    ¬ tasks.Started handle := by
  unfold Started
  rw [canceled]
  decide

theorem canceled_cancel {handle : Nat} (pending : tasks.Pending handle) :
    (tasks.cancel handle).1.Canceled handle := by
  obtain ⟨task, known, _⟩ := Option.map_eq_some_iff.mp pending
  unfold Canceled
  rw [task_cancel, if_pos ⟨rfl, pending⟩, known]
  rfl

end

inductive Follows : TaskStatus -> TaskStatus -> Prop where
  | same (status : TaskStatus) : Follows status status
  | started : Follows .PENDING .EXECUTING
  | canceled : Follows .PENDING .CANCELED
  | finished : Follows .EXECUTING .FINISHED

variable {status : TaskStatus}

theorem Follows.pending (follows : Follows status .PENDING) : status = .PENDING := by
  cases follows
  rfl

theorem Follows.canceled_stays (follows : Follows .CANCELED status) : status = .CANCELED := by
  cases follows
  rfl

theorem Follows.then_finished (follows : Follows .EXECUTING status) : Follows status .FINISHED := by
  cases follows with
  | same => exact .finished
  | finished => exact .same _

/-- The known tasks keep their work, and each may have gone on by a step. -/
def Advances (before after : DelayedTasks Work) : Prop :=
  ∀ handle task, before.task handle = some task ->
    ∃ status, after.task handle = some { task with status := status } ∧ Follows task.status status

variable {tasks after : DelayedTasks Work}

theorem Advances.refl (tasks : DelayedTasks Work) : tasks.Advances tasks :=
  fun _ task found => ⟨task.status, found, .same _⟩

theorem Advances.elapse (tasks : DelayedTasks Work) (time : Nat) :
    tasks.Advances (tasks.elapse time) :=
  fun _ task found => ⟨task.status, found, .same _⟩

theorem Advances.submit (tasks : DelayedTasks Work) (work : Work) (delay : Nat) :
    tasks.Advances (tasks.submit work delay) := by
  intro handle task found
  have known : handle < tasks.next := (List.getElem?_eq_some_iff.mp found).1
  refine ⟨task.status, ?_, .same _⟩
  rw [task_submit, if_neg (by omega), found]

variable {handle : Nat}

theorem Advances.move (legal : ∀ task, tasks.task handle = some task → Follows task.status status) :
    tasks.Advances (tasks.move handle status) := by
  intro other task found
  rw [task_move, found]
  split
  next same => exact ⟨status, rfl, legal task (same ▸ found)⟩
  · exact ⟨task.status, rfl, .same _⟩

theorem Advances.cancel (tasks : DelayedTasks Work) (handle : Nat) :
    tasks.Advances (tasks.cancel handle).1 := by
  unfold DelayedTasks.cancel
  split
  next pending =>
    refine .move fun task found => ?_
    have status : task.status = .PENDING := by simpa [Pending, found] using pending
    rw [status]
    exact .canceled
  · exact .refl tasks

variable {task : DelayedTask Work}

theorem Advances.start (starts : tasks.starts handle = some task) :
    tasks.Advances (tasks.move handle .EXECUTING) := by
  refine .move fun found known => ?_
  have pending : found.status = .PENDING := by
    rw [DelayedTasks.starts, known, Option.filter_eq_some_iff] at starts
    cases starts.1
    simpa using (Bool.and_eq_true_iff.mp starts.2).1
  rw [pending]
  exact .started

theorem executing_eq_some :
    tasks.executing handle = some task ↔
      tasks.task handle = some task ∧ task.status = .EXECUTING := by
  simp [executing, Option.filter_eq_some_iff]

theorem Advances.finish (advances : tasks.Advances after)
    (executing : tasks.executing handle = some task) :
    after.Advances (after.move handle .FINISHED) := by
  refine .move fun found known => ?_
  obtain ⟨was, executed⟩ := executing_eq_some.mp executing
  obtain ⟨status, now, follows⟩ := advances handle task was
  cases known.symm.trans now
  rw [executed] at follows
  exact follows.then_finished

theorem Follows.finished_stays (follows : Follows .FINISHED status) : status = .FINISHED := by
  cases follows
  rfl

theorem Advances.earlier (advances : tasks.Advances after) (known : after.next = tasks.next)
    (found : after.task handle = some task) :
    ∃ before, tasks.task handle = some before ∧ task = { before with status := task.status } ∧
      Follows before.status task.status := by
  have inside : handle < tasks.next := known ▸ (List.getElem?_eq_some_iff.mp found).1
  obtain ⟨before, was⟩ : ∃ before, tasks.task handle = some before :=
    ⟨_, List.getElem?_eq_getElem inside⟩
  obtain ⟨status, now, follows⟩ := advances handle before was
  cases found.symm.trans now
  exact ⟨before, was, rfl, follows⟩

theorem Advances.pending (advances : tasks.Advances after) (known : tasks.task handle = some task)
    (pending : after.Pending handle) : tasks.Pending handle := by
  obtain ⟨status, found, follows⟩ := advances handle task known
  have isPending : status = .PENDING := by simpa [Pending, found] using pending
  subst isPending
  simp [Pending, known, follows.pending]

theorem Advances.canceled (advances : tasks.Advances after)
    (canceled : tasks.Canceled handle) : after.Canceled handle := by
  obtain ⟨task, known, status⟩ := Option.map_eq_some_iff.mp canceled
  obtain ⟨later, found, follows⟩ := advances handle task known
  rw [status] at follows
  simp [Canceled, found, follows.canceled_stays]

end DelayedTasks

end AbilityRuntime.Library
