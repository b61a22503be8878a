import AbilityRuntime.Library.DelayedTasks
import AbilityRuntime.Library.KeyedMap
import AbilityRuntime.Library.Runs

set_option autoImplicit false

namespace AbilityRuntime.TaskHandler

open Library DelayedTasks Option AList

/-- A TaskHandle is known by its inner handle, which is null when there was no task to submit. -/
abbrev TaskHandle := Option Nat

inductive SubmittedTask where
  -- SubmitTask with a name, a delay and forceSubmit.
  | named (name : String)
  -- SubmitTaskJust and the overloads that do not look at the names.
  | just (name : String)
  | clearTask (name : String) (taskHandle : TaskHandle)
deriving DecidableEq, Repr

structure TaskHandlerWrap where
  submitted : DelayedTasks SubmittedTask := {}
  tasks : KeyedMap String TaskHandle := ∅

namespace TaskHandlerWrap

-- The task may be an empty function; then there is nothing to submit.
def submitTaskAttr (handler : TaskHandlerWrap) (task : Bool) (submitted : SubmittedTask)
    (delayMillis : Int) : TaskHandlerWrap × TaskHandle :=
  if !task then (handler, none)
  else
    ({ handler with submitted := handler.submitted.submit submitted delayMillis.toNat },
      some handler.submitted.next)

def submitTask (handler : TaskHandlerWrap) (task : Bool) (name : String) (delayMillis : Int)
    (forceSubmit : Bool) : TaskHandlerWrap × TaskHandle :=
  match handler.tasks.lookup name with
  | some _ =>
    if forceSubmit then handler.submitTaskAttr task (.named name) delayMillis
    else (handler, none)
  | none =>
    let (handler, result) := handler.submitTaskAttr task (.named name) delayMillis
    let handler := { handler with tasks := handler.tasks.insert name result }
    ((handler.submitTaskAttr true (.clearTask name result) delayMillis).1, result)

def cancel (handler : TaskHandlerWrap) (taskHandle : TaskHandle) : TaskHandlerWrap × Bool :=
  match taskHandle with
  | none => (handler, false)
  | some handle =>
    let (submitted, canceled) := handler.submitted.cancel handle
    ({ handler with submitted := submitted }, canceled)

def cancelTask (handler : TaskHandlerWrap) (name : String) : TaskHandlerWrap × Bool :=
  match handler.tasks.lookup name with
  | none => (handler, false)
  | some taskHandle => { handler with tasks := handler.tasks.erase name }.cancel taskHandle

def removeTask (handler : TaskHandlerWrap) (name : String) (taskHandle : TaskHandle) :
    TaskHandlerWrap :=
  match handler.tasks.lookup name with
  | none => handler
  | some registered =>
    if registered = taskHandle then { handler with tasks := handler.tasks.erase name }
    else handler

def start (handler : TaskHandlerWrap) (handle : Nat) : TaskHandlerWrap :=
  match handler.submitted.starts handle with
  | none => handler
  | some _ => { handler with submitted := handler.submitted.move handle .EXECUTING }

def finish (handler : TaskHandlerWrap) (handle : Nat) : TaskHandlerWrap :=
  match handler.submitted.executing handle with
  | none => handler
  | some task =>
    let handler :=
      match task.work with
      | .clearTask name taskHandle => handler.removeTask name taskHandle
      | _ => handler
    { handler with submitted := handler.submitted.move handle .FINISHED }

end TaskHandlerWrap

inductive TaskCall where
  | submitTask (task : Bool) (name : String) (delayMillis : Int) (forceSubmit : Bool)
  | submitTaskJust (task : Bool) (name : String) (delayMillis : Int)
  | cancelTask (name : String)
  | cancel (taskHandle : TaskHandle)
  | elapse (millis : Nat)
  | start (handle : Nat)
  | finish (handle : Nat)

namespace TaskHandlerWrap

def apply (handler : TaskHandlerWrap) : TaskCall -> TaskHandlerWrap
  | .submitTask task name delayMillis forceSubmit =>
    (handler.submitTask task name delayMillis forceSubmit).1
  | .submitTaskJust task name delayMillis =>
    (handler.submitTaskAttr task (.just name) delayMillis).1
  | .cancelTask name => (handler.cancelTask name).1
  | .cancel taskHandle => (handler.cancel taskHandle).1
  | .elapse millis => { handler with submitted := handler.submitted.elapse millis }
  | .start handle => handler.start handle
  | .finish handle => handler.finish handle

end TaskHandlerWrap

def taskMachine : Machine TaskHandlerWrap TaskCall where
  start := {}
  step := TaskHandlerWrap.apply

namespace TaskHandlerWrap

variable {handler : TaskHandlerWrap}

def CleanUpWaits (handler : TaskHandlerWrap) (name : String) (handle : Nat) : Prop :=
  ∃ cleanUp task, handler.submitted.task cleanUp = some task ∧
    task.work = .clearTask name (some handle) ∧ task.status ≠ .FINISHED

def Waiting (handler : TaskHandlerWrap) (name : String) (handle : Nat) : Prop :=
  handler.submitted.Pending handle ∧
    (handler.submitted.task handle).map (·.work) = some (.named name)

/-- The table holds the handle of every waiting task of the kind, and CancelTask cancels it. -/
def CancelableByName (kind : TaskHandlerWrap -> String -> Nat -> Prop) (handler : TaskHandlerWrap) :
    Prop :=
  ∀ name handle, handler.Waiting name handle -> kind handler name handle ->
    handler.tasks.lookup name = some (some handle) ∧
      (handler.cancelTask name).2 = true ∧ (handler.cancelTask name).1.submitted.Canceled handle

def RemovesOwn (handler : TaskHandlerWrap) (call : TaskCall) : Prop :=
  ∀ cleanUp task name taskHandle, call = .finish cleanUp ->
    handler.submitted.task cleanUp = some task -> task.work = .clearTask name taskHandle ->
    ∀ key other, handler.tasks.lookup key = some (some other) -> taskHandle ≠ some other ->
      (handler.apply call).tasks.lookup key = some (some other)

structure Tabled (handler : TaskHandlerWrap) : Prop where
  follows : ∀ cleanUp task name handle, handler.submitted.task cleanUp = some task ->
    task.work = .clearTask name (some handle) -> cleanUp = handle + 1
  held : ∀ name handle, handler.Waiting name handle -> handler.CleanUpWaits name handle ->
    handler.tasks.lookup name = some (some handle)

section

variable (tabled : handler.Tabled)
include tabled

theorem Tabled.kept {after : TaskHandlerWrap}
    (advances : handler.submitted.Advances after.submitted)
    (known : after.submitted.next = handler.submitted.next)
    (found : ∀ name handle, after.Waiting name handle -> after.CleanUpWaits name handle ->
      handler.tasks.lookup name = some (some handle) ->
      after.tasks.lookup name = some (some handle)) :
    after.Tabled := by
  constructor
  · intro cleanUp task name handle there work
    obtain ⟨before, was, same, _⟩ := advances.earlier known there
    rw [same] at work
    exact tabled.follows cleanUp before name handle was work
  · intro name handle waiting cleanUpWaits
    refine found name handle waiting cleanUpWaits (tabled.held name handle ?_ ?_)
    · obtain ⟨task, there, work⟩ := map_eq_some_iff.mp waiting.2
      obtain ⟨before, was, same, _⟩ := advances.earlier known there
      rw [same] at work
      exact ⟨advances.pending was waiting.1, by rw [was]; exact congrArg some work⟩
    · obtain ⟨cleanUp, task, there, work, unfinished⟩ := cleanUpWaits
      obtain ⟨before, was, same, follows⟩ := advances.earlier known there
      refine ⟨cleanUp, before, was, by rw [same] at work; exact work, fun emptied => ?_⟩
      rw [emptied] at follows
      exact unfinished follows.finished_stays

theorem Tabled.submitOther (work : SubmittedTask) (delay : Nat)
    (other : ∀ name handle, work ≠ .clearTask name (some handle)) :
    Tabled { handler with submitted := handler.submitted.submit work delay } := by
  have advances := Advances.submit handler.submitted work delay
  have was : ∀ cleanUp task name handle,
      (handler.submitted.submit work delay).task cleanUp = some task ->
      task.work = .clearTask name (some handle) -> handler.submitted.task cleanUp = some task := by
    intro cleanUp task name handle there isClear
    rw [task_submit] at there
    split at there
    · cases there
      exact (other name handle isClear).elim
    · exact there
  constructor
  · intro cleanUp task name handle there isClear
    exact tabled.follows cleanUp task name handle (was _ _ _ _ there isClear) isClear
  · intro name handle waiting ⟨cleanUp, task, there, isClear, unfinished⟩
    have earlier := was _ _ _ _ there isClear
    have next := tabled.follows cleanUp task name handle earlier isClear
    have known : cleanUp < handler.submitted.next := (List.getElem?_eq_some_iff.mp earlier).1
    obtain ⟨own, found, named⟩ := map_eq_some_iff.mp waiting.2
    rw [task_submit, if_neg (by omega)] at found
    exact tabled.held name handle
      ⟨advances.pending found waiting.1, by rw [found]; exact congrArg some named⟩
      ⟨cleanUp, task, earlier, isClear, unfinished⟩

theorem Tabled.submitClear {name : String} {taskHandle : TaskHandle}
    (free : handler.tasks.lookup name = none)
    (last : ∀ handle, taskHandle = some handle -> handler.submitted.next = handle + 1)
    (delay : Nat) :
    Tabled {
      submitted := handler.submitted.submit (.clearTask name taskHandle) delay
      tasks := handler.tasks.insert name taskHandle } := by
  have advances := Advances.submit handler.submitted (.clearTask name taskHandle) delay
  constructor
  · intro cleanUp task other handle there isClear
    rw [task_submit] at there
    split at there
    next newest =>
      cases there
      rw [newest]
      exact last handle (SubmittedTask.clearTask.inj isClear).2
    · exact tabled.follows cleanUp task other handle there isClear
  · intro other handle waiting ⟨cleanUp, task, there, isClear, unfinished⟩
    rw [task_submit] at there
    split at there
    · cases there
      obtain ⟨rfl, rfl⟩ := SubmittedTask.clearTask.inj isClear
      rw [lookup_insert]
    · obtain ⟨own, found, named⟩ := map_eq_some_iff.mp waiting.2
      rw [task_submit] at found
      split at found
      · cases found
        cases named
      · have held := tabled.held other handle
          ⟨advances.pending found waiting.1, by rw [found]; exact congrArg some named⟩
          ⟨cleanUp, task, there, isClear, unfinished⟩
        have ne : other ≠ name := by
          rintro rfl
          rw [free] at held
          cases held
        rw [lookup_insert_ne ne, held]

theorem Tabled.submitTask (task : Bool) (name : String) (delayMillis : Int) (forceSubmit : Bool) :
    (handler.submitTask task name delayMillis forceSubmit).1.Tabled := by
  have submitted := tabled.submitOther (.named name) delayMillis.toNat (by simp)
  unfold TaskHandlerWrap.submitTask
  split
  · cases forceSubmit with
    | false => exact tabled
    | true =>
      cases task with
      | false => exact tabled
      | true => exact submitted
  next free =>
    cases task with
    | false => exact tabled.submitClear free (fun _ own => by cases own) delayMillis.toNat
    | true =>
      refine submitted.submitClear free (fun handle own => ?_) delayMillis.toNat
      cases own
      exact next_submit _ _ _

theorem Tabled.cancel (taskHandle : TaskHandle) : (handler.cancel taskHandle).1.Tabled := by
  cases taskHandle with
  | none => exact tabled
  | some handle =>
    exact tabled.kept (.cancel _ handle) (next_cancel _ handle) fun _ _ _ _ found => found

theorem Tabled.cancelTask (name : String) : (handler.cancelTask name).1.Tabled := by
  unfold TaskHandlerWrap.cancelTask
  split
  · exact tabled
  next taskHandle registered =>
    cases taskHandle with
    | none =>
      refine tabled.kept (.refl _) rfl ?_
      intro other handle _ _ found
      have ne : other ≠ name := by
        rintro rfl
        rw [registered] at found
        cases found
      exact (lookup_erase_ne ne).trans found
    | some canceled =>
      refine tabled.kept (.cancel _ canceled) (next_cancel _ canceled) ?_
      intro other handle waiting _ found
      have ne : other ≠ name := by
        rintro rfl
        rw [registered] at found
        cases found
        exact not_pending_cancel _ _ waiting.1
      exact (lookup_erase_ne ne).trans found

theorem Tabled.start (handle : Nat) : (handler.start handle).Tabled := by
  unfold TaskHandlerWrap.start
  split
  · exact tabled
  next task starts =>
    exact tabled.kept (.start starts) (next_move _ _ _) fun _ _ _ _ found => found

end

theorem removeTask_submitted (handler : TaskHandlerWrap) (name : String)
    (taskHandle : TaskHandle) :
    (handler.removeTask name taskHandle).submitted = handler.submitted := by
  unfold removeTask
  split
  · rfl
  · split
    · rfl
    · rfl

theorem lookup_removeTask {name key : String} {taskHandle entry : TaskHandle}
    (found : handler.tasks.lookup key = some entry)
    (ne : ¬ (key = name ∧ entry = taskHandle)) :
    (handler.removeTask name taskHandle).tasks.lookup key = some entry := by
  unfold removeTask
  split
  · exact found
  next registered there =>
    split
    next same =>
      rw [KeyedMap.lookup_erase_eq, if_neg, found]
      rintro rfl
      rw [there] at found
      cases found
      exact ne ⟨rfl, same⟩
    · exact found

theorem Tabled.finish (tabled : handler.Tabled) (handle : Nat) :
    (handler.finish handle).Tabled := by
  unfold TaskHandlerWrap.finish
  split
  · exact tabled
  next task executing =>
    have executed := Advances.finish (.refl _) executing
    have there := (executing_eq_some.mp executing).1
    cases work : task.work with
    | named name =>
      exact tabled.kept executed (next_move _ _ _) fun _ _ _ _ found => found
    | just name =>
      exact tabled.kept executed (next_move _ _ _) fun _ _ _ _ found => found
    | clearTask name taskHandle =>
      refine tabled.kept ?_ ?_ ?_
      · dsimp only
        rw [removeTask_submitted]
        exact executed
      · dsimp only
        rw [removeTask_submitted]
        exact next_move _ _ _
      · rintro other owner _ ⟨cleanUp, later, found, isClear, unfinished⟩ entry
        refine lookup_removeTask entry fun ⟨same, own⟩ => unfinished ?_
        have first := tabled.follows handle task name owner there (own ▸ work)
        dsimp only at found
        rw [removeTask_submitted] at found
        obtain ⟨before, was, unchanged, _⟩ := executed.earlier (next_move _ _ _) found
        rw [unchanged] at isClear
        have second := tabled.follows cleanUp before other owner was isClear
        rw [task_move, if_pos (by omega), was] at found
        cases found
        rfl

theorem Tabled.apply (tabled : handler.Tabled) (call : TaskCall) : (handler.apply call).Tabled := by
  cases call with
  | submitTask task name delayMillis forceSubmit =>
    exact tabled.submitTask task name delayMillis forceSubmit
  | submitTaskJust task name delayMillis =>
    cases task with
    | false => exact tabled
    | true => exact tabled.submitOther (.just name) delayMillis.toNat (by simp)
  | cancelTask name => exact tabled.cancelTask name
  | cancel taskHandle => exact tabled.cancel taskHandle
  | elapse millis =>
    exact tabled.kept (.elapse handler.submitted millis) rfl fun _ _ _ _ found => found
  | start handle => exact tabled.start handle
  | finish handle => exact tabled.finish handle

theorem Tabled.cancelable (tabled : handler.Tabled) : CancelableByName CleanUpWaits handler := by
  intro name handle waiting cleanUpWaits
  have held := tabled.held name handle waiting cleanUpWaits
  refine ⟨held, ?_⟩
  simp only [TaskHandlerWrap.cancelTask, held, TaskHandlerWrap.cancel]
  refine ⟨?_, canceled_cancel _ waiting.1⟩
  simp [DelayedTasks.cancel, waiting.1]

theorem removesOwn (handler : TaskHandlerWrap) (call : TaskCall) : handler.RemovesOwn call := by
  rintro cleanUp task name taskHandle rfl there work key other found ne
  change (handler.finish cleanUp).tasks.lookup key = some (some other)
  unfold TaskHandlerWrap.finish
  split
  · exact found
  next executed executing =>
    cases there.symm.trans (executing_eq_some.mp executing).1
    simp only [work]
    exact lookup_removeTask found fun ⟨_, own⟩ => ne own.symm

end TaskHandlerWrap

open TaskHandlerWrap in
theorem named_task_cancelable_until_clean_up (calls : List TaskCall) :
    taskMachine.Throughout calls (CancelableByName CleanUpWaits) ∧
      taskMachine.EveryStep calls RemovesOwn := by
  constructor
  · intro done _ _
    have tabled : (taskMachine.run done).Tabled := by
      refine Machine.run_invariant _ ⟨?_, ?_⟩ (fun _ call before => before.apply call) done
      · simp [taskMachine, task]
      · simp [taskMachine, TaskHandlerWrap.Waiting, task]
    exact tabled.cancelable
  · exact fun done call _ _ => removesOwn (taskMachine.run done) call

theorem named_task_not_cancelable :
    ¬ taskMachine.Throughout
        [.submitTask true "timeout" 100 true, .submitTask true "timeout" 100 true]
        (TaskHandlerWrap.CancelableByName fun _ _ _ => True) ∧
      ¬ taskMachine.Throughout [.submitTask true "timeout" 0 true, .start 1, .finish 1]
        (TaskHandlerWrap.CancelableByName fun _ _ _ => True) := by
  constructor
  · intro throughout
    have held := (throughout _ [] (List.append_nil _).symm "timeout" 2 ⟨by decide, by decide⟩
      trivial).1
    revert held
    decide
  · intro throughout
    have held := (throughout _ [] (List.append_nil _).symm "timeout" 0 ⟨by decide, by decide⟩
      trivial).1
    revert held
    decide

end AbilityRuntime.TaskHandler
