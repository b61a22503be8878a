import AbilityRuntime.Library.DelayedTasks
import AbilityRuntime.Library.KeyedMap
import AbilityRuntime.Library.Runs

set_option autoImplicit false

namespace AbilityRuntime.TaskHandler

open Library DelayedTasks KeyedMap Machine

structure EventWrap where
  eventId : UInt32
  param : Int := 0
  taskName : String := ""
  eventData : Nat
  eventTask : Option Nat := none
deriving DecidableEq, Repr

namespace EventWrap

def getEventString (event : EventWrap) : String :=
  if event.taskName.isEmpty then toString event.eventId ++ "_" ++ toString event.param
  else toString event.eventId ++ "_" ++ event.taskName

def setEventTask (event : EventWrap) (eventTask : Nat) : EventWrap :=
  { event with eventTask := some eventTask }

def isSame (event other : EventWrap) : Bool := event.eventData = other.eventData

end EventWrap

/-- The task of an event runs ProcessEvent when it starts and RemoveEvent when it ends. -/
structure EventHandlerWrap where
  taskHandler : Bool
  tasks : DelayedTasks EventWrap := {}
  eventMap : KeyedMap String EventWrap := ∅

namespace EventHandlerWrap

-- A delay that is not positive is none.
section

variable (handler : EventHandlerWrap)

def sendEvent (event : EventWrap) (delayMillis : Int)
    (forceInsert : Bool) : EventHandlerWrap × Bool :=
  if !handler.taskHandler then (handler, false)
  else
    let eventStr := event.getEventString
    if (handler.eventMap.lookup eventStr).isSome && !forceInsert then (handler, false)
    else
      ({ handler with
          tasks := handler.tasks.submit event delayMillis.toNat
          eventMap := handler.eventMap.insert eventStr (event.setEventTask handler.tasks.next) },
        true)

def cancelEventTask (event : EventWrap) : EventHandlerWrap :=
  match event.eventTask with
  | none => handler
  | some handle => { handler with tasks := (handler.tasks.cancel handle).1 }

def removeEvent (event : EventWrap) (force : Bool) : EventHandlerWrap × Bool :=
  match handler.eventMap.lookup event.getEventString with
  | none => (handler, false)
  | some origin =>
    if force || origin.isSame event then
      ({ handler.cancelEventTask origin with
          eventMap := handler.eventMap.erase event.getEventString }, true)
    else (handler, false)

def start (handle : Nat) : EventHandlerWrap :=
  match handler.tasks.starts handle with
  | none => handler
  | some _ => { handler with tasks := handler.tasks.move handle .EXECUTING }

def finish (handle : Nat) : EventHandlerWrap :=
  match handler.tasks.executing handle with
  | none => handler
  | some task =>
    let handler := (handler.removeEvent task.work false).1
    { handler with tasks := handler.tasks.move handle .FINISHED }

end

end EventHandlerWrap

inductive EventCall where
  | sendEvent (event : EventWrap) (delayMillis : Int) (forceInsert : Bool)
  | removeEvent (eventId : UInt32) (param : Int) (eventData : Nat)
  | removeEventByName (eventId : UInt32) (taskName : String) (eventData : Nat)
  | removeSameEvent (event : EventWrap) (force : Bool)
  | elapse (millis : Nat)
  | start (handle : Nat)
  | finish (handle : Nat)

namespace EventHandlerWrap

def apply (handler : EventHandlerWrap) : EventCall -> EventHandlerWrap
  | .sendEvent event delayMillis forceInsert =>
    (handler.sendEvent event delayMillis forceInsert).1
  | .removeEvent eventId param eventData =>
    (handler.removeEvent { eventId, param, eventData } true).1
  | .removeEventByName eventId taskName eventData =>
    (handler.removeEvent { eventId, taskName, eventData } true).1
  | .removeSameEvent event force => (handler.removeEvent event force).1
  | .elapse millis => { handler with tasks := handler.tasks.elapse millis }
  | .start handle => handler.start handle
  | .finish handle => handler.finish handle

end EventHandlerWrap

def eventMachine (taskHandler : Bool) : Machine EventHandlerWrap EventCall where
  start := { taskHandler }
  step := EventHandlerWrap.apply

namespace EventHandlerWrap

variable {handler : EventHandlerWrap}

def Newest (handler : EventHandlerWrap) (handle : Nat) (event : EventWrap) : Prop :=
  ∀ later task, handle < later -> handler.tasks.task later = some task ->
    task.work.getEventString ≠ event.getEventString

/-- The event whose task is the last one submitted under its key is in the map until it starts. -/
def Registered (handler : EventHandlerWrap) : Prop :=
  ∀ handle task, handler.tasks.task handle = some task -> handler.tasks.Pending handle ->
    handler.Newest handle task.work ->
      handler.eventMap.lookup task.work.getEventString = some (task.work.setEventTask handle)

theorem Newest.earlier {after : EventHandlerWrap} (advances : handler.tasks.Advances after.tasks)
    {handle : Nat} {event : EventWrap} (newest : after.Newest handle event) :
    handler.Newest handle event := by
  intro later task order found
  obtain ⟨status, foundAfter, _⟩ := advances later task found
  exact newest later { task with status := status } order foundAfter

theorem Registered.kept {after : EventHandlerWrap} (registered : handler.Registered)
    (advances : handler.tasks.Advances after.tasks)
    (known : after.tasks.next = handler.tasks.next)
    (found : ∀ handle task, handler.tasks.task handle = some task -> after.tasks.Pending handle ->
      handler.eventMap.lookup task.work.getEventString = some (task.work.setEventTask handle) ->
      after.eventMap.lookup task.work.getEventString = some (task.work.setEventTask handle)) :
    after.Registered := by
  intro handle task there pending newest
  obtain ⟨before, was, same, _⟩ := advances.earlier known there
  rw [same] at newest ⊢
  have earlier := registered handle before was (advances.pending was pending)
    (newest.earlier advances)
  exact found handle before was pending earlier

theorem Registered.sendEvent (registered : handler.Registered) (event : EventWrap)
    (delayMillis : Int) (forceInsert : Bool) :
    (handler.sendEvent event delayMillis forceInsert).1.Registered := by
  unfold EventHandlerWrap.sendEvent
  split
  · exact registered
  · dsimp only
    split
    · exact registered
    · have advances := Advances.submit handler.tasks event delayMillis.toNat
      intro handle task there pending newest
      by_cases own : handle = handler.tasks.next
      · rw [task_submit, if_pos own] at there
        cases there
        rw [own, lookup_insert_eq, if_pos rfl]
      · rw [task_submit, if_neg own] at there
        have inside : handle < handler.tasks.next := (List.getElem?_eq_some_iff.mp there).1
        have other : event.getEventString ≠ task.work.getEventString :=
          newest handler.tasks.next ⟨event, _, .PENDING⟩ inside (by rw [task_submit, if_pos rfl])
        rw [lookup_insert_eq, if_neg other.symm]
        exact registered handle task there (advances.pending there pending)
          (newest.earlier advances)

theorem cancelEventTask_advances (handler : EventHandlerWrap) (event : EventWrap) :
    handler.tasks.Advances (handler.cancelEventTask event).tasks := by
  unfold cancelEventTask
  split
  · exact .refl _
  next handle _ => exact .cancel _ handle

theorem removeEvent_advances (handler : EventHandlerWrap) (event : EventWrap) (force : Bool) :
    handler.tasks.Advances (handler.removeEvent event force).1.tasks := by
  unfold removeEvent
  split
  · exact .refl _
  next origin _ =>
    split
    · exact cancelEventTask_advances handler origin
    · exact .refl _

theorem removeEvent_next (handler : EventHandlerWrap) (event : EventWrap) (force : Bool) :
    (handler.removeEvent event force).1.tasks.next = handler.tasks.next := by
  unfold removeEvent
  split
  · rfl
  next origin _ =>
    split
    · unfold cancelEventTask
      split
      · rfl
      next handle _ => exact next_cancel _ handle
    · rfl

section

variable (registered : handler.Registered)
include registered

theorem Registered.removeEvent (event : EventWrap)
    (force : Bool) : (handler.removeEvent event force).1.Registered := by
  refine registered.kept (removeEvent_advances handler event force)
    (removeEvent_next handler event force) ?_
  intro handle task there pending found
  unfold EventHandlerWrap.removeEvent at pending ⊢
  split at pending
  · exact found
  next origin known =>
    split at pending
    next taken =>
      simp only [taken, if_true]
      rw [lookup_erase_eq]
      split
      next same =>
        rw [<- same, found] at known
        cases known
        exact (not_pending_cancel handler.tasks handle pending).elim
      · exact found
    next kept =>
      simp only [kept]
      exact found

theorem Registered.start (handle : Nat) : (handler.start handle).Registered := by
  unfold EventHandlerWrap.start
  split
  · exact registered
  next task starts =>
    exact registered.kept (.start starts) (next_move _ _ _) fun _ _ _ _ found => found

theorem Registered.finish (handle : Nat) : (handler.finish handle).Registered := by
  unfold EventHandlerWrap.finish
  split
  · exact registered
  next task executing =>
    have removed := removeEvent_advances handler task.work false
    exact (registered.removeEvent task.work false).kept (removed.finish executing)
      (next_move _ _ _) fun _ _ _ _ found => found

theorem Registered.apply (call : EventCall) : (handler.apply call).Registered := by
  cases call with
  | sendEvent event delayMillis forceInsert =>
    exact registered.sendEvent event delayMillis forceInsert
  | removeEvent eventId param eventData => exact registered.removeEvent _ true
  | removeEventByName eventId taskName eventData => exact registered.removeEvent _ true
  | removeSameEvent event force => exact registered.removeEvent event force
  | elapse millis =>
    exact registered.kept (.elapse handler.tasks millis) rfl fun _ _ _ _ found => found
  | start handle => exact registered.start handle
  | finish handle => exact registered.finish handle

end

theorem apply_canceled {handle : Nat} (canceled : handler.tasks.Canceled handle)
    (call : EventCall) : (handler.apply call).tasks.Canceled handle := by
  cases call with
  | sendEvent event delayMillis forceInsert =>
    simp only [apply, EventHandlerWrap.sendEvent]
    split
    · exact canceled
    · split
      · exact canceled
      · exact (Advances.submit _ _ _).canceled canceled
  | removeEvent eventId param eventData =>
    exact (removeEvent_advances handler _ true).canceled canceled
  | removeEventByName eventId taskName eventData =>
    exact (removeEvent_advances handler _ true).canceled canceled
  | removeSameEvent event force =>
    exact (removeEvent_advances handler event force).canceled canceled
  | elapse millis => exact canceled
  | start other =>
    simp only [apply, EventHandlerWrap.start]
    split
    · exact canceled
    next task starts => exact (Advances.start starts).canceled canceled
  | finish other =>
    simp only [apply, EventHandlerWrap.finish]
    split
    · exact canceled
    next task executing =>
      have removed := removeEvent_advances handler task.work false
      exact (removed.finish executing).canceled (removed.canceled canceled)

theorem Registered.removes (registered : handler.Registered) {handle : Nat}
    {task : DelayedTask EventWrap} (there : handler.tasks.task handle = some task)
    (pending : handler.tasks.Pending handle) (newest : handler.Newest handle task.work)
    {event : EventWrap} (same : event.getEventString = task.work.getEventString) :
    (handler.removeEvent event true).1.tasks.Canceled handle := by
  have found := registered handle task there pending newest
  rw [<- same] at found
  simp only [EventHandlerWrap.removeEvent, found, Bool.true_or, if_true]
  exact canceled_cancel _ pending

theorem finish_keeps {handle : Nat} {task : DelayedTask EventWrap} {key : String}
    {newer : EventWrap} (there : handler.tasks.task handle = some task)
    (found : handler.eventMap.lookup key = some newer)
    (ne : task.work.eventData ≠ newer.eventData) :
    (handler.finish handle).eventMap.lookup key = some newer := by
  unfold EventHandlerWrap.finish
  split
  · exact found
  next executed executing =>
    have same := (executing_eq_some.mp executing).1
    cases there.symm.trans same
    unfold EventHandlerWrap.removeEvent
    split
    · exact found
    next origin known =>
      split
      next taken =>
        rw [lookup_erase_eq]
        split
        next sameKey =>
          rw [<- sameKey, found] at known
          cases known
          have shared : newer.eventData = task.work.eventData := by
            simpa [EventWrap.isSame] using taken
          exact (ne shared.symm).elim
        · exact found
      · exact found

end EventHandlerWrap

section

variable (taskHandler : Bool) (calls : List EventCall)

def Waiting (handler : EventHandlerWrap) (eventId : UInt32) (param : Int) (handle : Nat)
    (event : EventWrap) : Prop :=
  handler.tasks.Pending handle ∧ (handler.tasks.task handle).map (·.work) = some event ∧
    event.eventId = eventId ∧ event.param = param

/-- After RemoveEvent by id and param, the waiting events that it is to reach are not delivered. -/
def StopsWaiting (reached : EventHandlerWrap -> Nat -> EventWrap -> Prop) : Prop :=
  ∀ done eventId param eventData rest, calls = done ++ .removeEvent eventId param eventData :: rest ->
    ∀ handle event, Waiting ((eventMachine taskHandler).run done) eventId param handle event ->
      reached ((eventMachine taskHandler).run done) handle event ->
        ¬ ((eventMachine taskHandler).run calls).tasks.Started handle

def KeepsNewer (ne : EventWrap -> EventWrap -> Prop) : Prop :=
  ∀ done handle call rest, calls = done ++ call :: rest ->
    call = .start handle ∨ call = .finish handle ->
    ∀ task key newer newerHandle,
      ((eventMachine taskHandler).run done).tasks.task handle = some task ->
      ((eventMachine taskHandler).run done).eventMap.lookup key = some newer ->
      newer.eventTask = some newerHandle -> handle < newerHandle -> ne task.work newer ->
        ((eventMachine taskHandler).run (done ++ [call])).eventMap.lookup key = some newer

end

theorem removed_event_not_delivered (taskHandler : Bool) (calls : List EventCall) :
    StopsWaiting taskHandler calls (fun handler handle event =>
        event.taskName = "" ∧ handler.Newest handle event) ∧
      KeepsNewer taskHandler calls fun older newer => older.eventData ≠ newer.eventData := by
  constructor
  · rintro done eventId param eventData rest rfl handle event ⟨pending, work, own, with_⟩ reached
    have registered : ((eventMachine taskHandler).run done).Registered :=
      run_invariant _ (by simp [EventHandlerWrap.Registered, eventMachine,
        task]) (fun _ call before => before.apply call) done
    obtain ⟨task, there, rfl⟩ := Option.map_eq_some_iff.mp work
    have key : EventWrap.getEventString { eventId, param, eventData } =
        task.work.getEventString := by
      simp [EventWrap.getEventString, reached.1, own, with_]
    have canceled := registered.removes there pending reached.2 key
    rw [<- List.singleton_append, <- List.append_assoc]
    refine not_started_of_canceled _ (run_stable
      (fun handler : EventHandlerWrap => handler.tasks.Canceled handle)
      (fun _ call before => EventHandlerWrap.apply_canceled before call) ?_ rest)
    rw [run_concat]
    exact canceled
  · rintro done handle call rest rfl delivery task key newer newerHandle there found _ _ ne
    rw [run_concat]
    obtain rfl | rfl := delivery
    · change (EventHandlerWrap.start _ handle).eventMap.lookup key = some newer
      unfold EventHandlerWrap.start
      split
      · exact found
      · exact found
    · exact EventHandlerWrap.finish_keeps there found ne

def timeoutEvent (eventData : Nat) (taskName : String) : EventWrap where
  eventId := 5
  param := 7
  taskName := taskName
  eventData := eventData

theorem removed_event_is_delivered :
    ¬ StopsWaiting true [.sendEvent (timeoutEvent 1 "") 0 true, .sendEvent (timeoutEvent 2 "") 0 true,
        .removeEvent 5 7 3, .start 0] (fun _ _ _ => True) ∧
      ¬ StopsWaiting true [.sendEvent (timeoutEvent 1 "load") 0 true, .removeEvent 5 7 3, .start 0]
        (fun _ _ _ => True) ∧
      ¬ KeepsNewer true [.sendEvent (timeoutEvent 1 "") 0 true, .start 0,
        .sendEvent (timeoutEvent 1 "") 100 true, .finish 0] (fun _ _ => True) := by
  refine ⟨?_, ?_, ?_⟩
  · intro stops
    exact stops [.sendEvent (timeoutEvent 1 "") 0 true, .sendEvent (timeoutEvent 2 "") 0 true] 5 7 3
      [.start 0] rfl 0 (timeoutEvent 1 "") ⟨by decide, by decide, by decide, by decide⟩ trivial
      (by decide)
  · intro stops
    exact stops [.sendEvent (timeoutEvent 1 "load") 0 true] 5 7 3 [.start 0] rfl 0
      (timeoutEvent 1 "load") ⟨by decide, by decide, by decide, by decide⟩ trivial (by decide)
  · intro keeps
    have kept := keeps [.sendEvent (timeoutEvent 1 "") 0 true, .start 0,
      .sendEvent (timeoutEvent 1 "") 100 true] 0 (.finish 0) [] rfl (.inr rfl)
      ⟨timeoutEvent 1 "", 0, .EXECUTING⟩ "5_7" ((timeoutEvent 1 "").setEventTask 1) 1
      (by decide) (by decide) rfl (by decide) trivial
    revert kept
    decide

end AbilityRuntime.TaskHandler
