import AbilityRuntime.CliTool.EventDispatcher

set_option autoImplicit false

namespace AbilityRuntime.CliTool

open Library (KeyedMap)

def Task.Fits : Task -> Prop
  | .addDeathRecipient _ scheduler remote _ | .saveScheduler _ scheduler remote _ =>
    scheduler.asObject = some remote
  | .sendEvents _ subscribers failedSubscribers =>
    ∀ first ∈ failedSubscribers ++ subscribers, ∀ second ∈ failedSubscribers ++ subscribers,
      first.key.caller = second.key.caller -> first.scheduler = second.scheduler
  | .removeDeathRecipients _ | .onRemoteDied _ _ => True

namespace EventDispatcher

variable {dispatcher : EventDispatcher}

def subscription (dispatcher : EventDispatcher) (sessionId : String) (key : SubscriberKey) :
    Option SubscriberState :=
  (dispatcher.sessionSubscribers sessionId).bind fun subscribers => subscribers.lookup key

structure Consistent (dispatcher : EventDispatcher) : Prop where
  current : ∀ sessionId key subscriber, dispatcher.subscription sessionId key = some subscriber ->
    subscriber.key = key ∧ ∃ state, dispatcher.schedulers.lookup key.caller = some state ∧
      subscriber.scheduler = state.scheduler
  nonempty : ∀ sessionId subscribers, dispatcher.sessionSubscribers sessionId = some subscribers ->
    subscribers.keys.isEmpty = false

structure Invariant (dispatcher : EventDispatcher) : Prop where
  consistent : dispatcher.Consistent
  remotes : ∀ caller state, dispatcher.schedulers.lookup caller = some state ->
    state.scheduler.asObject = some state.remote
  fits : ∀ task ∈ dispatcher.tasks, task.Fits

theorem subscription_putSubscribers (sessionId other : String) (subscribers : Subscribers)
    (key : SubscriberKey) :
    (dispatcher.putSubscribers sessionId subscribers).subscription other key =
      if other = sessionId then subscribers.lookup key else dispatcher.subscription other key := by
  by_cases same : other = sessionId
  · subst same
    simp [subscription, putSubscribers]
  · simp [subscription, putSubscribers, same]

theorem subscription_removeSubscribersForCallerLocked (caller : SchedulerKey) (sessionId : String)
    (key : SubscriberKey) :
    (dispatcher.removeSubscribersForCallerLocked caller).subscription sessionId key =
      if key.caller = caller then none else dispatcher.subscription sessionId key := by
  simp only [subscription, removeSubscribersForCallerLocked]
  cases dispatcher.sessionSubscribers sessionId with
  | none => simp
  | some subscribers =>
    simp only [Option.bind_some, KeyedMap.unlessEmpty_lookup, KeyedMap.lookup_eraseAll,
      List.mem_filter, beq_iff_eq]
    by_cases own : key.caller = caller
    · by_cases listed : key ∈ subscribers.keys
      · simp [listed, own]
      · have absent : subscribers.lookup key = none := AList.lookup_eq_none.mpr listed
        simp [absent]
    · simp [own]

theorem nonempty_removeSubscribersForCallerLocked (caller : SchedulerKey) (sessionId : String)
    (subscribers : Subscribers)
    (found : (dispatcher.removeSubscribersForCallerLocked caller).sessionSubscribers sessionId =
      some subscribers) : subscribers.keys.isEmpty = false := by
  obtain ⟨_, _, kept⟩ := Option.bind_eq_some_iff.mp found
  exact KeyedMap.unlessEmpty_filled kept

theorem subscription_clearSessionSubscribers (sessionId other : String) (key : SubscriberKey) :
    (dispatcher.clearSessionSubscribers sessionId).subscription other key =
      if other = sessionId then none else dispatcher.subscription other key := by
  by_cases same : other = sessionId <;> simp [subscription, clearSessionSubscribers, same]

section

variable (inv : dispatcher.Invariant)
include inv

theorem Invariant.shrink {after : EventDispatcher}
    (schedulers : after.schedulers = dispatcher.schedulers)
    (subscriptions : ∀ sessionId key subscriber, after.subscription sessionId key = some subscriber ->
      dispatcher.subscription sessionId key = some subscriber)
    (nonempty : ∀ sessionId subscribers, after.sessionSubscribers sessionId = some subscribers ->
      subscribers.keys.isEmpty = false)
    (fits : ∀ task ∈ after.tasks, task.Fits) : after.Invariant where
  consistent :=
    { current := fun sessionId key subscriber found => by
        rw [schedulers]
        exact inv.consistent.current sessionId key subscriber
          (subscriptions sessionId key subscriber found)
      nonempty := nonempty }
  remotes := by
    rw [schedulers]
    exact inv.remotes
  fits := fits

theorem Invariant.retask {after : EventDispatcher}
    (schedulers : after.schedulers = dispatcher.schedulers)
    (sessionSubscribers : after.sessionSubscribers = dispatcher.sessionSubscribers)
    (fits : ∀ task ∈ after.tasks, task.Fits) : after.Invariant := by
  refine inv.shrink schedulers ?_ ?_ fits
  · simp [subscription, sessionSubscribers]
  · rw [sessionSubscribers]
    exact inv.consistent.nonempty

theorem Invariant.push {task : Task} (fits : task.Fits) : (dispatcher.push task).Invariant := by
  refine inv.retask rfl rfl ?_
  intro other mem
  rcases List.mem_append.mp mem with old | new
  · exact inv.fits other old
  · obtain rfl := List.mem_singleton.mp new
    exact fits

theorem Invariant.putSubscribers {sessionId : String} {subscribers : Subscribers}
    (part : ∀ key subscriber, subscribers.lookup key = some subscriber ->
      dispatcher.subscription sessionId key = some subscriber) :
    (dispatcher.putSubscribers sessionId subscribers).Invariant := by
  refine inv.shrink rfl ?_ ?_ inv.fits
  · intro other key subscriber found
    rw [subscription_putSubscribers] at found
    split at found
    next same => exact same ▸ part key subscriber found
    · exact found
  · intro other found listed
    by_cases same : other = sessionId
    · subst same
      simp only [EventDispatcher.putSubscribers, Function.update_self] at listed
      exact KeyedMap.unlessEmpty_filled listed
    · simp only [EventDispatcher.putSubscribers, Function.update_of_ne same] at listed
      exact inv.consistent.nonempty other found listed

theorem Invariant.reschedule {caller : SchedulerKey} {after : EventDispatcher}
    (others : ∀ other, other ≠ caller -> after.schedulers.lookup other = dispatcher.schedulers.lookup other)
    (own : ∀ state, after.schedulers.lookup caller = some state ->
      state.scheduler.asObject = some state.remote)
    (subscriptions : ∀ sessionId key, after.subscription sessionId key =
      if key.caller = caller then none else dispatcher.subscription sessionId key)
    (nonempty : ∀ sessionId subscribers, after.sessionSubscribers sessionId = some subscribers ->
      subscribers.keys.isEmpty = false)
    (tasks : after.tasks = dispatcher.tasks) : after.Invariant where
  consistent :=
    { current := fun sessionId key subscriber found => by
        rw [subscriptions] at found
        split at found
        · cases found
        next other =>
          rw [others key.caller other]
          exact inv.consistent.current sessionId key subscriber found
      nonempty := nonempty }
  remotes := fun other state found => by
    by_cases same : other = caller
    · exact own state (same ▸ found)
    · exact inv.remotes other state (others other same ▸ found)
  fits := by
    rw [tasks]
    exact inv.fits

theorem saveScheduler_invariant {caller : SchedulerKey} {scheduler : Scheduler} {remote : Nat}
    (fits : scheduler.asObject = some remote) (deathRecipient : DeathRecipient) :
    (dispatcher.saveScheduler caller scheduler remote deathRecipient).Invariant := by
  unfold saveScheduler
  split
  · exact inv.push trivial
  · have stored (state : SchedulerState)
        (found : (dispatcher.schedulers.insert caller ⟨scheduler, remote, deathRecipient⟩).lookup
          caller = some state) : state.scheduler.asObject = some state.remote := by
      rw [AList.lookup_insert] at found
      cases found
      exact fits
    split
    next absent =>
      refine inv.reschedule (fun other => AList.lookup_insert_ne) stored ?_
        inv.consistent.nonempty rfl
      intro sessionId key
      split
      next own =>
        by_contra some
        obtain ⟨subscriber, found⟩ := Option.ne_none_iff_exists'.mp some
        obtain ⟨_, state, listed, _⟩ := inv.consistent.current sessionId key subscriber found
        rw [own, absent] at listed
        cases listed
      · rfl
    next old _ =>
      refine Invariant.push ?_ trivial
      exact inv.reschedule (fun other => AList.lookup_insert_ne) stored
        (subscription_removeSubscribersForCallerLocked caller)
        (nonempty_removeSubscribersForCallerLocked caller) rfl

theorem clearScheduler_invariant (caller : SchedulerKey) :
    (dispatcher.clearScheduler caller).Invariant := by
  unfold clearScheduler
  split
  next absent =>
    refine inv.reschedule (fun _ _ => rfl) (fun state found => inv.remotes caller state found)
      (subscription_removeSubscribersForCallerLocked caller)
      (nonempty_removeSubscribersForCallerLocked caller) rfl
  · refine Invariant.push ?_ trivial
    refine inv.reschedule (fun other => AList.lookup_erase_ne) ?_
      (subscription_removeSubscribersForCallerLocked caller)
      (nonempty_removeSubscribersForCallerLocked caller) rfl
    intro state found
    simp [removeSubscribersForCallerLocked] at found

theorem registerSubscriber_invariant (sessionId subscriptionId : String)
    (callerPid callerUid : Int) :
    (dispatcher.registerSubscriber sessionId subscriptionId callerPid callerUid).1.Invariant := by
  unfold registerSubscriber
  split
  · exact inv
  · split
    · exact inv
    next state listed =>
      have shown (other : String) (key : SubscriberKey) (subscriber : SubscriberState)
          (found : subscription
            { dispatcher with
              sessionSubscribers := Function.update dispatcher.sessionSubscribers sessionId
                (some (((dispatcher.sessionSubscribers sessionId).getD ∅).insert
                  ⟨callerPid, callerUid, subscriptionId⟩
                  ⟨⟨callerPid, callerUid, subscriptionId⟩, state.scheduler⟩)) }
            other key = some subscriber) :
          key = ⟨callerPid, callerUid, subscriptionId⟩ ∧ subscriber = ⟨key, state.scheduler⟩ ∨
            dispatcher.subscription other key = some subscriber := by
        by_cases same : other = sessionId
        · subst same
          simp only [subscription, Function.update_self, Option.bind_some,
            KeyedMap.lookup_insert_eq] at found
          split at found
          next own => exact .inl ⟨own, own ▸ (Option.some.inj found).symm⟩
          · right
            cases listed : dispatcher.sessionSubscribers other with
            | none => simp [listed] at found
            | some subscribers => simpa [subscription, listed] using found
        · right
          simpa [subscription, Function.update_of_ne same] using found
      exact
        { consistent :=
            { current := fun other key subscriber found => by
                rcases shown other key subscriber found with ⟨rfl, rfl⟩ | old
                · exact ⟨rfl, state, listed, rfl⟩
                · exact inv.consistent.current other key subscriber old
              nonempty := fun other subscribers found => by
                by_cases same : other = sessionId
                · subst same
                  simp only [Function.update_self, Option.some.injEq] at found
                  rw [<- found, AList.keys_insert]
                  rfl
                · simp only [Function.update_of_ne same] at found
                  exact inv.consistent.nonempty other subscribers found }
          remotes := inv.remotes
          fits := inv.fits }

theorem removeFailedSubscribers_invariant (sessionId : String)
    (failedSubscribers : List SubscriberState) :
    (dispatcher.removeFailedSubscribers sessionId failedSubscribers).Invariant := by
  unfold removeFailedSubscribers
  split
  · exact inv
  · split
    · exact inv
    next subscribers found =>
      apply inv.putSubscribers
      intro key subscriber kept
      rw [KeyedMap.lookup_eraseAll] at kept
      split at kept
      · cases kept
      · simpa [subscription, found] using kept

theorem Invariant.snapshot {sessionId : String} {subscribers : Subscribers}
    (found : dispatcher.sessionSubscribers sessionId = some subscribers) :
    (Task.sendEvents sessionId (KeyedMap.values subscribers) []).Fits := by
  have listed (subscriber : SubscriberState) (mem : subscriber ∈ KeyedMap.values subscribers) :
      ∃ state, dispatcher.schedulers.lookup subscriber.key.caller = some state ∧
        subscriber.scheduler = state.scheduler := by
    obtain ⟨key, there⟩ := KeyedMap.mem_values.mp mem
    have subscribed : dispatcher.subscription sessionId key = some subscriber := by
      simp [subscription, found, there]
    obtain ⟨rfl, state⟩ := inv.consistent.current sessionId key subscriber subscribed
    exact state
  intro first firstMember second secondMember same
  obtain ⟨state, firstFound, firstUses⟩ := listed first (by simpa using firstMember)
  obtain ⟨other, secondFound, secondUses⟩ := listed second (by simpa using secondMember)
  rw [same, secondFound] at firstFound
  cases firstFound
  rw [firstUses, secondUses]

theorem perform_invariant (answer : Bool) {task : Task}
    (fits : task.Fits) : (dispatcher.perform answer task).Invariant := by
  cases task with
  | addDeathRecipient caller scheduler remote deathRecipient =>
    refine Invariant.push ?_ fits
    exact inv.retask rfl rfl inv.fits
  | saveScheduler caller scheduler remote deathRecipient =>
    exact saveScheduler_invariant inv fits deathRecipient
  | removeDeathRecipients cleanupList =>
    cases cleanupList with
    | nil => exact inv
    | cons held rest =>
      refine Invariant.push ?_ trivial
      exact inv.retask rfl rfl inv.fits
  | sendEvents sessionId subscribers failedSubscribers =>
    cases subscribers with
    | nil => exact removeFailedSubscribers_invariant inv sessionId failedSubscribers
    | cons subscriber rest =>
      refine inv.push ?_
      have part : (if answer then failedSubscribers else failedSubscribers ++ [subscriber]) ++ rest ⊆
          failedSubscribers ++ subscriber :: rest := by
        split <;> intro other mem <;> simp at mem ⊢ <;> tauto
      exact fun first firstMember second secondMember =>
        fits first (part firstMember) second (part secondMember)
  | onRemoteDied remote deathRecipient => exact clearScheduler_invariant inv deathRecipient.caller

theorem step_invariant (action : Action) : (dispatcher.step action).Invariant := by
  cases action with
  | setScheduler callerPid callerUid scheduler allocated =>
    simp only [step, setScheduler]
    split
    · exact inv
    next scheduler =>
      split
      · exact inv
      next remote known =>
        split_ifs
        · exact inv
        · exact inv
        · exact inv
        · refine Invariant.push ?_ known
          exact inv.retask rfl rfl inv.fits
  | registerSubscriber sessionId subscriptionId callerPid callerUid =>
    exact registerSubscriber_invariant inv sessionId subscriptionId callerPid callerUid
  | unregisterSubscriber sessionId subscriptionId callerPid callerUid =>
    simp only [step, unregisterSubscriber]
    split
    · exact inv
    · split
      · exact inv
      next subscribers found =>
        apply inv.putSubscribers
        intro key subscriber kept
        rw [KeyedMap.lookup_erase_eq] at kept
        split at kept
        · cases kept
        · simpa [subscription, found] using kept
  | dispatchEvent sessionId =>
    simp only [step, dispatchEvent]
    split
    · exact inv
    next subscribers found => exact inv.push (inv.snapshot found)
  | clearSessionSubscribers sessionId =>
    refine inv.shrink rfl ?_ ?_ inv.fits
    · intro other key subscriber found
      rw [step, subscription_clearSessionSubscribers] at found
      split at found
      · cases found
      · exact found
    · intro other subscribers found
      by_cases same : other = sessionId
      · simp [step, clearSessionSubscribers, same] at found
      · simp only [step, clearSessionSubscribers, Function.update_of_ne same] at found
        exact inv.consistent.nonempty other subscribers found
  | clearAll =>
    refine Invariant.push ?_ trivial
    exact
      { consistent := ⟨by simp [subscription], by simp⟩
        remotes := by simp
        fits := inv.fits }
  | remoteDies remote =>
    refine inv.retask rfl rfl ?_
    intro task mem
    rcases List.mem_append.mp mem with old | new
    · exact inv.fits task old
    · obtain ⟨held, _, rfl⟩ := List.mem_map.mp new
      trivial
  | advance index answer =>
    simp only [step, advance]
    split
    · exact inv
    next task found =>
      have kept : { dispatcher with tasks := dispatcher.tasks.eraseIdx index }.Invariant :=
        inv.retask rfl rfl fun other mem => inv.fits other (List.mem_of_mem_eraseIdx mem)
      exact perform_invariant kept answer (inv.fits task (List.mem_of_getElem? found))

end

def notices (dispatcher : EventDispatcher) : Action -> List (SchedulerKey × Option Nat)
  | .advance index _ =>
    match dispatcher.tasks[index]? with
    | some (.onRemoteDied remote deathRecipient) =>
      if (deathRecipient.caller, remote) ∈ dispatcher.saved then
        [(deathRecipient.caller, some remote)]
      else []
    | some (.sendEvents _ [] failedSubscribers) =>
      failedSubscribers.map fun subscriber => (subscriber.key.caller, subscriber.scheduler.asObject)
    | _ => []
  | _ => []

def Replaced (dispatcher : EventDispatcher) (notice : SchedulerKey × Option Nat) : Prop :=
  ∃ state, dispatcher.schedulers.lookup notice.1 = some state ∧ notice.2 ≠ some state.remote

def Spares (before after : EventDispatcher) (caller : SchedulerKey) : Prop :=
  after.schedulers.lookup caller = before.schedulers.lookup caller ∧
    ∀ sessionId key, key.caller = caller ->
      after.subscription sessionId key = before.subscription sessionId key

def KeepsNewer (dispatcher : EventDispatcher) (action : Action) : Prop :=
  ∀ notice ∈ dispatcher.notices action, dispatcher.Replaced notice ->
    Spares dispatcher (dispatcher.step action) notice.1

/-- No late death notice of a scheduler that was stored, whichever recipient brings it, and no failed
subscription made again through another scheduler. -/
def NotLate (dispatcher : EventDispatcher) : Action -> Prop
  | .advance index _ =>
    match dispatcher.tasks[index]? with
    | some (.onRemoteDied remote deathRecipient) =>
      (deathRecipient.caller, remote) ∈ dispatcher.saved ->
        ¬ dispatcher.Replaced (deathRecipient.caller, some remote)
    | some (.sendEvents sessionId [] failedSubscribers) =>
      ∀ subscriber ∈ failedSubscribers,
        dispatcher.Replaced (subscriber.key.caller, subscriber.scheduler.asObject) ->
          dispatcher.subscription sessionId subscriber.key = none
    | _ => True
  | _ => True

theorem clearScheduler_lookup (caller : SchedulerKey) :
    (dispatcher.clearScheduler caller).schedulers.lookup caller = none := by
  unfold clearScheduler
  split
  next absent => exact absent
  · exact AList.lookup_erase caller dispatcher.schedulers

@[simp] theorem removeFailedSubscribers_schedulers (sessionId : String)
    (failedSubscribers : List SubscriberState) :
    (dispatcher.removeFailedSubscribers sessionId failedSubscribers).schedulers =
      dispatcher.schedulers := by
  unfold removeFailedSubscribers
  split
  · rfl
  · split <;> rfl

theorem subscription_removeFailedSubscribers (sessionId other : String)
    (failedSubscribers : List SubscriberState) (key : SubscriberKey) :
    (dispatcher.removeFailedSubscribers sessionId failedSubscribers).subscription other key =
      if other = sessionId ∧ key ∈ failedSubscribers.map SubscriberState.key then none
      else dispatcher.subscription other key := by
  unfold removeFailedSubscribers
  split
  next empty => simp [List.isEmpty_iff.mp empty]
  · split
    next absent =>
      by_cases same : other = sessionId <;> simp [subscription, same, absent]
    next subscribers found =>
      rw [subscription_putSubscribers, KeyedMap.lookup_eraseAll]
      by_cases same : other = sessionId
      · simp [subscription, same, found]
      · simp [same]

theorem failed_keepsNewer_iff (dispatcher : EventDispatcher) {sessionId : String} {failedSubscribers : List SubscriberState}
    (fits : (Task.sendEvents sessionId [] failedSubscribers).Fits) :
    (∀ subscriber ∈ failedSubscribers,
        dispatcher.Replaced (subscriber.key.caller, subscriber.scheduler.asObject) ->
          Spares dispatcher (dispatcher.removeFailedSubscribers sessionId failedSubscribers)
            subscriber.key.caller) ↔
      ∀ subscriber ∈ failedSubscribers,
        dispatcher.Replaced (subscriber.key.caller, subscriber.scheduler.asObject) ->
          dispatcher.subscription sessionId subscriber.key = none := by
  constructor
  · intro spares subscriber mem replaced
    have same := (spares subscriber mem replaced).2 sessionId subscriber.key rfl
    rw [subscription_removeFailedSubscribers, if_pos ⟨rfl, List.mem_map_of_mem mem⟩] at same
    exact same.symm
  · intro gone subscriber mem replaced
    refine ⟨by simp, fun other key own => ?_⟩
    rw [subscription_removeFailedSubscribers]
    split
    next failed =>
      obtain ⟨rfl, listed⟩ := failed
      obtain ⟨second, secondMember, rfl⟩ := List.mem_map.mp listed
      have scheduler := fits second (by simpa using secondMember) subscriber (by simpa using mem) own
      rw [<- own, <- scheduler] at replaced
      exact (gone second secondMember replaced).symm
    · rfl

theorem keepsNewer_iff (inv : dispatcher.Invariant) (action : Action) :
    dispatcher.KeepsNewer action ↔ dispatcher.NotLate action := by
  cases action with
  | advance index answer =>
    simp only [KeepsNewer, notices, NotLate, step, advance]
    cases found : dispatcher.tasks[index]? with
    | none => simp
    | some task =>
      cases task with
      | addDeathRecipient caller scheduler remote deathRecipient => simp
      | saveScheduler caller scheduler remote deathRecipient => simp
      | removeDeathRecipients cleanupList => simp
      | onRemoteDied remote deathRecipient =>
        have lost {caller : SchedulerKey} {notice : Option Nat}
            (replaced : dispatcher.Replaced (caller, notice)) :
            ¬ Spares dispatcher ({ dispatcher with
              tasks := dispatcher.tasks.eraseIdx index }.clearScheduler caller) caller := by
          obtain ⟨state, stored, _⟩ := replaced
          intro spares
          have kept := spares.1
          rw [clearScheduler_lookup] at kept
          simp [stored] at kept
        by_cases saved : (deathRecipient.caller, remote) ∈ dispatcher.saved
        · simp only [saved, if_true, List.mem_singleton, forall_eq, perform, true_imp_iff]
          exact ⟨fun keeps replaced => lost replaced (keeps replaced), fun never replaced =>
            absurd replaced never⟩
        · simp [saved]
      | sendEvents sessionId subscribers failedSubscribers =>
        cases subscribers with
        | nil =>
          have fits := inv.fits _ (List.mem_of_getElem? found)
          simp only [List.forall_mem_map, perform]
          exact failed_keepsNewer_iff { dispatcher with tasks := dispatcher.tasks.eraseIdx index } fits
        | cons subscriber rest => simp
  | _ => simp [KeepsNewer, notices, NotLate]

theorem run_invariant (actions : List Action) : (machine.run actions).Invariant :=
  Library.Machine.run_invariant Invariant
    { consistent := ⟨by simp [machine, subscription], by simp [machine]⟩
      remotes := by simp [machine]
      fits := by simp [machine] }
    (fun _ action inv => step_invariant inv action) actions

/-- A late notice spares the newer scheduler only where there is nothing to spare. -/
theorem run_keepsNewer_iff (actions : List Action) :
    machine.Throughout actions Consistent ∧ machine.EveryStep actions KeepsNewer ↔
      machine.EveryStep actions NotLate := by
  constructor
  · intro meets done action rest split
    exact (keepsNewer_iff (run_invariant done) action).mp (meets.2 done action rest split)
  · intro prompt
    refine ⟨fun done _ _ => (run_invariant done).consistent, ?_⟩
    intro done action rest split
    exact (keepsNewer_iff (run_invariant done) action).mpr (prompt done action rest split)

def lateDeath : List Action :=
  [.setScheduler 100 20010 (some ⟨0, some 0⟩) true, .advance 0 true, .advance 0 true, .remoteDies 0,
    .setScheduler 100 20010 (some ⟨1, some 1⟩) true, .advance 1 true, .advance 1 true,
    .registerSubscriber "session" "subscription" 100 20010]

theorem late_death_clears_newer :
    ¬ (machine.Throughout (lateDeath ++ [.advance 0 true]) Consistent ∧
      machine.EveryStep (lateDeath ++ [.advance 0 true]) KeepsNewer) := by
  intro meets
  have notice : (⟨100, 20010⟩, some 0) ∈ (machine.run lateDeath).notices (.advance 0 true) := by
    decide
  have stored : (machine.run lateDeath).schedulers.lookup ⟨100, 20010⟩ =
      some ⟨⟨1, some 1⟩, 1, ⟨1, ⟨100, 20010⟩⟩⟩ := by
    decide
  have spares := meets.2 lateDeath (.advance 0 true) [] rfl _ notice ⟨_, stored, by decide⟩
  have gone : ((machine.run lateDeath).step (.advance 0 true)).schedulers.lookup ⟨100, 20010⟩ = none := by
    decide
  exact absurd spares.1 (by decide)

end EventDispatcher

end AbilityRuntime.CliTool
