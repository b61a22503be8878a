import AbilityRuntime.SceneBoard.UIAbilityLifecycleManager
import AbilityRuntime.SceneBoard.WaitingRequests

set_option autoImplicit false

namespace AbilityRuntime.SceneBoard

open Library SpecifiedRequests KeyedMap List Option AbilitiesRequest Prod SessionInfo

namespace AbilitiesRequest

def itemAbility (queue : SpecifiedRequests) (item : Nat × Option SessionInfo) : Option String :=
  match item.2 with
  | none => queue.abilityOf item.1
  | some session => some session.ability

theorem setSession_ids (session : SessionInfo) (items : List (Nat × Option SessionInfo)) :
    (setSession session items).map fst = items.map fst := by
  induction items with
  | nil => rfl
  | cons item rest ih =>
    unfold setSession
    split <;> simp [ih]

variable {session : SessionInfo} {items : List (Nat × Option SessionInfo)}

theorem setSession_abilities (queue : SpecifiedRequests) (distinct : (items.map fst).Nodup)
    (waiting : (session.requestId, none) ∈ items)
    (own : queue.abilityOf session.requestId = some session.ability) :
    (setSession session items).map (itemAbility queue) = items.map (itemAbility queue) := by
  induction items with
  | nil => rfl
  | cons item rest ih =>
    obtain ⟨apart, later⟩ := nodup_cons.mp distinct
    unfold setSession
    split
    next same =>
      rcases mem_cons.mp waiting with here | there
      · simp [<- here, itemAbility, own]
      · exact absurd (same ▸ mem_map_of_mem there) apart
    next ne =>
      have there : (session.requestId, none) ∈ rest :=
        (mem_cons.mp waiting).resolve_left fun here => ne (by rw [<- here])
      simp [ih later there]

theorem setSession_count (distinct : (items.map fst).Nodup)
    (waiting : (session.requestId, none) ∈ items) :
    (setSession session items).countP (fun item => item.2.isSome) =
      items.countP (fun item => item.2.isSome) + 1 := by
  induction items with
  | nil => cases waiting
  | cons item rest ih =>
    obtain ⟨apart, later⟩ := nodup_cons.mp distinct
    unfold setSession
    split
    next same =>
      rcases mem_cons.mp waiting with here | there
      · simp [<- here]
      · exact absurd (same ▸ mem_map_of_mem there) apart
    next ne =>
      have there : (session.requestId, none) ∈ rest :=
        (mem_cons.mp waiting).resolve_left fun here => ne (by rw [<- here])
      rw [countP_cons, countP_cons, ih later there]
      omega

theorem mem_setSession_none (distinct : (items.map fst).Nodup) (requestId : Nat) :
    (requestId, none) ∈ setSession session items ↔
      (requestId, none) ∈ items ∧ requestId ≠ session.requestId := by
  induction items with
  | nil => simp [setSession]
  | cons item rest ih =>
    obtain ⟨apart, later⟩ := nodup_cons.mp distinct
    unfold setSession
    split
    next same =>
      have absent : (session.requestId, none) ∉ rest := fun there =>
        apart (same ▸ mem_map_of_mem there)
      constructor
      · intro mem
        have there : (requestId, none) ∈ rest := by simpa using mem
        exact ⟨mem_cons_of_mem _ there, fun equal => absent (equal ▸ there)⟩
      · rintro ⟨mem, ne⟩
        rcases mem_cons.mp mem with here | there
        · exact absurd (by rw [<- same, <- here]) ne
        · exact mem_cons_of_mem _ there
    next ne =>
      rw [mem_cons, mem_cons, ih later]
      constructor
      · rintro (rfl | ⟨there, apart⟩)
        · exact ⟨.inl rfl, ne⟩
        · exact ⟨.inr there, apart⟩
      · rintro ⟨rfl | there, apart⟩
        · exact .inl rfl
        · exact .inr ⟨there, apart⟩

theorem sessions_abilities (queue : SpecifiedRequests) {batch : AbilitiesRequest}
    (complete : batch.sessionInfoList.countP (fun item => item.2.isSome) = batch.sessionInfoList.length)
    {abilities : List String}
    (order : batch.sessionInfoList.map (itemAbility queue) = abilities.map some) :
    batch.sessions.map ability = abilities := by
  have all := countP_eq_length.mp complete
  have ready : batch.sessionInfoList.map (itemAbility queue) =
      (batch.sessions.map ability).map some := by
    rw [sessions]
    generalize batch.sessionInfoList = items at all
    induction items with
    | nil => rfl
    | cons item rest ih =>
      have first := all item mem_cons_self
      obtain ⟨session, filled⟩ := isSome_iff_exists.mp first
      simp [itemAbility, filled, ih fun other mem => all other (mem_cons_of_mem _ mem)]
  exact map_injective_iff.mpr (fun _ _ => some.inj) (ready.symm.trans order)

end AbilitiesRequest

namespace UIAbilityLifecycleManager

def course (mgr : UIAbilityLifecycleManager) (requestListId : Nat) : List Event :=
  mgr.events.filter fun event => event.requestListId = requestListId

structure Pending (mgr : UIAbilityLifecycleManager) (requestListId : Nat)
    (batch : AbilitiesRequest) (called abilities : List String) : Prop where
  course : mgr.course requestListId = [.called requestListId called]
  order : batch.sessionInfoList.map (itemAbility mgr.queue) = abilities.map some
  waits : ∀ requestId, (requestId, none) ∈ batch.sessionInfoList ↔
    mgr.queue.Waits requestListId requestId
  count : batch.doneCount = batch.sessionInfoList.countP fun item => item.2.isSome
  distinct : (batch.sessionInfoList.map fst).Nodup
  drawn : ∀ item ∈ batch.sessionInfoList, item.1 < mgr.queue.nextId

inductive Finished (requestListId : Nat) (abilities : List String) : List Event -> Prop where
  | unsent (outcome : Outcome) :
      Finished requestListId abilities
        [.called requestListId abilities, .outcome requestListId outcome]
  | sent (sessions : List SessionInfo) (outcome : Outcome)
      (whole : sessions.map ability = abilities) :
      Finished requestListId abilities [.called requestListId abilities,
        .sent requestListId sessions, .outcome requestListId outcome]

/-- Every batch is on its course, but for one that is just being put together. -/
structure Tracked (mgr : UIAbilityLifecycleManager) (exempt : Option Nat) : Prop where
  listed : Listed mgr.queue
  drawn : ∀ event ∈ mgr.events, event.requestListId < mgr.queue.nextId
  batchesDrawn : ∀ requestId requestListId, mgr.queue.batchOf requestId = some requestListId ->
    requestListId < mgr.queue.nextId
  known : ∀ requestListId batch, mgr.abilitiesRequestMap.lookup requestListId = some batch ->
    ∃ abilities, .called requestListId abilities ∈ mgr.events
  live : ∀ requestListId batch, exempt ≠ some requestListId ->
    mgr.abilitiesRequestMap.lookup requestListId = some batch ->
      ∃ abilities, Pending mgr requestListId batch abilities abilities ∧
        ∃ requestId, (requestId, none) ∈ batch.sessionInfoList
  ended : ∀ requestListId abilities, exempt ≠ some requestListId ->
    mgr.abilitiesRequestMap.lookup requestListId = none ->
      .called requestListId abilities ∈ mgr.events ->
        Finished requestListId abilities (mgr.course requestListId)

variable {mgr : UIAbilityLifecycleManager} {exempt : Option Nat} {requestListId : Nat}
  {batch : AbilitiesRequest} {called abilities : List String} {after : SpecifiedRequests} {gone : List Nat}

theorem Pending.called_mem (pending : Pending mgr requestListId batch called abilities) :
    .called requestListId called ∈ mgr.events := by
  have first : .called requestListId called ∈ mgr.course requestListId := by simp [pending.course]
  exact (mem_filter.mp first).1

theorem itemAbility_congr
    (same : ∀ requestId, after.abilityOf requestId = mgr.queue.abilityOf requestId) :
    itemAbility after = itemAbility mgr.queue := by
  funext item
  unfold itemAbility
  split
  · exact same item.1
  · rfl

theorem Pending.queue (pending : Pending mgr requestListId batch called abilities)
    (goes : Goes mgr.queue after gone) (listed : Listed mgr.queue)
    (spare : ∀ requestId ∈ gone, mgr.queue.batchOf requestId ≠ some requestListId) :
    Pending (mgr.withQueue after) requestListId batch called abilities := by
  refine { pending with order := ?_, waits := fun requestId => ?_, drawn := fun item mem => ?_ }
  · rw [withQueue, itemAbility_congr goes.abilities]
    exact pending.order
  · rw [pending.waits, withQueue, goes.waits_iff listed.members_nodup]
    exact ⟨fun waits => ⟨waits, fun away => spare requestId away waits.2⟩, fun both => both.1⟩
  · rw [withQueue, goes.nextId]
    exact pending.drawn item mem

theorem Tracked.queue (tracked : Tracked mgr exempt) (goes : Goes mgr.queue after gone)
    (listed : Listed after)
    (spare : ∀ requestId ∈ gone, ∀ requestListId, mgr.queue.batchOf requestId = some requestListId ->
      exempt = some requestListId ∨ mgr.abilitiesRequestMap.lookup requestListId = none) :
    Tracked (mgr.withQueue after) exempt := by
  refine { tracked with
    listed := listed, drawn := ?_, batchesDrawn := ?_, live := ?_ }
  · rw [withQueue, goes.nextId]
    exact tracked.drawn
  · intro requestId other own
    rw [withQueue] at own ⊢
    rw [goes.batches] at own
    rw [goes.nextId]
    exact tracked.batchesDrawn requestId other own
  · intro other batch open' held
    obtain ⟨abilities, pending, waiting⟩ := tracked.live other batch open' held
    refine ⟨abilities, pending.queue goes tracked.listed fun requestId away own => ?_, waiting⟩
    rcases spare requestId away other own with same | missing
    · exact open' same
    · rw [show mgr.abilitiesRequestMap.lookup other = some batch from held] at missing
      cases missing

theorem Tracked.withExempt (tracked : Tracked mgr none) (exempt : Option Nat) : Tracked mgr exempt :=
  { tracked with
    live := fun requestListId batch _ => tracked.live requestListId batch nofun
    ended := fun requestListId abilities _ => tracked.ended requestListId abilities nofun }

theorem Pending.done (pending : Pending mgr requestListId batch called abilities)
    {session : SessionInfo} (goes : Goes mgr.queue after [session.requestId])
    (listed : Listed mgr.queue) (waits : mgr.queue.Waits requestListId session.requestId)
    (own : mgr.queue.abilityOf session.requestId = some session.ability) :
    Pending (mgr.withQueue after) requestListId (batch.done session) called abilities := by
  have waiting := (pending.waits session.requestId).mpr waits
  refine { course := pending.course, order := ?_, waits := ?_, count := ?_, distinct := ?_, drawn := ?_ }
  · rw [withQueue, itemAbility_congr goes.abilities]
    exact (setSession_abilities mgr.queue pending.distinct waiting own).trans pending.order
  · intro requestId
    rw [withQueue, goes.waits_iff listed.members_nodup, <- pending.waits, mem_singleton]
    exact mem_setSession_none pending.distinct requestId
  · rw [AbilitiesRequest.done, AbilitiesRequest.setSession_count pending.distinct waiting, <- pending.count]
  · rw [AbilitiesRequest.done, AbilitiesRequest.setSession_ids]
    exact pending.distinct
  · intro item mem
    rw [withQueue, goes.nextId]
    have same : item.1 ∈ batch.sessionInfoList.map fst := by
      rw [<- setSession_ids session]
      exact mem_map_of_mem mem
    obtain ⟨before, held, equal⟩ := mem_map.mp same
    exact equal ▸ pending.drawn before held

theorem course_append_of_ne {extra : List Event} (own : ∀ event ∈ extra, event.requestListId = requestListId)
    {other : Nat} (ne : requestListId ≠ other) :
    (mgr.events ++ extra).filter (fun event => event.requestListId = other) = mgr.course other := by
  rw [filter_append, course]
  have none : extra.filter (fun event => decide (event.requestListId = other)) = [] := by
    refine filter_eq_nil_iff.mpr fun event mem => ?_
    rw [own event mem]
    simpa using ne
  rw [none, append_nil]

section

variable (tracked : Tracked mgr (some requestListId))
include tracked

theorem Tracked.close {extra : List Event}
    (course : mgr.course requestListId = [.called requestListId called])
    (own : ∀ event ∈ extra, event.requestListId = requestListId)
    (finished : Finished requestListId called (.called requestListId called :: extra)) :
    Tracked { mgr with
      abilitiesRequestMap := mgr.abilitiesRequestMap.erase requestListId
      events := mgr.events ++ extra } none := by
  have first : .called requestListId called ∈ mgr.events := by
    have : .called requestListId called ∈ mgr.course requestListId := by simp [course]
    exact (mem_filter.mp this).1
  have others (event : Event) (mem : event ∈ mgr.events ++ extra) :
      event ∈ mgr.events ∨ event.requestListId = requestListId :=
    (mem_append.mp mem).imp id (own event)
  have whole : (mgr.events ++ extra).filter (fun event => event.requestListId = requestListId) =
      .called requestListId called :: extra := by
    have all : extra.filter (fun event => decide (event.requestListId = requestListId)) = extra :=
      filter_eq_self.mpr fun event mem => by simp [own event mem]
    rw [filter_append, all]
    exact congrArg (· ++ extra) course
  refine { tracked with drawn := ?_, known := ?_, live := ?_, ended := ?_ }
  · intro event mem
    rcases others event mem with before | same
    · exact tracked.drawn event before
    · rw [same]
      exact tracked.drawn _ first
  · intro other batch held
    obtain ⟨abilities, mem⟩ := tracked.known other batch (lookup_of_erase held)
    exact ⟨abilities, mem_append_left _ mem⟩
  · intro other batch _ held
    rw [lookup_erase_eq] at held
    split at held
    · cases held
    next ne =>
      obtain ⟨abilities, pending, waiting⟩ := tracked.live other batch
        (fun same => ne (some.inj same).symm) held
      refine ⟨abilities, { pending with course := ?_ }, waiting⟩
      exact (course_append_of_ne own (Ne.symm ne)).trans pending.course
  · intro other abilities _ missing mem
    by_cases same : other = requestListId
    · subst same
      have inside : .called other abilities ∈ .called other called :: extra := by
        rw [<- whole]
        exact mem_filter.mpr ⟨mem, by simp [Event.requestListId]⟩
      have same : abilities = called := by
        cases finished <;> simpa using inside
      rw [UIAbilityLifecycleManager.course, whole, same]
      exact finished
    · rw [lookup_erase_eq, if_neg same] at missing
      rcases mem_append.mp mem with before | new
      · rw [UIAbilityLifecycleManager.course, course_append_of_ne own (Ne.symm same)]
        exact tracked.ended other abilities (fun equal => same (some.inj equal).symm) missing before
      · exact absurd (own _ new) same

theorem Tracked.reopen (pending : Pending mgr requestListId batch abilities abilities)
    (waiting : ∃ requestId, (requestId, none) ∈ batch.sessionInfoList) :
    Tracked { mgr with
      abilitiesRequestMap := mgr.abilitiesRequestMap.insert requestListId batch } none := by
  refine { tracked with known := ?_, live := ?_, ended := ?_ }
  · intro other held found
    rw [lookup_insert_eq] at found
    split at found
    next same => exact ⟨abilities, same ▸ pending.called_mem⟩
    · exact tracked.known other held found
  · intro other held _ found
    rw [lookup_insert_eq] at found
    split at found
    next same =>
      subst same
      rw [<- some.inj found]
      exact ⟨abilities, { pending with }, waiting⟩
    next ne =>
      obtain ⟨abilities, pending, waiting⟩ := tracked.live other held
        (fun same => ne (some.inj same).symm) found
      exact ⟨abilities, { pending with }, waiting⟩
  · intro other abilities _ missing mem
    rw [lookup_insert_eq] at missing
    split at missing
    · cases missing
    next ne =>
      exact tracked.ended other abilities (fun same => ne (some.inj same).symm) missing mem

theorem Tracked.settled (held : mgr.abilitiesRequestMap.lookup requestListId = some batch)
    (pending : Pending mgr requestListId batch abilities abilities)
    (waiting : ∃ requestId, (requestId, none) ∈ batch.sessionInfoList) : Tracked mgr none := by
  refine { tracked with live := ?_, ended := ?_ }
  · intro other again _ found
    by_cases same : other = requestListId
    · subst same
      rw [held] at found
      rw [<- some.inj found]
      exact ⟨abilities, pending, waiting⟩
    · exact tracked.live other again (fun equal => same (some.inj equal).symm) found
  · intro other abilities _ missing mem
    by_cases same : other = requestListId
    · rw [same, held] at missing
      cases missing
    · exact tracked.ended other abilities (fun equal => same (some.inj equal).symm) missing mem

end

theorem closeBatch_eq (requestListId : Nat) (batch : AbilitiesRequest) (delivery : Delivery)
    (outcome : Outcome) :
    (mgr.batchNotifySCBPendingActivations requestListId batch delivery).closeBatch requestListId
        outcome = { mgr with
      abilitiesRequestMap := mgr.abilitiesRequestMap.erase requestListId
      events := mgr.events ++ ((if delivery.reached then [.sent requestListId batch.sessions] else []) ++
        [.outcome requestListId outcome]) } := by
  unfold batchNotifySCBPendingActivations
  split <;> simp [closeBatch, record]

theorem Tracked.deliver (tracked : Tracked mgr (some requestListId))
    (pending : Pending mgr requestListId batch abilities abilities)
    (complete : batch.doneCount = batch.sessionInfoList.length) (delivery : Delivery)
    (outcome : Outcome) :
    Tracked ((mgr.batchNotifySCBPendingActivations requestListId batch delivery).closeBatch
      requestListId outcome) none := by
  rw [closeBatch_eq]
  have whole := sessions_abilities mgr.queue (pending.count.symm.trans complete) pending.order
  refine tracked.close pending.course ?_ ?_
  · intro event mem
    split at mem
    · rcases mem_append.mp mem with sent | told
      · rw [mem_singleton.mp sent, Event.requestListId]
      · rw [mem_singleton.mp told, Event.requestListId]
    · rw [mem_singleton.mp mem, Event.requestListId]
  · split
    · exact .sent batch.sessions outcome whole
    · exact .unsent outcome

theorem Pending.waiting (pending : Pending mgr requestListId batch called abilities)
    (incomplete : batch.doneCount ≠ batch.sessionInfoList.length) :
    ∃ requestId, (requestId, none) ∈ batch.sessionInfoList := by
  rw [pending.count, Ne, countP_eq_length] at incomplete
  push Not at incomplete
  obtain ⟨⟨requestId, session⟩, mem, missing⟩ := incomplete
  obtain rfl : session = none := by simpa using missing
  exact ⟨requestId, mem⟩

theorem Tracked.answer (tracked : Tracked mgr none) {session : SessionInfo}
    (goes : Goes mgr.queue after [session.requestId]) (listed : Listed after)
    (mem : session.requestId ∈ mgr.queue.members)
    (own : mgr.queue.abilityOf session.requestId = some session.ability) (delivery : Delivery) :
    Tracked ((mgr.withQueue after).handleAbilitiesRequestDone
      (mgr.queue.batchOf session.requestId) (some session) delivery) none := by
  cases batchOf : mgr.queue.batchOf session.requestId with
  | none =>
    refine tracked.queue goes listed fun requestId away other found => ?_
    rw [mem_singleton.mp away, batchOf] at found
    cases found
  | some requestListId =>
    have only (requestId : Nat) (away : requestId ∈ [session.requestId]) (other : Nat)
        (found : mgr.queue.batchOf requestId = some other) : requestListId = other := by
      rw [mem_singleton.mp away, batchOf] at found
      exact some.inj found
    cases held : mgr.abilitiesRequestMap.lookup requestListId with
    | none =>
      simp only [handleAbilitiesRequestDone, withQueue, held]
      exact tracked.queue goes listed fun requestId away other found =>
        .inr (only requestId away other found ▸ held)
    | some batch =>
      obtain ⟨abilities, pending, -⟩ := tracked.live requestListId batch nofun held
      have exempt := (tracked.withExempt (some requestListId)).queue goes listed
        fun requestId away other found => .inl (congrArg some (only requestId away other found))
      have done := pending.done goes tracked.listed ⟨mem, batchOf⟩ own
      simp only [handleAbilitiesRequestDone, withQueue, held]
      split
      next complete => exact exempt.deliver done complete delivery _
      next incomplete => exact exempt.reopen done (done.waiting incomplete)

theorem Tracked.fail (tracked : Tracked mgr none) (requestListId : Option Nat) (delivery : Delivery) :
    Tracked (mgr.handleAbilitiesRequestDone requestListId none delivery) none := by
  unfold handleAbilitiesRequestDone
  split
  · exact tracked
  next requestListId =>
    split
    · exact tracked
    next batch held =>
      obtain ⟨abilities, pending, -⟩ := tracked.live requestListId batch nofun held
      refine (tracked.withExempt (some requestListId)).close pending.course ?_ (.unsent _)
      intro event mem
      rw [mem_singleton.mp mem, Event.requestListId]

end UIAbilityLifecycleManager

end AbilityRuntime.SceneBoard
