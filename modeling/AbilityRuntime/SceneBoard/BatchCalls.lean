import AbilityRuntime.SceneBoard.Batches

set_option autoImplicit false

namespace AbilityRuntime.SceneBoard

open Library SpecifiedRequests AbilitiesRequest KeyedMap List Nat UIAbilityLifecycleManager

namespace UIAbilityLifecycleManager

variable {mgr : UIAbilityLifecycleManager} {requestListId : Nat} {batch : AbilitiesRequest}
  {called abilities : List String} {after : SpecifiedRequests} {request : SpecifiedRequest}

theorem Pending.order_of_adds (pending : Pending mgr requestListId batch called abilities)
    (adds : Adds mgr.queue request after) (new : request.requestId = mgr.queue.nextId) :
    batch.sessionInfoList.map (itemAbility after) = abilities.map some := by
  rw [<- pending.order]
  refine map_congr_left fun item mem => ?_
  unfold itemAbility
  split
  · have := pending.drawn item mem
    rw [adds.abilities, if_neg (by omega)]
  · rfl

theorem Adds.waits_iff (adds : Adds mgr.queue request after) (listed : Listed mgr.queue)
    (new : request.requestId = mgr.queue.nextId) (requestListId requestId : Nat) :
    after.Waits requestListId requestId ↔ mgr.queue.Waits requestListId requestId ∨
      requestId = request.requestId ∧ request.requestListId = some requestListId := by
  rw [Waits, Waits, adds.members.mem_iff, mem_append, mem_singleton, adds.batches]
  by_cases same : requestId = request.requestId
  · have absent : requestId ∉ mgr.queue.members := by
      intro mem
      have arrived := listed.leaves.mem_iff.mp (mem_append_right _ mem)
      exact listed.fresh (new ▸ same ▸ arrived)
    simp [same, same ▸ absent]
  · simp [same]

section

variable (pending : Pending mgr requestListId batch called abilities)
include pending

theorem Pending.other (adds : Adds mgr.queue request after) (listed : Listed mgr.queue)
    (new : request.requestId = mgr.queue.nextId)
    (apart : request.requestListId ≠ some requestListId) :
    Pending (mgr.withQueue after) requestListId batch called abilities := by
  refine { pending with
    order := pending.order_of_adds adds new, waits := fun requestId => ?_, drawn := fun item mem => ?_ }
  · rw [pending.waits, withQueue, Adds.waits_iff adds listed new]
    exact ⟨.inl, fun either => either.resolve_right fun both => apart both.2⟩
  · rw [withQueue, adds.nextId]
    exact lt_succ_of_lt (pending.drawn item mem)

theorem Pending.add (adds : Adds mgr.queue request after) (listed : Listed mgr.queue)
    (new : request.requestId = mgr.queue.nextId)
    (own : request.requestListId = some requestListId) :
    Pending (mgr.withQueue after) requestListId (batch.add request.requestId) called
      (abilities ++ [request.abilityRequest.ability]) := by
  refine { course := pending.course, order := ?_, waits := ?_, count := ?_, distinct := ?_, drawn := ?_ }
  · have ability := adds.abilities request.requestId
    rw [if_pos rfl] at ability
    simp only [AbilitiesRequest.add, map_append, withQueue, pending.order_of_adds adds new,
      map_cons, map_nil, itemAbility, ability]
  · intro requestId
    rw [withQueue, Adds.waits_iff adds listed new, <- pending.waits]
    simp [AbilitiesRequest.add, own]
  · simpa [AbilitiesRequest.add] using pending.count
  · have fresh : request.requestId ∉ batch.sessionInfoList.map Prod.fst := by
      intro mem
      obtain ⟨item, held, same⟩ := mem_map.mp mem
      have := pending.drawn item held
      omega
    rw [AbilitiesRequest.add, map_append]
    exact nodup_append_comm.mp (nodup_cons.mpr ⟨fresh, pending.distinct⟩)
  · intro item mem
    rw [withQueue, adds.nextId]
    rcases mem_append.mp mem with before | same
    · exact lt_succ_of_lt (pending.drawn item before)
    · rw [mem_singleton.mp same, new]
      exact lt_succ_self _

theorem Pending.addSession {session : SessionInfo}
    (new : session.requestId = mgr.queue.nextId) :
    Pending (mgr.withQueue mgr.queue.drawNext) requestListId (batch.addSession session)
      called (abilities ++ [session.ability]) := by
  refine { course := pending.course, order := ?_, waits := ?_, count := ?_, distinct := ?_, drawn := ?_ }
  · have before : batch.sessionInfoList.map (itemAbility mgr.queue.drawNext) =
        abilities.map some := pending.order
    simp only [AbilitiesRequest.addSession, map_append, withQueue, before, map_cons,
      map_nil, itemAbility]
  · intro requestId
    refine Iff.trans ?_ (pending.waits requestId)
    simp [AbilitiesRequest.addSession]
  · simpa [AbilitiesRequest.addSession] using pending.count
  · have fresh : session.requestId ∉ batch.sessionInfoList.map Prod.fst := by
      intro mem
      obtain ⟨item, held, same⟩ := mem_map.mp mem
      have := pending.drawn item held
      omega
    rw [AbilitiesRequest.addSession, map_append]
    exact nodup_append_comm.mp (nodup_cons.mpr ⟨fresh, pending.distinct⟩)
  · intro item mem
    rcases mem_append.mp mem with before | same
    · exact lt_succ_of_lt (pending.drawn item before)
    · rw [mem_singleton.mp same, new]
      exact lt_succ_self _

end

theorem Tracked.drawNext {exempt : Option Nat} (tracked : Tracked mgr exempt) :
    Tracked (mgr.withQueue mgr.queue.drawNext) exempt := by
  refine { tracked with
    listed := tracked.listed.drawNext, drawn := ?_, batchesDrawn := ?_, live := ?_ }
  · exact fun event mem => lt_succ_of_lt (tracked.drawn event mem)
  · exact fun requestId other own => lt_succ_of_lt (tracked.batchesDrawn requestId other own)
  · intro other batch apart held
    obtain ⟨abilities, pending, waiting⟩ := tracked.live other batch apart held
    refine ⟨abilities, { pending with drawn := ?_ }, waiting⟩
    exact fun item mem => lt_succ_of_lt (pending.drawn item mem)

theorem Tracked.add {exempt : Option Nat} (tracked : Tracked mgr exempt)
    (adds : Adds mgr.queue request after) (listed : Listed after)
    (new : request.requestId = mgr.queue.nextId)
    (own : ∀ requestListId, request.requestListId = some requestListId ->
      exempt = some requestListId ∧ requestListId < mgr.queue.nextId) :
    Tracked (mgr.withQueue after) exempt := by
  refine { tracked with listed := listed, drawn := ?_, batchesDrawn := ?_, live := ?_ }
  · intro event mem
    rw [withQueue, adds.nextId]
    exact lt_succ_of_lt (tracked.drawn event mem)
  · intro requestId other found
    rw [withQueue] at found ⊢
    rw [adds.batches] at found
    rw [adds.nextId]
    split at found
    · exact lt_succ_of_lt (own other found).2
    · exact lt_succ_of_lt (tracked.batchesDrawn requestId other found)
  · intro other batch apart held
    obtain ⟨abilities, pending, waiting⟩ := tracked.live other batch apart held
    exact ⟨abilities, pending.other adds tracked.listed new fun same => apart (own other same).1, waiting⟩

structure Opened (mgr : UIAbilityLifecycleManager) (requestListId : Nat) (batch : AbilitiesRequest)
    (called abilities : List String) : Prop where
  tracked : Tracked mgr (some requestListId)
  held : mgr.abilitiesRequestMap.lookup requestListId = some batch
  pending : Pending mgr requestListId batch called abilities

theorem updateBatch_eq (held : mgr.abilitiesRequestMap.lookup requestListId = some batch)
    (change : AbilitiesRequest -> AbilitiesRequest) :
    mgr.updateBatch requestListId change = { mgr with
      abilitiesRequestMap := mgr.abilitiesRequestMap.insert requestListId (change batch) } := by
  rw [updateBatch, held]

theorem withQueue_updateBatch (queue : SpecifiedRequests) (change : AbilitiesRequest -> AbilitiesRequest) :
    (mgr.withQueue queue).updateBatch requestListId change =
      (mgr.updateBatch requestListId change).withQueue queue := by
  simp only [updateBatch, withQueue]
  split <;> rfl

theorem Opened.change (tracked : Tracked mgr (some requestListId))
    (held : mgr.abilitiesRequestMap.lookup requestListId = some batch)
    {change : AbilitiesRequest -> AbilitiesRequest}
    (pending : Pending mgr requestListId (change batch) called abilities) :
    Opened (mgr.updateBatch requestListId change) requestListId (change batch) called abilities := by
  rw [updateBatch_eq held]
  refine ⟨{ tracked with known := ?_, live := ?_, ended := ?_ }, ?_, { pending with }⟩
  · intro other again found
    rw [lookup_insert_eq] at found
    split at found
    next same => exact ⟨called, same ▸ pending.called_mem⟩
    · exact tracked.known other again found
  · intro other again apart found
    rw [lookup_insert_eq, if_neg fun same => apart (congrArg some same.symm)] at found
    obtain ⟨abilities, pending, waiting⟩ := tracked.live other again apart found
    exact ⟨abilities, { pending with }, waiting⟩
  · intro other abilities apart missing mem
    rw [lookup_insert_eq, if_neg fun same => apart (congrArg some same.symm)] at missing
    exact tracked.ended other abilities apart missing mem
  · rw [lookup_insert_eq, if_pos rfl]

theorem addSpecifiedRequest_listed (listed : Listed mgr.queue) {request : SpecifiedRequest}
    (new : request.requestId = mgr.queue.nextId) (warm : request.isCold = false) (start : Start) :
    Listed (mgr.queue.drawNext.addSpecifiedRequest request start) := by
  refine listed.drawNext.addSpecifiedRequest ?_ ?_ (fun cold => ?_) start
  · rw [new]
    exact listed.fresh
  · rw [new]
    exact lt_succ_self _
  · rw [warm] at cold
    cases cold

theorem addSpecifiedRequest_goes (request : SpecifiedRequest) (start : Start) :
    ∃ gone, Goes (mgr.queue.drawNext.pushRequest request)
        (mgr.queue.drawNext.addSpecifiedRequest request start) gone ∧
      ∀ other ∈ gone, other = request.requestId ∧ start.isHook = true ∧ request.stage = .ability ∧
        mgr.queue.list request.abilityRequest.listKey = [] := by
  unfold addSpecifiedRequest
  dsimp only
  split
  next alone =>
    rw [<- list, pushRequest_list, if_pos rfl, length_append] at alone
    have empty : mgr.queue.list request.abilityRequest.listKey = [] :=
      length_eq_zero_iff.mp (succ.inj alone)
    obtain ⟨gone, goes, reasons⟩ :=
      start_goes (mgr.queue.drawNext.pushRequest request) request.requestId start
    refine ⟨gone, goes, fun other away => ?_⟩
    obtain ⟨same, isHook, found, first, stage⟩ := reasons other away
    have held := (getSpecifiedRequest_some first).1
    simp only [pushRequest, lookup_insert_eq, if_true] at held
    exact ⟨same, isHook, Option.some.inj held ▸ stage, empty⟩
  · exact ⟨[], .refl _, by simp⟩

theorem Opened.addRequest (opened : Opened mgr requestListId batch called abilities)
    (room : mgr.queue.Room 1) (abilityRequest : AbilityRequest)
    (specifiedProcessState : SpecifiedProcessState) {start : Start}
    (spares : specifiedProcessState = .process ∨
      (start.isHook = true -> mgr.queue.list abilityRequest.listKey ≠ [])) :
    Opened (mgr.addRequest abilityRequest (some requestListId) specifiedProcessState start)
      requestListId (batch.add mgr.queue.nextId) called (abilities ++ [abilityRequest.ability]) := by
  let request : SpecifiedRequest :=
    { requestId := mgr.queue.nextId, abilityRequest, requestListId := some requestListId
      specifiedProcessState }
  have tracked := opened.tracked
  have adds := pushRequest_adds mgr.queue request
  have pushed : Listed (mgr.queue.drawNext.pushRequest request) :=
    tracked.listed.drawNext.push tracked.listed.fresh (lt_succ_self _) fun cold => by cases cold
  have added := addSpecifiedRequest_listed tracked.listed (show request.requestId = _ from rfl) rfl start
  obtain ⟨gone, goes, reasons⟩ := @addSpecifiedRequest_goes mgr request start
  have none : gone = [] := by
    refine eq_nil_iff_forall_not_mem.mpr fun other away => ?_
    obtain ⟨-, isHook, stage, empty⟩ := reasons other away
    rcases spares with process | queued
    · rw [SpecifiedRequest.stage, if_pos process] at stage
      cases stage
    · exact queued isHook empty
  subst none
  have drawn : requestListId < mgr.queue.nextId := tracked.drawn _ opened.pending.called_mem
  have first := tracked.add adds pushed rfl fun other same => ⟨same, Option.some.inj same ▸ drawn⟩
  have second := first.queue goes added fun _ away => by cases away
  have pending := (opened.pending.add adds tracked.listed rfl rfl).queue goes pushed fun _ away => by
    cases away
  have same : mgr.addRequest abilityRequest (some requestListId) specifiedProcessState start =
      ((mgr.withQueue (mgr.queue.drawNext.pushRequest request)).withQueue
        (mgr.queue.drawNext.addSpecifiedRequest request start)).updateBatch requestListId
          fun batch => batch.add mgr.queue.nextId := by
    rw [withQueue_updateBatch, withQueue_updateBatch, UIAbilityLifecycleManager.addRequest,
      getRequestId_eq room]
    rfl
  rw [same]
  exact Opened.change second opened.held pending

theorem Opened.addSession (opened : Opened mgr requestListId batch called abilities)
    (room : mgr.queue.Room 1) {item : BatchItem} (created : item.sessionCreated = true) :
    Opened (mgr.handleAbilitiesNormalSessionInfo item requestListId) requestListId
      (batch.addSession
        { requestId := mgr.queue.nextId, ability := item.abilityRequest.ability }) called
      (abilities ++ [item.abilityRequest.ability]) := by
  simp only [handleAbilitiesNormalSessionInfo, getRequestId_eq room, created, if_true]
  refine Opened.change opened.tracked.drawNext opened.held ?_
  exact opened.pending.addSession rfl

def ItemKeeps (mgr : UIAbilityLifecycleManager) (item : BatchItem) : Prop :=
  if item.abilityRequest.startsProcess then item.instanceKey ≠ .failed
  else if item.abilityRequest.specified then
    item.start.isHook = true -> mgr.queue.list item.abilityRequest.listKey ≠ []
  else item.sessionCreated = true

def ItemsKeep (mgr : UIAbilityLifecycleManager) (requestListId : Nat) (items : List BatchItem) : Prop :=
  ∀ before item rest, items = before ++ item :: rest ->
    (startAbilities requestListId mgr before).1.ItemKeeps item

theorem ItemsKeep.of_plain {items : List BatchItem}
    (plain : ∀ item ∈ items, item.instanceKey ≠ .failed ∧ item.start.isHook = false ∧
      item.sessionCreated = true) : mgr.ItemsKeep requestListId items := by
  intro before item rest split
  obtain ⟨keyed, noHook, created⟩ := plain item (by simp [split])
  unfold ItemKeeps
  split
  · exact keyed
  · split <;> simp [noHook, created]

theorem InstanceKey.apply_ability (instanceKey : InstanceKey) (request : AbilityRequest) :
    (instanceKey.apply request).ability = request.ability := by
  cases instanceKey <;> rfl

theorem Opened.startAbilities (opened : Opened mgr requestListId batch called abilities)
    (items : List BatchItem) (room : mgr.queue.Room items.length)
    (keeps : mgr.ItemsKeep requestListId items) :
    (startAbilities requestListId mgr items).2 = none ∧
      ∃ batch, Opened (startAbilities requestListId mgr items).1 requestListId batch called
        (abilities ++ items.map fun item => item.abilityRequest.ability) := by
  induction items generalizing mgr batch abilities with
  | nil =>
    refine ⟨rfl, batch, ?_⟩
    rw [map_nil, append_nil]
    exact opened
  | cons item rest ih =>
    have first : mgr.ItemKeeps item := keeps [] item rest rfl
    have own : mgr.queue.Room 1 := room.first
    have later (before : List BatchItem) (other : BatchItem) (others : List BatchItem)
        (split : rest = before ++ other :: others) :
        (startAbilities requestListId mgr
          (item :: before)).1.ItemKeeps other := keeps (item :: before) other others (by rw [split]; rfl)
    have split (ability : String) (others : List String) :
        abilities ++ ability :: others = abilities ++ [ability] ++ others := by simp
    rw [map_cons, split]
    unfold ItemKeeps at first
    unfold startAbilities at later ⊢
    split
    next process =>
      rw [if_pos process] at first
      simp only [startSpecifiedProcessRequest, if_neg first, if_pos process] at later ⊢
      rw [<- InstanceKey.apply_ability item.instanceKey item.abilityRequest]
      exact ih (opened.addRequest own _ .process (.inl rfl))
        (room.after (addRequest_nextId own ..)) later
    next other =>
      rw [if_neg other] at first
      simp only [if_neg other] at later
      split
      next specified =>
        rw [if_pos specified] at first
        simp only [if_pos specified] at later
        exact ih (opened.addRequest own _ .none (.inr first))
          (room.after (addRequest_nextId own ..)) later
      next normal =>
        rw [if_neg normal] at first
        simp only [if_neg normal] at later
        have drawn := handleAbilitiesNormalSessionInfo_queue own item requestListId
        exact ih (opened.addSession own first) (room.after (by rw [drawn]; rfl)) later

theorem openBatch_eq (room : mgr.queue.Room 1) (items : List BatchItem) :
    mgr.openBatch items =
      ({ mgr.withQueue mgr.queue.drawNext with
        abilitiesRequestMap := mgr.abilitiesRequestMap.insert mgr.queue.nextId { } }.record
          (.called mgr.queue.nextId
            (items.map fun item : BatchItem => item.abilityRequest.ability)),
        mgr.queue.nextId) := by
  rw [openBatch, getRequestId_eq room]

theorem Tracked.openBatch (tracked : Tracked mgr none) (room : mgr.queue.Room 1)
    (items : List BatchItem) :
    Opened (mgr.openBatch items).1 mgr.queue.nextId { }
      (items.map fun item => item.abilityRequest.ability) [] := by
  rw [openBatch_eq room]
  have drawn := tracked.drawNext
  have older (event : Event) (mem : event ∈ mgr.events) :
      event.requestListId ≠ mgr.queue.nextId := by
    have := tracked.drawn event mem
    omega
  have unknown : mgr.course mgr.queue.nextId = [] :=
    filter_eq_nil_iff.mpr fun event mem => by simpa using older event mem
  have others {other : Nat} (ne : other ≠ mgr.queue.nextId) :
      course { mgr with events := mgr.events ++
        [.called mgr.queue.nextId (items.map fun item => item.abilityRequest.ability)] } other =
          mgr.course other := by
    refine course_append_of_ne (fun event mem => ?_) (Ne.symm ne)
    rw [mem_singleton.mp mem, Event.requestListId]
  refine ⟨?_, lookup_insert_eq .. |>.trans (if_pos rfl), ?_⟩
  · refine ⟨drawn.listed, ?_, drawn.batchesDrawn, ?_, ?_, ?_⟩
    · intro event mem
      rcases mem_append.mp mem with before | new
      · exact drawn.drawn event before
      · rw [mem_singleton.mp new]
        exact lt_succ_self _
    · intro other batch held
      simp only [record, lookup_insert_eq] at held
      split at held
      next same =>
        subst same
        exact ⟨_, mem_append_right _ mem_cons_self⟩
      · obtain ⟨abilities, mem⟩ := tracked.known other batch held
        exact ⟨abilities, mem_append_left _ mem⟩
    · intro other batch apart held
      have ne : other ≠ mgr.queue.nextId := fun same => apart (congrArg some same.symm)
      simp only [record, lookup_insert_eq, if_neg ne] at held
      obtain ⟨abilities, pending, waiting⟩ := drawn.live other batch (by simp) held
      exact ⟨abilities, { pending with course := (others ne).trans pending.course }, waiting⟩
    · intro other abilities apart missing mem
      have ne : other ≠ mgr.queue.nextId := fun same => apart (congrArg some same.symm)
      simp only [record, lookup_insert_eq, if_neg ne] at missing
      refine (congrArg (Finished other abilities) (others ne)).mpr ?_
      rcases mem_append.mp mem with before | new
      · exact tracked.ended other abilities (by simp) missing before
      · obtain ⟨same, -⟩ := Event.called.inj (mem_singleton.mp new)
        exact absurd same ne
  · refine ⟨?_, rfl, fun requestId => ⟨by simp, fun waits => ?_⟩, rfl,
      nodup_nil, fun item mem => by cases mem⟩
    · have own : [Event.called mgr.queue.nextId
          (items.map fun item => item.abilityRequest.ability)].filter
          (fun event => event.requestListId = mgr.queue.nextId) =
            [.called mgr.queue.nextId (items.map fun item => item.abilityRequest.ability)] := by
        simp [Event.requestListId]
      refine (filter_append ..).trans ?_
      rw [own]
      exact congrArg (· ++ _) unknown
    · have := tracked.batchesDrawn requestId mgr.queue.nextId waits.2
      omega

theorem Opened.finishCall (opened : Opened mgr requestListId batch abilities abilities)
    (delivery : Delivery) :
    Tracked (mgr.finishCall requestListId abilities.length delivery) none := by
  obtain ⟨tracked, held, pending⟩ := opened
  have lengths : batch.sessionInfoList.length = abilities.length := by
    simpa using congrArg length pending.order
  have bound : batch.doneCount ≤ batch.sessionInfoList.length := by
    rw [pending.count]
    exact countP_le_length
  simp only [UIAbilityLifecycleManager.finishCall, held]
  split
  next less => exact tracked.settled held pending (pending.waiting (by omega))
  · exact tracked.deliver pending (by omega) delivery _

theorem Tracked.notifySCBToStartUIAbilities (tracked : Tracked mgr none) (refused : Option Int)
    (items : List BatchItem) (delivery : Delivery) (room : mgr.queue.Room (items.length + 1))
    (keeps : refused = none -> (mgr.openBatch items).1.ItemsKeep mgr.queue.nextId items) :
    Tracked (mgr.notifySCBToStartUIAbilities refused items delivery) none := by
  unfold UIAbilityLifecycleManager.notifySCBToStartUIAbilities
  split
  · exact tracked
  · have made := openBatch_eq room.first items
    have id : (mgr.openBatch items).2 = mgr.queue.nextId := by rw [made]
    have left : (mgr.openBatch items).1.queue.Room items.length := room.after (by rw [made]; rfl)
    obtain ⟨completed, batch, opened⟩ :=
      (tracked.openBatch room.first items).startAbilities items left (keeps rfl)
    simp only [id]
    split
    next _ _ same =>
      rw [same] at completed
      cases completed
    next _ same =>
      rw [same] at opened
      have finished := opened.finishCall delivery
      rwa [length_map] at finished

end UIAbilityLifecycleManager

end AbilityRuntime.SceneBoard
