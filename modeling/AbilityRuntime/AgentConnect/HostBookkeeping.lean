import Mathlib.Data.Finset.Lattice.Lemmas
import AbilityRuntime.AgentConnect.HostDisconnects

set_option autoImplicit false

namespace AbilityRuntime.AgentConnect

open Library RecordMap List

theorem bookPending_ne_nil (pending : LowCodePendingDisconnectRecord)
    (list : List LowCodePendingDisconnectRecord) : bookPending pending list ≠ [] := by
  cases list with
  | nil => simp [bookPending]
  | cons first rest => unfold bookPending; split <;> simp

theorem mem_bookPending {pending item : LowCodePendingDisconnectRecord}
    {list : List LowCodePendingDisconnectRecord} (mem : item ∈ bookPending pending list) :
    item = pending ∨ item ∈ list := by
  induction list with
  | nil => simpa [bookPending] using mem
  | cons first rest ih =>
    unfold bookPending at mem
    split at mem
    · rcases mem_cons.mp mem with new | old
      · exact .inl new
      · exact .inr (mem_cons_of_mem _ old)
    · rcases mem_cons.mp mem with here | later
      · exact .inr (here ▸ mem_cons_self)
      · exact (ih later).imp_right (mem_cons_of_mem _)

theorem bookPending_agentIds (pending : LowCodePendingDisconnectRecord)
    (list : List LowCodePendingDisconnectRecord) (agentId : String) :
    (∃ item ∈ bookPending pending list, item.agentId = agentId) ↔
      pending.agentId = agentId ∨ ∃ item ∈ list, item.agentId = agentId := by
  induction list with
  | nil => simp [bookPending]
  | cons first rest ih =>
    unfold bookPending
    split
    next same => simp [same]
    · simp only [exists_mem_cons_iff, ih]
      exact or_left_comm

theorem addLowCodeDisconnectTarget_same {cleanupOnFailure : Bool}
    {hostConnection : AgentHostConnection} {agentId : String} (named : agentId ≠ "")
    {target : LowCodeDisconnectTarget}
    (same : target.hostConnection.asObject = hostConnection.asObject) :
    addLowCodeDisconnectTarget cleanupOnFailure hostConnection agentId [target] =
      [{ target with
        cleanupOnFailure := target.cleanupOnFailure || cleanupOnFailure
        agentIds := insert agentId target.agentIds }] := by
  simp [addLowCodeDisconnectTarget, named, same]

theorem foldl_addLowCodeDisconnectTarget {cleanupOnFailure : Bool} {hostRemote : Nat} :
    ∀ {agents : List (String × LowCodeAgentRecord)} (target : LowCodeDisconnectTarget),
      (∀ agent ∈ agents, agent.1 ≠ "") ->
      (∀ agent ∈ agents, agent.2.hostConnection.asObject = hostRemote) ->
      target.hostConnection.asObject = hostRemote -> target.cleanupOnFailure = cleanupOnFailure ->
      agents.foldl (fun targets agent =>
        addLowCodeDisconnectTarget cleanupOnFailure agent.2.hostConnection agent.1 targets)
          [target] =
        [{ target with agentIds := (agents.map Prod.fst).toFinset ∪ target.agentIds }] := by
  intro agents
  induction agents with
  | nil => intro target _ _ _ _; simp
  | cons agent rest ih =>
    intro target named oneHost same flag
    rw [forall_mem_cons] at named oneHost
    let next : LowCodeDisconnectTarget := { target with
      cleanupOnFailure := target.cleanupOnFailure || cleanupOnFailure
      agentIds := insert agent.1 target.agentIds }
    rw [foldl_cons, addLowCodeDisconnectTarget_same named.1 (same.trans oneHost.1.symm)]
    have sameNext : next.hostConnection.asObject = hostRemote := same
    refine (ih next named.2 oneHost.2 sameNext (by simp [next, flag])).trans ?_
    simp [next, flag]

theorem lowCodeTargets_single (cleanupOnFailure : Bool) {hostRemote : Nat}
    {agents : List (String × LowCodeAgentRecord)} (named : ∀ agent ∈ agents, agent.1 ≠ "")
    (oneHost : ∀ agent ∈ agents, agent.2.hostConnection.asObject = hostRemote)
    (some : agents ≠ []) :
    ∃ hostConnection : AgentHostConnection, hostConnection.asObject = hostRemote ∧
      lowCodeTargets cleanupOnFailure agents =
        [⟨(agents.map Prod.fst).toFinset, hostConnection, cleanupOnFailure⟩] := by
  cases agents with
  | nil => exact absurd rfl some
  | cons agent rest =>
    rw [forall_mem_cons] at named oneHost
    refine ⟨agent.2.hostConnection, oneHost.1, ?_⟩
    rw [lowCodeTargets, foldl_cons, addLowCodeDisconnectTarget, if_neg named.1,
      foldl_addLowCodeDisconnectTarget ⟨{agent.1}, agent.2.hostConnection, cleanupOnFailure⟩
        named.2 oneHost.2 oneHost.1 rfl]
    simp [Finset.union_comm]

namespace AgentHostSession

variable {session after : AgentHostSession} {asked : Finset String} {agentId : String}
  {record : LowCodeAgentRecord} {agentIds : Finset String}

theorem hasPendingLowCodeDisconnect_iff : session.hasPendingLowCodeDisconnect = true ↔
    ∃ hostRemote, records session.pendingDisconnects hostRemote ≠ [] := by
  rw [hasPendingLowCodeDisconnect, any_eq_true]
  constructor
  · rintro ⟨⟨hostRemote, pendings⟩, listed, filled⟩
    rw [Std.ExtTreeMap.mem_toList_iff_getElem?_eq_some] at listed
    exact ⟨hostRemote, by rw [records_of_some listed]; simpa using filled⟩
  · rintro ⟨hostRemote, filled⟩
    cases found : session.pendingDisconnects[hostRemote]? with
    | none => simp [records, found] at filled
    | some pendings =>
      rw [records_of_some found] at filled
      exact ⟨(hostRemote, pendings), Std.ExtTreeMap.mem_toList_iff_getElem?_eq_some.mpr found,
        by simpa using filled⟩

theorem not_hasPending_iff : session.hasPendingLowCodeDisconnect = false ↔
    ∀ hostRemote, records session.pendingDisconnects hostRemote = [] := by
  rw [<- Bool.not_eq_true, hasPendingLowCodeDisconnect_iff]
  simp

variable {callerRemote : Nat}

theorem mem_agentsOf {agent : String × LowCodeAgentRecord} :
    agent ∈ session.agentsOf callerRemote ↔
      session.agents[agent.1]? = some agent.2 ∧ agent.2.callerRemote = callerRemote := by
  rw [agentsOf, mem_filter, <- Std.ExtTreeMap.mem_toList_iff_getElem?_eq_some, beq_iff_eq]

theorem agentsOf_nodup (session : AgentHostSession) (callerRemote : Nat) :
    ((session.agentsOf callerRemote).map Prod.fst).Nodup := by
  have distinct : (session.agents.toList.map Prod.fst).Nodup := by
    rw [Nodup, pairwise_map]
    exact Std.ExtTreeMap.distinct_keys_toList.imp fun apart same => apart (by simp [same])
  exact distinct.sublist (filter_sublist.map _)

theorem clear_records (agentIds : Finset String) (hostRemote : Nat) :
    records (session.clearPendingLowCodeDisconnectRecords agentIds).pendingDisconnects hostRemote =
      (records session.pendingDisconnects hostRemote).filter (·.agentId ∉ agentIds) := by
  unfold clearPendingLowCodeDisconnectRecords
  split
  next none => simp [none]
  · rw [records_prune]

theorem clear_agents (agentIds : Finset String) :
    (session.clearPendingLowCodeDisconnectRecords agentIds).agents = session.agents := by
  unfold clearPendingLowCodeDisconnectRecords
  split <;> rfl

/-- The disconnecting agents and their records agree, and all have been asked for. -/
structure Booked (session : AgentHostSession) (asked : Finset String) : Prop where
  named : ∀ (agentId : String) (record : LowCodeAgentRecord), session.agents[agentId]? = some record -> agentId ≠ ""
  oneCaller : ∀ (agentId other : String) (record otherRecord : LowCodeAgentRecord),
    session.agents[agentId]? = some record -> session.agents[other]? = some otherRecord ->
      record.hostConnection.asObject = otherRecord.hostConnection.asObject ->
        record.callerRemote = otherRecord.callerRemote
  booked : ∀ (agentId : String) (record : LowCodeAgentRecord), session.agents[agentId]? = some record ->
    (record.isDisconnecting = true ↔
      ∃ pending ∈ records session.pendingDisconnects record.hostConnection.asObject,
        pending.agentId = agentId)
  owned : ∀ hostRemote, ∀ pending ∈ records session.pendingDisconnects hostRemote,
    ∃ record : LowCodeAgentRecord, session.agents[pending.agentId]? = some record ∧
      record.hostConnection.asObject = hostRemote ∧ record.callerRemote = pending.callerRemote
  asked : ∀ hostRemote, ∀ pending ∈ records session.pendingDisconnects hostRemote,
    pending.agentId ∈ asked

def Keeps (session after : AgentHostSession) : Prop :=
  ∀ (agentId : String) (record : LowCodeAgentRecord), after.agents[agentId]? = some record ->
    ∃ before : LowCodeAgentRecord, session.agents[agentId]? = some before ∧
      before.callerRemote = record.callerRemote ∧ before.hostConnection = record.hostConnection

structure Grows (session after : AgentHostSession) : Prop where
  keeps : session.Keeps after
  pending : ∀ hostRemote, records session.pendingDisconnects hostRemote ≠ [] ->
    records after.pendingDisconnects hostRemote ≠ []

theorem Keeps.trans {last : AgentHostSession} (first : session.Keeps after)
    (second : after.Keeps last) : session.Keeps last := by
  intro agentId record found
  obtain ⟨between, here, caller, connection⟩ := second agentId record found
  obtain ⟨before, there, caller', connection'⟩ := first agentId between here
  exact ⟨before, there, caller'.trans caller, connection'.trans connection⟩

theorem Grows.refl (session : AgentHostSession) : session.Grows session :=
  ⟨fun _ record found => ⟨record, found, rfl, rfl⟩, fun _ filled => filled⟩

theorem Grows.trans {last : AgentHostSession} (first : session.Grows after)
    (second : after.Grows last) : session.Grows last :=
  ⟨first.keeps.trans second.keeps,
    fun hostRemote filled => second.pending hostRemote (first.pending hostRemote filled)⟩

theorem Booked.mono (booked : session.Booked asked) {more : Finset String} (subset : asked ⊆ more) :
    session.Booked more :=
  { booked with
    asked := fun hostRemote pending mem => subset (booked.asked hostRemote pending mem) }

theorem Booked.congr (booked : session.Booked asked) (agents : after.agents = session.agents)
    (pendings : after.pendingDisconnects = session.pendingDisconnects) : after.Booked asked where
  named := agents ▸ booked.named
  oneCaller := agents ▸ booked.oneCaller
  booked := by rw [agents, pendings]; exact booked.booked
  owned := by rw [agents, pendings]; exact booked.owned
  asked := pendings ▸ booked.asked

theorem Grows.congr (agents : after.agents = session.agents)
    (pendings : after.pendingDisconnects = session.pendingDisconnects) : session.Grows after where
  keeps _ record found := ⟨record, agents ▸ found, rfl, rfl⟩
  pending _ filled := pendings ▸ filled

theorem Booked.named_of_keeps (booked : session.Booked asked) (keeps : session.Keeps after) :
    ∀ (agentId : String) (record : LowCodeAgentRecord), after.agents[agentId]? = some record ->
      agentId ≠ "" := by
  intro agentId record found
  obtain ⟨before, here, _⟩ := keeps agentId record found
  exact booked.named agentId before here

theorem Booked.oneCaller_of_keeps (booked : session.Booked asked) (keeps : session.Keeps after) :
    ∀ (agentId other : String) (record otherRecord : LowCodeAgentRecord),
      after.agents[agentId]? = some record -> after.agents[other]? = some otherRecord ->
        record.hostConnection.asObject = otherRecord.hostConnection.asObject ->
          record.callerRemote = otherRecord.callerRemote := by
  intro agentId other record otherRecord found otherFound same
  obtain ⟨before, here, caller, connection⟩ := keeps agentId record found
  obtain ⟨otherBefore, there, otherCaller, otherConnection⟩ := keeps other otherRecord otherFound
  rw [<- caller, <- otherCaller]
  exact booked.oneCaller agentId other before otherBefore here there
    (by rw [connection, otherConnection, same])

theorem Booked.empty : Booked ⟨∅, ∅, ∅⟩ asked where
  named _ _ found := by simp at found
  oneCaller _ _ _ _ found := by simp at found
  booked _ _ found := by simp at found
  owned _ _ mem := by simp at mem
  asked _ _ mem := by simp at mem

theorem book_agents (cleanupOnFailure : Bool) :
    (session.book cleanupOnFailure agentId record).agents =
      session.agents.insert agentId { record with isDisconnecting := true } := by
  unfold book addPendingLowCodeDisconnectRecord
  split <;> rfl

theorem book_records (named : agentId ≠ "") (cleanupOnFailure : Bool) (hostRemote : Nat) :
    records (session.book cleanupOnFailure agentId record).pendingDisconnects hostRemote =
      if record.hostConnection.asObject = hostRemote then
        bookPending { record with
          agentId := agentId, cleanupOnFailure := cleanupOnFailure } (records session.pendingDisconnects hostRemote)
      else records session.pendingDisconnects hostRemote := by
  unfold book addPendingLowCodeDisconnectRecord
  rw [if_neg named, records_insert]
  split
  next same => rw [same]
  · rfl

theorem Grows.book (found : session.agents[agentId]? = some record) (named : agentId ≠ "")
    (cleanupOnFailure : Bool) : session.Grows (session.book cleanupOnFailure agentId record) where
  keeps other otherRecord there := by
    rw [book_agents, Std.ExtTreeMap.getElem?_insert] at there
    split at there
    next same =>
      cases there
      exact ⟨record, (compare_eq_iff_eq.mp same) ▸ found, rfl, rfl⟩
    · exact ⟨otherRecord, there, rfl, rfl⟩
  pending hostRemote filled := by
    rw [book_records named]
    split
    · exact bookPending_ne_nil _ _
    · exact filled

theorem Booked.book (booked : session.Booked asked)
    (found : session.agents[agentId]? = some record) (mem : agentId ∈ asked)
    (cleanupOnFailure : Bool) :
    (session.book cleanupOnFailure agentId record).Booked asked := by
  have named := booked.named agentId record found
  have keeps := (Grows.book found named cleanupOnFailure).keeps
  refine ⟨booked.named_of_keeps keeps, booked.oneCaller_of_keeps keeps, ?_, ?_, ?_⟩
  · intro other otherRecord there
    rw [book_agents, Std.ExtTreeMap.getElem?_insert] at there
    rw [book_records named]
    split at there
    next same =>
      cases there
      simp [bookPending_agentIds, compare_eq_iff_eq.mp same]
    next apart =>
      have ne : agentId ≠ other := fun same => apart (compare_eq_iff_eq.mpr same)
      rw [booked.booked other otherRecord there]
      split
      · rw [bookPending_agentIds]
        simp [ne]
      · exact Iff.rfl
  · intro hostRemote pending listed
    rw [book_records named] at listed
    rw [book_agents]
    have old (listed : pending ∈ records session.pendingDisconnects hostRemote) :
        ∃ after : LowCodeAgentRecord, (session.agents.insert agentId
            { record with isDisconnecting := true })[pending.agentId]? = some after ∧
          after.hostConnection.asObject = hostRemote ∧
            after.callerRemote = pending.callerRemote := by
      obtain ⟨before, there, host, caller⟩ := booked.owned hostRemote pending listed
      rw [Std.ExtTreeMap.getElem?_insert]
      split
      next same =>
        cases (compare_eq_iff_eq.mp same ▸ found).symm.trans there
        exact ⟨_, rfl, host, caller⟩
      · exact ⟨before, there, host, caller⟩
    split at listed
    next here =>
      rcases mem_bookPending listed with rfl | listed
      · exact ⟨{ record with isDisconnecting := true }, by simp, here, rfl⟩
      · exact old listed
    · exact old listed
  · intro hostRemote pending listed
    rw [book_records named] at listed
    split at listed
    · rcases mem_bookPending listed with rfl | listed
      · exact mem
      · exact booked.asked hostRemote pending listed
    · exact booked.asked hostRemote pending listed

theorem Booked.bookAll (cleanupOnFailure : Bool) {agents : List (String × LowCodeAgentRecord)} :
    ∀ {session : AgentHostSession}, session.Booked asked ->
      (∀ agent ∈ agents, session.agents[agent.1]? = some agent.2) ->
      (agents.map Prod.fst).Nodup -> (∀ agent ∈ agents, agent.1 ∈ asked) ->
      (session.bookAll cleanupOnFailure agents).Booked asked ∧
        session.Grows (session.bookAll cleanupOnFailure agents) ∧
        ∀ agent ∈ agents, records
          (session.bookAll cleanupOnFailure agents).pendingDisconnects
          agent.2.hostConnection.asObject ≠ [] := by
  induction agents with
  | nil => exact fun booked _ _ _ => ⟨booked, Grows.refl _, by simp⟩
  | cons agent rest ih =>
    intro session booked found nodup mem
    rw [forall_mem_cons] at found mem
    rw [map_cons, nodup_cons] at nodup
    have named := booked.named agent.1 agent.2 found.1
    have unchanged : ∀ other ∈ rest,
        (session.book cleanupOnFailure agent.1 agent.2).agents[other.1]? = some other.2 := by
      intro other listed
      have apart : agent.1 ≠ other.1 := fun same => nodup.1 (same ▸ mem_map_of_mem listed)
      rw [book_agents, Std.ExtTreeMap.getElem?_insert, if_neg (by simpa using apart)]
      exact found.2 other listed
    obtain ⟨after, grows, filled⟩ :=
      ih (booked.book found.1 mem.1 cleanupOnFailure) unchanged nodup.2 mem.2
    refine ⟨after, (Grows.book found.1 named cleanupOnFailure).trans grows, ?_⟩
    rw [forall_mem_cons]
    refine ⟨grows.pending _ ?_, filled⟩
    rw [book_records named, if_pos rfl]
    exact bookPending_ne_nil _ _

theorem restoreAgents_found {callerRemote : Option Nat} {after : LowCodeAgentRecord}
    (found : (session.restoreAgents callerRemote agentIds).agents[agentId]? = some after) :
    ∃ before, session.agents[agentId]? = some before ∧
      after = if agentId ∈ agentIds && callerRemote.all (before.callerRemote == ·) then
        { before with isDisconnecting := false } else before := by
  rw [restoreAgents, Std.ExtTreeMap.getElem?_map, Option.map_eq_some_iff] at found
  obtain ⟨before, there, rfl⟩ := found
  exact ⟨before, there, rfl⟩

theorem keeps_restoreAgents (callerRemote : Option Nat) (agentIds : Finset String) :
    session.Keeps (session.restoreAgents callerRemote agentIds) := by
  intro agentId record found
  obtain ⟨before, there, rfl⟩ := restoreAgents_found found
  refine ⟨before, there, ?_⟩
  split <;> exact ⟨rfl, rfl⟩

theorem Booked.restoreAgents (booked : session.Booked asked) {callerRemote : Option Nat}
    (callers : ∀ agentId ∈ agentIds, ∀ record : LowCodeAgentRecord,
      session.agents[agentId]? = some record → callerRemote.all (record.callerRemote == ·) = true) :
    (session.restoreAgents callerRemote agentIds).Booked asked := by
  have keeps : session.Keeps (session.restoreAgents callerRemote agentIds) :=
    keeps_restoreAgents callerRemote agentIds
  have pendings (hostRemote : Nat) :
      records (session.restoreAgents callerRemote agentIds).pendingDisconnects hostRemote =
        (records session.pendingDisconnects hostRemote).filter (·.agentId ∉ agentIds) :=
    clear_records agentIds hostRemote
  refine ⟨booked.named_of_keeps keeps, booked.oneCaller_of_keeps keeps, ?_, ?_, ?_⟩
  · intro agentId record found
    obtain ⟨before, there, rfl⟩ := restoreAgents_found found
    rw [pendings]
    by_cases inside : agentId ∈ agentIds
    · rw [if_pos (by simp [inside, callers agentId inside before there])]
      refine ⟨fun disconnecting => Bool.noConfusion disconnecting, ?_⟩
      rintro ⟨pending, listed, rfl⟩
      exact absurd inside (by simpa using (mem_filter.mp listed).2)
    · rw [if_neg (by simp [inside]), booked.booked agentId before there]
      constructor
      · rintro ⟨pending, listed, rfl⟩
        exact ⟨pending, mem_filter.mpr ⟨listed, by simpa using inside⟩, rfl⟩
      · rintro ⟨pending, listed, same⟩
        exact ⟨pending, (mem_filter.mp listed).1, same⟩
  · intro hostRemote pending listed
    rw [pendings, mem_filter] at listed
    obtain ⟨before, there, host, caller⟩ := booked.owned hostRemote pending listed.1
    have outside : pending.agentId ∉ agentIds := by simpa using listed.2
    refine ⟨before, ?_, host, caller⟩
    rw [AgentHostSession.restoreAgents, Std.ExtTreeMap.getElem?_map, there]
    simp [outside]
  · intro hostRemote pending listed
    rw [pendings, mem_filter] at listed
    exact booked.asked hostRemote pending listed.1

theorem eraseAgents_found {removed : String -> LowCodeAgentRecord -> Bool} :
    (session.eraseAgents removed).agents[agentId]? = some record ↔
      session.agents[agentId]? = some record ∧ removed agentId record = false := by
  rw [eraseAgents, Std.ExtTreeMap.getElem?_filter', Option.filter_eq_some_iff]
  simp

theorem keeps_eraseAgents (removed : String -> LowCodeAgentRecord -> Bool) :
    session.Keeps (session.eraseAgents removed) :=
  fun _ record found => ⟨record, (eraseAgents_found.mp found).1, rfl, rfl⟩

theorem Booked.eraseAgents (booked : session.Booked asked)
    (removed : String -> LowCodeAgentRecord -> Bool) (gone : Finset String)
    (removes : ∀ (agentId : String) (record : LowCodeAgentRecord),
      session.agents[agentId]? = some record -> (removed agentId record = true ↔ agentId ∈ gone))
    (agents : after.agents = (session.eraseAgents removed).agents)
    (pendings : ∀ hostRemote, records after.pendingDisconnects hostRemote =
      (records session.pendingDisconnects hostRemote).filter (·.agentId ∉ gone)) :
    after.Booked asked := by
  have found {agentId : String} {record : LowCodeAgentRecord} :
      after.agents[agentId]? = some record ↔
        session.agents[agentId]? = some record ∧ agentId ∉ gone := by
    rw [agents, eraseAgents_found]
    refine and_congr_right fun there => ?_
    rw [<- removes agentId record there, Bool.not_eq_true]
  have keeps : session.Keeps after := fun _ record there => ⟨record, (found.mp there).1, rfl, rfl⟩
  refine ⟨booked.named_of_keeps keeps, booked.oneCaller_of_keeps keeps, ?_, ?_, ?_⟩
  · intro agentId record there
    obtain ⟨there, left⟩ := found.mp there
    rw [booked.booked agentId record there, pendings]
    constructor
    · rintro ⟨pending, listed, rfl⟩
      exact ⟨pending, mem_filter.mpr ⟨listed, by simpa using left⟩, rfl⟩
    · rintro ⟨pending, listed, same⟩
      exact ⟨pending, (mem_filter.mp listed).1, same⟩
  · intro hostRemote pending listed
    rw [pendings, mem_filter] at listed
    obtain ⟨record, there, host, caller⟩ := booked.owned hostRemote pending listed.1
    exact ⟨record, found.mpr ⟨there, by simpa using listed.2⟩, host, caller⟩
  · intro hostRemote pending listed
    rw [pendings, mem_filter] at listed
    exact booked.asked hostRemote pending listed.1

variable {hostRemote : Nat}

theorem askable_eq {pending : LowCodePendingDisconnectRecord}
    {item : LowCodePendingDisconnectRecord × AgentHostConnection}
    (asks : session.askable hostRemote pending = some item) :
    item.1 = pending ∧ item.2.asObject = hostRemote := by
  unfold askable at asks
  split at asks
  · cases asks
  · split at asks
    · cases asks
    · split at asks
      next same => cases asks; exact ⟨rfl, same⟩
      · cases asks

theorem Booked.askable_isSome (booked : session.Booked asked)
    {pending : LowCodePendingDisconnectRecord}
    (listed : pending ∈ records session.pendingDisconnects hostRemote) :
    (session.askable hostRemote pending).isSome = true := by
  obtain ⟨record, found, host, _⟩ := booked.owned hostRemote pending listed
  simp [askable, booked.named _ record found, found, host]

theorem nextTarget_some {pendings : List LowCodePendingDisconnectRecord}
    {target : LowCodeDisconnectTarget}
    (next : session.nextTarget hostRemote pendings = some (target, callerRemote)) :
    target.agentIds ≠ ∅ ∧ target.hostConnection.asObject = hostRemote ∧
      (∃ pending ∈ pendings, pending.callerRemote = callerRemote) ∧
      ∀ agentId ∈ target.agentIds, ∃ pending ∈ pendings, pending.agentId = agentId := by
  have origin : ∀ item ∈ pendings.filterMap (session.askable hostRemote),
      item.1 ∈ pendings ∧ item.2.asObject = hostRemote := by
    intro item listed
    obtain ⟨pending, there, asks⟩ := mem_filterMap.mp listed
    obtain ⟨rfl, host⟩ := askable_eq asks
    exact ⟨there, host⟩
  unfold nextTarget at next
  split at next
  · cases next
  next first rest valid =>
    rw [valid] at origin
    have alike : ∀ item ∈ first :: rest.filter fun item =>
        item.1.cleanupOnFailure == first.1.cleanupOnFailure, item ∈ first :: rest :=
      cons_subset_cons first (filter_subset_self _)
    obtain ⟨rfl, rfl⟩ := Prod.mk.inj (Option.some.inj next)
    refine ⟨?_, ?_, ?_, ?_⟩
    · simp
    · exact (origin _ (alike _ (getLast_mem _))).2
    · exact ⟨first.1, (origin first mem_cons_self).1, rfl⟩
    · intro agentId mem
      rw [mem_toFinset, mem_map] at mem
      obtain ⟨item, listed, rfl⟩ := mem
      exact ⟨item.1, (origin item (alike item listed)).1, rfl⟩

theorem Booked.nextTarget_isSome (booked : session.Booked asked)
    (filled : records session.pendingDisconnects hostRemote ≠ []) :
    session.nextTarget hostRemote (records session.pendingDisconnects hostRemote) ≠ none := by
  obtain ⟨pending, rest, split⟩ := exists_cons_of_ne_nil filled
  have listed : pending ∈ records session.pendingDisconnects hostRemote :=
    split ▸ mem_cons_self
  obtain ⟨item, asks⟩ := Option.isSome_iff_exists.mp (booked.askable_isSome listed)
  rw [split, nextTarget, filterMap_cons_some asks]
  exact Option.some_ne_none _

theorem buildNext_some {target : LowCodeDisconnectTarget}
    (next : session.buildNextLowCodeDisconnectTarget = some (target, callerRemote)) :
    ∃ hostRemote, session.nextTarget hostRemote (records session.pendingDisconnects hostRemote) =
      some (target, callerRemote) := by
  obtain ⟨_, ⟨hostRemote, pendings⟩, _, split, found, _⟩ := findSome?_eq_some_iff.mp next
  have listed : (hostRemote, pendings) ∈ session.pendingDisconnects.toList := by simp [split]
  rw [Std.ExtTreeMap.mem_toList_iff_getElem?_eq_some] at listed
  exact ⟨hostRemote, by rw [records_of_some listed]; exact found⟩

theorem Booked.buildNext_none (booked : session.Booked asked)
    (next : session.buildNextLowCodeDisconnectTarget = none) :
    session.hasPendingLowCodeDisconnect = false := by
  rw [not_hasPending_iff]
  intro hostRemote
  by_contra filled
  cases found : session.pendingDisconnects[hostRemote]? with
  | none => simp [records, found] at filled
  | some pendings =>
    have missing := findSome?_eq_none_iff.mp next (hostRemote, pendings)
      (Std.ExtTreeMap.mem_toList_iff_getElem?_eq_some.mpr found)
    rw [<- records_of_some found] at missing
    exact booked.nextTarget_isSome filled missing

end AgentHostSession

end AbilityRuntime.AgentConnect
