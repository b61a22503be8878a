import AbilityRuntime.AgentConnect.HostBookkeeping

set_option autoImplicit false

namespace AbilityRuntime.AgentConnect

open Library RecordMap LowCodeHost Operation Option List AgentHostSession

/-- A host session whose agents are connected and none of which is being disconnected. -/
structure ConnectedHost where
  session : AgentHostSession
  trackedConnections : Std.ExtTreeMap Nat TrackedConnectionRecord
  agentOwners : Finset (Int × String)
  named : ∀ (agentId : String) (record : LowCodeAgentRecord),
    session.agents[agentId]? = some record -> agentId ≠ ""
  oneCaller : ∀ (agentId other : String) (record otherRecord : LowCodeAgentRecord),
    session.agents[agentId]? = some record -> session.agents[other]? = some otherRecord ->
      record.hostConnection.asObject = otherRecord.hostConnection.asObject ->
        record.callerRemote = otherRecord.callerRemote
  connected : ∀ (agentId : String) (record : LowCodeAgentRecord),
    session.agents[agentId]? = some record -> record.isDisconnecting = false
  noPending : session.pendingDisconnects = ∅

def ConnectedHost.start (connected : ConnectedHost) : LowCodeHost where
  session := some connected.session
  trackedConnections := connected.trackedConnections
  agentOwners := connected.agentOwners

def lowCodeHost (connected : ConnectedHost) : Machine LowCodeHost Step where
  start := connected.start
  step := step

/-- One request at a time, no stranded record and no agent lost. -/
structure HostGood (host : LowCodeHost) : Prop where
  oneUnanswered : host.unanswered.length ≤ 1
  noneStranded : ∀ session, host.session = some session ->
    session.hasPendingLowCodeDisconnect = true -> host.operations = [] -> host.unanswered ≠ []
  disconnecting : ∀ session, host.session = some session ->
    ∀ (agentId : String) (record : LowCodeAgentRecord), session.agents[agentId]? = some record ->
      (record.isDisconnecting = true ↔
        ∃ pending ∈ records session.pendingDisconnects record.hostConnection.asObject,
          pending.agentId = agentId)
  noneLost : host.lost = []

namespace LowCodeHost

variable (host : LowCodeHost)

def current : AgentHostSession := host.session.getD ⟨∅, ∅, ∅⟩

def booking : Step -> List (String × LowCodeAgentRecord)
  | .disconnectAgentExtensionAbility callerRemote =>
    match host.trackedConnections[callerRemote]? with
    | none => []
    | some tracked =>
      let agents := host.current.idleAgentsOf callerRemote
      if tracked.isDisconnecting || agents.any fun agent => !agent.2.isVerifiable then []
      else agents
  | .notifyLowCodeAgentComplete agentId callingUid =>
    match host.current.agents[agentId]? with
    | none => []
    | some record =>
      if (callingUid, agentId) ∉ host.agentOwners || record.isDisconnecting ||
          host.current.hasOtherAgentForCaller agentId record.callerRemote ||
          !record.isVerifiable then []
      else [(agentId, record)]
  | .callerDied remote =>
    if remote ∈ host.trackedConnections then host.current.idleAgentsOf remote else []
  | _ => []

def MayBook (agents : List (String × LowCodeAgentRecord)) : Prop :=
  agents = [] ∨ host.current.hasPendingLowCodeDisconnect = true ∨
    (host.operations = [] ∧ ∀ agent ∈ agents, ∀ other ∈ agents,
      agent.2.hostConnection.asObject = other.2.hostConnection.asObject)

/-- Disconnecting starts with no operation in progress, and under one host connection. -/
def Meets : Step -> Prop
  | .disconnectServiceExtensionAbility callerRemote =>
    host.trackedConnections[callerRemote]?.all (·.isDisconnecting) = true
  | call => host.MayBook (host.booking call)

instance decidableMayBook (agents : List (String × LowCodeAgentRecord)) :
    Decidable (host.MayBook agents) :=
  inferInstanceAs (Decidable (_ ∨ _ ∨ _ ∧ _))

instance decidableMeets : ∀ call, Decidable (host.Meets call)
  | .disconnectServiceExtensionAbility _ => inferInstanceAs (Decidable (_ = true))
  | .disconnectAgentExtensionAbility _ => inferInstanceAs (Decidable (host.MayBook _))
  | .notifyLowCodeAgentComplete _ _ => inferInstanceAs (Decidable (host.MayBook _))
  | .callerDied _ => inferInstanceAs (Decidable (host.MayBook _))
  | .disconnectDone _ => inferInstanceAs (Decidable (host.MayBook _))
  | .advance _ _ => inferInstanceAs (Decidable (host.MayBook _))

end LowCodeHost

def LowCodeDisconnectTarget.Only (target : LowCodeDisconnectTarget) (callerRemote : Option Nat)
    (session : AgentHostSession) : Prop :=
  ∀ agentId ∈ target.agentIds, ∀ record : LowCodeAgentRecord,
    session.agents[agentId]? = some record -> callerRemote.all (record.callerRemote == ·) = true

theorem LowCodeDisconnectTarget.Only.of_keeps {target : LowCodeDisconnectTarget}
    {callerRemote : Option Nat} {session after : AgentHostSession}
    (only : target.Only callerRemote session) (keeps : session.Keeps after) :
    target.Only callerRemote after := by
  intro agentId mem record found
  obtain ⟨before, there, caller, _⟩ := keeps agentId record found
  rw [<- caller]
  exact only agentId mem before there

/-- The target can be asked for: there is something pending under its host connection. -/
structure LowCodeDisconnectTarget.Asked (target : LowCodeDisconnectTarget)
    (callerRemote : Option Nat) (session : AgentHostSession) : Prop where
  some : target.agentIds ≠ ∅
  pending : records session.pendingDisconnects target.hostConnection.asObject ≠ []
  only : target.Only callerRemote session

def Operation.Fits (op : Operation) (session : AgentHostSession) : Prop :=
  match op.phase with
  | .request target callerRemote isNext | .refused target callerRemote isNext =>
    target.Asked callerRemote session ∧ (isNext = false -> target.Only op.died session)
  | .cleanUp target => target.Only (some (op.died.getD 0)) session
  | .scheduleNext => True
  | .requestService _ _ | .refusedService _ => False

theorem Operation.Fits.of_grows {op : Operation} {session after : AgentHostSession}
    (fits : op.Fits session) (grows : session.Grows after) : op.Fits after := by
  have asked {target : LowCodeDisconnectTarget} {callerRemote : Option Nat}
      (asked : target.Asked callerRemote session) : target.Asked callerRemote after :=
    ⟨asked.some, grows.pending _ asked.pending, asked.only.of_keeps grows.keeps⟩
  unfold Fits at fits ⊢
  split at fits
  · exact ⟨asked fits.1, fun first => (fits.2 first).of_keeps grows.keeps⟩
  · exact ⟨asked fits.1, fun first => (fits.2 first).of_keeps grows.keeps⟩
  · exact LowCodeDisconnectTarget.Only.of_keeps fits grows.keeps
  · trivial
  · exact fits
  · exact fits

namespace LowCodeHost

variable {host after : LowCodeHost}

/-- Who goes on with the session: nobody, the ability manager, or an operation in progress. -/
inductive Baton (host : LowCodeHost) : Prop where
  | idle (operations : host.operations = []) (unanswered : host.unanswered = [])
      (quiet : host.current.hasPendingLowCodeDisconnect = false)
  | waiting (hostConnection : AgentHostConnection) (operations : host.operations = [])
      (unanswered : host.unanswered = [hostConnection])
      (pending : records host.current.pendingDisconnects hostConnection.asObject ≠ [])
  | working (op : Operation) (operations : host.operations = [op])
      (unanswered : host.unanswered = []) (rest : op.rest = [])
      (unfailed : op.hasFailed = false) (fits : op.Fits host.current)

structure Sound (host : LowCodeHost) : Prop where
  booked : host.current.Booked host.asked
  baton : host.Baton
  noneLost : host.lost = []

theorem Sound.good (sound : host.Sound) : HostGood host where
  oneUnanswered := by
    cases sound.baton with
    | idle _ unanswered _ => simp [unanswered]
    | waiting _ _ unanswered _ => simp [unanswered]
    | working _ _ unanswered _ _ _ => simp [unanswered]
  noneStranded session found pending idle := by
    cases sound.baton with
    | idle _ _ quiet => simp [current, found, pending] at quiet
    | waiting _ _ unanswered _ => simp [unanswered]
    | working _ operations _ _ _ _ => simp [operations] at idle
  disconnecting session found agentId record there := by
    have booked := sound.booked
    rw [current, found] at booked
    exact booked.booked agentId record there
  noneLost := sound.noneLost

theorem Sound.of_grows (sound : host.Sound) (booked : after.current.Booked after.asked)
    (grows : host.current.Grows after.current) (operations : after.operations = host.operations)
    (unanswered : after.unanswered = host.unanswered) (lost : after.lost = host.lost)
    (quiet : host.operations = [] -> host.current.hasPendingLowCodeDisconnect = false ->
      after.current.hasPendingLowCodeDisconnect = false) : after.Sound := by
  refine ⟨booked, ?_, lost.trans sound.noneLost⟩
  cases sound.baton with
  | idle free none silent =>
    exact .idle (operations.trans free) (unanswered.trans none) (quiet free silent)
  | waiting hostConnection free one pending =>
    exact .waiting hostConnection (operations.trans free) (unanswered.trans one)
      (grows.pending _ pending)
  | working op one none rest unfailed fits =>
    exact .working op (operations.trans one) (unanswered.trans none) rest unfailed
      (fits.of_grows grows)

theorem Sound.ask (sound : host.Sound) (agentIds : List String) : (host.ask agentIds).Sound :=
  sound.of_grows (sound.booked.mono Finset.subset_union_left) (.refl _) rfl rfl rfl
    fun _ quiet => quiet

@[simp] theorem start_nil (callerRemote died : Option Nat) :
    host.start callerRemote died [] = host := rfl

variable {session : AgentHostSession}

theorem current_of_some (found : host.session = some session) : host.current = session := by
  rw [current, found, getD_some]

theorem current_of_none (found : host.session = none) : host.current = ⟨∅, ∅, ∅⟩ := by
  rw [current, found, getD_none]

/-- The operation in progress or the ability manager will come to the agents, or they are asked for
at once. -/
theorem Sound.bookAll (sound : host.Sound) (found : host.session = some session)
    {agents : List (String × LowCodeAgentRecord)}
    (listed : ∀ agent ∈ agents, session.agents[agent.1]? = some agent.2)
    (nodup : (agents.map Prod.fst).Nodup) (asked : ∀ agent ∈ agents, agent.1 ∈ host.asked)
    (may : host.MayBook agents) {cleanupOnFailure : Bool} {callerRemote died : Option Nat}
    (callers : ∀ agent ∈ agents, callerRemote.all (agent.2.callerRemote == ·) = true ∧
      died.all (agent.2.callerRemote == ·) = true) {booked : AgentHostSession}
    (sameAgents : booked.agents = (session.bookAll cleanupOnFailure agents).agents)
    (samePending : booked.pendingDisconnects =
      (session.bookAll cleanupOnFailure agents).pendingDisconnects)
    (trackedConnections : Std.ExtTreeMap Nat TrackedConnectionRecord) :
    (start { host with session := some booked, trackedConnections } callerRemote died
      (if !session.hasPendingLowCodeDisconnect then lowCodeTargets cleanupOnFailure agents
        else [])).Sound := by
  have current := current_of_some found
  have before := sound.booked
  rw [current] at before
  obtain ⟨bookedAll, grown, filled⟩ := before.bookAll cleanupOnFailure listed nodup asked
  have afterwards := bookedAll.congr sameAgents samePending
  have grows := grown.trans (.congr sameAgents samePending)
  rw [<- samePending] at filled
  by_cases none : agents = []
  · subst none
    have nothing : (if !session.hasPendingLowCodeDisconnect then
        lowCodeTargets cleanupOnFailure [] else []) = [] := by
      rw [lowCodeTargets, foldl_nil, ite_self]
    rw [nothing, start_nil]
    refine sound.of_grows afterwards (current ▸ grows) rfl rfl rfl fun _ quiet => ?_
    rw [current, not_hasPending_iff] at quiet
    rw [not_hasPending_iff]
    intro hostRemote
    change records booked.pendingDisconnects hostRemote = []
    rw [samePending]
    exact quiet hostRemote
  by_cases pending : session.hasPendingLowCodeDisconnect = true
  · rw [pending, Bool.not_true, if_neg Bool.false_ne_true, start_nil]
    refine sound.of_grows afterwards (current ▸ grows) rfl rfl rfl fun _ quiet => ?_
    rw [current, pending] at quiet
    cases quiet
  · -- Nothing is pending: the condition on the call leaves only the idle host.
    have quiet : host.current.hasPendingLowCodeDisconnect = false := by
      rw [current, Bool.eq_false_iff]
      exact pending
    obtain ⟨free, oneHost⟩ : host.operations = [] ∧ ∀ agent ∈ agents, ∀ other ∈ agents,
        agent.2.hostConnection.asObject = other.2.hostConnection.asObject := by
      rcases may with nothing | busy | free
      · exact absurd nothing none
      · rw [quiet] at busy; cases busy
      · exact free
    have unanswered : host.unanswered = [] := by
      cases sound.baton with
      | idle _ unanswered _ => exact unanswered
      | waiting hostConnection _ _ pending =>
        exact absurd (not_hasPending_iff.mp quiet _) pending
      | working _ one _ _ _ _ => rw [free] at one; cases one
    obtain ⟨agent, rest, rfl⟩ := exists_cons_of_ne_nil none
    obtain ⟨hostConnection, same, targets⟩ := lowCodeTargets_single cleanupOnFailure
      (fun other mem => before.named other.1 other.2 (listed other mem))
      (fun other mem => oneHost other mem agent mem_cons_self) none
    rw [Bool.eq_false_iff.mpr pending, Bool.not_false, if_pos rfl, targets]
    let target : LowCodeDisconnectTarget :=
      ⟨((agent :: rest).map Prod.fst).toFinset, hostConnection, cleanupOnFailure⟩
    let request : Operation :=
      { phase := .request target callerRemote false, callerRemote, died }
    have only (caller : Option Nat) (callers : ∀ other ∈ agent :: rest,
        caller.all (other.2.callerRemote == ·) = true) : target.Only caller booked := by
      refine LowCodeDisconnectTarget.Only.of_keeps ?_ grows.keeps
      intro agentId mem record there
      obtain ⟨other, inside, rfl⟩ := mem_map.mp (mem_toFinset.mp mem)
      cases (listed other inside).symm.trans there
      exact callers other inside
    have pendingNow : records booked.pendingDisconnects hostConnection.asObject ≠ [] := by
      rw [same]
      exact filled agent mem_cons_self
    have one : host.operations ++ [request] = [request] := by rw [free, nil_append]
    refine ⟨afterwards, .working request one unanswered rfl rfl ⟨⟨?_, pendingNow, ?_⟩, fun _ => ?_⟩,
      sound.noneLost⟩
    · simp [target]
    · exact only _ fun other mem => (callers other mem).1
    · exact only _ fun other mem => (callers other mem).2

variable {callerRemote : Nat}

theorem idleAgentsOf_listed :
    ∀ agent ∈ session.idleAgentsOf callerRemote,
      session.agents[agent.1]? = some agent.2 ∧ agent.2.callerRemote = callerRemote :=
  fun _ mem => mem_agentsOf.mp (mem_filter.mp mem).1

theorem idleAgentsOf_nodup (session : AgentHostSession) (callerRemote : Nat) :
    ((session.idleAgentsOf callerRemote).map Prod.fst).Nodup :=
  (session.agentsOf_nodup callerRemote).sublist (filter_sublist.map _)

theorem Sound.prepareLowCodeDisconnectRequest (sound : host.Sound)
    (asked : ∀ agent ∈ host.current.idleAgentsOf callerRemote, agent.1 ∈ host.asked)
    (may : host.MayBook (host.booking (.disconnectAgentExtensionAbility callerRemote))) :
    (host.prepareLowCodeDisconnectRequest callerRemote).Sound := by
  unfold LowCodeHost.prepareLowCodeDisconnectRequest
  cases tracked : host.trackedConnections[callerRemote]? with
  | none => exact sound
  | some connection =>
    by_cases disconnecting : connection.isDisconnecting = true
    · simpa only [disconnecting, if_true] using sound
    simp only [disconnecting, if_false, Bool.false_eq_true]
    cases found : host.session with
    | none => exact sound
    | some session =>
      have current := current_of_some found
      rw [current] at asked
      simp only
      split
      · exact sound
      next verifiable =>
        split
        · split
          · refine sound.of_grows ?_ ?_ rfl rfl rfl ?_
            · exact (current ▸ sound.booked : session.Booked _).congr rfl rfl
            · exact current ▸ .congr rfl rfl
            · exact fun _ quiet => current ▸ quiet
          · exact sound
        · refine sound.bookAll found (fun agent mem => (idleAgentsOf_listed agent mem).1)
            (idleAgentsOf_nodup session callerRemote) asked ?_ ?_ rfl rfl _
          · simpa [booking, tracked, current, disconnecting, verifiable] using may
          · intro agent mem
            simp [(idleAgentsOf_listed agent mem).2]

theorem Sound.prepareCallerDeathRequest (sound : host.Sound) {remote : Nat}
    (asked : ∀ agent ∈ host.current.idleAgentsOf remote, agent.1 ∈ host.asked)
    (may : host.MayBook (host.booking (.callerDied remote))) :
    (host.prepareCallerDeathRequest remote).Sound := by
  unfold LowCodeHost.prepareCallerDeathRequest
  cases tracked : host.trackedConnections[remote]? with
  | none => exact sound
  | some connection =>
    cases found : host.session with
    | none =>
      have current := current_of_none found
      refine sound.of_grows .empty (current ▸ .refl _) rfl rfl rfl fun _ quiet => ?_
      rw [current] at quiet
      exact quiet
    | some session =>
      have current := current_of_some found
      rw [current] at asked
      have listed : remote ∈ host.trackedConnections := by
        rw [Std.ExtTreeMap.mem_iff_isSome_getElem?, tracked]
        rfl
      refine sound.bookAll found (fun agent mem => (idleAgentsOf_listed agent mem).1)
        (idleAgentsOf_nodup session remote) asked ?_ ?_ ?_ ?_ _
      · simpa only [booking, current, if_pos listed] using may
      · intro agent mem
        simp [(idleAgentsOf_listed agent mem).2]
      · rfl
      · rfl

theorem not_booked {asked : Finset String} (booked : session.Booked asked) {agentId : String}
    {record : LowCodeAgentRecord} (found : session.agents[agentId]? = some record)
    (connected : record.isDisconnecting ≠ true)
    (hostRemote : Nat) : ∀ pending ∈ records session.pendingDisconnects hostRemote,
      pending.agentId ≠ agentId := by
  rintro pending listed rfl
  obtain ⟨owner, there, host, _⟩ := booked.owned hostRemote pending listed
  cases found.symm.trans there
  exact connected ((booked.booked _ record found).mpr ⟨pending, host ▸ listed, rfl⟩)

theorem Sound.prepareLowCodeComplete (sound : host.Sound) {agentId : String} {callingUid : Int}
    (asked : (callingUid, agentId) ∈ host.agentOwners -> agentId ∈ host.asked)
    (may : host.MayBook (host.booking (.notifyLowCodeAgentComplete agentId callingUid))) :
    (host.prepareLowCodeComplete agentId callingUid).Sound := by
  have unowned : Sound { host with agentOwners := host.agentOwners.erase (callingUid, agentId) } :=
    sound.of_grows sound.booked (.refl _) rfl rfl rfl fun _ quiet => quiet
  unfold LowCodeHost.prepareLowCodeComplete
  split
  · exact sound
  next owned =>
    cases found : host.session with
    | none => rw [found] at unowned; exact unowned
    | some session =>
      have current := current_of_some found
      have booked : session.Booked host.asked := current ▸ sound.booked
      simp only
      cases there : session.agents[agentId]? with
      | none => rw [found] at unowned; exact unowned
      | some record =>
        simp only
        split
        · exact sound
        next connected =>
          split
          · have absent := not_booked booked there connected
            have erased : ∀ hostRemote, records session.pendingDisconnects hostRemote =
                (records session.pendingDisconnects hostRemote).filter (·.agentId ∉ ({agentId} :
                  Finset String)) := by
              intro hostRemote
              refine (filter_eq_self.mpr fun pending listed => ?_).symm
              simpa using absent hostRemote pending listed
            refine sound.of_grows ?_ ?_ rfl rfl rfl ?_
            · exact booked.eraseAgents _ {agentId} (fun other _ _ => by simp) rfl erased
            · exact current ▸ ⟨keeps_eraseAgents _, fun _ filled => filled⟩
            · exact fun _ quiet => current ▸ quiet
          next alone =>
            split
            · exact sound
            next verifiable =>
              have named := booked.named agentId record there
              have target : lowCodeTargets false [(agentId, record)] =
                  [⟨{agentId}, record.hostConnection, false⟩] := by
                simp [lowCodeTargets, addLowCodeDisconnectTarget, named]
              rw [<- target]
              refine sound.bookAll found ?_ ?_ ?_ ?_ ?_ rfl rfl _
              · simpa using there
              · simp
              · simpa using asked (not_not.mp owned)
              · simpa [booking, current, there, owned, connected, alone, verifiable] using may
              · simp

/-- Only the books have changed: nobody has gone on and nobody has been lost. -/
structure SameProgress (host after : LowCodeHost) : Prop where
  operations : after.operations = host.operations
  unanswered : after.unanswered = host.unanswered
  asked : after.asked = host.asked
  lost : after.lost = host.lost

theorem setDisconnecting_progress (host : LowCodeHost) (callerRemote : Nat)
    (isDisconnecting : Bool) :
    host.SameProgress (host.setDisconnecting callerRemote isDisconnecting) ∧
      (host.setDisconnecting callerRemote isDisconnecting).session = host.session := by
  unfold setDisconnecting
  split
  · exact ⟨⟨rfl, rfl, rfl, rfl⟩, rfl⟩
  · exact ⟨⟨rfl, rfl, rfl, rfl⟩, rfl⟩

theorem restore_progress (host : LowCodeHost) (callerRemote : Option Nat)
    (agentIds : Finset String) :
    host.SameProgress (host.restoreLowCodeDisconnectingState callerRemote agentIds) ∧
      (host.restoreLowCodeDisconnectingState callerRemote agentIds).session =
        host.session.map (·.restoreAgents callerRemote agentIds) := by
  cases callerRemote with
  | none => exact ⟨⟨rfl, rfl, rfl, rfl⟩, rfl⟩
  | some caller =>
    obtain ⟨progress, session⟩ := setDisconnecting_progress
      { host with session := host.session.map (·.restoreAgents (some caller) agentIds) } caller
      ((host.session.map (·.restoreAgents (some caller) agentIds)).any fun session =>
        (session.agentsOf caller).any fun agent => agent.2.isDisconnecting)
    exact ⟨{ progress with }, session⟩

variable {target : LowCodeDisconnectTarget}

theorem restore_booked (booked : host.current.Booked host.asked) {callerRemote : Option Nat}
    (only : target.Only callerRemote host.current) :
    (host.restoreLowCodeDisconnectingState callerRemote target.agentIds).current.Booked host.asked ∧
      host.current.Keeps
        (host.restoreLowCodeDisconnectingState callerRemote target.agentIds).current := by
  have session := (restore_progress host callerRemote target.agentIds).2
  cases found : host.session with
  | none =>
    rw [found] at session
    rw [current_of_none session, current_of_none found]
    exact ⟨.empty, (Grows.refl _).keeps⟩
  | some before =>
    rw [found] at session
    rw [current_of_some found] at booked only ⊢
    rw [current_of_some session]
    exact ⟨booked.restoreAgents only, keeps_restoreAgents _ _⟩

theorem cleanup_progress (host : LowCodeHost) (remote : Nat) (agentIds : Finset String) :
    host.SameProgress (host.cleanupLowCodeCallerDeathTargets remote agentIds) := by
  unfold cleanupLowCodeCallerDeathTargets
  split <;> exact ⟨rfl, rfl, rfl, rfl⟩

theorem cleanup_booked (booked : host.current.Booked host.asked) {remote : Nat}
    (only : target.Only (some remote) host.current) :
    (host.cleanupLowCodeCallerDeathTargets remote target.agentIds).current.Booked host.asked := by
  unfold cleanupLowCodeCallerDeathTargets
  cases found : host.session with
  | none => exact booked
  | some session =>
    rw [current_of_some found] at booked only
    simp only [removeLowCodeAgents]
    simp only [filter_some]
    split
    · refine booked.eraseAgents (fun agentId record =>
        agentId ∈ target.agentIds && record.callerRemote == remote) target.agentIds ?_ ?_ ?_
      · intro agentId record there
        constructor
        · exact fun removed => by simpa using (Bool.and_eq_true_iff.mp removed).1
        · intro mem
          have caller := only agentId mem record there
          simpa [mem] using caller
      · rw [clear_agents]
        rfl
      · exact clear_records target.agentIds
    · exact .empty

theorem pending_session {hostRemote : Nat}
    (pending : records host.current.pendingDisconnects hostRemote ≠ []) :
    ∃ session, host.session = some session := by
  cases found : host.session with
  | none => simp [current_of_none found] at pending
  | some session => exact ⟨session, rfl⟩

theorem done_booked (booked : host.current.Booked host.asked) {hostConnection : AgentHostConnection}
    (pending : records host.current.pendingDisconnects hostConnection.asObject ≠ []) :
    (host.handleAgentHostDisconnectDone hostConnection).current.Booked
        (host.handleAgentHostDisconnectDone hostConnection).asked ∧
      host.SameProgress (host.handleAgentHostDisconnectDone hostConnection) := by
  obtain ⟨session, found⟩ := pending_session pending
  rw [current_of_some found] at booked pending
  have ids : ((records session.pendingDisconnects hostConnection.asObject).map (·.agentId)).filter
      (· ≠ "") = (records session.pendingDisconnects hostConnection.asObject).map (·.agentId) := by
    refine filter_eq_self.mpr fun agentId mem => ?_
    obtain ⟨item, listed, rfl⟩ := mem_map.mp mem
    obtain ⟨record, there, _⟩ := booked.owned _ item listed
    simpa using booked.named _ record there
  unfold handleAgentHostDisconnectDone
  simp only [found, ids]
  rw [if_neg (by simpa using pending)]
  constructor
  · split
    · exact .empty
    · refine booked.eraseAgents _ ((records session.pendingDisconnects
        hostConnection.asObject).map (·.agentId)).toFinset ?_ rfl ?_
      · intro agentId record there
        rw [List.mem_toFinset, decide_eq_true_iff]
      · intro hostRemote
        refine (records_putBack session.pendingDisconnects hostConnection.asObject hostRemote
          []).trans ?_
        split
        next same =>
          refine (filter_eq_nil_iff.mpr fun item listed => ?_).symm
          simpa [same] using ⟨item, listed, rfl⟩
        next apart =>
          refine (filter_eq_self.mpr fun item listed => ?_).symm
          obtain ⟨record, there, host, _⟩ := booked.owned hostRemote item listed
          rw [decide_eq_true_iff]
          intro mem
          obtain ⟨other, otherListed, same⟩ := mem_map.mp (mem_toFinset.mp mem)
          obtain ⟨otherRecord, otherThere, otherHost, _⟩ := booked.owned _ other otherListed
          rw [same, there] at otherThere
          cases otherThere
          exact apart (otherHost.symm.trans host)
  · refine ⟨rfl, rfl, rfl, ?_⟩
    refine (congrArg (host.lost ++ ·) (filter_eq_nil_iff.mpr ?_)).trans (append_nil _)
    intro agentId mem
    obtain ⟨item, listed, rfl⟩ := mem_map.mp (mem_filter.mp mem).1
    simpa using booked.asked _ item listed

theorem Sound.disconnectDone (sound : host.Sound) (index : Nat) :
    (host.step (.disconnectDone index)).Sound := by
  rw [step]
  cases sound.baton with
  | idle _ unanswered _ => simpa [unanswered] using sound
  | working _ _ unanswered _ _ _ => simpa [unanswered] using sound
  | waiting hostConnection free one pending =>
    cases index with
    | succ index => simpa [one] using sound
    | zero =>
      let answered : LowCodeHost := { host with unanswered := [] }
      have books : answered.current.Booked answered.asked := sound.booked
      obtain ⟨booked, progress⟩ := done_booked books pending
      let next : Operation := { phase := .scheduleNext }
      have working : (answered.handleAgentHostDisconnectDone hostConnection).operations ++ [next] =
          [next] := by
        rw [progress.operations]
        exact congrArg (· ++ [next]) free
      simp only [one, getElem?_cons_zero, eraseIdx_cons_zero]
      refine ⟨?_, .working next working progress.unanswered rfl rfl trivial, ?_⟩
      · exact booked
      · exact progress.lost.trans sound.noneLost

variable {op : Operation}

theorem Sound.goOn (sound : host.Sound) (progress : host.SameProgress after)
    (booked : after.current.Booked host.asked) {next : Operation}
    (one : host.operations = [op]) (unanswered : host.unanswered = [])
    (rest : next.rest = []) (unfailed : next.hasFailed = false) (fits : next.Fits after.current) :
    (after.goOn 0 (some next)).Sound := by
  refine ⟨progress.asked.symm ▸ booked, .working next ?_ (progress.unanswered.trans unanswered) rest
    unfailed fits, progress.lost.trans sound.noneLost⟩
  change after.operations.set 0 next = [next]
  rw [progress.operations, one]
  rfl

theorem SameProgress.refl (host : LowCodeHost) : host.SameProgress host := ⟨rfl, rfl, rfl, rfl⟩

theorem proceed_none (rest : op.rest = [])
    (unfailed : op.hasFailed = false) : op.proceed = none := by
  simp [proceed, rest, unfailed]

theorem afterRefusal_cases (rest : op.rest = []) (unfailed : op.hasFailed = false)
    (target : LowCodeDisconnectTarget) (isNext : Bool) :
    (∃ next, afterRefusal op target isNext = some next ∧ next.rest = [] ∧
      next.hasFailed = false ∧ next.phase = .scheduleNext) ∨
    (isNext = false ∧ op.died.isSome = true ∧
      afterRefusal op target isNext = some { op with phase := .cleanUp target }) := by
  unfold afterRefusal
  split
  · exact .inl ⟨_, rfl, rest, unfailed, rfl⟩
  next first =>
    split
    next died => exact .inr ⟨by simpa using first, died, rfl⟩
    · simp [proceed, rest]

theorem next_asked {asked : Finset String} (booked : session.Booked asked)
    (next : session.buildNextLowCodeDisconnectTarget = some (target, callerRemote)) :
    target.Asked (some callerRemote) session := by
  obtain ⟨hostRemote, next⟩ := buildNext_some next
  obtain ⟨nonempty, host, ⟨first, firstListed, caller⟩, origin⟩ := nextTarget_some next
  refine ⟨nonempty, host ▸ ne_nil_of_mem firstListed, ?_⟩
  intro agentId mem record found
  obtain ⟨pending, listed, rfl⟩ := origin agentId mem
  obtain ⟨owner, there, owns, _⟩ := booked.owned hostRemote pending listed
  obtain ⟨firstOwner, firstThere, firstOwns, firstCaller⟩ := booked.owned hostRemote first firstListed
  cases found.symm.trans there
  have same := booked.oneCaller _ _ record firstOwner found firstThere (owns.trans firstOwns.symm)
  simp [same, firstCaller, caller]

theorem Sound.advance (sound : host.Sound) (index : Nat) (accepted : Bool) :
    (host.advance index accepted).Sound := by
  unfold LowCodeHost.advance
  cases sound.baton with
  | idle free _ _ => simpa [free] using sound
  | waiting _ free _ _ => simpa [free] using sound
  | working op one unanswered rest unfailed fits =>
    cases index with
    | succ index => simpa [one] using sound
    | zero =>
      simp only [one, getElem?_cons_zero]
      have done : op.proceed = none := proceed_none rest unfailed
      unfold Fits at fits
      cases phase : op.phase with
      | request target callerRemote isNext =>
        simp only [phase] at fits
        simp only [if_neg fits.1.some, done]
        cases accepted with
        | true =>
          refine { sound with baton := .waiting target.hostConnection ?_ ?_ fits.1.pending }
          · rfl
          · exact congrArg (· ++ [target.hostConnection]) unanswered
        | false => exact sound.goOn (.refl host) sound.booked one unanswered rest unfailed fits
      | refused target callerRemote isNext =>
        simp only [phase] at fits
        have resumes (after : LowCodeHost) (progress : host.SameProgress after)
            (booked : after.current.Booked host.asked)
            (keeps : isNext = false -> host.current.Keeps after.current) :
            (after.goOn 0 (afterRefusal op target isNext)).Sound := by
          rcases afterRefusal_cases rest unfailed target isNext with
            ⟨next, goes, nextRest, nextUnfailed, schedules⟩ | ⟨first, died, goes⟩
          · rw [goes]
            refine sound.goOn progress booked one unanswered nextRest nextUnfailed ?_
            simp [Fits, schedules]
          · rw [goes]
            refine sound.goOn progress booked one unanswered rest unfailed ?_
            obtain ⟨remote, died⟩ := isSome_iff_exists.mp died
            have only := (fits.2 first).of_keeps (keeps first)
            simpa only [Fits, died, getD_some] using only
        cases callerRemote with
        | none =>
          obtain ⟨booked, keeps⟩ := restore_booked sound.booked fits.1.only
          exact resumes _ (restore_progress host none target.agentIds).1 booked fun _ => keeps
        | some caller =>
          by_cases cleansUp : (isNext && target.cleanupOnFailure) = true
          · simp only [if_pos cleansUp]
            refine resumes _ (cleanup_progress host caller target.agentIds)
              (cleanup_booked sound.booked fits.1.only) fun first => ?_
            simp [first] at cleansUp
          · simp only [if_neg cleansUp]
            obtain ⟨booked, keeps⟩ := restore_booked sound.booked fits.1.only
            exact resumes _ (restore_progress host (some caller) target.agentIds).1 booked
              fun _ => keeps
      | cleanUp target =>
        simp only [phase] at fits
        exact sound.goOn (cleanup_progress _ _ _) (cleanup_booked sound.booked fits) one unanswered
          rest unfailed trivial
      | scheduleNext =>
        cases chosen : host.session.bind (·.buildNextLowCodeDisconnectTarget) with
        | none =>
          simp only [done]
          refine { sound with baton := .idle ?_ unanswered ?_ }
          · exact congrArg (·.eraseIdx 0) one
          · change host.current.hasPendingLowCodeDisconnect = false
            cases found : host.session with
            | none =>
              rw [current_of_none found, not_hasPending_iff]
              exact fun hostRemote => records_empty hostRemote
            | some session =>
              have booked := sound.booked
              rw [found, bind_some] at chosen
              rw [current_of_some found] at booked ⊢
              exact booked.buildNext_none chosen
        | some next =>
          obtain ⟨session, found, chosen⟩ := bind_eq_some_iff.mp chosen
          have booked := sound.booked
          rw [current_of_some found] at booked
          refine sound.goOn (.refl host) sound.booked one unanswered rest unfailed ?_
          rw [current_of_some found]
          exact ⟨next_asked booked chosen, fun first => Bool.noConfusion first⟩
      | requestService callerRemote serviceConnection => simp only [phase] at fits
      | refusedService callerRemote => simp only [phase] at fits

theorem asked_idleAgentsOf (host : LowCodeHost) (callerRemote : Nat) :
    ∀ agent ∈ host.current.idleAgentsOf callerRemote,
      agent.1 ∈ (host.ask (host.agentIdsOf callerRemote)).asked := by
  intro agent mem
  refine Finset.mem_union_right _ (mem_toFinset.mpr ?_)
  cases found : host.session with
  | none =>
    rw [current_of_none found] at mem
    have listed := (idleAgentsOf_listed agent mem).1
    simp at listed
  | some session =>
    rw [current_of_some found] at mem
    rw [agentIdsOf, found]
    exact mem_map_of_mem (mem_filter.mp mem).1

theorem Sound.prepareServiceDisconnectRequest (sound : host.Sound)
    (meets : host.Meets (.disconnectServiceExtensionAbility callerRemote)) :
    (host.prepareServiceDisconnectRequest callerRemote).Sound := by
  unfold LowCodeHost.prepareServiceDisconnectRequest
  cases tracked : host.trackedConnections[callerRemote]? with
  | none => exact sound
  | some connection =>
    have disconnecting : connection.isDisconnecting = true := by
      have disconnects : host.trackedConnections[callerRemote]?.all (·.isDisconnecting) = true := meets
      rwa [tracked] at disconnects
    simpa only [if_pos disconnecting] using sound

theorem Sound.step (sound : host.Sound) : ∀ call, host.Meets call -> (host.step call).Sound
  | .disconnectAgentExtensionAbility callerRemote, meets =>
    (sound.ask _).prepareLowCodeDisconnectRequest (host.asked_idleAgentsOf callerRemote) meets
  | .notifyLowCodeAgentComplete agentId callingUid, meets => by
    refine (sound.ask _).prepareLowCodeComplete (fun owned => ?_) meets
    have owns : (callingUid, agentId) ∈ host.agentOwners := owned
    simp [LowCodeHost.ask, owns]
  | .disconnectServiceExtensionAbility _, meets => (sound.ask _).prepareServiceDisconnectRequest meets
  | .callerDied remote, meets =>
    (sound.ask _).prepareCallerDeathRequest (host.asked_idleAgentsOf remote) meets
  | .disconnectDone index, _ => sound.disconnectDone index
  | .advance index accepted, _ => sound.advance index accepted

theorem Sound.start (connected : ConnectedHost) : connected.start.Sound := by
  have empty (hostRemote : Nat) :
      records connected.start.current.pendingDisconnects hostRemote = [] := by
    change records connected.session.pendingDisconnects hostRemote = []
    rw [connected.noPending, records_empty]
  refine ⟨⟨connected.named, connected.oneCaller, ?_, ?_, ?_⟩, .idle rfl rfl ?_, rfl⟩
  · intro agentId record found
    simp [empty, connected.connected agentId record found]
  · simp [empty]
  · simp [empty]
  · exact AgentHostSession.not_hasPending_iff.mpr empty

end LowCodeHost

/-- As long as disconnecting starts on an idle session and under one host, no agent is lost. -/
theorem lowCodeHost_good (connected : ConnectedHost) {calls : List LowCodeHost.Step}
    (every : (lowCodeHost connected).EveryStep calls LowCodeHost.Meets) :
    (lowCodeHost connected).Throughout calls HostGood := by
  have sound : (lowCodeHost connected).Throughout calls LowCodeHost.Sound :=
    every.throughout (.start connected) fun _ call sound meets => sound.step call meets
  exact fun done rest split => (sound done rest split).good

namespace ConnectedHost

def agentOf (callerRemote : Nat) : LowCodeAgentRecord where
  callerRemote
  callerUid := callerRemote
  hostConnection := ⟨callerRemote + 10, callerRemote⟩
  originalIdentity := "host"
  verificationNonce := 1

def trackedOf (callerRemote : Nat) : TrackedConnectionRecord where
  callerUid := callerRemote
  serviceConnection := (agentOf callerRemote).hostConnection

def threeAgents : Std.ExtTreeMap String LowCodeAgentRecord :=
  ((Std.ExtTreeMap.empty.insert "a" (agentOf 1)).insert "b" (agentOf 2)).insert "c" (agentOf 3)

theorem threeAgents_of {agentId : String} {record : LowCodeAgentRecord}
    (found : threeAgents[agentId]? = some record) :
    agentId ≠ "" ∧ record = agentOf record.callerRemote := by
  simp only [threeAgents, Std.ExtTreeMap.getElem?_insert, compare_eq_iff_eq] at found
  split at found
  next same => cases found; exact ⟨same ▸ by decide, rfl⟩
  · split at found
    next same => cases found; exact ⟨same ▸ by decide, rfl⟩
    · split at found
      next same => cases found; exact ⟨same ▸ by decide, rfl⟩
      · simp at found

def threeCallers : ConnectedHost where
  session := ⟨threeAgents, {1, 2, 3}, ∅⟩
  trackedConnections :=
    ((Std.ExtTreeMap.empty.insert 1 (trackedOf 1)).insert 2 (trackedOf 2)).insert 3 (trackedOf 3)
  agentOwners := {(1, "a"), (2, "b"), (3, "c")}
  named _ _ found := (threeAgents_of found).1
  oneCaller agentId other record otherRecord found otherFound same := by
    rw [(threeAgents_of found).2, (threeAgents_of otherFound).2] at same
    exact Nat.add_right_cancel same
  connected _ _ found := by rw [(threeAgents_of found).2]; rfl
  noPending := rfl

end ConnectedHost

open ConnectedHost

def oneAfterTheOther : List Step :=
  [.disconnectAgentExtensionAbility 1, .disconnectAgentExtensionAbility 2, .advance 0 true,
    .disconnectDone 0, .advance 0 true, .advance 0 true, .notifyLowCodeAgentComplete "c" 3,
    .disconnectDone 0, .advance 0 true, .advance 0 false, .advance 0 false]

theorem oneAfterTheOther_good :
    (lowCodeHost threeCallers).EveryStep oneAfterTheOther Meets ∧
      (lowCodeHost threeCallers).Throughout oneAfterTheOther HostGood := by
  have every : (lowCodeHost threeCallers).EveryStep oneAfterTheOther Meets :=
    Machine.StepsFrom.everyStep (by decide +kernel)
  exact ⟨every, lowCodeHost_good threeCallers every⟩

def betweenDoneAndNext : List Step :=
  [.disconnectAgentExtensionAbility 1, .advance 0 true, .disconnectDone 0,
    .disconnectAgentExtensionAbility 2, .advance 0 true, .advance 0 true, .advance 0 true,
    .disconnectDone 0, .disconnectDone 0]

theorem betweenDoneAndNext_loses :
    ¬ ∀ (connected : ConnectedHost) (calls : List Step),
      (lowCodeHost connected).Throughout calls HostGood := by
  intro good
  have lost : ((lowCodeHost threeCallers).run betweenDoneAndNext).lost = ["c"] := by
    decide +kernel
  have last := good threeCallers betweenDoneAndNext betweenDoneAndNext [] (append_nil _).symm
  rw [last.noneLost] at lost
  cases lost

end AbilityRuntime.AgentConnect
