import Mathlib.Data.Finset.Basic
import AbilityRuntime.Library.RecordMap
import AbilityRuntime.Library.Runs

set_option autoImplicit false

namespace AbilityRuntime.AgentConnect

open Library RecordMap

/-- A connection to the host, by its own remote object; it is made for one caller. -/
structure AgentHostConnection where
  asObject : Nat
  callerRemote : Nat

structure LowCodeAgentRecord where
  callerRemote : Nat
  callerUid : Int
  hostConnection : AgentHostConnection
  originalIdentity : String
  verificationNonce : Int
  isDisconnecting : Bool := false

def LowCodeAgentRecord.isVerifiable (record : LowCodeAgentRecord) : Bool :=
  record.originalIdentity ≠ "" && 0 < record.verificationNonce

structure LowCodePendingDisconnectRecord where
  agentId : String
  callerRemote : Nat
  originalIdentity : String
  verificationNonce : Int
  cleanupOnFailure : Bool

structure LowCodeDisconnectTarget where
  agentIds : Finset String
  hostConnection : AgentHostConnection
  cleanupOnFailure : Bool := false

structure AgentHostSession where
  agents : Std.ExtTreeMap String LowCodeAgentRecord
  callerConnections : Finset Nat
  pendingDisconnects : Std.ExtTreeMap Nat (List LowCodePendingDisconnectRecord)

structure TrackedConnectionRecord where
  callerUid : Int
  serviceConnection : AgentHostConnection
  isDisconnecting : Bool := false

def addLowCodeDisconnectTarget (cleanupOnFailure : Bool) (hostConnection : AgentHostConnection)
    (agentId : String) : List LowCodeDisconnectTarget -> List LowCodeDisconnectTarget
  | [] => if agentId = "" then [] else [⟨{agentId}, hostConnection, cleanupOnFailure⟩]
  | target :: rest =>
    if agentId = "" then target :: rest
    else if target.hostConnection.asObject = hostConnection.asObject then
      { target with
        cleanupOnFailure := target.cleanupOnFailure || cleanupOnFailure
        agentIds := insert agentId target.agentIds } :: rest
    else target :: addLowCodeDisconnectTarget cleanupOnFailure hostConnection agentId rest

def lowCodeTargets (cleanupOnFailure : Bool) (agents : List (String × LowCodeAgentRecord)) :
    List LowCodeDisconnectTarget :=
  agents.foldl (fun targets agent =>
    addLowCodeDisconnectTarget cleanupOnFailure agent.2.hostConnection agent.1 targets) []

def bookPending (pending : LowCodePendingDisconnectRecord) :
    List LowCodePendingDisconnectRecord -> List LowCodePendingDisconnectRecord
  | [] => [pending]
  | first :: rest =>
    if first.agentId = pending.agentId then pending :: rest else first :: bookPending pending rest

namespace AgentHostSession

variable (session : AgentHostSession)

def hasPendingLowCodeDisconnect : Bool :=
  session.pendingDisconnects.toList.any fun entry => !entry.2.isEmpty

def agentsOf (callerRemote : Nat) : List (String × LowCodeAgentRecord) :=
  session.agents.toList.filter fun agent => agent.2.callerRemote == callerRemote

def idleAgentsOf (callerRemote : Nat) : List (String × LowCodeAgentRecord) :=
  (session.agentsOf callerRemote).filter fun agent => !agent.2.isDisconnecting

def hasOtherAgentForCaller (agentId : String) (callerRemote : Nat) : Bool :=
  session.agents.toList.any fun agent => agent.1 ≠ agentId && agent.2.callerRemote == callerRemote

def addPendingLowCodeDisconnectRecord (agentId : String) (record : LowCodeAgentRecord)
    (cleanupOnFailure : Bool) : AgentHostSession :=
  if agentId = "" then session
  else
    let pending := ⟨agentId, record.callerRemote, record.originalIdentity,
      record.verificationNonce, cleanupOnFailure⟩
    let hostRemote := record.hostConnection.asObject
    { session with
      pendingDisconnects := session.pendingDisconnects.insert hostRemote
        (bookPending pending (records session.pendingDisconnects hostRemote)) }

def book (cleanupOnFailure : Bool) (agentId : String) (record : LowCodeAgentRecord) :
    AgentHostSession :=
  { session with
    agents := session.agents.insert agentId { record with isDisconnecting := true }
  }.addPendingLowCodeDisconnectRecord agentId record cleanupOnFailure

def bookAll (cleanupOnFailure : Bool) (agents : List (String × LowCodeAgentRecord)) :
    AgentHostSession :=
  agents.foldl (fun session agent => session.book cleanupOnFailure agent.1 agent.2) session

def clearPendingLowCodeDisconnectRecords (agentIds : Finset String) : AgentHostSession :=
  if agentIds = ∅ then session
  else
    { session with
      pendingDisconnects :=
        prune (fun _ pending => decide (pending.agentId ∉ agentIds)) session.pendingDisconnects }

def askable (hostRemote : Nat) (pending : LowCodePendingDisconnectRecord) :
    Option (LowCodePendingDisconnectRecord × AgentHostConnection) :=
  if pending.agentId = "" then none
  else match session.agents[pending.agentId]? with
  | none => none
  | some record =>
    if record.hostConnection.asObject = hostRemote then some (pending, record.hostConnection)
    else none

def nextTarget (hostRemote : Nat) (pendings : List LowCodePendingDisconnectRecord) :
    Option (LowCodeDisconnectTarget × Nat) :=
  match pendings.filterMap (session.askable hostRemote) with
  | [] => none
  | first :: rest =>
    let alike := first :: rest.filter fun item =>
      item.1.cleanupOnFailure == first.1.cleanupOnFailure
    some (⟨(alike.map fun item => item.1.agentId).toFinset, (alike.getLast (List.cons_ne_nil _ _)).2,
      first.1.cleanupOnFailure⟩, first.1.callerRemote)

def buildNextLowCodeDisconnectTarget : Option (LowCodeDisconnectTarget × Nat) :=
  session.pendingDisconnects.toList.findSome? fun entry => session.nextTarget entry.1 entry.2

def eraseAgents (removed : String -> LowCodeAgentRecord -> Bool) : AgentHostSession :=
  { session with agents := session.agents.filter fun agentId record => !removed agentId record }

def restoreAgents (callerRemote : Option Nat) (agentIds : Finset String) : AgentHostSession :=
  { session.clearPendingLowCodeDisconnectRecords agentIds with
    agents := session.agents.map fun agentId record =>
      if agentId ∈ agentIds && callerRemote.all (record.callerRemote == ·) then
        { record with isDisconnecting := false }
      else record }

end AgentHostSession

inductive Phase where
  -- DisconnectAbility of the host connection
  | request (target : LowCodeDisconnectTarget) (callerRemote : Option Nat) (isNext : Bool)
  -- it was refused: the agents are restored or cleaned up
  | refused (target : LowCodeDisconnectTarget) (callerRemote : Option Nat) (isNext : Bool)
  -- CleanupLowCodeCallerDeathTargets after a refused request for a dead caller
  | cleanUp (target : LowCodeDisconnectTarget)
  -- PrepareNextLowCodeDisconnectRequest
  | scheduleNext
  -- DisconnectAbility of a tracked connection as that of a service
  | requestService (callerRemote : Nat) (serviceConnection : AgentHostConnection)
  | refusedService (callerRemote : Nat)

structure Operation where
  phase : Phase
  callerRemote : Option Nat := none
  died : Option Nat := none
  rest : List LowCodeDisconnectTarget := []
  hasFailed : Bool := false

def Operation.proceed (op : Operation) : Option Operation :=
  match op.rest with
  | target :: rest =>
    some { op with phase := .request target op.callerRemote false, rest }
  | [] =>
    if op.hasFailed then some { op with phase := .scheduleNext, hasFailed := false }
    else none

/-- The ledger of one host session, the operations in progress and the unanswered requests. -/
structure LowCodeHost where
  session : Option AgentHostSession
  trackedConnections : Std.ExtTreeMap Nat TrackedConnectionRecord
  agentOwners : Finset (Int × String)
  operations : List Operation := []
  unanswered : List AgentHostConnection := []
  asked : Finset String := ∅
  lost : List String := []

namespace LowCodeHost

variable (host : LowCodeHost)

def start (callerRemote died : Option Nat) (targets : List LowCodeDisconnectTarget) : LowCodeHost :=
  match targets with
  | [] => host
  | target :: rest =>
    { host with
      operations := host.operations ++
        [{ phase := .request target callerRemote false, callerRemote, died, rest }] }

def ask (agentIds : List String) : LowCodeHost :=
  { host with asked := host.asked ∪ agentIds.toFinset }

def agentIdsOf (callerRemote : Nat) : List String :=
  match host.session with
  | none => []
  | some session => (session.agentsOf callerRemote).map Prod.fst

def prepareLowCodeDisconnectRequest (callerRemote : Nat) : LowCodeHost :=
  match host.trackedConnections[callerRemote]? with
  | none => host
  | some tracked =>
    if tracked.isDisconnecting then host
    else match host.session with
    | none => host
    | some session =>
      let entries := session.idleAgentsOf callerRemote
      if entries.any fun agent => !agent.2.isVerifiable then host
      else if entries.isEmpty then
        if (session.agentsOf callerRemote).isEmpty then
          { host with
            session := some { session with
              callerConnections := session.callerConnections.erase callerRemote }
            trackedConnections := host.trackedConnections.erase callerRemote }
        else host
      else
        let scheduleNow := !session.hasPendingLowCodeDisconnect
        { host with
          session := some (session.bookAll false entries)
          trackedConnections :=
            host.trackedConnections.insert callerRemote { tracked with isDisconnecting := true }
        }.start (some callerRemote) none (if scheduleNow then lowCodeTargets false entries else [])

def prepareCallerDeathRequest (remote : Nat) : LowCodeHost :=
  match host.trackedConnections[remote]? with
  | none => host
  | some _ =>
    let released := { host with trackedConnections := host.trackedConnections.erase remote }
    match host.session with
    | none => released
    | some session =>
      let entries := session.idleAgentsOf remote
      let scheduleNow := !session.hasPendingLowCodeDisconnect
      { released with
        session := some { session.bookAll true entries with
          callerConnections := session.callerConnections.erase remote }
      }.start none (some remote) (if scheduleNow then lowCodeTargets true entries else [])

def removeLowCodeAgents (session : AgentHostSession)
    (removed : String -> LowCodeAgentRecord -> Bool) : LowCodeHost :=
  { host with
    session := some (session.eraseAgents removed)
    agentOwners := host.agentOwners.filter fun owner =>
      (session.agents[owner.2]?.all fun record =>
        !(record.callerUid == owner.1 && removed owner.2 record)) = true }

def prepareLowCodeComplete (agentId : String) (callingUid : Int) : LowCodeHost :=
  if (callingUid, agentId) ∉ host.agentOwners then host
  else match host.session with
  | none => { host with agentOwners := host.agentOwners.erase (callingUid, agentId) }
  | some session =>
    match session.agents[agentId]? with
    | none => { host with agentOwners := host.agentOwners.erase (callingUid, agentId) }
    | some record =>
      if record.isDisconnecting then host
      else if session.hasOtherAgentForCaller agentId record.callerRemote then
        host.removeLowCodeAgents session fun other _ => other == agentId
      else if !record.isVerifiable then host
      else
        let scheduleNow := !session.hasPendingLowCodeDisconnect
        { host with session := some (session.book false agentId record) }.start none none
          (if scheduleNow then [⟨{agentId}, record.hostConnection, false⟩] else [])

-- PrepareServiceDisconnectRequest does not ask whether the connection is one of a low-code agent.
def prepareServiceDisconnectRequest (callerRemote : Nat) : LowCodeHost :=
  match host.trackedConnections[callerRemote]? with
  | none => host
  | some tracked =>
    if tracked.isDisconnecting then host
    else
      { host with
        trackedConnections :=
          host.trackedConnections.insert callerRemote { tracked with isDisconnecting := true }
        operations := host.operations ++
          [{ phase := .requestService callerRemote tracked.serviceConnection }] }

def setDisconnecting (callerRemote : Nat) (isDisconnecting : Bool) : LowCodeHost :=
  match host.trackedConnections[callerRemote]? with
  | none => host
  | some tracked =>
    { host with
      trackedConnections :=
        host.trackedConnections.insert callerRemote { tracked with isDisconnecting } }

def restoreConnectionDisconnectingState (callerRemote : Nat) : LowCodeHost :=
  host.setDisconnecting callerRemote false

def restoreLowCodeDisconnectingState (callerRemote : Option Nat) (agentIds : Finset String) :
    LowCodeHost :=
  let session := host.session.map (·.restoreAgents callerRemote agentIds)
  let restored := { host with session }
  match callerRemote with
  | none => restored
  | some caller =>
    restored.setDisconnecting caller
      (session.any fun session => (session.agentsOf caller).any fun agent => agent.2.isDisconnecting)

def cleanupLowCodeCallerDeathTargets (remote : Nat) (agentIds : Finset String) : LowCodeHost :=
  match host.session with
  | none => host
  | some session =>
    let cleared := { session.clearPendingLowCodeDisconnectRecords agentIds with
      callerConnections := session.callerConnections.erase remote }
    let cleaned := host.removeLowCodeAgents cleared fun agentId record =>
      agentId ∈ agentIds && record.callerRemote == remote
    { cleaned with
      session := cleaned.session.filter fun session =>
        !(session.agents.isEmpty && session.callerConnections = ∅) }

def lose (agentIds : List String) : LowCodeHost :=
  { host with lost := host.lost ++ agentIds.filter (· ∉ host.asked) }

def tearDownHostSession (session : AgentHostSession) : LowCodeHost :=
  let removed := host.removeLowCodeAgents session fun _ _ => true
  { removed with
    session := none
    trackedConnections := host.trackedConnections.filter fun callerRemote _ =>
      decide (callerRemote ∉ session.callerConnections) }

-- Every record of the host connection is resolved, whatever the request was for. The agents that the
-- connection itself remembers are only looked at when it has no remote object.
def handleAgentHostDisconnectDone (hostConnection : AgentHostConnection) : LowCodeHost :=
  match host.session with
  | none => host
  | some session =>
    let pendings := records session.pendingDisconnects hostConnection.asObject
    let agentIds := (pendings.map (·.agentId)).filter (· ≠ "")
    if agentIds.isEmpty then
      (host.lose (session.agents.toList.map Prod.fst)).tearDownHostSession session
    else
      let caller := hostConnection.callerRemote
      let resolved := { session with
        pendingDisconnects := session.pendingDisconnects.erase hostConnection.asObject }
      let left := session.agents.filter fun agentId _ => decide (agentId ∉ agentIds)
      let isReleased := (!left.toList.any fun agent => agent.2.callerRemote == caller) &&
        decide (caller ∈ session.callerConnections)
      let removed := (host.lose (agentIds.filter (session.agents.contains ·))).removeLowCodeAgents
        { resolved with
          callerConnections :=
            if isReleased then session.callerConnections.erase caller
            else session.callerConnections }
        fun agentId _ => decide (agentId ∈ agentIds)
      { removed with
        session := if left.isEmpty then none else removed.session
        trackedConnections :=
          if isReleased then host.trackedConnections.erase caller else host.trackedConnections }

def goOn (index : Nat) (op : Option Operation) : LowCodeHost :=
  { host with
    operations := match op with
      | none => host.operations.eraseIdx index
      | some next => host.operations.set index next }

def Operation.afterRefusal (op : Operation) (target : LowCodeDisconnectTarget)
    (isNext : Bool) : Option Operation :=
  if isNext then some { op with phase := .scheduleNext }
  else if op.died.isSome then some { op with phase := .cleanUp target }
  else { op with hasFailed := true }.proceed

/-- One step of the operation at the index: a call of the ability manager or a region under the
lock. -/
def advance (index : Nat) (accepted : Bool) : LowCodeHost :=
  match host.operations[index]? with
  | none => host
  | some op =>
    match op.phase with
    | .request target callerRemote isNext =>
      if target.agentIds = ∅ then host.goOn index (Operation.afterRefusal op target isNext)
      else if accepted then
        { host with unanswered := host.unanswered ++ [target.hostConnection] }.goOn index op.proceed
      else host.goOn index (some { op with phase := .refused target callerRemote isNext })
    | .refused target callerRemote isNext =>
      let restored := match callerRemote with
        | some caller =>
          if isNext && target.cleanupOnFailure then
            host.cleanupLowCodeCallerDeathTargets caller target.agentIds
          else host.restoreLowCodeDisconnectingState (some caller) target.agentIds
        | none => host.restoreLowCodeDisconnectingState none target.agentIds
      restored.goOn index (Operation.afterRefusal op target isNext)
    | .cleanUp target =>
      (host.cleanupLowCodeCallerDeathTargets (op.died.getD 0) target.agentIds).goOn index
        (some { op with phase := .scheduleNext })
    | .scheduleNext =>
      match host.session.bind (·.buildNextLowCodeDisconnectTarget) with
      | none => host.goOn index op.proceed
      | some (target, callerRemote) => host.goOn index
        (some { op with phase := .request target (some callerRemote) true })
    | .requestService callerRemote serviceConnection =>
      if accepted then
        { host with unanswered := host.unanswered ++ [serviceConnection] }.goOn index none
      else host.goOn index (some { op with phase := .refusedService callerRemote })
    | .refusedService callerRemote =>
      (host.restoreConnectionDisconnectingState callerRemote).goOn index none

inductive Step where
  | disconnectAgentExtensionAbility (callerRemote : Nat)
  | notifyLowCodeAgentComplete (agentId : String) (callingUid : Int)
  | disconnectServiceExtensionAbility (callerRemote : Nat)
  | callerDied (remote : Nat)
  | disconnectDone (index : Nat)
  | advance (index : Nat) (accepted : Bool)

def step : Step -> LowCodeHost
  | .disconnectAgentExtensionAbility callerRemote =>
    (host.ask (host.agentIdsOf callerRemote)).prepareLowCodeDisconnectRequest callerRemote
  | .notifyLowCodeAgentComplete agentId callingUid =>
    (host.ask (if (callingUid, agentId) ∈ host.agentOwners then [agentId] else [])
      ).prepareLowCodeComplete agentId callingUid
  | .disconnectServiceExtensionAbility callerRemote =>
    (host.ask (host.agentIdsOf callerRemote)).prepareServiceDisconnectRequest callerRemote
  | .callerDied remote => (host.ask (host.agentIdsOf remote)).prepareCallerDeathRequest remote
  | .disconnectDone index =>
    match host.unanswered[index]? with
    | none => host
    | some hostConnection =>
      let answered := { host with unanswered := host.unanswered.eraseIdx index }
      let handled := answered.handleAgentHostDisconnectDone hostConnection
      { handled with operations := handled.operations ++ [{ phase := .scheduleNext }] }
  | .advance index accepted => host.advance index accepted

end LowCodeHost

end AbilityRuntime.AgentConnect
