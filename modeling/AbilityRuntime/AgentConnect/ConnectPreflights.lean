import AbilityRuntime.Library.KeyedMap
import AbilityRuntime.Library.Runs

set_option autoImplicit false

namespace AbilityRuntime.AgentConnect

open Library

structure ElementName where
  deviceID : String
  bundleName : String
  abilityName : String
  moduleName : String
deriving DecidableEq, Repr

/-- A want with the parameters that a connect preflight reads. -/
structure Want where
  element : ElementName
  agentId : String
  appCloneIndex : Int32
  verificationNonce : Int

abbrev AgentPreflightTimePoint := Int

def MAX_AGENT_CONNECT_PREFLIGHTS : Nat := 1024

def AGENT_CONNECT_PREFLIGHT_TIMEOUT : Int := 60 * 1000000000

variable {Card : Type}

structure AgentConnectPreflightRecord (Card : Type) where
  callerUid : Int32
  callerUserId : Int32
  connectWant : Want
  agentId : String
  card : Card
  expiresAt : AgentPreflightTimePoint

structure AgentConnectPreflightRegisterRequest (Card : Type) where
  connectWant : Want
  agentId : String
  card : Card
  callerUid : Int32
  callerUserId : Int32

structure AgentConnectPreflightConsumeRequest where
  want : Want
  callerUid : Int32
  callerUserId : Int32

structure AgentConnectPreflightConsumeResult (Card : Type) where
  connectWant : Want
  agentId : String
  card : Card

def isConnectPreflightTargetMatched (want : Want) (record : AgentConnectPreflightRecord Card) :
    Bool :=
  want.agentId = record.agentId && want.element = record.connectWant.element &&
    want.appCloneIndex = record.connectWant.appCloneIndex

/-- The preflights of the agent connect manager and when they are cleaned up next. -/
structure ConnectPreflights (Card : Type) where
  connectPreflights : KeyedMap Int (AgentConnectPreflightRecord Card) := ∅
  connectPreflightCleanupScheduled : Bool := false
  connectPreflightCleanupAt : AgentPreflightTimePoint := 0

namespace ConnectPreflights

variable (state : ConnectPreflights Card)

def pruneExpiredConnectPreflightsLocked (now : AgentPreflightTimePoint) : ConnectPreflights Card :=
  { state with
    connectPreflights := KeyedMap.filterMapValues
      (fun record => if record.expiresAt > now then some record else none)
      state.connectPreflights }

def getEarliestConnectPreflightExpiryLocked : Option AgentPreflightTimePoint :=
  ((KeyedMap.values state.connectPreflights).map (·.expiresAt)).min?

def firstExpiringAt (time : AgentPreflightTimePoint) : Option Int :=
  (state.connectPreflights.keys.filter fun nonce =>
    (state.connectPreflights.lookup nonce).any (·.expiresAt = time)).min?

def eraseOldestConnectPreflightLocked : ConnectPreflights Card :=
  match state.getEarliestConnectPreflightExpiryLocked.bind state.firstExpiringAt with
  | some nonce => { state with connectPreflights := state.connectPreflights.erase nonce }
  | none => state

/-- The time of the task that has to be submitted, when there is a new one. -/
def markConnectPreflightCleanupLocked (expiresAt : AgentPreflightTimePoint) :
    ConnectPreflights Card × Option AgentPreflightTimePoint :=
  if state.connectPreflightCleanupScheduled ∧ state.connectPreflightCleanupAt ≤ expiresAt then
    (state, none)
  else
    ({ state with
        connectPreflightCleanupScheduled := true
        connectPreflightCleanupAt := expiresAt }, some expiresAt)

def freshNonce : List Int -> Option Int
  | [] => none
  | nonce :: rest =>
    if nonce ≤ 0 then none
    else if nonce ∈ state.connectPreflights then freshNonce rest
    else some nonce

def record (request : AgentConnectPreflightRegisterRequest Card) (nonce : Int)
    (now : AgentPreflightTimePoint) : AgentConnectPreflightRecord Card where
  callerUid := request.callerUid
  callerUserId := request.callerUserId
  connectWant := { request.connectWant with verificationNonce := nonce }
  agentId := request.agentId
  card := request.card
  expiresAt := now + AGENT_CONNECT_PREFLIGHT_TIMEOUT

def makeRoom : ConnectPreflights Card :=
  if MAX_AGENT_CONNECT_PREFLIGHTS ≤ state.connectPreflights.entries.length then
    state.eraseOldestConnectPreflightLocked
  else state

def store (nonce : Int) (record : AgentConnectPreflightRecord Card) : ConnectPreflights Card :=
  { state with connectPreflights := state.connectPreflights.insert nonce record }

/-- The nonce and the record that a call registers, given what the generator returns. -/
def registers (request : AgentConnectPreflightRegisterRequest Card) (draws : List Int)
    (now : AgentPreflightTimePoint) : Option (Int × AgentConnectPreflightRecord Card) :=
  ((state.pruneExpiredConnectPreflightsLocked now).freshNonce draws).map fun nonce =>
    (nonce, record request nonce now)

/-- The time of the task that has to be submitted comes with the new state. -/
def registerConnectPreflight (request : AgentConnectPreflightRegisterRequest Card)
    (draws : List Int) (now : AgentPreflightTimePoint) :
    ConnectPreflights Card × Option AgentPreflightTimePoint :=
  match draws with
  | [] => (state, none)
  | first :: _ =>
    if first ≤ 0 then (state, none)
    else
      match state.registers request draws now with
      | some (nonce, record) =>
        (((state.pruneExpiredConnectPreflightsLocked now).makeRoom).store nonce
          record).markConnectPreflightCleanupLocked record.expiresAt
      | none => (state.pruneExpiredConnectPreflightsLocked now, none)

def matches? (request : AgentConnectPreflightConsumeRequest)
    (record : AgentConnectPreflightRecord Card) : Bool :=
  record.callerUid = request.callerUid && record.callerUserId = request.callerUserId &&
    isConnectPreflightTargetMatched request.want record

def finds (request : AgentConnectPreflightConsumeRequest) (now : AgentPreflightTimePoint) :
    Option (AgentConnectPreflightRecord Card) :=
  if request.want.verificationNonce ≤ 0 then none
  else (state.pruneExpiredConnectPreflightsLocked now).connectPreflights.lookup
    request.want.verificationNonce

def tryConsumeConnectPreflight (request : AgentConnectPreflightConsumeRequest)
    (now : AgentPreflightTimePoint) :
    ConnectPreflights Card × Option (AgentConnectPreflightConsumeResult Card) :=
  if request.want.verificationNonce ≤ 0 then (state, none)
  else
    let pruned := state.pruneExpiredConnectPreflightsLocked now
    match state.finds request now with
    | none => (pruned, none)
    | some record =>
      ({ pruned with
          connectPreflights := pruned.connectPreflights.erase request.want.verificationNonce },
        if matches? request record then some ⟨record.connectWant, record.agentId, record.card⟩
        else none)

def cleanupExpiredConnectPreflights (scheduledAt now : AgentPreflightTimePoint) :
    ConnectPreflights Card × Option AgentPreflightTimePoint :=
  if ¬state.connectPreflightCleanupScheduled ∨ state.connectPreflightCleanupAt ≠ scheduledAt then
    (state, none)
  else
    let pruned := ({ state with connectPreflightCleanupScheduled := false } :
      ConnectPreflights Card).pruneExpiredConnectPreflightsLocked now
    match pruned.getEarliestConnectPreflightExpiryLocked with
    | none => (pruned, none)
    | some earliest => pruned.markConnectPreflightCleanupLocked earliest

end ConnectPreflights

/-- An attempt with the number of the registration whose record it found, if it found one. -/
structure PreflightAttempt where
  request : AgentConnectPreflightConsumeRequest
  time : AgentPreflightTimePoint
  registration : Option Nat
  matched : Bool

/-- The preflights with the clean-up tasks, and every registration and attempt so far. -/
structure PreflightService (Card : Type) where
  mgr : ConnectPreflights Card := {}
  toSubmit : List AgentPreflightTimePoint := []
  outstanding : List AgentPreflightTimePoint := []
  registered : List (Int × AgentConnectPreflightRecord Card) := []
  latest : Int -> Nat := fun _ => 0
  attempts : List PreflightAttempt := []

inductive PreflightStep (Card : Type) where
  | registerConnectPreflight (request : AgentConnectPreflightRegisterRequest Card)
      (draws : List Int) (now : AgentPreflightTimePoint)
  | tryConsumeConnectPreflight (request : AgentConnectPreflightConsumeRequest)
      (now : AgentPreflightTimePoint)
  | scheduleConnectPreflightCleanup (time : AgentPreflightTimePoint)
  | cleanupExpiredConnectPreflights (time now : AgentPreflightTimePoint)

namespace PreflightService

variable (service : PreflightService Card)

def registerConnectPreflight (request : AgentConnectPreflightRegisterRequest Card)
    (draws : List Int) (now : AgentPreflightTimePoint) : PreflightService Card :=
  let (mgr, needed) := service.mgr.registerConnectPreflight request draws now
  let service' := { service with mgr, toSubmit := needed.toList ++ service.toSubmit }
  match service.mgr.registers request draws now with
  | none => service'
  | some (nonce, record) =>
    { service' with
      registered := service.registered ++ [(nonce, record)]
      latest := Function.update service.latest nonce service.registered.length }

def tryConsumeConnectPreflight (request : AgentConnectPreflightConsumeRequest)
    (now : AgentPreflightTimePoint) : PreflightService Card :=
  let (mgr, result) := service.mgr.tryConsumeConnectPreflight request now
  let attempt : PreflightAttempt :=
    { request
      time := now
      registration := (service.mgr.finds request now).map fun _ =>
        service.latest request.want.verificationNonce
      matched := result.isSome }
  { service with mgr, attempts := service.attempts ++ [attempt] }

def scheduleConnectPreflightCleanup (time : AgentPreflightTimePoint) : PreflightService Card :=
  if time ∈ service.toSubmit then
    { service with
      toSubmit := service.toSubmit.erase time
      outstanding := time :: service.outstanding }
  else service

def cleanupExpiredConnectPreflights (time now : AgentPreflightTimePoint) : PreflightService Card :=
  if time ∈ service.outstanding then
    let (mgr, needed) := service.mgr.cleanupExpiredConnectPreflights time now
    { service with
      mgr
      toSubmit := needed.toList ++ service.toSubmit
      outstanding := service.outstanding.erase time }
  else service

def step : PreflightStep Card -> PreflightService Card
  | .registerConnectPreflight request draws now =>
    service.registerConnectPreflight request draws now
  | .tryConsumeConnectPreflight request now => service.tryConsumeConnectPreflight request now
  | .scheduleConnectPreflightCleanup time => service.scheduleConnectPreflightCleanup time
  | .cleanupExpiredConnectPreflights time now => service.cleanupExpiredConnectPreflights time now

end PreflightService

def preflightService (Card : Type) : Machine (PreflightService Card) (PreflightStep Card) where
  start := {}
  step := PreflightService.step

end AbilityRuntime.AgentConnect
