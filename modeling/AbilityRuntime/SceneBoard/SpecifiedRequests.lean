import AbilityRuntime.Library.KeyedQueues
import AbilityRuntime.Utils.RequestIdUtil

set_option autoImplicit false

namespace AbilityRuntime.SceneBoard

open Library KeyedQueues

inductive SpecifiedProcessState where
  | none
  | process
  | ability
deriving DecidableEq, Repr

/-- What the queues and the batches read of a request. -/
structure AbilityRequest where
  ability : String
  accessTokenId : Nat := 0
  instanceKey : String := ""
  specified : Bool := true
  startsProcess : Bool := false
deriving DecidableEq, Repr

structure SpecifiedRequest where
  requestId : Nat
  abilityRequest : AbilityRequest
  requestListId : Option Nat := none
  specifiedProcessState : SpecifiedProcessState := .none
  isCold : Bool := false
deriving DecidableEq, Repr

inductive Stage where
  | process
  | ability
deriving DecidableEq, Repr

structure Start where
  isDebug : Bool := false
  isHook : Bool := false
  isLoaded : Bool := true
  sessionCreated : Bool := true
  notified : Bool := true

/-- The queues with the requests by their ids, the posted tasks and what has happened. -/
structure SpecifiedRequests where
  nextId : Nat := 1
  requests : KeyedMap Nat SpecifiedRequest := ∅
  specifiedRequestList : KeyedQueues String Nat := ∅
  hookSpecified : List Nat := []
  startTasks : List Nat := []
  failTasks : List Nat := []
  arrived : List Nat := []
  left : List Nat := []
  started : List (Nat × Stage) := []
  asked : List Nat := []

def AbilityRequest.listKey (request : AbilityRequest) : String :=
  toString request.accessTokenId ++ request.instanceKey

def SpecifiedRequest.stage (request : SpecifiedRequest) : Stage :=
  if request.specifiedProcessState = .process then .process else .ability

namespace SpecifiedRequests

section

variable (queue : SpecifiedRequests)

def getRequestId : SpecifiedRequests × Nat :=
  let (requestId, next) := RequestIdUtil.getRequestId queue.nextId
  ({ queue with nextId := next.toNat }, requestId.toNat)

def update (requestId : Nat) (change : SpecifiedRequest -> SpecifiedRequest) : SpecifiedRequests :=
  match queue.requests.lookup requestId with
  | none => queue
  | some request => { queue with requests := queue.requests.insert requestId (change request) }

def getSpecifiedRequest (requestId : Nat) : Option SpecifiedRequest :=
  if (keyOfFront queue.specifiedRequestList requestId).isSome then
    queue.requests.lookup requestId
  else none

def popAndGetNextSpecified (requestId : Nat) : SpecifiedRequests × Option Nat :=
  match keyOfFront queue.specifiedRequestList requestId with
  | none => (queue, none)
  | some key =>
    let list := pop queue.specifiedRequestList key
    ({ queue with specifiedRequestList := list, left := queue.left ++ [requestId] },
      (KeyedQueues.queue list key).head?)

-- The next request is started by a task of its own.
def popAndSubmitNext (requestId : Nat) : SpecifiedRequests :=
  match queue.popAndGetNextSpecified requestId with
  | (queue, none) => queue
  | (queue, some nextRequest) => { queue with startTasks := queue.startTasks ++ [nextRequest] }

def submitSpecifiedFailTask (requestId : Nat) : SpecifiedRequests :=
  { queue with failTasks := queue.failTasks ++ [requestId] }

def submitFinalTimeout (requestId : Nat) (start : Start) : SpecifiedRequests :=
  if start.isDebug then queue else queue.submitSpecifiedFailTask requestId

def startSpecifiedRequest (requestId : Nat) (start : Start) : SpecifiedRequests :=
  match queue.requests.lookup requestId with
  | none => queue
  | some request =>
    let queue := { queue with started := queue.started ++ [(requestId, request.stage)] }
    if request.specifiedProcessState = .process then queue.submitFinalTimeout requestId start
    else if start.isHook then queue.popAndSubmitNext requestId
    else if request.requestListId = none ∧ start.isLoaded = false then
      let queue := queue.update requestId fun request => { request with isCold := true }
      if start.sessionCreated && start.notified then queue.submitFinalTimeout requestId start
      else queue.submitSpecifiedFailTask requestId
    else { queue with asked := queue.asked ++ [requestId] }.submitFinalTimeout requestId start

def pushRequest (request : SpecifiedRequest) : SpecifiedRequests :=
  { queue with
    requests := queue.requests.insert request.requestId request
    specifiedRequestList :=
      push queue.specifiedRequestList request.abilityRequest.listKey request.requestId
    arrived := queue.arrived ++ [request.requestId] }

def addSpecifiedRequest (request : SpecifiedRequest) (start : Start) : SpecifiedRequests :=
  let queue := queue.pushRequest request
  let list := KeyedQueues.queue queue.specifiedRequestList request.abilityRequest.listKey
  if list.length = 1 then queue.startSpecifiedRequest request.requestId start else queue

/-- The id that the session has afterwards, if the ability is to be asked for a flag first. -/
def handleStartSpecifiedCold (abilityRequest : AbilityRequest) (requestId : Nat)
    (isRestart : Bool) : SpecifiedRequests × Option Nat :=
  if !abilityRequest.specified then (queue, none)
  else if isRestart then
    let (queue, requestId) := queue.getRequestId
    let request : SpecifiedRequest := { requestId, abilityRequest, isCold := true }
    (queue.pushRequest request, some requestId)
  else
    match queue.getSpecifiedRequest requestId with
    | none => (queue, none)
    | some request => (queue, if request.isCold then some requestId else none)

def processColdStartBranch (requestId : Nat) (isRestart isHook : Bool) : SpecifiedRequests :=
  if isHook then queue.popAndSubmitNext requestId
  else
    { queue with
      started := if isRestart then queue.started ++ [(requestId, .ability)] else queue.started
      asked := queue.asked ++ [requestId] }

def startUIAbility (abilityRequest : AbilityRequest) (requestId : Nat)
    (isRestart isHook : Bool) : SpecifiedRequests :=
  match queue.handleStartSpecifiedCold abilityRequest requestId isRestart with
  | (queue, none) => queue
  | (queue, some requestId) => queue.processColdStartBranch requestId isRestart isHook

def startTask (requestId : Nat) (start : Start) : SpecifiedRequests :=
  if requestId ∈ queue.startTasks then
    { queue with startTasks := queue.startTasks.erase requestId }.startSpecifiedRequest requestId start
  else queue

def popAndStartNext (requestId : Nat) (start : Start) : SpecifiedRequests :=
  match queue.popAndGetNextSpecified requestId with
  | (queue, none) => queue
  | (queue, some nextRequest) => queue.startSpecifiedRequest nextRequest start

end

end SpecifiedRequests

end AbilityRuntime.SceneBoard
