import AbilityRuntime.Library.Runs
import AbilityRuntime.SceneBoard.RequestLists

set_option autoImplicit false

namespace AbilityRuntime.SceneBoard

open Library SpecifiedRequests

def errCreateInstanceKeyFailed : Int := 29360218
def startUIAbilitiesSpecifiedFailedError : Int := 2097382

structure SessionInfo where
  requestId : Nat
  ability : String
deriving DecidableEq, Repr

/-- A batch that has been asked for, with the sessions that it waits for. -/
structure AbilitiesRequest where
  sessionInfoList : List (Nat × Option SessionInfo) := []
  doneCount : Nat := 0

inductive Outcome where
  | returned (code : Int)
  | requestDone (code : Int)
  | callerGone
deriving DecidableEq, Repr

inductive Event where
  | called (requestListId : Nat) (abilities : List String)
  | sent (requestListId : Nat) (sessions : List SessionInfo)
  | outcome (requestListId : Nat) (outcome : Outcome)
deriving DecidableEq, Repr

def Event.requestListId : Event -> Nat
  | .called requestListId _ | .sent requestListId _ | .outcome requestListId _ => requestListId

structure UIAbilityLifecycleManager where
  queue : SpecifiedRequests := { }
  abilitiesRequestMap : KeyedMap Nat AbilitiesRequest := ∅
  events : List Event := []

structure Delivery where
  reached : Bool := true
  result : Int := 0
  callerExists : Bool := true

inductive InstanceKey where
  | kept
  | created (instanceKey : String)
  | failed
deriving DecidableEq, Repr

structure BatchItem where
  abilityRequest : AbilityRequest
  instanceKey : InstanceKey := .kept
  start : Start := { }
  sessionCreated : Bool := true

structure Acceptance where
  coldDone : Bool := true
  sessionCreated : Bool := true

inductive Call where
  | notifySCBToStartUIAbility (item : BatchItem)
  | notifySCBToStartUIAbilities (refused : Option Int) (items : List BatchItem) (delivery : Delivery)
  | startUIAbility (abilityRequest : AbilityRequest) (requestId : Nat) (isRestart isHook : Bool)
  | revokeDelegator
  | onAcceptWantResponse (requestId : Nat) (acceptance : Acceptance) (delivery : Delivery)
  | onStartSpecifiedFailed (requestId : Nat) (start : Start) (delivery : Delivery)
  | onStartSpecifiedProcessResponse (requestId : Nat) (start : Start) (sessionCreated : Bool)
      (delivery : Delivery)
  | onStartSpecifiedProcessTimeoutResponse (requestId : Nat) (start : Start) (delivery : Delivery)
  | notifyStartupExceptionBySCB (requestId : Nat)
  | startTask (requestId : Nat) (start : Start)
  | failTask (requestId : Nat) (start : Start) (delivery : Delivery)
  | otherRequestId

def InstanceKey.apply : InstanceKey -> AbilityRequest -> AbilityRequest
  | .created instanceKey, request => { request with instanceKey }
  | _, request => request

namespace AbilitiesRequest

def add (batch : AbilitiesRequest) (requestId : Nat) : AbilitiesRequest :=
  { batch with sessionInfoList := batch.sessionInfoList ++ [(requestId, none)] }

def addSession (batch : AbilitiesRequest) (session : SessionInfo) : AbilitiesRequest where
  sessionInfoList := batch.sessionInfoList ++ [(session.requestId, some session)]
  doneCount := batch.doneCount + 1

-- Only the first item of the id gets the session.
def setSession (session : SessionInfo) : List (Nat × Option SessionInfo) -> List (Nat × Option SessionInfo)
  | [] => []
  | item :: rest =>
    if item.1 = session.requestId then (item.1, some session) :: rest
    else item :: setSession session rest

def done (batch : AbilitiesRequest) (session : SessionInfo) : AbilitiesRequest where
  sessionInfoList := setSession session batch.sessionInfoList
  doneCount := batch.doneCount + 1

-- A session that is missing is passed over.
def sessions (batch : AbilitiesRequest) : List SessionInfo := batch.sessionInfoList.filterMap Prod.snd

end AbilitiesRequest

/-- How many request ids a call draws at most. -/
def Call.draws : Call -> Nat
  | .notifySCBToStartUIAbilities _ items _ => items.length + 1
  | .notifySCBToStartUIAbility _ | .startUIAbility .. | .revokeDelegator | .otherRequestId => 1
  | _ => 0

namespace UIAbilityLifecycleManager

/-- No id that the call draws has been drawn before. -/
def DrawsNew (mgr : UIAbilityLifecycleManager) (call : Call) : Prop :=
  mgr.queue.Room call.draws

instance (mgr : UIAbilityLifecycleManager) (call : Call) : Decidable (mgr.DrawsNew call) :=
  inferInstanceAs (Decidable (mgr.queue.Room call.draws))

section

variable (mgr : UIAbilityLifecycleManager)

def withQueue (queue : SpecifiedRequests) : UIAbilityLifecycleManager :=
  { mgr with queue }

def record (event : Event) : UIAbilityLifecycleManager :=
  { mgr with events := mgr.events ++ [event] }

def updateBatch (requestListId : Nat)
    (change : AbilitiesRequest -> AbilitiesRequest) : UIAbilityLifecycleManager :=
  match mgr.abilitiesRequestMap.lookup requestListId with
  | none => mgr
  | some batch =>
    { mgr with
      abilitiesRequestMap := mgr.abilitiesRequestMap.insert requestListId (change batch) }

def batchNotifySCBPendingActivations (requestListId : Nat) (batch : AbilitiesRequest)
    (delivery : Delivery) : UIAbilityLifecycleManager :=
  if delivery.reached then mgr.record (.sent requestListId batch.sessions) else mgr

def closeBatch (requestListId : Nat) (outcome : Outcome) : UIAbilityLifecycleManager :=
  { mgr with abilitiesRequestMap := mgr.abilitiesRequestMap.erase requestListId }.record
    (.outcome requestListId outcome)

end

def notifyAbilitiesRequestDone (delivery : Delivery) (code : Int) : Outcome :=
  if delivery.callerExists then .requestDone code else .callerGone

section

variable (mgr : UIAbilityLifecycleManager)

def handleAbilitiesRequestDone (requestListId : Option Nat) (sessionInfo : Option SessionInfo)
    (delivery : Delivery) : UIAbilityLifecycleManager :=
  match requestListId with
  | none => mgr
  | some requestListId =>
    match mgr.abilitiesRequestMap.lookup requestListId with
    | none => mgr
    | some batch =>
      match sessionInfo with
      | none =>
        mgr.closeBatch requestListId
          (notifyAbilitiesRequestDone delivery startUIAbilitiesSpecifiedFailedError)
      | some session =>
        let batch := batch.done session
        if batch.doneCount = batch.sessionInfoList.length then
          (mgr.batchNotifySCBPendingActivations requestListId batch delivery).closeBatch
            requestListId (notifyAbilitiesRequestDone delivery delivery.result)
        else
          { mgr with
            abilitiesRequestMap := mgr.abilitiesRequestMap.insert requestListId batch }

def addRequest (abilityRequest : AbilityRequest) (requestListId : Option Nat)
    (specifiedProcessState : SpecifiedProcessState) (start : Start) : UIAbilityLifecycleManager :=
  let (queue, requestId) := mgr.queue.getRequestId
  let mgr :=
    match requestListId with
    | none => mgr
    | some requestListId => mgr.updateBatch requestListId fun batch => batch.add requestId
  let request : SpecifiedRequest := { requestId, abilityRequest, requestListId, specifiedProcessState }
  mgr.withQueue (queue.addSpecifiedRequest request start)

def startSpecifiedProcessRequest (item : BatchItem)
    (requestListId : Option Nat) : UIAbilityLifecycleManager × Option Int :=
  if item.instanceKey = .failed then (mgr, some errCreateInstanceKeyFailed)
  else
    (mgr.addRequest (item.instanceKey.apply item.abilityRequest) requestListId .process item.start,
      none)

def handleAbilitiesNormalSessionInfo (item : BatchItem)
    (requestListId : Nat) : UIAbilityLifecycleManager :=
  let (queue, requestId) := mgr.queue.getRequestId
  let mgr := mgr.withQueue queue
  if item.sessionCreated then
    mgr.updateBatch requestListId fun batch =>
      batch.addSession { requestId, ability := item.abilityRequest.ability }
  else mgr

end

def startAbilities (requestListId : Nat) :
    UIAbilityLifecycleManager -> List BatchItem -> UIAbilityLifecycleManager × Option Int
  | mgr, [] => (mgr, none)
  | mgr, item :: rest =>
    if item.abilityRequest.startsProcess then
      match mgr.startSpecifiedProcessRequest item (some requestListId) with
      | (mgr, some error) => (mgr, some error)
      | (mgr, none) => startAbilities requestListId mgr rest
    else if item.abilityRequest.specified then
      startAbilities requestListId
        (mgr.addRequest item.abilityRequest (some requestListId) .none item.start) rest
    else
      startAbilities requestListId (mgr.handleAbilitiesNormalSessionInfo item requestListId) rest

section

variable (mgr : UIAbilityLifecycleManager)

def openBatch (items : List BatchItem) : UIAbilityLifecycleManager × Nat :=
  let (queue, requestListId) := mgr.queue.getRequestId
  let abilities := items.map fun item => item.abilityRequest.ability
  ({ mgr.withQueue queue with
    abilitiesRequestMap := mgr.abilitiesRequestMap.insert requestListId { } }.record
      (.called requestListId abilities), requestListId)

def finishCall (requestListId count : Nat) (delivery : Delivery) : UIAbilityLifecycleManager :=
  match mgr.abilitiesRequestMap.lookup requestListId with
  | none => mgr
  | some batch =>
    if batch.doneCount < count then mgr
    else
      (mgr.batchNotifySCBPendingActivations requestListId batch delivery).closeBatch requestListId
        (.returned delivery.result)

-- A refusal comes from HandleUIAbilityRequestList, before there is a batch.
def notifySCBToStartUIAbilities (refused : Option Int) (items : List BatchItem)
    (delivery : Delivery) : UIAbilityLifecycleManager :=
  match refused with
  | some _ => mgr
  | none =>
    let (mgr, requestListId) := mgr.openBatch items
    match startAbilities requestListId mgr items with
    | (mgr, some error) => mgr.record (.outcome requestListId (.returned error))
    | (mgr, none) => mgr.finishCall requestListId items.length delivery

def notifySCBToStartUIAbility (item : BatchItem) : UIAbilityLifecycleManager :=
  if item.abilityRequest.startsProcess then (mgr.startSpecifiedProcessRequest item none).1
  else if item.abilityRequest.specified then mgr.addRequest item.abilityRequest none .none item.start
  else mgr.withQueue mgr.queue.getRequestId.1

def revokeDelegator : UIAbilityLifecycleManager :=
  let (queue, requestId) := mgr.queue.getRequestId
  mgr.withQueue { queue with hookSpecified := queue.hookSpecified ++ [requestId] }

def eraseHook (requestId : Nat) : UIAbilityLifecycleManager :=
  mgr.withQueue
    { mgr.queue with hookSpecified := mgr.queue.hookSpecified.erase requestId }

def onAcceptWantResponse (requestId : Nat) (acceptance : Acceptance)
    (delivery : Delivery) : UIAbilityLifecycleManager :=
  if requestId ∈ mgr.queue.hookSpecified then mgr.eraseHook requestId
  else
    match mgr.queue.getSpecifiedRequest requestId with
    | none => mgr
    | some request =>
      let mgr := mgr.withQueue (mgr.queue.popAndSubmitNext requestId)
      if request.isCold && acceptance.coldDone then mgr
      else if acceptance.sessionCreated then
        mgr.handleAbilitiesRequestDone request.requestListId
          (some { requestId, ability := request.abilityRequest.ability }) delivery
      else mgr

def onStartSpecifiedFailed (requestId : Nat) (start : Start)
    (delivery : Delivery) : UIAbilityLifecycleManager :=
  if requestId ∈ mgr.queue.hookSpecified then mgr.eraseHook requestId
  else
    match mgr.queue.getSpecifiedRequest requestId with
    | none => mgr
    | some request =>
      let mgr := mgr.handleAbilitiesRequestDone request.requestListId none delivery
      mgr.withQueue (mgr.queue.popAndStartNext requestId start)

def onStartSpecifiedProcessResponse (requestId : Nat) (start : Start) (sessionCreated : Bool)
    (delivery : Delivery) : UIAbilityLifecycleManager :=
  match mgr.queue.getSpecifiedRequest requestId with
  | none => mgr
  | some request =>
    if request.abilityRequest.specified then
      let queue := mgr.queue.update requestId fun request =>
        { request with specifiedProcessState := .ability }
      mgr.withQueue (queue.startSpecifiedRequest requestId start)
    else
      let mgr := mgr.withQueue (mgr.queue.popAndSubmitNext requestId)
      if sessionCreated then
        mgr.handleAbilitiesRequestDone request.requestListId
          (some { requestId, ability := request.abilityRequest.ability }) delivery
      else mgr

def onStartSpecifiedProcessTimeoutResponse (requestId : Nat) (start : Start)
    (delivery : Delivery) : UIAbilityLifecycleManager :=
  let mgr :=
    match mgr.queue.getSpecifiedRequest requestId with
    | none => mgr
    | some request => mgr.handleAbilitiesRequestDone request.requestListId none delivery
  mgr.withQueue (mgr.queue.popAndStartNext requestId start)

def failTask (requestId : Nat) (start : Start) (delivery : Delivery) : UIAbilityLifecycleManager :=
  if requestId ∈ mgr.queue.failTasks then
    let queue := { mgr.queue with failTasks := mgr.queue.failTasks.erase requestId }
    (mgr.withQueue queue).onStartSpecifiedFailed requestId start delivery
  else mgr

def step : Call -> UIAbilityLifecycleManager
  | .notifySCBToStartUIAbility item => mgr.notifySCBToStartUIAbility item
  | .notifySCBToStartUIAbilities refused items delivery =>
    mgr.notifySCBToStartUIAbilities refused items delivery
  | .startUIAbility abilityRequest requestId isRestart isHook =>
    mgr.withQueue (mgr.queue.startUIAbility abilityRequest requestId isRestart isHook)
  | .revokeDelegator => mgr.revokeDelegator
  | .onAcceptWantResponse requestId acceptance delivery =>
    mgr.onAcceptWantResponse requestId acceptance delivery
  | .onStartSpecifiedFailed requestId start delivery =>
    mgr.onStartSpecifiedFailed requestId start delivery
  | .onStartSpecifiedProcessResponse requestId start sessionCreated delivery =>
    mgr.onStartSpecifiedProcessResponse requestId start sessionCreated delivery
  | .onStartSpecifiedProcessTimeoutResponse requestId start delivery =>
    mgr.onStartSpecifiedProcessTimeoutResponse requestId start delivery
  | .notifyStartupExceptionBySCB requestId =>
    mgr.withQueue (mgr.queue.popAndSubmitNext requestId)
  | .startTask requestId start => mgr.withQueue (mgr.queue.startTask requestId start)
  | .failTask requestId start delivery => mgr.failTask requestId start delivery
  | .otherRequestId => mgr.withQueue mgr.queue.getRequestId.1

end

variable {mgr : UIAbilityLifecycleManager}

@[simp] theorem withQueue_queue (queue : SpecifiedRequests) : (mgr.withQueue queue).queue = queue :=
  rfl

@[simp] theorem updateBatch_queue (requestListId : Nat) (change : AbilitiesRequest -> AbilitiesRequest) :
    (mgr.updateBatch requestListId change).queue = mgr.queue := by
  unfold updateBatch
  split <;> rfl

@[simp] theorem batchNotify_queue (requestListId : Nat) (batch : AbilitiesRequest)
    (delivery : Delivery) :
    (mgr.batchNotifySCBPendingActivations requestListId batch delivery).queue = mgr.queue := by
  unfold batchNotifySCBPendingActivations
  split <;> rfl

@[simp] theorem closeBatch_queue (requestListId : Nat) (outcome : Outcome) :
    (mgr.closeBatch requestListId outcome).queue = mgr.queue := rfl

@[simp] theorem handleAbilitiesRequestDone_queue (requestListId : Option Nat)
    (sessionInfo : Option SessionInfo) (delivery : Delivery) :
    (mgr.handleAbilitiesRequestDone requestListId sessionInfo delivery).queue = mgr.queue := by
  unfold handleAbilitiesRequestDone
  split
  · rfl
  · split
    · rfl
    · split
      · rfl
      · dsimp only
        split
        · simp
        · rfl

@[simp] theorem finishCall_queue (requestListId count : Nat) (delivery : Delivery) :
    (mgr.finishCall requestListId count delivery).queue = mgr.queue := by
  unfold finishCall
  split
  · rfl
  · split
    · rfl
    · simp

theorem addRequest_queue (room : mgr.queue.Room 1) (abilityRequest : AbilityRequest)
    (requestListId : Option Nat) (specifiedProcessState : SpecifiedProcessState) (start : Start) :
    (mgr.addRequest abilityRequest requestListId specifiedProcessState start).queue =
      mgr.queue.drawNext.addSpecifiedRequest
        { requestId := mgr.queue.nextId, abilityRequest, requestListId, specifiedProcessState }
        start := by
  rw [addRequest, getRequestId_eq room]
  rfl

theorem addRequest_nextId (room : mgr.queue.Room 1) (abilityRequest : AbilityRequest)
    (requestListId : Option Nat) (specifiedProcessState : SpecifiedProcessState) (start : Start) :
    (mgr.addRequest abilityRequest requestListId specifiedProcessState start).queue.nextId =
      mgr.queue.nextId + 1 := by
  rw [addRequest_queue room, addSpecifiedRequest_nextId]
  rfl

theorem handleAbilitiesNormalSessionInfo_queue (room : mgr.queue.Room 1) (item : BatchItem)
    (requestListId : Nat) :
    (mgr.handleAbilitiesNormalSessionInfo item requestListId).queue = mgr.queue.drawNext := by
  rw [handleAbilitiesNormalSessionInfo, getRequestId_eq room]
  dsimp only
  split
  · exact updateBatch_queue ..
  · rfl

theorem onAcceptWantResponse_queue (requestId : Nat) (acceptance : Acceptance) (delivery : Delivery) :
    (mgr.onAcceptWantResponse requestId acceptance delivery).queue =
      if requestId ∈ mgr.queue.hookSpecified then (mgr.eraseHook requestId).queue
      else
        match mgr.queue.getSpecifiedRequest requestId with
        | none => mgr.queue
        | some _ => mgr.queue.popAndSubmitNext requestId := by
  unfold onAcceptWantResponse
  split
  · rfl
  · cases mgr.queue.getSpecifiedRequest requestId with
    | none => rfl
    | some request =>
      dsimp only
      split
      · rfl
      · split <;> simp

theorem onStartSpecifiedFailed_queue (requestId : Nat) (start : Start) (delivery : Delivery) :
    (mgr.onStartSpecifiedFailed requestId start delivery).queue =
      if requestId ∈ mgr.queue.hookSpecified then (mgr.eraseHook requestId).queue
      else
        match mgr.queue.getSpecifiedRequest requestId with
        | none => mgr.queue
        | some _ => mgr.queue.popAndStartNext requestId start := by
  unfold onStartSpecifiedFailed
  split
  · rfl
  · cases mgr.queue.getSpecifiedRequest requestId <;> simp

theorem onStartSpecifiedProcessTimeoutResponse_queue (requestId : Nat) (start : Start)
    (delivery : Delivery) :
    (mgr.onStartSpecifiedProcessTimeoutResponse requestId start delivery).queue =
      mgr.queue.popAndStartNext requestId start := by
  unfold onStartSpecifiedProcessTimeoutResponse
  cases mgr.queue.getSpecifiedRequest requestId <;> simp

theorem onStartSpecifiedProcessResponse_queue (requestId : Nat) (start : Start)
    (sessionCreated : Bool) (delivery : Delivery) :
    (mgr.onStartSpecifiedProcessResponse requestId start sessionCreated delivery).queue =
      match mgr.queue.getSpecifiedRequest requestId with
      | none => mgr.queue
      | some request =>
        if request.abilityRequest.specified then
          (mgr.queue.update requestId fun request =>
            { request with specifiedProcessState := .ability }).startSpecifiedRequest requestId start
        else mgr.queue.popAndSubmitNext requestId := by
  unfold onStartSpecifiedProcessResponse
  cases mgr.queue.getSpecifiedRequest requestId with
  | none => rfl
  | some request =>
    dsimp only
    split
    · rfl
    · split <;> simp

end UIAbilityLifecycleManager

def uiAbilityLifecycleManager : Machine UIAbilityLifecycleManager Call where
  start := { }
  step := UIAbilityLifecycleManager.step

end AbilityRuntime.SceneBoard
