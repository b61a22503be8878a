import Mathlib.Data.Finset.Basic
import AbilityRuntime.Library.KeyedMap
import AbilityRuntime.Library.Runs

set_option autoImplicit false

namespace AbilityRuntime.Connection

open Library Function

inductive ConnectionState where
  | init
  | connecting
  | connected
  | disconnecting
  | disconnected
deriving DecidableEq, Repr

inductive ExtensionAbilityType where
  | service
  | uiService
  | agent
  | other
deriving DecidableEq, Repr

inductive AbilityState where
  | inactive
  | active
  | other
deriving DecidableEq, Repr

inductive ErrCode where
  | ok
  | invalidValue
  | innerErr
  | invalidConnectionState
  | connectionNotExist
  | refused (code : Int)
deriving DecidableEq, Repr

/-- What a connection record says from its creation on; its identity is its id. -/
structure ConnectionRecord where
  recordId : Nat
  connCallback : Nat
  targetService : Nat
  directCallerPid : Int
  directCallerUid : Int
  directCallerTokenId : Nat
deriving DecidableEq, Repr

def baseUserRange : Int := 200000

/-- What does not change in the life of a manager. -/
structure Setting where
  userId : Int
  extensionAbilityType : Nat -> ExtensionAbilityType
  isExtension : Nat -> Bool
  hasTaskHandler : Bool

def Setting.isPerConnectionType (setting : Setting) (service : Nat) : Bool :=
  setting.extensionAbilityType service == .uiService ||
    setting.extensionAbilityType service == .agent

structure AbilityConnectManager where
  connectRecordId : Nat := 0
  connectState : ConnectionRecord -> ConnectionState := fun _ => .init
  connRecordList : Nat -> List ConnectionRecord := fun _ => []
  connRemoteObject : Nat -> Bool := fun _ => false
  connectMap : KeyedMap Nat (List ConnectionRecord) := ∅
  recipientMap : Finset Nat := ∅
  callerPidConnectionCountMap : KeyedMap Int Int := ∅
  readLists : List (Nat × List ConnectionRecord) := []

namespace AbilityConnectManager

variable (setting : Setting)

section

variable (mgr : AbilityConnectManager)

def setConnectState (record : ConnectionRecord) (state : ConnectionState) : AbilityConnectManager :=
  { mgr with connectState := update mgr.connectState record state }

def addConnectRecordToList (record : ConnectionRecord) : AbilityConnectManager :=
  let list := mgr.connRecordList record.targetService
  if record ∈ list then mgr
  else
    { mgr with
      connRecordList := update mgr.connRecordList record.targetService (list ++ [record]) }

-- std::list::remove drops every occurrence.
def removeConnectRecordFromList (service : Nat)
    (record : ConnectionRecord) : AbilityConnectManager :=
  { mgr with
    connRecordList := update mgr.connRecordList service
      ((mgr.connRecordList service).filter (· != record)) }

def getConnectingRecordList (service : Nat) : List ConnectionRecord :=
  (mgr.connRecordList service).filter (mgr.connectState · = .connecting)

def getDisconnectingRecord (service : Nat) : Option ConnectionRecord :=
  (mgr.connRecordList service).find? (mgr.connectState · = .disconnecting)

def getConnectedListSize (service : Nat) : Nat :=
  (mgr.connRecordList service).countP (mgr.connectState · = .connected)

def getConnectRecordListFromMap (connect : Nat) : List ConnectionRecord :=
  (mgr.connectMap.lookup connect).getD []

def addConnectDeathRecipient (connectObject : Nat) : AbilityConnectManager :=
  if connectObject ∈ mgr.recipientMap then mgr
  else { mgr with recipientMap := insert connectObject mgr.recipientMap }

def removeConnectDeathRecipient (connectObject : Nat) : AbilityConnectManager :=
  { mgr with recipientMap := mgr.recipientMap.erase connectObject }

def addConnectObjectToMap (connectObject : Nat) (connectRecordList : List ConnectionRecord)
    (updateOnly : Bool) : AbilityConnectManager :=
  let mgr := if updateOnly then mgr else mgr.addConnectDeathRecipient connectObject
  { mgr with connectMap := mgr.connectMap.insert connectObject connectRecordList }

def handleConnectionCountIncrement (pid : Int) : AbilityConnectManager :=
  let count := (mgr.callerPidConnectionCountMap.lookup pid).getD 0 + 1
  { mgr with
    callerPidConnectionCountMap := mgr.callerPidConnectionCountMap.insert pid count }

def decrementConnectionCountAndCleanup (pid : Int) : AbilityConnectManager :=
  match mgr.callerPidConnectionCountMap.lookup pid with
  | none => mgr
  | some currentCount =>
    if currentCount - 1 = 0 then
      { mgr with
        callerPidConnectionCountMap := mgr.callerPidConnectionCountMap.erase pid }
    else
      { mgr with
        callerPidConnectionCountMap :=
          mgr.callerPidConnectionCountMap.insert pid (currentCount - 1) }

def removeConnectionRecordFromMap (connection : ConnectionRecord) : AbilityConnectManager :=
  match mgr.connectMap.entries.find? fun entry => decide (connection ∈ entry.2) with
  | none => mgr
  | some ⟨connectCallback, connectList⟩ =>
    let connectList := connectList.filter (· != connection)
    let mgr := mgr.decrementConnectionCountAndCleanup connection.directCallerPid
    if connectList.isEmpty then
      let mgr := mgr.removeConnectDeathRecipient connectCallback
      { mgr with connectMap := mgr.connectMap.erase connectCallback }
    else { mgr with connectMap := mgr.connectMap.insert connectCallback connectList }

/-! ConnectionRecord's own steps. -/

def completeConnect (record : ConnectionRecord) : AbilityConnectManager :=
  let mgr := mgr.setConnectState record .connected
  if !mgr.connRemoteObject record.targetService && setting.hasTaskHandler then
    mgr.setConnectState record .disconnecting
  else mgr

-- Every caller passes ERR_OK.
def completeDisconnect (record : ConnectionRecord) : AbilityConnectManager :=
  mgr.setConnectState record .disconnected

def scheduleConnectAbilityDone (record : ConnectionRecord) : AbilityConnectManager :=
  if mgr.connectState record = .connecting then mgr.completeConnect setting record
  else mgr

def disconnectAbility (record : ConnectionRecord) : AbilityConnectManager × ErrCode :=
  if mgr.connectState record = .connected then
    let mgr := mgr.setConnectState record .disconnecting
    let connectNums := (mgr.connRecordList record.targetService).length
    if connectNums = 1 ∨ setting.isPerConnectionType record.targetService then (mgr, .ok)
    else
      let mgr := mgr.removeConnectRecordFromList record.targetService record
      (mgr.setConnectState record .disconnected, .ok)
  else (mgr, .invalidConnectionState)

end

/-! The manager's operations. Each runs under `serialMutex_` from its first access to its last. -/

/-- What a connect request resolves to before any connection is touched. -/
structure Connect where
  connect : Nat
  checks : ErrCode
  targetService : Nat
  isLoadedAbility : Bool
  targetState : AbilityState
  directCallerPid : Int
  directCallerUid : Int
  directCallerTokenId : Nat
  reportXiaoYi : ErrCode
deriving Repr

section

variable (mgr : AbilityConnectManager)

def getAbilityConnectedRecordFromRecordList (targetService : Nat)
    (connectRecordList : List ConnectionRecord) : Option ConnectionRecord :=
  connectRecordList.find? fun record =>
    decide (record.targetService = targetService) &&
      (setting.extensionAbilityType targetService != .agent ||
        (mgr.connectState record != .disconnecting &&
          mgr.connectState record != .disconnected))

def handleActiveAbility (record : ConnectionRecord) : AbilityConnectManager :=
  if setting.isPerConnectionType record.targetService then mgr
  else if mgr.getConnectedListSize record.targetService ≥ 1 then
    mgr.completeConnect setting record
  -- the service is asked to connect, or is connecting already
  else mgr

def addConnection (connectRecord : ConnectionRecord)
    (connectRecordList : List ConnectionRecord) : AbilityConnectManager :=
  let mgr := { mgr with connectRecordId := mgr.connectRecordId + 1 }
  let mgr := mgr.setConnectState connectRecord .connecting
  let mgr := mgr.addConnectRecordToList connectRecord
  let mgr := mgr.addConnectObjectToMap connectRecord.connCallback
    (connectRecordList ++ [connectRecord]) (!connectRecordList.isEmpty)
  mgr.handleConnectionCountIncrement connectRecord.directCallerPid

def connectAbilityLocked (request : Connect) : AbilityConnectManager × ErrCode :=
  if request.checks ≠ .ok then (mgr, request.checks)
  else
    let connectRecordList := mgr.getConnectRecordListFromMap request.connect
    let isCallbackConnected := !connectRecordList.isEmpty
    let connectedRecord := mgr.getAbilityConnectedRecordFromRecordList setting
      request.targetService connectRecordList
    if request.isLoadedAbility && isCallbackConnected && connectedRecord.isSome then
      (mgr, .ok)
    else
      let connectRecord : ConnectionRecord :=
        ⟨mgr.connectRecordId, request.connect, request.targetService, request.directCallerPid,
          request.directCallerUid, request.directCallerTokenId⟩
      let mgr := mgr.addConnection connectRecord connectRecordList
      if request.reportXiaoYi ≠ .ok then (mgr, request.reportXiaoYi)
      else if request.isLoadedAbility && request.targetState == .active then
        (mgr.handleActiveAbility setting connectRecord, .ok)
      else (mgr, .ok)

/-- What a disconnect request is checked against. -/
structure Caller where
  verifyAgent : ConnectionRecord -> ErrCode
  callingTokenId : Nat
  selfTokenId : Nat

def disconnectRecordNormal (list : List ConnectionRecord)
    (record : ConnectionRecord) : AbilityConnectManager × List ConnectionRecord × ErrCode :=
  let (mgr, result) := mgr.disconnectAbility setting record
  if result ≠ .ok then (mgr, list, result)
  else if mgr.connectState record = .disconnected then
    (mgr.completeDisconnect record, list ++ [record], .ok)
  else (mgr, list, .ok)

def disconnectRecordForce (list : List ConnectionRecord)
    (record : ConnectionRecord) : AbilityConnectManager × List ConnectionRecord :=
  let mgr := mgr.removeConnectRecordFromList record.targetService record
  (mgr.completeDisconnect record, list ++ [record])

end

/-- The loop over the callback's records, with the records that are to leave the map. -/
def disconnectRecords (caller : Caller) (callerDied : Bool) :
    AbilityConnectManager -> List ConnectionRecord -> ErrCode -> List ConnectionRecord ->
      AbilityConnectManager × List ConnectionRecord × ErrCode
  | mgr, list, result, [] => (mgr, list, result)
  | mgr, list, result, record :: rest =>
    let isAgent := setting.extensionAbilityType record.targetService == .agent
    if isAgent && caller.verifyAgent record != .ok then (mgr, list, caller.verifyAgent record)
    else if !isAgent && record.directCallerTokenId != caller.callingTokenId &&
        caller.selfTokenId != caller.callingTokenId then
      disconnectRecords caller callerDied mgr list result rest
    else
      match mgr.disconnectRecordNormal setting list record with
      | (mgr, list, .ok) => disconnectRecords caller callerDied mgr list .ok rest
      | (mgr, list, failure) =>
        if callerDied then
          let (mgr, list) := mgr.disconnectRecordForce list record
          disconnectRecords caller callerDied mgr list .ok rest
        else (mgr, list, failure)

def disconnectAbilityLocked (mgr : AbilityConnectManager) (caller : Caller) (connect : Nat)
    (callerDied : Bool) : AbilityConnectManager × ErrCode :=
  match mgr.getConnectRecordListFromMap connect with
  | [] => (mgr, .connectionNotExist)
  | connectRecordList =>
    let (mgr, list, result) :=
      disconnectRecords setting caller callerDied mgr [] .ok connectRecordList
    (list.foldl removeConnectionRecordFromMap mgr, result)

def scheduleConnectAbilityDoneLocked (mgr : AbilityConnectManager) (service : Nat)
    (state : AbilityState) (remoteObject : Bool) : AbilityConnectManager × ErrCode :=
  if state ≠ .inactive ∧ state ≠ .active then (mgr, .invalidConnectionState)
  else
    let mgr :=
      { mgr with
        connRemoteObject := update mgr.connRemoteObject service remoteObject }
    ((mgr.connRecordList service).foldl (scheduleConnectAbilityDone setting) mgr, .ok)

def checkAbilityStateForDisconnect (service : Nat) (state : AbilityState) : ErrCode :=
  if setting.isExtension service && setting.extensionAbilityType service == .agent &&
      state == .inactive then .ok
  else if state ≠ .active then .invalidConnectionState
  else .ok

/-- A connection that is over: its record ends, leaves its service's list and leaves the map. -/
def endConnection (service : Nat) (mgr : AbilityConnectManager) (record : ConnectionRecord) :
    AbilityConnectManager :=
  ((mgr.completeDisconnect record).removeConnectRecordFromList service record)
    |>.removeConnectionRecordFromMap record

section

variable (mgr : AbilityConnectManager)

def scheduleDisconnectAbilityDoneLocked (isForbidStart : Bool) (service : Nat)
    (state : AbilityState) : AbilityConnectManager × ErrCode :=
  if isForbidStart then (mgr, .innerErr)
  else
    match mgr.getDisconnectingRecord service with
    | none => (mgr, .connectionNotExist)
    | some connect =>
      if checkAbilityStateForDisconnect setting service state ≠ .ok then
        (mgr, checkAbilityStateForDisconnect setting service state)
      else (mgr.endConnection service connect, .ok)

def handleStartTimeoutTask (service : Nat) : AbilityConnectManager :=
  (mgr.getConnectingRecordList service).foldl (endConnection service) mgr

def handleConnectTimeoutTask (service : Nat) : AbilityConnectManager :=
  (mgr.connRecordList service).foldl (endConnection service) mgr

def handleTerminateDisconnectTask (service : Nat) : AbilityConnectManager :=
  (mgr.connRecordList service).foldl
    (fun mgr record => mgr.endConnection record.targetService record) mgr

def handleConnectRecordOnAbilityDied (service : Nat) : AbilityConnectManager :=
  let mgr :=
    { mgr with connRemoteObject := update mgr.connRemoteObject service false }
  (mgr.connRecordList service).foldl (endConnection service) mgr

-- int32_t division rounds towards zero.
def disconnectBeforeCleanup (services : List Nat) : AbilityConnectManager :=
  services.foldl (fun mgr service =>
    ((mgr.connRecordList service).filter
      fun record => decide (record.directCallerUid.tdiv baseUserRange ≠ setting.userId)).foldl
        (endConnection service) mgr) mgr

-- The list is read without the lock, the rest runs under it.
def readConnectRecordList (service : Nat) : AbilityConnectManager :=
  { mgr with readLists := (service, mgr.connRecordList service) :: mgr.readLists }

def cleanActivatingTimeoutAbilityInner (task : Nat) : AbilityConnectManager :=
  match mgr.readLists[task]? with
  | none => mgr
  | some (service, connectList) => connectList.foldl (endConnection service) mgr

def handleExtensionDisconnectTask (record : ConnectionRecord) : AbilityConnectManager :=
  let (mgr, _) := mgr.disconnectAbility setting record
  if mgr.connectState record = .disconnected then
    (mgr.completeDisconnect record).removeConnectionRecordFromMap record
  else mgr

def handleCallBackDiedTask (caller : Caller) (connect : Nat) : AbilityConnectManager :=
  if connect ∈ mgr.connectMap then (mgr.disconnectAbilityLocked setting caller connect true).1
  else mgr

end

end AbilityConnectManager

inductive Call where
  | connectAbilityLocked (request : AbilityConnectManager.Connect)
  | disconnectAbilityLocked (caller : AbilityConnectManager.Caller) (connect : Nat)
  | scheduleConnectAbilityDoneLocked (service : Nat) (state : AbilityState) (remoteObject : Bool)
  | scheduleDisconnectAbilityDoneLocked (isForbidStart : Bool) (service : Nat) (state : AbilityState)
  | handleStartTimeoutTask (service : Nat)
  | handleConnectTimeoutTask (service : Nat)
  | handleTerminateDisconnectTask (service : Nat)
  | handleAbilityDiedTask (service : Nat)
  | disconnectBeforeCleanup (services : List Nat)
  | readConnectRecordList (service : Nat)
  | cleanActivatingTimeoutAbilityInner (task : Nat)
  | handleExtensionDisconnectTask (record : ConnectionRecord)
  | handleCallBackDiedTask (caller : AbilityConnectManager.Caller) (connect : Nat)

namespace AbilityConnectManager

variable (setting : Setting)

def apply (mgr : AbilityConnectManager) : Call -> AbilityConnectManager
  | .connectAbilityLocked request => (mgr.connectAbilityLocked setting request).1
  | .disconnectAbilityLocked caller connect =>
    (mgr.disconnectAbilityLocked setting caller connect false).1
  | .scheduleConnectAbilityDoneLocked service state remoteObject =>
    (mgr.scheduleConnectAbilityDoneLocked setting service state remoteObject).1
  | .scheduleDisconnectAbilityDoneLocked isForbidStart service state =>
    (mgr.scheduleDisconnectAbilityDoneLocked setting isForbidStart service state).1
  | .handleStartTimeoutTask service => mgr.handleStartTimeoutTask service
  | .handleConnectTimeoutTask service => mgr.handleConnectTimeoutTask service
  | .handleTerminateDisconnectTask service => mgr.handleTerminateDisconnectTask service
  | .handleAbilityDiedTask service => mgr.handleConnectRecordOnAbilityDied service
  | .disconnectBeforeCleanup services => mgr.disconnectBeforeCleanup setting services
  | .readConnectRecordList service => mgr.readConnectRecordList service
  | .cleanActivatingTimeoutAbilityInner task => mgr.cleanActivatingTimeoutAbilityInner task
  | .handleExtensionDisconnectTask record => mgr.handleExtensionDisconnectTask setting record
  | .handleCallBackDiedTask caller connect => mgr.handleCallBackDiedTask setting caller connect

def machine : Machine AbilityConnectManager Call := ⟨{}, apply setting⟩

end AbilityConnectManager

end AbilityRuntime.Connection
