import AbilityRuntime.Library.KeyedMap
import AbilityRuntime.Library.Runs

set_option autoImplicit false

namespace AbilityRuntime.ConnectionState

open Library

inductive ConnectionEvent where
  | connected
  | disconnected
  | suspended
  | resumed

/-- A target by its token; what a report says of it does not change. -/
inductive Target where
  | extension (token : Nat)
  | dataAbility (token : Nat)
deriving DecidableEq, Repr

structure Report where
  event : ConnectionEvent
  callerPid : Int
  target : Target
  isSuspended : Bool

/-- What the manager asks a connection record for. Either object may be null. -/
structure ConnectionRecord where
  callerPid : Int
  targetToken : Option Nat
  connection : Option Nat

structure DataAbilityCaller where
  callerPid : Int
  callerToken : Option Nat
  isNotHap : Bool

abbrev ConnectedExtension := KeyedMap Nat Bool

namespace ConnectedExtension

def isEmpty (extension : ConnectedExtension) : Bool := extension.keys.isEmpty

section

variable (extension : ConnectedExtension)

def isSuspended : Bool := (KeyedMap.values extension).all id

def addConnection (connection : Nat) : ConnectedExtension × Option ConnectionEvent :=
  if extension.isEmpty then (extension.insert connection false, some .connected)
  else
    (extension.insert connection false, if extension.isSuspended then some .resumed else none)

def removeConnection (connection : Nat) : ConnectedExtension × Option ConnectionEvent :=
  match extension.lookup connection with
  | none => (extension, none)
  | some isUnAvaliable =>
    let extension := AList.erase connection extension
    if isEmpty extension then (extension, some .disconnected)
    else if isUnAvaliable then (extension, none)
    else if isSuspended extension then (extension, some .suspended)
    else (extension, none)

def suspendConnection (connection : Nat) : ConnectedExtension × Option ConnectionEvent :=
  match extension.lookup connection with
  | none => (extension, none)
  | some true => (extension, none)
  | some false =>
    let extension := AList.insert connection true extension
    (extension, if isSuspended extension then some .suspended else none)

def resumeConnection (connection : Nat) : ConnectedExtension × Option ConnectionEvent :=
  match extension.lookup connection with
  | none => (extension, none)
  | some _ =>
    (extension.insert connection false, if extension.isSuspended then some .resumed else none)

end

end ConnectedExtension

/-- The callers of a data ability, one entry for each token and one for a process that is no hap. -/
abbrev ConnectedDataAbility := List DataAbilityCaller

namespace ConnectedDataAbility

def isCaller (caller info : DataAbilityCaller) : Bool :=
  if caller.isNotHap then info.isNotHap && info.callerPid == caller.callerPid
  else info.callerToken == caller.callerToken

def addCaller (callers : ConnectedDataAbility) (caller : DataAbilityCaller) :
    ConnectedDataAbility × Bool :=
  if !caller.isNotHap && caller.callerToken.isNone then (callers, false)
  else if callers.any (isCaller caller) then (callers, callers.isEmpty)
  else (callers ++ [caller], callers.isEmpty)

def removeCaller (callers : ConnectedDataAbility) (caller : DataAbilityCaller) :
    ConnectedDataAbility × Bool :=
  if !caller.isNotHap && caller.callerToken.isNone then (callers, false)
  else
    let callers := callers.eraseP (isCaller caller)
    (callers, callers.isEmpty)

end ConnectedDataAbility

structure ConnectionStateItem where
  callerPid : Int
  connectionMap : KeyedMap Nat ConnectedExtension := ∅
  dataAbilityMap : KeyedMap Nat ConnectedDataAbility := ∅

namespace ConnectionStateItem

def reportExtension (item : ConnectionStateItem) (token : Nat) (extension : ConnectedExtension)
    (event : Option ConnectionEvent) : Option Report :=
  event.map fun event => ⟨event, item.callerPid, .extension token, extension.isSuspended⟩

def addConnection (item : ConnectionStateItem) (record : ConnectionRecord) :
    ConnectionStateItem × Option Report :=
  match record.targetToken, record.connection with
  | some token, some connection =>
    let extension := (item.connectionMap.lookup token).getD ∅
    let (extension, event) := ConnectedExtension.addConnection extension connection
    ({ item with connectionMap := item.connectionMap.insert token extension },
      item.reportExtension token extension event)
  | _, _ => (item, none)

def removeConnection (item : ConnectionStateItem) (record : ConnectionRecord) :
    ConnectionStateItem × Option Report :=
  match record.targetToken, record.connection with
  | some token, some connection =>
    match item.connectionMap.lookup token with
    | none => (item, none)
    | some extension =>
      let (extension, event) := ConnectedExtension.removeConnection extension connection
      -- whatever the event is, the whole entry goes with it
      let connectionMap :=
        if event.isSome then item.connectionMap.erase token
        else item.connectionMap.insert token extension
      ({ item with connectionMap := connectionMap }, item.reportExtension token extension event)
  | _, _ => (item, none)

/-- SuspendConnection and ResumeConnection, which differ in what they ask of the extension. -/
def changeConnection (change : ConnectedExtension -> Nat -> ConnectedExtension × Option ConnectionEvent)
    (item : ConnectionStateItem) (record : ConnectionRecord) : ConnectionStateItem × Option Report :=
  match record.targetToken, record.connection with
  | some token, some connection =>
    match item.connectionMap.lookup token with
    | none => (item, none)
    | some extension =>
      let (extension, event) := change extension connection
      ({ item with connectionMap := item.connectionMap.insert token extension },
        item.reportExtension token extension event)
  | _, _ => (item, none)

def suspendConnection (item : ConnectionStateItem) (record : ConnectionRecord) :
    ConnectionStateItem × Option Report :=
  changeConnection ConnectedExtension.suspendConnection item record

def resumeConnection (item : ConnectionStateItem) (record : ConnectionRecord) :
    ConnectionStateItem × Option Report :=
  changeConnection ConnectedExtension.resumeConnection item record

def addDataAbilityConnection (item : ConnectionStateItem) (caller : DataAbilityCaller)
    (token : Nat) : ConnectionStateItem × Option Report :=
  let callers := (item.dataAbilityMap.lookup token).getD []
  let (callers, needNotify) := ConnectedDataAbility.addCaller callers caller
  ({ item with dataAbilityMap := item.dataAbilityMap.insert token callers },
    if needNotify then some ⟨.connected, item.callerPid, .dataAbility token, false⟩ else none)

def removeDataAbilityConnection (item : ConnectionStateItem) (caller : DataAbilityCaller)
    (token : Nat) : ConnectionStateItem × Option Report :=
  match item.dataAbilityMap.lookup token with
  | none => (item, none)
  | some callers =>
    let (callers, needNotify) := ConnectedDataAbility.removeCaller callers caller
    if needNotify then
      ({ item with dataAbilityMap := item.dataAbilityMap.erase token },
        some ⟨.disconnected, item.callerPid, .dataAbility token, false⟩)
    else ({ item with dataAbilityMap := item.dataAbilityMap.insert token callers }, none)

def isEmpty (item : ConnectionStateItem) : Bool :=
  item.connectionMap.keys.isEmpty && item.dataAbilityMap.keys.isEmpty

/-- One ConnectionData is filled again for each entry, so a suspended one marks those after it. -/
def generateAllConnectionData (item : ConnectionStateItem) : List Report :=
  let (reports, isSuspended) := item.connectionMap.entries.foldl
    (fun (reports, isSuspended) entry =>
      let isSuspended := isSuspended || ConnectedExtension.isSuspended entry.2
      (reports ++ [⟨.disconnected, item.callerPid, .extension entry.1, isSuspended⟩], isSuspended))
    (([] : List Report), false)
  reports ++ item.dataAbilityMap.keys.map fun token =>
    ⟨.disconnected, item.callerPid, .dataAbility token, isSuspended⟩

end ConnectionStateItem

structure ConnectionStateManager where
  connectionStates : KeyedMap Int ConnectionStateItem := ∅

namespace ConnectionStateManager

def addConnection (mgr : ConnectionStateManager) (record : ConnectionRecord) :
    ConnectionStateManager × List Report :=
  let item := (mgr.connectionStates.lookup record.callerPid).getD { callerPid := record.callerPid }
  let (item, report) := item.addConnection record
  ({ mgr with connectionStates := mgr.connectionStates.insert record.callerPid item },
    report.toList)

def handleCallerDied (mgr : ConnectionStateManager) (callerPid : Int) :
    ConnectionStateManager × List Report :=
  match mgr.connectionStates.lookup callerPid with
  | none => (mgr, [])
  | some item =>
    ({ mgr with connectionStates := mgr.connectionStates.erase callerPid },
      item.generateAllConnectionData)

def putItem (mgr : ConnectionStateManager) (callerPid : Int) (removed : Bool)
    (item : ConnectionStateItem) : ConnectionStateManager :=
  if removed && item.isEmpty then
    { mgr with connectionStates := mgr.connectionStates.erase callerPid }
  else { mgr with connectionStates := mgr.connectionStates.insert callerPid item }

def removeConnection (mgr : ConnectionStateManager) (record : ConnectionRecord)
    (isCallerDied : Bool) : ConnectionStateManager × List Report :=
  if isCallerDied then mgr.handleCallerDied record.callerPid
  else
    match mgr.connectionStates.lookup record.callerPid with
    | none => (mgr, [])
    | some item =>
      let (item, report) := item.removeConnection record
      (mgr.putItem record.callerPid report.isSome item, report.toList)

def changeConnection (change : ConnectionStateItem -> ConnectionRecord ->
    ConnectionStateItem × Option Report) (mgr : ConnectionStateManager)
    (record : ConnectionRecord) : ConnectionStateManager × List Report :=
  match mgr.connectionStates.lookup record.callerPid with
  | none => (mgr, [])
  | some item =>
    let (item, report) := change item record
    (mgr.putItem record.callerPid false item, report.toList)

def suspendConnection (mgr : ConnectionStateManager) (record : ConnectionRecord) :
    ConnectionStateManager × List Report :=
  changeConnection ConnectionStateItem.suspendConnection mgr record

def resumeConnection (mgr : ConnectionStateManager) (record : ConnectionRecord) :
    ConnectionStateManager × List Report :=
  changeConnection ConnectionStateItem.resumeConnection mgr record

def addDataAbilityConnection (mgr : ConnectionStateManager) (caller : DataAbilityCaller)
    (token : Nat) : ConnectionStateManager × List Report :=
  if caller.callerPid = 0 then (mgr, [])
  else
    let item := (mgr.connectionStates.lookup caller.callerPid).getD
      { callerPid := caller.callerPid }
    let (item, report) := item.addDataAbilityConnection caller token
    (mgr.putItem caller.callerPid false item, report.toList)

def removeDataAbilityConnection (mgr : ConnectionStateManager) (caller : DataAbilityCaller)
    (token : Nat) : ConnectionStateManager × List Report :=
  if caller.callerPid = 0 then (mgr, [])
  else
    match mgr.connectionStates.lookup caller.callerPid with
    | none => (mgr, [])
    | some item =>
      let (item, report) := item.removeDataAbilityConnection caller token
      (mgr.putItem caller.callerPid report.isSome item, report.toList)

def handleDataAbilityCallerDied (mgr : ConnectionStateManager) (callerPid : Int) :
    ConnectionStateManager × List Report :=
  if callerPid ≤ 0 then (mgr, []) else mgr.handleCallerDied callerPid

end ConnectionStateManager

end AbilityRuntime.ConnectionState
