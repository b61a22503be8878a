import Mathlib.Data.List.Sort
import AbilityRuntime.Library.RecordMap
import AbilityRuntime.Library.Runs

set_option autoImplicit false

namespace AbilityRuntime.LocalCall

open Library RecordMap

def defaultInvalValue : Int := -1

def reasonCalleeTerminate : Int := 1

def launchModeSingleton : Int := 0

inductive ErrCode where
  | errOk
  | errInvalidValue
  | other (code : Int)
deriving DecidableEq, Repr

structure ElementName where
  deviceId : String := ""
  bundleName : String
  moduleName : String := ""
  abilityName : String

/-- How an element is written as a uri and read back, and where the records are in memory. -/
structure Environment where
  getURI : ElementName -> String
  parseURI : String -> Option ElementName
  address : Nat -> Nat

inductive ReleaseReason where
  | onRelease
  | onDied
deriving DecidableEq, Repr

structure CallerCallBack where
  localCallRecord : Option Nat := none
  isCallBack : Bool := false

structure LocalCallRecord where
  elementName : ElementName
  userId : Int := -1
  remoteObject : Option Nat := none
  connection : Option Nat := none
  callers : List Nat := []
  isSingleton : Bool := false

structure CallerConnection where
  localCallRecord : Option Nat := none
  isHeld : Bool := false
  isAwaited : Bool := false

abbrev CallRecords := Std.ExtTreeMap String (List Nat)

/-- The container with the records, callers and connections, which are all numbered. -/
structure LocalCallContainer where
  currentUserId : Int := defaultInvalValue
  callProxyRecords : CallRecords := ∅
  multipleCallProxyRecords : CallRecords := ∅
  connections : List Nat := []
  record : Nat -> LocalCallRecord := fun _ => { elementName := ⟨"", "", "", ""⟩ }
  caller : Nat -> CallerCallBack := fun _ => {}
  connection : Nat -> CallerConnection := fun _ => {}
  nextRecord : Nat := 0
  nextConnection : Nat := 0
  calls : List (Nat × Nat) := []
  releases : List (Nat × ReleaseReason) := []

structure CallRequest where
  element : ElementName
  isToForeground : Bool := false
  accountId : Int := defaultInvalValue
  processUserId : Int := defaultInvalValue

def CallRequest.isEmptyWant (request : CallRequest) : Bool :=
  request.element.bundleName.isEmpty || request.element.abilityName.isEmpty

inductive LocalCallStep where
  | startAbilityByCallInner (request : CallRequest) (callback : Option Nat) (retval : ErrCode)
      (isHeld : Bool)
  | releaseCall (callback : Option Nat) (isReleased : Bool)
  | clearFailedCallConnection (callback : Option Nat)
  | onCallStubDied (remote : Option Nat)
  | onAbilityConnectDone (connection : Nat) (remoteObject : Option Nat) (code : Int)
  | onAbilityDisconnectDone (connection : Nat) (code : Int)
  | dropConnection (connection : Nat)

namespace LocalCallContainer

variable (env : Environment)

section

variable (container : LocalCallContainer)

def setRecord (record : Nat) (changed : LocalCallRecord) : LocalCallContainer :=
  { container with record := Function.update container.record record changed }

def setCaller (callback : Nat) (changed : CallerCallBack) : LocalCallContainer :=
  { container with caller := Function.update container.caller callback changed }

def setConnection (connection : Nat) (changed : CallerConnection) : LocalCallContainer :=
  { container with connection := Function.update container.connection connection changed }

def isConnectionAlive (connection : Nat) : Bool :=
  connection ∈ container.connections || (container.connection connection).isHeld

def elementURI (record : Nat) : String :=
  env.getURI (container.record record).elementName

def isPlaced (record : Nat) : Bool :=
  record ∈ records container.callProxyRecords (container.elementURI env record) ||
    record ∈ records container.multipleCallProxyRecords (container.elementURI env record)

def isRecordAlive (record : Nat) : Bool :=
  container.isPlaced env record ||
    (List.range container.nextConnection).any fun connection =>
      container.isConnectionAlive connection &&
        (container.connection connection).localCallRecord = some record

def getRecord (callback : Nat) : Option Nat :=
  (container.caller callback).localCallRecord.filter (container.isRecordAlive env)

def getConnection (record : Nat) : Option Nat :=
  (container.record record).connection.filter container.isConnectionAlive

def invokeCallBack (callback remote : Nat) : LocalCallContainer :=
  { container.setCaller callback { container.caller callback with isCallBack := true } with
    calls := container.calls ++ [(callback, remote)] }

def invokeOnRelease (reason : ReleaseReason) (callbacks : List Nat) : LocalCallContainer :=
  { container with releases := container.releases ++ callbacks.map (·, reason) }

def addCaller (record callback : Nat) : LocalCallContainer :=
  let linked :=
    container.setCaller callback { container.caller callback with localCallRecord := some record }
  linked.setRecord record
    { container.record record with callers := (container.record record).callers ++ [callback] }

def removeCaller (record callback : Nat) : LocalCallContainer :=
  let callers := (container.record record).callers
  if callback ∈ callers then
    (container.invokeOnRelease .onRelease [callback]).setRecord record
      { container.record record with callers := callers.erase callback }
  else container

def clearData (record : Nat) : LocalCallContainer :=
  if (container.record record).remoteObject.isNone then container
  else container.setRecord record
    { container.record record with callers := [], remoteObject := none }

def getCurrentUserId (processUserId : Int) : LocalCallContainer :=
  if container.currentUserId = defaultInvalValue then
    { container with currentUserId := processUserId }
  else container

def getValidUserId (accountId processUserId : Int) : Int × LocalCallContainer :=
  if 0 < accountId then
    let known := container.getCurrentUserId processUserId
    (if accountId ≠ known.currentUserId then accountId else defaultInvalValue, known)
  else (defaultInvalValue, container)

-- The key may have a module name that the call does not give.
def getCallLocalRecord (element : ElementName) (accountId : Int) : Option Nat :=
  container.callProxyRecords.toList.findSome? fun (key, held) =>
    (env.parseURI key).bind fun callElement =>
      if key ≠ env.getURI element ∧
          env.getURI { callElement with moduleName := "" } ≠ env.getURI element then none
      else held.find? fun record => (container.record record).userId = accountId

def clearFailedCallConnection (callback : Option Nat) : LocalCallContainer :=
  match callback.bind fun callback =>
      (container.getRecord env callback).bind container.getConnection with
  | none => container
  | some connection =>
    { container.setConnection connection
        { container.connection connection with isAwaited := false } with
      connections := container.connections.filter (· ≠ connection) }

def startCall (record callback : Nat) (retval : ErrCode)
    (isHeld : Bool) : ErrCode × LocalCallContainer :=
  let connection := container.nextConnection
  let connected :=
    container.setConnection connection
      { localCallRecord := some record, isHeld, isAwaited := retval = .errOk }
  let started :=
    { connected.setRecord record { container.record record with connection := some connection } with
      connections := connection :: container.connections
      nextConnection := container.nextConnection + 1 }
  (retval, if retval = .errOk then started else started.clearFailedCallConnection env (some callback))

def newRecord (element : ElementName) (userId : Int) : LocalCallContainer :=
  { container.setRecord container.nextRecord { elementName := element, userId } with
    nextRecord := container.nextRecord + 1 }

def startAbilityByCallInner (request : CallRequest) (callback : Option Nat) (retval : ErrCode)
    (isHeld : Bool) : ErrCode × LocalCallContainer :=
  match callback with
  | none => (.errInvalidValue, container)
  | some callback =>
    if request.isEmptyWant then (.errInvalidValue, container)
    else
      let (userId, known) := container.getValidUserId request.accountId request.processUserId
      match known.getCallLocalRecord env request.element userId with
      | none =>
        ((known.newRecord request.element userId).addCaller known.nextRecord callback).startCall env
          known.nextRecord callback retval isHeld
      | some record =>
        let added := known.addCaller record callback
        match (known.record record).remoteObject with
        | none => added.startCall env record callback retval isHeld
        | some remote =>
          let invoked := added.invokeCallBack callback remote
          if request.isToForeground then invoked.startCall env record callback retval isHeld
          else (.errOk, invoked)

-- The key has to be there, but not the record.
def removeCallLocalRecord (record : Nat) : Option LocalCallContainer :=
  let uri := container.elementURI env record
  if (container.record record).isSingleton then
    container.callProxyRecords[uri]?.map fun held =>
      { container with
        callProxyRecords := putBack container.callProxyRecords uri (held.erase record) }
  else
    container.multipleCallProxyRecords[uri]?.map fun held =>
      { container with
        multipleCallProxyRecords :=
          putBack container.multipleCallProxyRecords uri (held.erase record) }

def clearCallRecord (connection : Nat) : LocalCallContainer :=
  container.setConnection connection
    { container.connection connection with localCallRecord := none }

def removeCallerConnection (connection : Nat) : LocalCallContainer :=
  { container with connections := container.connections.filter (· ≠ connection) }

def releaseCall (callback : Option Nat) (isReleased : Bool) : ErrCode × LocalCallContainer :=
  match callback.bind fun callback => (container.getRecord env callback).map (callback, ·) with
  | none => (.errInvalidValue, container)
  | some (callback, record) =>
    let removed := container.removeCaller record callback
    if (removed.record record).callers ≠ [] then (.errOk, removed)
    else
      match removed.getConnection record with
      | none => (.errInvalidValue, removed)
      | some connection =>
        match removed.removeCallLocalRecord env record with
        | none => (.errInvalidValue, removed)
        | some unlisted =>
          (if isReleased then .errOk else .errInvalidValue,
            ((unlisted.removeCallerConnection connection).clearCallRecord connection).clearData
              record)

end

def diedRecords (isExist : Nat -> Bool) : List (String × List Nat) -> List (String × Nat)
  | [] => []
  | (key, held) :: rest =>
    match held.find? isExist with
    | none => diedRecords isExist rest
    | some record =>
      if (held.erase record).isEmpty then [(key, record)]
      else (key, record) :: diedRecords isExist rest

def removeDied (callRecords : CallRecords) (died : List (String × Nat)) : CallRecords :=
  died.foldl (fun left entry => putBack left entry.1 ((records left entry.1).erase entry.2))
    callRecords

def isSameObject (container : LocalCallContainer) (remote : Option Nat) (record : Nat) : Bool :=
  remote.isSome && (container.record record).remoteObject = remote

def callersOf (container : LocalCallContainer) (died : List (String × Nat)) : List Nat :=
  died.flatMap fun entry => (container.record entry.2).callers

def onCallStubDied (container : LocalCallContainer) (remote : Option Nat) : LocalCallContainer :=
  let isExist := container.isSameObject remote
  let singletons := diedRecords isExist container.callProxyRecords.toList
  let multiples := diedRecords isExist container.multipleCallProxyRecords.toList
  { container.invokeOnRelease .onDied
      (container.callersOf singletons ++ container.callersOf multiples) with
    callProxyRecords := removeDied container.callProxyRecords singletons
    multipleCallProxyRecords := removeDied container.multipleCallProxyRecords multiples }

def emplace (callRecords : CallRecords) (key : String) (record : Nat) : CallRecords :=
  let held := records callRecords key
  if record ∈ held then callRecords
  else callRecords.insert key
    (held.orderedInsert (fun first second => env.address first ≤ env.address second) record)

section

variable (container : LocalCallContainer)

def setCallLocalRecord (record : Nat) : LocalCallContainer :=
  { container with
    callProxyRecords :=
      emplace env container.callProxyRecords (container.elementURI env record) record }

def setMultipleCallLocalRecord (record : Nat) : LocalCallContainer :=
  { container with
    multipleCallProxyRecords :=
      emplace env container.multipleCallProxyRecords (container.elementURI env record) record }

def invokeCallBacks (record : Nat) : LocalCallContainer :=
  match (container.record record).remoteObject with
  | none => container
  | some remote =>
    (container.record record).callers.foldl (fun container callback =>
      if (container.caller callback).isCallBack then container
      else container.invokeCallBack callback remote) container

def onAbilityConnectDone (connection : Nat) (remoteObject : Option Nat)
    (code : Int) : LocalCallContainer :=
  match (container.connection connection).localCallRecord with
  | none => container
  | some record =>
    if !container.isConnectionAlive connection then container
    else
      let before := container.record record
      let isSingleton : Bool := code = launchModeSingleton
      let connected :=
        (container.setConnection connection
          { container.connection connection with isAwaited := false }).setRecord record
            { before with isSingleton, remoteObject := remoteObject <|> before.remoteObject }
      let filed :=
        if isSingleton then connected.setCallLocalRecord env record
        else connected.setMultipleCallLocalRecord env record
      filed.invokeCallBacks record

def onAbilityDisconnectDone (connection : Nat) (code : Int) : LocalCallContainer :=
  match (container.connection connection).localCallRecord with
  | none => container
  | some record =>
    if !container.isConnectionAlive connection || code ≠ reasonCalleeTerminate then container
    else
      let died := container.invokeOnRelease .onDied (container.record record).callers
      let unlisted := (died.removeCallLocalRecord env record).getD died
      ((unlisted.removeCallerConnection connection).clearData record).clearCallRecord connection

def dropConnection (connection : Nat) : LocalCallContainer :=
  container.setConnection connection { container.connection connection with isHeld := false }

def step : LocalCallStep -> LocalCallContainer
  | .startAbilityByCallInner request callback retval isHeld =>
    (container.startAbilityByCallInner env request callback retval isHeld).2
  | .releaseCall callback isReleased => (container.releaseCall env callback isReleased).2
  | .clearFailedCallConnection callback => container.clearFailedCallConnection env callback
  | .onCallStubDied remote => container.onCallStubDied remote
  | .onAbilityConnectDone connection remoteObject code =>
    container.onAbilityConnectDone env connection remoteObject code
  | .onAbilityDisconnectDone connection code =>
    container.onAbilityDisconnectDone env connection code
  | .dropConnection connection => container.dropConnection connection

end

end LocalCallContainer

def localCallContainer (env : Environment) : Machine LocalCallContainer LocalCallStep where
  start := {}
  step := LocalCallContainer.step env

end AbilityRuntime.LocalCall
