import AbilityRuntime.Library.Runs

set_option autoImplicit false

namespace AbilityRuntime.ClientConnection

open Library

def connectingTimeout : Nat := 30000

def died : Int := -1

structure Operation where
  bundleName : String
  moduleName : String := ""
  abilityName : String
  action : String := ""
  uri : String := ""
deriving DecidableEq, Repr

structure Want where
  operation : Operation
  uiServiceExtProxy : Option Nat := none

structure ConnectRequest where
  connectCaller : Nat
  want : Want
  accountId : Int := -1

structure ConnectionInfo where
  connectCaller : Nat
  connectReceiver : Operation
  abilityConnection : Nat
  userid : Int
  uiServiceExtProxy : Option Nat
  connectingTime : Nat

-- Without an ability name the whole operation is compared.
def ConnectRequest.matchConnection (request : ConnectRequest) (info : ConnectionInfo) : Bool :=
  let receiver := request.want.operation
  request.want.uiServiceExtProxy = info.uiServiceExtProxy &&
    request.accountId = info.userid &&
    request.connectCaller = info.connectCaller &&
    receiver.bundleName = info.connectReceiver.bundleName &&
    if receiver.abilityName ≠ "" then
      receiver.moduleName = info.connectReceiver.moduleName &&
        receiver.abilityName = info.connectReceiver.abilityName
    else receiver = info.connectReceiver

inductive ConnectionState where
  | disconnected
  | connected
  | connecting
deriving DecidableEq, Repr

structure Registration where
  callback : Nat
  call : Nat
deriving DecidableEq, Repr

structure AbilityConnection where
  callbackList : List Registration := []
  connectionState : ConnectionState := .disconnected
  isAwaited : Bool := false

namespace AbilityConnection

def addConnectCallback (connection : AbilityConnection) (reg : Registration) :
    AbilityConnection :=
  if connection.callbackList.any (·.callback = reg.callback) then connection
  else { connection with callbackList := connection.callbackList ++ [reg] }

def removeConnectCallback (connection : AbilityConnection) (callback : Nat) : AbilityConnection :=
  { connection with callbackList := connection.callbackList.eraseP (·.callback = callback) }

end AbilityConnection

/-- A connect-done with the callbacks that it has still to call. -/
structure ConnectDone where
  bundleName : String
  callbacks : List Registration
  isFound : Bool := false

structure ConnectCall where
  callback : Nat
  info : ConnectionInfo

structure Delivery where
  callback : Nat
  call : Nat
  isLate : Bool
deriving DecidableEq, Repr

/-- How far the thread has come that holds the lock of the connections. -/
inductive LockHolder where
  | adding (reg : Registration) (info : ConnectionInfo) (request : ConnectRequest)
  | added (reg : Registration) (info : ConnectionInfo) (request : ConnectRequest)
  | creating (reg : Registration) (info : ConnectionInfo)
  | disconnecting (request : ConnectRequest) (callback : Nat) (rest : List ConnectionInfo)
  | removing (request : ConnectRequest) (callback : Nat) (info : ConnectionInfo)
      (rest : List ConnectionInfo)

abbrev Entries := List (ConnectionInfo × List Nat)

namespace Entries

def eraseConnection (entries : Entries) (connection : Nat) : Entries :=
  entries.filter (·.1.abilityConnection ≠ connection)

def modifyCallbacks (entries : Entries) (connection : Nat) (change : List Nat -> List Nat) : Entries :=
  entries.map fun entry =>
    if entry.1.abilityConnection = connection then (entry.1, change entry.2) else entry

def callbacksOf (entries : Entries) (connection : Nat) : List Nat :=
  ((entries.find? (·.1.abilityConnection = connection)).map Prod.snd).getD []

end Entries

/-- The connections with the threads at work on them; the calls are numbered. -/
structure ConnectionManager where
  abilityConnections : Entries := []
  connection : Nat -> AbilityConnection := fun _ => {}
  holder : Option LockHolder := none
  connectDone : Nat -> Option ConnectDone := fun _ => none
  removals : List Nat := []
  nextConnection : Nat := 0
  nextCall : Nat := 0
  connectCall : Nat -> Option ConnectCall := fun _ => none
  disconnected : Nat -> Bool := fun _ => false
  delivered : List Delivery := []

inductive ConnectionStep where
  | connectAbility (request : ConnectRequest) (callback now connectingTime : Nat)
      (isAccepted : Bool)
  | addConnectCallback
  | getConnectionState (connectingTime : Nat) (isAccepted : Bool)
  | insertConnection
  | disconnectAbility (request : ConnectRequest) (callback : Nat)
  | disconnectNext (isAccepted : Bool)
  | removeConnectCallback
  | onAbilityConnectDone (connection : Nat) (bundleName : String)
  | disconnectNonexistentService (connection : Nat)
  | callConnectDone (connection : Nat)
  | onAbilityDisconnectDone (connection : Nat) (resultCode : Int)
  | removeConnection (connection : Nat)

namespace ConnectionManager

section

variable (mgr : ConnectionManager)

def setConnection (connection : Nat) (changed : AbilityConnection) : ConnectionManager :=
  { mgr with connection := Function.update mgr.connection connection changed }

def setConnectDone (connection : Nat) (done : Option ConnectDone) : ConnectionManager :=
  { mgr with connectDone := Function.update mgr.connectDone connection done }

def setConnectCall (reg : Registration) (info : ConnectionInfo) : ConnectionManager :=
  { mgr with
    connectCall := Function.update mgr.connectCall reg.call
      (some ⟨reg.callback, info⟩) }

def connectAgain (callback : Nat) : ConnectionManager :=
  { mgr with
    disconnected := fun call =>
      mgr.disconnected call && (mgr.connectCall call).all (·.callback ≠ callback) }

def isDisconnectedBy (request : ConnectRequest) (callback call : Nat) : Bool :=
  (mgr.connectCall call).any fun connected =>
    connected.callback = callback && request.matchConnection connected.info

def deliver (reg : Registration) : ConnectionManager :=
  { mgr with
    delivered := mgr.delivered ++
      [⟨reg.callback, reg.call, mgr.disconnected reg.call⟩] }

def isConnectingTimeout (now : Nat) (info : ConnectionInfo) : Bool :=
  info.connectingTime ≠ 0 &&
    (mgr.connection info.abilityConnection).connectionState = .connecting &&
    connectingTimeout ≤ now - info.connectingTime

-- The ability manager may answer before the connection is inserted.
def createConnection (request : ConnectRequest) (reg : Registration) (connectingTime : Nat)
    (isAccepted : Bool) : ConnectionManager :=
  if isAccepted then
    let connection : AbilityConnection := {}
    let info : ConnectionInfo :=
      { connectCaller := request.connectCaller
        connectReceiver := request.want.operation
        abilityConnection := mgr.nextConnection
        userid := request.accountId
        uiServiceExtProxy := request.want.uiServiceExtProxy
        connectingTime }
    { ((mgr.setConnectCall reg info).connectAgain reg.callback).setConnection
        mgr.nextConnection
        { connection.addConnectCallback reg with
          connectionState := .connecting
          isAwaited := true } with
      nextConnection := mgr.nextConnection + 1
      holder := some (.creating reg info) }
  else { mgr with holder := none }

def connectAbility (request : ConnectRequest) (callback now connectingTime : Nat)
    (isAccepted : Bool) : ConnectionManager :=
  match mgr.holder with
  | some _ => mgr
  | none =>
    let reg : Registration := ⟨callback, mgr.nextCall⟩
    let numbered := { mgr with nextCall := mgr.nextCall + 1 }
    match mgr.abilityConnections.find? fun entry =>
      request.matchConnection entry.1 && !mgr.isConnectingTimeout now entry.1 with
    | some entry =>
      { numbered.setConnectCall reg entry.1 with
        abilityConnections := mgr.abilityConnections.modifyCallbacks
          entry.1.abilityConnection (· ++ [callback])
        holder := some (.adding reg entry.1 request) }
    | none => numbered.createConnection request reg connectingTime isAccepted

end

def addConnectCallback (mgr : ConnectionManager) : ConnectionManager :=
  match mgr.holder with
  | some (.adding reg info request) =>
    { mgr.setConnection info.abilityConnection
        ((mgr.connection info.abilityConnection).addConnectCallback reg) with
      holder := some (.added reg info request) }
  | _ => mgr

section

variable (mgr : ConnectionManager)

def getConnectionState (connectingTime : Nat) (isAccepted : Bool) : ConnectionManager :=
  match mgr.holder with
  | some (.added reg info request) =>
    match (mgr.connection info.abilityConnection).connectionState with
    | .connected =>
      { (mgr.connectAgain reg.callback).deliver reg with holder := none }
    | .connecting => { mgr.connectAgain reg.callback with holder := none }
    | .disconnected =>
      { mgr with
        abilityConnections := mgr.abilityConnections.eraseConnection info.abilityConnection
          }.createConnection request reg connectingTime isAccepted
  | _ => mgr

def insertConnection : ConnectionManager :=
  match mgr.holder with
  | some (.creating reg info) =>
    { mgr with
      abilityConnections := mgr.abilityConnections ++ [(info, [reg.callback])]
      holder := none }
  | _ => mgr

def disconnectAbility (request : ConnectRequest) (callback : Nat) : ConnectionManager :=
  match mgr.holder with
  | some _ => mgr
  | none =>
    { mgr with
      holder := some (.disconnecting request callback ((mgr.abilityConnections.filter fun entry =>
        request.matchConnection entry.1 && callback ∈ entry.2).map Prod.fst)) }

def returnDisconnect (request : ConnectRequest) (callback : Nat) : ConnectionManager :=
  { mgr with
    holder := none
    disconnected := fun call =>
      mgr.disconnected call || mgr.isDisconnectedBy request callback call }

def disconnectNext (isAccepted : Bool) : ConnectionManager :=
  match mgr.holder with
  | some (.disconnecting request callback []) => mgr.returnDisconnect request callback
  | some (.disconnecting request callback (info :: rest)) =>
    let connection := info.abilityConnection
    if (mgr.abilityConnections.callbacksOf connection).all (· = callback) then
      let erased :=
        { mgr with abilityConnections := mgr.abilityConnections.eraseConnection connection }
      if isAccepted then { erased with holder := some (.disconnecting request callback rest) }
      else erased.returnDisconnect request callback
    else
      { mgr with
        abilityConnections :=
          mgr.abilityConnections.modifyCallbacks connection (List.filter (· ≠ callback))
        holder := some (.removing request callback info rest) }
  | _ => mgr

end

def removeConnectCallback (mgr : ConnectionManager) : ConnectionManager :=
  match mgr.holder with
  | some (.removing request callback info rest) =>
    { mgr.setConnection info.abilityConnection
        ((mgr.connection info.abilityConnection).removeConnectCallback callback) with
      holder := some (.disconnecting request callback rest) }
  | _ => mgr

section

variable (mgr : ConnectionManager)

def onAbilityConnectDone (connection : Nat) (bundleName : String) : ConnectionManager :=
  let abilityConnection := mgr.connection connection
  if !abilityConnection.isAwaited then mgr
  else if abilityConnection.callbackList.isEmpty then
    mgr.setConnection connection { abilityConnection with isAwaited := false }
  else
    (mgr.setConnection connection
      { abilityConnection with connectionState := .connected, isAwaited := false }).setConnectDone
        connection (some { bundleName, callbacks := abilityConnection.callbackList })

def isExist (connection : Nat) (bundleName : String) : Bool :=
  mgr.abilityConnections.any fun entry =>
    entry.1.abilityConnection = connection && entry.1.connectReceiver.bundleName = bundleName

-- Without an entry the connection is given up, and nobody is called.
def disconnectNonexistentService (connection : Nat) : ConnectionManager :=
  match mgr.holder, mgr.connectDone connection with
  | none, some done =>
    if done.isFound then mgr
    else if mgr.isExist connection done.bundleName then
      mgr.setConnectDone connection (some { done with isFound := true })
    else mgr.setConnectDone connection none
  | _, _ => mgr

def callConnectDone (connection : Nat) : ConnectionManager :=
  match mgr.connectDone connection with
  | some done =>
    match done.isFound, done.callbacks with
    | true, reg :: rest =>
      (mgr.deliver reg).setConnectDone connection
        (some { done with callbacks := rest })
    | _, _ => mgr
  | none => mgr

def onAbilityDisconnectDone (connection : Nat) (resultCode : Int) : ConnectionManager :=
  let abilityConnection := mgr.connection connection
  let changed :=
    mgr.setConnection connection { abilityConnection with connectionState := .disconnected }
  if abilityConnection.callbackList.isEmpty || resultCode ≠ died then changed
  else { changed with removals := connection :: mgr.removals }

def removeConnection (connection : Nat) : ConnectionManager :=
  if mgr.holder = none && connection ∈ mgr.removals then
    { mgr with
      abilityConnections := mgr.abilityConnections.eraseConnection connection
      removals := mgr.removals.erase connection }
  else mgr

def step : ConnectionStep -> ConnectionManager
  | .connectAbility request callback now connectingTime isAccepted =>
    mgr.connectAbility request callback now connectingTime isAccepted
  | .addConnectCallback => mgr.addConnectCallback
  | .getConnectionState connectingTime isAccepted =>
    mgr.getConnectionState connectingTime isAccepted
  | .insertConnection => mgr.insertConnection
  | .disconnectAbility request callback => mgr.disconnectAbility request callback
  | .disconnectNext isAccepted => mgr.disconnectNext isAccepted
  | .removeConnectCallback => mgr.removeConnectCallback
  | .onAbilityConnectDone connection bundleName =>
    mgr.onAbilityConnectDone connection bundleName
  | .disconnectNonexistentService connection => mgr.disconnectNonexistentService connection
  | .callConnectDone connection => mgr.callConnectDone connection
  | .onAbilityDisconnectDone connection resultCode =>
    mgr.onAbilityDisconnectDone connection resultCode
  | .removeConnection connection => mgr.removeConnection connection

end

end ConnectionManager

def connectionManager : Machine ConnectionManager ConnectionStep where
  start := {}
  step := ConnectionManager.step

end AbilityRuntime.ClientConnection
