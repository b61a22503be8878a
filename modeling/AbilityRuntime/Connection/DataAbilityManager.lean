import AbilityRuntime.Connection.ConnectionStateManager

set_option autoImplicit false

namespace AbilityRuntime.DataAbility

open Library ConnectionState

structure ClientInfo where
  client : Nat
  tryBind : Bool
  isNotHap : Bool
  clientPid : Int

/-- The loaded data abilities by their tokens, and what the observers have been told. -/
structure DataAbilityManager where
  dataAbilityRecordsLoaded : KeyedMap String Nat := ∅
  clients : Nat -> List ClientInfo := fun _ => []
  connectionState : ConnectionStateManager := {}
  reports : List Report := []

/-- An acquire request as far as the manager looks at it. -/
structure Acquire where
  isData : Bool
  bundleName : String
  name : String
  tryBind : Bool
  client : Option Nat
  hasClientAbilityRecord : Bool
  callingPid : Int
  load : Option Nat

structure Release where
  scheduler : Nat
  client : Nat
  callingPid : Int
  isVisible : Bool

inductive Notice where
  | appDied
  | abilityDied (token : Nat)
  | remoteDied (record : Nat) (object : Option Nat)
deriving DecidableEq, Repr

namespace DataAbilityManager

variable (isNotHap : Int -> Bool)

section

variable (mgr : DataAbilityManager)

def told (result : ConnectionStateManager × List Report) : DataAbilityManager :=
  { mgr with connectionState := result.1, reports := mgr.reports ++ result.2 }

def addClient (record client : Nat) (tryBind : Bool) (callingPid : Int) : DataAbilityManager :=
  { mgr with
    clients := Function.update mgr.clients record
      (mgr.clients record ++ [⟨client, tryBind, isNotHap callingPid, callingPid⟩]) }

def removeClient (record client : Nat) : DataAbilityManager :=
  { mgr with
    clients := Function.update mgr.clients record
      ((mgr.clients record).eraseP (·.client = client)) }

def getClientCount (record client : Nat) : Nat :=
  (mgr.clients record).countP (·.client = client)

def reportDataAbilityAcquired (client : Option Nat) (record : Nat)
    (callingPid : Int) : DataAbilityManager :=
  mgr.told (mgr.connectionState.addDataAbilityConnection
    ⟨callingPid, client, isNotHap callingPid⟩ record)

def reportDataAbilityReleased (client : Nat) (record : Nat)
    (callingPid : Int) : DataAbilityManager :=
  mgr.told (mgr.connectionState.removeDataAbilityConnection
    ⟨callingPid, some client, isNotHap callingPid⟩ record)

def recordFor (request : Acquire) : Option Nat :=
  if !request.isData || request.bundleName.isEmpty || request.name.isEmpty then none
  else if request.client.isSome && !isNotHap request.callingPid &&
      !request.hasClientAbilityRecord then none
  else
    (mgr.dataAbilityRecordsLoaded.lookup (request.bundleName ++ "." ++ request.name)).or
      request.load

def acquire (request : Acquire) : DataAbilityManager :=
  match mgr.recordFor isNotHap request with
  | none => mgr
  | some record =>
    let mgr :=
      { mgr with
        dataAbilityRecordsLoaded := mgr.dataAbilityRecordsLoaded.insert
          (request.bundleName ++ "." ++ request.name) record }
    let mgr :=
      match request.client with
      | none => mgr
      | some client => mgr.addClient isNotHap record client request.tryBind request.callingPid
    mgr.reportDataAbilityAcquired isNotHap request.client record request.callingPid

def releases (request : Release) : Bool :=
  decide (request.scheduler ∈ KeyedMap.values mgr.dataAbilityRecordsLoaded) &&
    request.isVisible && mgr.getClientCount request.scheduler request.client != 0

def release (request : Release) : DataAbilityManager :=
  if mgr.releases request then
    (mgr.removeClient request.scheduler request.client).reportDataAbilityReleased isNotHap
      request.client request.scheduler request.callingPid
  else mgr

def getDiedCallerPid (record : Nat) (remote : Option Nat) : Int :=
  match remote with
  | none => 0
  | some remote =>
    match (mgr.clients record).find? (·.client = remote) with
    | none => 0
    | some info => info.clientPid

def reaches (notice : Notice) (record : Nat) (info : ClientInfo) : Bool :=
  match notice with
  | .appDied => false
  | .abilityDied token =>
    decide (record ∈ KeyedMap.values mgr.dataAbilityRecordsLoaded) && !info.isNotHap &&
      info.client == token
  | .remoteDied died (some object) => record == died && info.client == object
  | .remoteDied died none => record == died && info.isNotHap

def dropClients (notice : Notice) : DataAbilityManager :=
  { mgr with
    clients := fun record => (mgr.clients record).filter (!mgr.reaches notice record ·) }

end

def notify (callerPid : Int) (mgr : DataAbilityManager) (notice : Notice) :
    DataAbilityManager :=
  let mgr :=
    match notice with
    | .appDied => mgr.told (mgr.connectionState.handleCallerDied callerPid)
    | .abilityDied _ => mgr
    | .remoteDied record object =>
      mgr.told (mgr.connectionState.handleDataAbilityCallerDied
        (mgr.getDiedCallerPid record object))
  mgr.dropClients notice

def callerDied (mgr : DataAbilityManager) (callerPid : Int) (notices : List Notice) :
    DataAbilityManager :=
  notices.foldl (notify callerPid) mgr

end DataAbilityManager

inductive Call where
  | acquire (request : Acquire)
  | release (request : Release)
  | callerDied (callerPid : Int) (notices : List Notice)

namespace DataAbilityManager

variable (isNotHap : Int -> Bool)

def apply (mgr : DataAbilityManager) : Call -> DataAbilityManager
  | .acquire request => mgr.acquire isNotHap request
  | .release request => mgr.release isNotHap request
  | .callerDied callerPid notices => mgr.callerDied callerPid notices

def machine : Machine DataAbilityManager Call := ⟨{}, apply isNotHap⟩

end DataAbilityManager

end AbilityRuntime.DataAbility
