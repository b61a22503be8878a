import AbilityRuntime.ServiceMap.ServiceKey

set_option autoImplicit false

namespace AbilityRuntime.ServiceMap

open Library

/-- The records that exist, by their places, and where they are kept. -/
structure AbilityConnectManager where
  records : List BaseExtensionRecord := []
  serviceMap : KeyedMap String Nat := ∅
  terminatingExtensionList : List Nat := []
  cache : List Nat := []

structure Outcome where
  requestId : RequestId
  cached : Option Nat := none
  setupOk : Bool := true
  proceeds : Bool := true

inductive Call where
  | startAbility (request : AbilityRequest) (outcome : Outcome)
  | connectAbility (request : AbilityRequest) (outcome : Outcome)
  | updateConnectWant (record : Nat)
  | removeConnectWant (record : Nat)
  | setAbilityState (record : Nat) (state : AbilityState) (isTerminating : Bool)
  | stopServiceAbility (request : AbilityRequest) (requestId : RequestId) (cached : Option Nat)
  | disconnectAbilityDone (record : Nat) (evicted : Option Nat)
  | terminateRecord (record : Nat)
  | handleAbilityDied (record : Nat)
  | loadTimeout (record : Nat)
  | removeServiceAbility (record : Nat)
  | pauseExtensions (pauses : Nat -> Bool)
  | closeAssertDialog (asserts : Nat -> Bool) (cached : Option Nat)
  | otherManagers (created : List BaseExtensionRecord) (put : List Nat) (gone : Nat -> Bool)

namespace AbilityConnectManager

variable (setting : Setting)

section

variable (mgr : AbilityConnectManager)

def update (record : Nat)
    (change : BaseExtensionRecord -> BaseExtensionRecord) : AbilityConnectManager :=
  { mgr with records := mgr.records.modify record change }

-- A record that does not exist is a null pointer.
def addToServiceMap (key : String) (record : Nat) : AbilityConnectManager :=
  if record < mgr.records.length ∧ mgr.serviceMap.lookup key = none then
    { mgr with serviceMap := mgr.serviceMap.insert key record }
  else mgr

def removeServiceFromMapSafe (serviceKey : String) : AbilityConnectManager :=
  { mgr with serviceMap := mgr.serviceMap.erase serviceKey }

def inServiceMap (record : Nat) : Bool :=
  mgr.serviceMap.entries.any fun entry => entry.2 == record

def removeFromCache (record : Nat) : AbilityConnectManager :=
  { mgr with cache := mgr.cache.filter fun other => other ≠ record }

def moveToTerminatingMap (record : Nat) : AbilityConnectManager :=
  match mgr.records[record]? with
  | none => mgr
  | some service =>
    let mgr := { mgr.removeFromCache record with
      terminatingExtensionList := mgr.terminatingExtensionList ++ [record] }
    let serviceKey := service.getServiceKey setting
    match mgr.serviceMap.lookup serviceKey with
    | none => mgr
    | some holder =>
      if holder = record then { mgr with serviceMap := mgr.serviceMap.erase serviceKey }
      else mgr

-- std::list::remove drops every occurrence.
def removeServiceAbility (record : Nat) : AbilityConnectManager :=
  { mgr with
    terminatingExtensionList := mgr.terminatingExtensionList.filter fun other => other ≠ record }

def terminateRecord (record : Nat) : AbilityConnectManager :=
  if mgr.inServiceMap record || mgr.cache.contains record then
    mgr.moveToTerminatingMap setting record
  else mgr

def processEliminateAbilityRecord (eliminateRecord : Nat) : AbilityConnectManager :=
  match mgr.records[eliminateRecord]? with
  | none => mgr
  | some service =>
    (mgr.addToServiceMap (service.getServiceKey setting) eliminateRecord).terminateRecord setting
      eliminateRecord

def terminateOrCacheAbility (record : Nat) (evicted : Option Nat) : AbilityConnectManager :=
  match mgr.records[record]? with
  | none => mgr
  | some service =>
    if setting.isSceneBoard service.abilityInfo then mgr
    else if setting.isCacheExtensionAbilityByInfo service.abilityInfo then
      let mgr := mgr.removeServiceFromMapSafe (service.getServiceKey setting)
      let evicted := evicted.filter mgr.cache.contains
      let mgr := { mgr with cache := mgr.cache ++ [record] }
      match evicted with
      | none => mgr
      | some eliminateRecord =>
        (mgr.removeFromCache eliminateRecord).processEliminateAbilityRecord setting eliminateRecord
    else mgr.terminateRecord setting record

end

-- Get looks among the records of the access token, by the module and the name that the wants ask for.
def isRecInfoSame (request : AbilityRequest) (service : BaseExtensionRecord) : Bool :=
  request.abilityInfo.applicationInfo.accessTokenId == service.abilityInfo.applicationInfo.accessTokenId &&
    request.abilityInfo.moduleName == service.abilityInfo.moduleName &&
    request.want.abilityName == service.want.abilityName

section

variable (mgr : AbilityConnectManager)

def fromCache (request : AbilityRequest) (cached : Option Nat) : Option Nat :=
  cached.filter fun record =>
    mgr.cache.contains record && (mgr.records[record]?).any (isRecInfoSame request)

def findServiceRecord (request : AbilityRequest) (serviceKey : String)
    (cached : Option Nat) : AbilityConnectManager × Option Nat :=
  match mgr.serviceMap.lookup serviceKey with
  | some record => (mgr, some record)
  | none =>
    if setting.isCacheExtensionAbilityByInfo request.abilityInfo then
      match mgr.fromCache request cached with
      | none => (mgr, none)
      | some record =>
        ((mgr.removeFromCache record).addToServiceMap serviceKey record, some record)
    else (mgr, none)

def isAbilityState (record : Nat) (state : AbilityState) : Bool :=
  (mgr.records[record]?).any fun service => service.abilityState == state

-- A record that is terminating is not used again for an agent, and none at all for a window.
def reusable (request : AbilityRequest) (record : Nat) : Bool :=
  let type := request.abilityInfo.extensionAbilityType
  !(type == .agent && mgr.isAbilityState record .terminating) && type != .window

def createServiceRecord (request : AbilityRequest) (serviceKey : String)
    (setupOk : Bool) : AbilityConnectManager × Option Nat :=
  let record := mgr.records.length
  let service := createBaseExtensionRecord request
  if request.abilityInfo.extensionAbilityType = .modularObject then
    if setupOk then
      let mgr := { mgr with records := mgr.records ++ [setupNewRecord service serviceKey] }
      (mgr.addToServiceMap serviceKey record, some record)
    else ({ mgr with records := mgr.records ++ [service] }, none)
  else
    let mgr := { mgr with records := mgr.records ++ [service] }
    (mgr.addToServiceMap serviceKey record, some record)

def dropService (request : AbilityRequest) (serviceKey : String)
    (record : Nat) : AbilityConnectManager :=
  let mgr := mgr.removeServiceFromMapSafe serviceKey
  if request.abilityInfo.extensionAbilityType = .agent then mgr.removeFromCache record else mgr

def getOrCreateServiceRecord (request : AbilityRequest)
    (outcome : Outcome) : AbilityConnectManager × Option Nat × Bool :=
  let serviceKey := request.getServiceKey setting outcome.requestId
  let (mgr, targetService) := mgr.findServiceRecord setting request serviceKey outcome.cached
  match targetService with
  | none =>
    let (mgr, record) := mgr.createServiceRecord request serviceKey outcome.setupOk
    (mgr, record, false)
  | some record =>
    if mgr.reusable request record then (mgr, some record, true)
    else
      let mgr := mgr.dropService request serviceKey record
      let (mgr, record) := mgr.createServiceRecord request serviceKey outcome.setupOk
      (mgr, record, false)

def serve (request : AbilityRequest) (outcome : Outcome)
    (change : BaseExtensionRecord -> BaseExtensionRecord) : AbilityConnectManager :=
  match mgr.getOrCreateServiceRecord setting request outcome with
  | (mgr, some record, true) =>
    mgr.update record fun service => if outcome.proceeds then change service else service
  | (mgr, _, _) => mgr

def startAbility (request : AbilityRequest) (outcome : Outcome) : AbilityConnectManager :=
  mgr.serve setting request outcome fun service =>
    if service.abilityState = .active then service.setWant request.want else service

def connectAbility (request : AbilityRequest) (outcome : Outcome) : AbilityConnectManager :=
  mgr.serve setting request outcome fun service =>
    if service.abilityState = .active then service.setWant request.want
    else service.saveConnectWant request.want

def stopServiceAbility (request : AbilityRequest) (requestId : RequestId)
    (cached : Option Nat) : AbilityConnectManager :=
  let serviceKey := request.getServiceKey setting requestId
  let (mgr, target) :=
    match mgr.serviceMap.lookup serviceKey with
    | some record => (mgr, some record)
    | none =>
      match mgr.fromCache request cached with
      | none => (mgr, none)
      | some record =>
        ((mgr.removeFromCache record).addToServiceMap serviceKey record, some record)
  match target with
  | none => mgr
  | some record =>
    if (mgr.records[record]?).any fun service => service.isTerminating then mgr
    else mgr.terminateRecord setting record

def step : Call -> AbilityConnectManager
  | .startAbility request outcome => mgr.startAbility setting request outcome
  | .connectAbility request outcome => mgr.connectAbility setting request outcome
  | .updateConnectWant record => mgr.update record BaseExtensionRecord.updateConnectWant
  | .removeConnectWant record =>
    mgr.update record fun service => { service with connectWant := none }
  | .setAbilityState record state isTerminating =>
    mgr.update record fun service =>
      { service with abilityState := state, isTerminating := isTerminating }
  | .stopServiceAbility request requestId cached =>
    mgr.stopServiceAbility setting request requestId cached
  | .disconnectAbilityDone record evicted =>
    if mgr.inServiceMap record then mgr.terminateOrCacheAbility setting record evicted
    else mgr
  | .terminateRecord record => mgr.terminateRecord setting record
  | .handleAbilityDied record =>
    if mgr.inServiceMap record || mgr.cache.contains record then
      (mgr.moveToTerminatingMap setting record).removeServiceAbility record
    else mgr
  | .loadTimeout record =>
    if mgr.inServiceMap record then
      (mgr.moveToTerminatingMap setting record).removeServiceAbility record
    else mgr
  | .removeServiceAbility record => mgr.removeServiceAbility record
  | .pauseExtensions pauses =>
    { mgr with
      serviceMap := KeyedMap.filterMapValues (fun record => if pauses record then none else some record)
        mgr.serviceMap
      terminatingExtensionList := mgr.terminatingExtensionList ++
        (KeyedMap.values mgr.serviceMap).filter pauses }
  | .closeAssertDialog asserts cached =>
    match mgr.serviceMap.entries.find? fun entry => asserts entry.2 with
    | some entry =>
      { mgr with
        serviceMap := mgr.serviceMap.erase entry.1
        terminatingExtensionList := mgr.terminatingExtensionList ++ [entry.2] }
    | none =>
      match cached.filter mgr.cache.contains with
      | none => mgr
      | some record =>
        { mgr.removeFromCache record with
          terminatingExtensionList := mgr.terminatingExtensionList ++ [record] }
  | .otherManagers created put gone =>
    let records := mgr.records ++ created
    let own (record : Nat) : Bool := mgr.inServiceMap record || record ≥ records.length
    { mgr with
      records := records
      cache := (mgr.cache ++ put.filter fun record => !own record).filter fun record =>
        !gone record }

end

end AbilityConnectManager

def abilityConnectManager (setting : Setting) : Machine AbilityConnectManager Call where
  start := { }
  step := AbilityConnectManager.step setting

end AbilityRuntime.ServiceMap
