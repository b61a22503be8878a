import AbilityRuntime.Library.KeyedMap
import AbilityRuntime.Library.Runs

set_option autoImplicit false

namespace AbilityRuntime.AppRunning.Specified

open Library

inductive ModuleRecordState where
  | initialized
  | running
deriving DecidableEq, Repr

structure ModuleRunningRecord where
  moduleName : String
  state : ModuleRecordState := .initialized

def initialized (moduleRecord : ModuleRunningRecord) : ModuleRunningRecord :=
  { moduleRecord with state := .initialized }

structure AppRunningRecord where
  mainBundleName : String
  specifiedAbilityRequest : Option Nat := none
  moduleName : String := ""
  hapModules : KeyedMap String (List ModuleRunningRecord) := ∅
  hasAppLifeCycleDeal : Bool := false
  isCreated : Bool := true
  isTerminating : Bool := false

namespace AppRunningRecord

section

variable (record : AppRunningRecord)

def isStartSpecifiedAbility : Bool :=
  record.specifiedAbilityRequest.isSome

def getSpecifiedRequestId : Int :=
  match record.specifiedAbilityRequest with
  | some requestId => requestId
  | none => -1

def setSpecifiedAbilityFlagAndWant (requestId : Nat) (moduleName : String) : AppRunningRecord :=
  { record with specifiedAbilityRequest := some requestId, moduleName }

def resetSpecifiedRequest : AppRunningRecord :=
  { record with specifiedAbilityRequest := none }

def getModuleRecordByModuleName (bundleName moduleName : String) : Option ModuleRunningRecord :=
  ((record.hapModules.lookup bundleName).getD []).find? (·.moduleName = moduleName)

def addModules (bundleName moduleName : String) : AppRunningRecord :=
  match record.getModuleRecordByModuleName bundleName moduleName with
  | some _ => record
  | none =>
    let modules := (record.hapModules.lookup bundleName).getD []
    { record with
      hapModules := record.hapModules.insert bundleName (modules ++ [{ moduleName }]) }

def getTheModuleInfoNeedToUpdated (bundleName : String) : Option AppRunningRecord :=
  let modules := (record.hapModules.lookup bundleName).getD []
  (modules.findIdx? fun moduleRecord =>
    (record.moduleName = "" || record.moduleName = moduleRecord.moduleName) &&
      moduleRecord.state = .initialized).map fun index =>
    { record with
      hapModules := record.hapModules.insert bundleName
        (modules.modify index fun moduleRecord => { moduleRecord with state := .running }) }

def addAbilityStage : AppRunningRecord :=
  (record.getTheModuleInfoNeedToUpdated record.mainBundleName).getD record

def addAbilityStageBySpecifiedAbility (bundleName : String) : AppRunningRecord × Bool :=
  match record.getTheModuleInfoNeedToUpdated bundleName with
  | some record => (record, record.hasAppLifeCycleDeal)
  | none => (record, false)

def addAbilityStageForSpecified : AppRunningRecord :=
  if record.isStartSpecifiedAbility then
    let record :=
      { record with
        hapModules := KeyedMap.mapValues (List.map initialized) record.hapModules }
    (record.addAbilityStageBySpecifiedAbility record.mainBundleName).1
  else record

end

end AppRunningRecord

structure SpecifiedResponse where
  requestId : Int
  request : Nat
deriving DecidableEq, Repr

/-- One process. The wants in `accepting` have been scheduled and not answered yet. -/
structure AppMgrServiceInner where
  appRecord : Option AppRunningRecord
  appEventId : Nat := 0
  appEventList : KeyedMap Nat Nat := ∅
  requestIds : List Nat := []
  scheduled : List Nat := []
  accepting : List Nat := []
  responses : List SpecifiedResponse := []

inductive SpecifiedCall where
  | startSpecifiedAbility (requestId : Nat) (bundleName moduleName : String)
  | attachApplication
  | launchApplication
  | addAbilityStageDone
  | scheduleAcceptWantDone
  | handleTimeOut (param : Nat)

namespace AppMgrServiceInner

section

variable (service : AppMgrServiceInner)

def scheduleAcceptWant (record : AppRunningRecord) (requestId : Nat) : AppMgrServiceInner :=
  let param := service.appEventId + 1
  let service :=
    { service with
      appEventId := param
      appEventList := service.appEventList.insert param requestId }
  if record.hasAppLifeCycleDeal then
    { service with
      scheduled := service.scheduled ++ [requestId]
      accepting := service.accepting ++ [requestId] }
  else service

def startSpecifiedAbilityNew (requestId : Nat)
    (bundleName moduleName : String) : AppMgrServiceInner :=
  let record : AppRunningRecord := { mainBundleName := bundleName }
  { service with
    appRecord := some
      ((record.setSpecifiedAbilityFlagAndWant requestId moduleName).addModules bundleName moduleName) }

def startSpecifiedAbilityExist (record : AppRunningRecord) (requestId : Nat)
    (bundleName moduleName : String) : AppMgrServiceInner :=
  let record := record.setSpecifiedAbilityFlagAndWant requestId moduleName
  match record.getModuleRecordByModuleName bundleName moduleName with
  | none =>
    let record := record.addModules bundleName moduleName
    { service with appRecord := some (record.addAbilityStageBySpecifiedAbility bundleName).1 }
  | some _ =>
    match record.addAbilityStageBySpecifiedAbility bundleName with
    | (record, true) => { service with appRecord := some record }
    | (record, false) =>
      { service with appRecord := some record }.scheduleAcceptWant record requestId

def startSpecifiedAbility (requestId : Nat) (bundleName moduleName : String) : AppMgrServiceInner :=
  let asked := { service with requestIds := requestId :: service.requestIds }
  match service.appRecord with
  | none => asked.startSpecifiedAbilityNew requestId bundleName moduleName
  | some record =>
    if record.isTerminating then service
    else asked.startSpecifiedAbilityExist record requestId bundleName moduleName

def attachApplication : AppMgrServiceInner :=
  { service with
    appRecord := service.appRecord.map fun record => { record with hasAppLifeCycleDeal := true } }

def launchApplication : AppMgrServiceInner :=
  { service with
    appRecord := service.appRecord.map fun record =>
      if record.isCreated then
        { record with isCreated := false }.addAbilityStageForSpecified
      else record }

def addAbilityStageDone : AppMgrServiceInner :=
  match service.appRecord with
  | none => service
  | some record =>
    match record.specifiedAbilityRequest with
    | some requestId => service.scheduleAcceptWant record requestId
    | none => { service with appRecord := some record.addAbilityStage }

-- The process answers the wants that it received one after the other.
def scheduleAcceptWantDone : AppMgrServiceInner :=
  match service.appRecord, service.accepting with
  | some record, request :: accepting =>
    { service with
      appRecord := some record.resetSpecifiedRequest
      appEventList := ∅
      accepting
      responses := service.responses ++ [⟨record.getSpecifiedRequestId, request⟩] }
  | _, _ => service

def handleStartSpecifiedAbilityTimeOut (record : AppRunningRecord)
    (request : Nat) : AppMgrServiceInner :=
  { service with
    appRecord := some { record.resetSpecifiedRequest with isTerminating := true }
    responses :=
      if record.isStartSpecifiedAbility then
        service.responses ++ [⟨record.getSpecifiedRequestId, request⟩]
      else service.responses }

def handleTimeOut (param : Nat) : AppMgrServiceInner :=
  match service.appRecord, service.appEventList.lookup param with
  | some record, some request =>
    { service with appEventList := service.appEventList.erase param
        }.handleStartSpecifiedAbilityTimeOut record request
  | _, _ => service

def step : SpecifiedCall -> AppMgrServiceInner
  | .startSpecifiedAbility requestId bundleName moduleName =>
    service.startSpecifiedAbility requestId bundleName moduleName
  | .attachApplication => service.attachApplication
  | .launchApplication => service.launchApplication
  | .addAbilityStageDone => service.addAbilityStageDone
  | .scheduleAcceptWantDone => service.scheduleAcceptWantDone
  | .handleTimeOut param => service.handleTimeOut param

end

end AppMgrServiceInner

def appMgrService (record : Option AppRunningRecord) : Machine AppMgrServiceInner SpecifiedCall where
  start := { appRecord := record.map AppRunningRecord.resetSpecifiedRequest }
  step := AppMgrServiceInner.step

end AbilityRuntime.AppRunning.Specified
