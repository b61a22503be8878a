import AbilityRuntime.Library.KeyedMap
import AbilityRuntime.Library.Runs
import AbilityRuntime.Utils.RequestIdUtil

set_option autoImplicit false

namespace AbilityRuntime.SceneBoard.ByCall

open Library RequestIdUtil

inductive LaunchMode where
  | singleton
  | standard
  | specified
deriving DecidableEq, Repr

structure AbilityRequest where
  bundleName : String
  moduleName : String := ""
  name : String
  launchMode : LaunchMode := .singleton
  abilityAppIndex : Int := 0
  applicationAppIndex : Int := 0
  isWebSandBoxClone : Bool := false
  dlpIndex : Option Int := none
  appCloneIndex : Option Int := none
  instanceKey : String := ""
  specifiedFlag : String := ""
  startRecent : Bool := false
  collaboratorType : Nat := 0
  missionAffinityKey : String := ""
  hasCallConnection : Bool := true
deriving DecidableEq, Repr

structure AbilityRecord where
  recordId : Nat
  bundleName : String
  moduleName : String
  name : String
  launchMode : LaunchMode
  appIndex : Int
  instanceKey : String
  specifiedFlag : String
  restartTime : Nat
  collaboratorType : Nat
  missionAffinity : String

structure SessionInfo where
  hasSessionToken : Bool := true
  requestId : Int
  uiAbilityId : Nat := 0
  persistentId : Int
  instanceKey : String := ""

structure CachedCall where
  number : Nat
  request : AbilityRequest
deriving DecidableEq, Repr

inductive CallOperation where
  | callAbilityLocked (request : AbilityRequest) (createsSessionInfo : Bool)
  | callUIAbilityBySCB (sessionInfo : SessionInfo)
  | callRequestDone (recordId : Nat) (hasCallStub : Bool)
  | eraseAbilityRecord (recordId : Nat)
  | notifyStartupExceptionBySCB (requestId : Int)
  | otherRequestId

structure CallManager where
  sessionAbilityMap : KeyedMap Int AbilityRecord
  tmpAbilityMap : KeyedMap Int AbilityRecord := ∅
  callRequestCache : KeyedMap Nat (List CachedCall) := ∅
  nextRecordId : Nat
  requestId : Int := 1
  cached : List (Nat × CachedCall) := []
  reissued : List CachedCall := []
  completed : List Nat := []

namespace AbilityRequest

def getAppIndex (request : AbilityRequest) : Int :=
  if request.isWebSandBoxClone then request.applicationAppIndex
  else request.dlpIndex.getD (request.appCloneIndex.getD 0)

def createAbilityRecord (request : AbilityRequest) (recordId : Nat) : AbilityRecord where
  recordId := recordId
  bundleName := request.bundleName
  moduleName := request.moduleName
  name := request.name
  launchMode := request.launchMode
  appIndex := request.getAppIndex
  instanceKey := ""
  specifiedFlag := ""
  restartTime := 0
  collaboratorType := request.collaboratorType
  missionAffinity := request.missionAffinityKey

def checkProperties (request : AbilityRequest) (launchMode : LaunchMode) (record : AbilityRecord) :
    Bool :=
  record.launchMode = launchMode && request.name = record.name &&
    request.bundleName = record.bundleName && request.moduleName = record.moduleName &&
      request.getAppIndex = record.appIndex && request.instanceKey = record.instanceKey

-- The application index is not that of checkProperties.
def matchesTmpRecord (request : AbilityRequest) (record : AbilityRecord) : Bool :=
  record.name = request.name && record.bundleName = request.bundleName &&
    record.moduleName = request.moduleName &&
      request.dlpIndex.getD request.abilityAppIndex = record.appIndex &&
        request.instanceKey = record.instanceKey

end AbilityRequest

namespace CallManager

section

variable (mgr : CallManager)

def latestPersistentId (isReused : AbilityRecord -> Bool) : Int :=
  (mgr.sessionAbilityMap.entries.foldl (fun latest entry =>
    if isReused entry.2 && entry.2.restartTime ≥ latest.2 then (entry.1, entry.2.restartTime)
    else latest) ((0 : Int), 0)).1

def firstPersistentId (isReused : AbilityRecord -> Bool) : Int :=
  match mgr.sessionAbilityMap.entries.find? fun entry => isReused entry.2 with
  | some entry => entry.1
  | none => 0

def getReusedCollaboratorPersistentId (request : AbilityRequest) : Int :=
  mgr.latestPersistentId fun record =>
    record.collaboratorType ≠ 0 && request.missionAffinityKey = record.missionAffinity

def getReusedSpecifiedPersistentId (request : AbilityRequest) : Int :=
  mgr.firstPersistentId fun record =>
    record.specifiedFlag = request.specifiedFlag && request.checkProperties .specified record

def getReusedStandardPersistentId (request : AbilityRequest) : Int :=
  if !request.startRecent then 0 else mgr.latestPersistentId (request.checkProperties .standard)

def getPersistentIdByAbilityRequest (request : AbilityRequest) : Int :=
  if request.collaboratorType ≠ 0 then mgr.getReusedCollaboratorPersistentId request
  else
    match request.launchMode with
    | .specified => mgr.getReusedSpecifiedPersistentId request
    | .standard => mgr.getReusedStandardPersistentId request
    | .singleton => mgr.firstPersistentId (request.checkProperties .singleton)

def findRecordFromTmpMap (request : AbilityRequest) : Option AbilityRecord :=
  (mgr.tmpAbilityMap.entries.find? fun entry => request.matchesTmpRecord entry.2).map Sigma.snd

def cacheCallRequest (recordId : Nat) (request : AbilityRequest) : CallManager :=
  let call : CachedCall := { number := mgr.cached.length, request }
  { mgr with
    callRequestCache := mgr.callRequestCache.insert recordId
      ((mgr.callRequestCache.lookup recordId).getD [] ++ [call])
    cached := mgr.cached ++ [(recordId, call)] }

-- emplace leaves a record that is there under the id.
def emplaceTmpRecord (requestId : Int) (record : AbilityRecord) : CallManager :=
  if (mgr.tmpAbilityMap.lookup requestId).isSome then mgr
  else { mgr with tmpAbilityMap := mgr.tmpAbilityMap.insert requestId record }

def callAbilityLocked (request : AbilityRequest) (createsSessionInfo : Bool) : CallManager :=
  if mgr.getPersistentIdByAbilityRequest request ≠ 0 then
    { mgr with requestId := (getRequestId mgr.requestId).2 }
  else
    match mgr.findRecordFromTmpMap request with
    | some record => mgr.cacheCallRequest record.recordId request
    | none =>
      let record := request.createAbilityRecord mgr.nextRecordId
      let drawn := getRequestId mgr.requestId
      let mgr := { mgr with
        nextRecordId := mgr.nextRecordId + 1, requestId := drawn.2 }
      if !request.hasCallConnection || !createsSessionInfo then mgr
      else mgr.emplaceTmpRecord drawn.1 record

-- The scene board may answer without a request id when only one call waits.
def searchTmpAbilityMap (sessionInfo : SessionInfo) : Option ((_ : Int) × AbilityRecord) :=
  match mgr.tmpAbilityMap.lookup sessionInfo.requestId with
  | some record => some ⟨sessionInfo.requestId, record⟩
  | none =>
    if sessionInfo.uiAbilityId = 0 && mgr.tmpAbilityMap.entries.length = 1 then
      mgr.tmpAbilityMap.entries.head?
    else none

def callUIAbilityBySCB (sessionInfo : SessionInfo) : CallManager :=
  if !sessionInfo.hasSessionToken then mgr
  else
    match mgr.searchTmpAbilityMap sessionInfo with
    | none => mgr
    | some ⟨requestId, record⟩ =>
      let mgr := { mgr with tmpAbilityMap := mgr.tmpAbilityMap.erase requestId }
      if (mgr.sessionAbilityMap.lookup sessionInfo.persistentId).isSome then mgr
      else
        { mgr with
          sessionAbilityMap := mgr.sessionAbilityMap.insert sessionInfo.persistentId
            { record with instanceKey := sessionInfo.instanceKey } }

def callRequestDone (recordId : Nat) (hasCallStub : Bool) : CallManager :=
  if !hasCallStub then mgr
  else
    let mgr := { mgr with completed := mgr.completed ++ [recordId] }
    match mgr.callRequestCache.lookup recordId with
    | none => mgr
    | some requestList =>
      { mgr with
        callRequestCache := mgr.callRequestCache.erase recordId
        reissued := mgr.reissued ++ requestList }

def eraseAbilityRecord (recordId : Nat) : CallManager :=
  { mgr with
    sessionAbilityMap :=
      match mgr.sessionAbilityMap.entries.find? fun entry => entry.2.recordId = recordId with
      | some entry => mgr.sessionAbilityMap.erase entry.1
      | none => mgr.sessionAbilityMap
    callRequestCache := mgr.callRequestCache.erase recordId }

-- Also what is done when the scene board does not answer in time.
def notifyStartupExceptionBySCB (requestId : Int) : CallManager :=
  match mgr.tmpAbilityMap.lookup requestId with
  | none => mgr
  | some record =>
    { mgr with
      tmpAbilityMap := mgr.tmpAbilityMap.erase requestId
      callRequestCache := mgr.callRequestCache.erase record.recordId }

def step : CallOperation -> CallManager
  | .callAbilityLocked request createsSessionInfo =>
    mgr.callAbilityLocked request createsSessionInfo
  | .callUIAbilityBySCB sessionInfo => mgr.callUIAbilityBySCB sessionInfo
  | .callRequestDone recordId hasCallStub => mgr.callRequestDone recordId hasCallStub
  | .eraseAbilityRecord recordId => mgr.eraseAbilityRecord recordId
  | .notifyStartupExceptionBySCB requestId => mgr.notifyStartupExceptionBySCB requestId
  | .otherRequestId => { mgr with requestId := (getRequestId mgr.requestId).2 }

end

end CallManager

def callManager (sessions : KeyedMap Int AbilityRecord) (nextRecordId : Nat) :
    Machine CallManager CallOperation where
  start := { sessionAbilityMap := sessions, nextRecordId }
  step := CallManager.step

end AbilityRuntime.SceneBoard.ByCall
