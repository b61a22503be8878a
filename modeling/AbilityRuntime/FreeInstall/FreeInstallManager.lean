import AbilityRuntime.Library.Runs

set_option autoImplicit false

namespace AbilityRuntime.FreeInstall

open Library

def errOk : Int := 0

def errInvalidValue : Int := 22

def getAbilityServiceFailed : Int := 2097153

def concurrentTasksWaitingForRetry : Int := -6

def freeInstallTimeout : Int := 29360300

def notTopAbility : Int := 0x500001

structure InstallWant where
  bundleName : String
  moduleName : String := ""
  abilityName : String
  startTime : String := ""
  uri : String := ""
  isInsightIntent : Bool := false

structure InstallRequest where
  want : InstallWant
  userId : Int
  recordId : Int := -1
  requestId : String := ""
  isAsync : Bool := false
  isRemote : Bool := false
  isOpenAtomicServiceShortUrl : Bool := false

structure FreeInstallInfo where
  call : Nat
  want : InstallWant
  userId : Int
  recordId : Int
  requestId : String
  hasPromise : Bool
  isOpenAtomicServiceShortUrl : Bool
  isPreStartMissionCalled : Bool := false

def InstallRequest.buildFreeInstallInfo (request : InstallRequest) (call : Nat) :
    FreeInstallInfo where
  call := call
  want := request.want
  userId := request.userId
  recordId := request.recordId
  requestId := request.requestId
  hasPromise := !request.isAsync
  isOpenAtomicServiceShortUrl := request.isOpenAtomicServiceShortUrl

inductive Stage where
  | pushed
  | waiting
  | timedOut
  | returned (result : Int)
deriving DecidableEq, Repr

/-- A promise is kept with the call whose install set it. Awaited is the result of the install. -/
structure Call where
  request : InstallRequest
  stage : Stage
  promise : Option (Int × Nat) := none
  isAwaited : Bool := false

inductive Notice where
  | returned (result : Int)
  | installFinished (recordId : Int) (bundleName abilityName startTime : String) (result : Int)
  | installFinishedByUrl (recordId : Int) (startTime url : String) (result : Int)
  | executeIntentDone (result : Int)
deriving DecidableEq, Repr

structure Outcome where
  call : Nat
  source : Option Nat
  notice : Notice
deriving DecidableEq, Repr

/-- The result of an install, with what its handling finds out. -/
structure InstallResult where
  resultCode : Int
  hasAbilityRecord : Nat -> Bool := fun _ => true
  hasSrcEntry : Nat -> Bool := fun _ => true
  startResult : Nat -> Int := fun _ => errOk

structure FreeInstallManager where
  freeInstallList : List FreeInstallInfo := []
  call : Nat -> Option Call := fun _ => none
  nextCall : Nat := 0
  outcomes : List Outcome := []

inductive FreeInstallStep where
  | startFreeInstall (request : InstallRequest) (isPermitted : Bool)
  | remoteFreeInstall (want : InstallWant) (userId recordId : Int) (isPermitted : Bool)
  | queryAbilityInfo (call : Nat) (hasBundleMgrHelper : Bool) (setAppRunningState : Int)
  | startRemoteFreeInstall (call : Nat) (result : Int)
  | waitTimesOut (call : Nat)
  | removeFreeInstallInfo (call : Nat)
  | getFuture (call : Nat)
  | onInstallFinished (call : Nat) (result : InstallResult)
  | setPreStartMissionCallStatus (bundleName abilityName startTime : String) (status : Bool)

namespace FreeInstallInfo

section

variable (info : FreeInstallInfo)

def isTask (bundleName abilityName startTime : String) : Bool :=
  info.want.bundleName = bundleName && info.want.abilityName = abilityName &&
    info.want.startTime = startTime

def isTaskOf (want : InstallWant) : Bool :=
  info.isTask want.bundleName want.abilityName want.startTime

-- A result that is not for an asynchronous call looks for an entry with a promise.
def isResultFor (want : InstallWant) (isAsync : Bool) : Bool :=
  info.isTaskOf want && info.want.uri = want.uri && (isAsync || info.hasPromise)

def recordIdByToken (result : InstallResult) : Int :=
  if result.hasAbilityRecord info.call then info.recordId else -1

def finished (recordId result : Int) : Notice :=
  .installFinished recordId info.want.bundleName info.want.abilityName info.want.startTime result

def finishedByUrl (recordId result : Int) : Notice :=
  .installFinishedByUrl recordId info.want.startTime info.want.uri result

end

end FreeInstallInfo

namespace FreeInstallManager

section

variable (mgr : FreeInstallManager)

def setCall (call : Nat) (changed : Call) : FreeInstallManager :=
  { mgr with call := Function.update mgr.call call (some changed) }

def tell (outcome : Outcome) : FreeInstallManager :=
  { mgr with outcomes := mgr.outcomes ++ [outcome] }

def returnCall (call : Nat) (entered : Call) (result : Int)
    (source : Option Nat) : FreeInstallManager :=
  (mgr.setCall call { entered with stage := .returned result }).tell
    ⟨call, source, .returned result⟩

def enter (request : InstallRequest) (isPermitted : Bool) : FreeInstallManager :=
  let call := mgr.nextCall
  let numbered := { mgr with nextCall := call + 1 }
  if isPermitted then
    { numbered.setCall call { request, stage := .pushed } with
      freeInstallList := mgr.freeInstallList ++ [request.buildFreeInstallInfo call] }
  else numbered.returnCall call { request, stage := .pushed } notTopAbility none

def startFreeInstall (request : InstallRequest) (isPermitted : Bool) : FreeInstallManager :=
  mgr.enter { request with isRemote := false } isPermitted

def remoteFreeInstall (want : InstallWant) (userId recordId : Int)
    (isPermitted : Bool) : FreeInstallManager :=
  mgr.enter { want, userId, recordId, isRemote := true } isPermitted

-- The early exits leave the entry where it is.
def queryAbilityInfo (call : Nat) (hasBundleMgrHelper : Bool)
    (setAppRunningState : Int) : FreeInstallManager :=
  match mgr.call call with
  | some entered =>
    if entered.stage ≠ .pushed || entered.request.isRemote then mgr
    else if !hasBundleMgrHelper then mgr.returnCall call entered getAbilityServiceFailed none
    else if setAppRunningState ≠ errOk then mgr.returnCall call entered setAppRunningState none
    else if entered.request.isAsync then
      mgr.setCall call { entered with stage := .returned errOk, isAwaited := true }
    else mgr.setCall call { entered with stage := .waiting, isAwaited := true }
  | none => mgr

def startRemoteFreeInstall (call : Nat) (result : Int) : FreeInstallManager :=
  match mgr.call call with
  | some entered =>
    if entered.stage ≠ .pushed || !entered.request.isRemote then mgr
    else if result ≠ errOk then mgr.returnCall call entered result none
    else mgr.setCall call { entered with stage := .waiting, isAwaited := true }
  | none => mgr

-- Only a call that is not remote goes on to remove its entry.
def waitTimesOut (call : Nat) : FreeInstallManager :=
  match mgr.call call with
  | some entered =>
    if entered.stage ≠ .waiting || entered.promise.isSome then mgr
    else if entered.request.isRemote then
      mgr.returnCall call entered freeInstallTimeout none
    else mgr.setCall call { entered with stage := .timedOut }
  | none => mgr

def removeFreeInstallInfo (want : InstallWant) : FreeInstallManager :=
  { mgr with
    freeInstallList := mgr.freeInstallList.filter fun info => !info.isTaskOf want }

def removeTimedOut (call : Nat) : FreeInstallManager :=
  match mgr.call call with
  | some entered =>
    if entered.stage ≠ .timedOut then mgr
    else (mgr.removeFreeInstallInfo entered.request.want).returnCall call entered
      freeInstallTimeout none
  | none => mgr

def getFuture (call : Nat) : FreeInstallManager :=
  match mgr.call call with
  | some entered =>
    match entered.stage, entered.promise with
    | .waiting, some (result, source) => mgr.returnCall call entered result (some source)
    | _, _ => mgr
  | none => mgr

def setPromise (call source : Nat) (result : Int) : FreeInstallManager :=
  match mgr.call call with
  | some entered => mgr.setCall call { entered with promise := some (result, source) }
  | none => mgr

def handleOnFreeInstallSuccess (source : Nat) (recordId : Int) (info : FreeInstallInfo)
    (result : InstallResult) (isAsync : Bool) : FreeInstallManager :=
  let startResult := result.startResult info.call
  let told := if info.isPreStartMissionCalled then recordId else info.recordIdByToken result
  if isAsync then
    mgr.tell ⟨info.call, some source,
      if info.isOpenAtomicServiceShortUrl then info.finishedByUrl told startResult
      else info.finished told startResult⟩
  else mgr.setPromise info.call source errOk

def handleOnFreeInstallFail (source : Nat) (recordId : Int) (info : FreeInstallInfo)
    (result : InstallResult) (isAsync : Bool) : FreeInstallManager :=
  if info.requestId ≠ "" && !result.hasAbilityRecord info.call then mgr
  else if isAsync then
    mgr.tell ⟨info.call, some source,
      if info.isOpenAtomicServiceShortUrl && result.resultCode ≠ concurrentTasksWaitingForRetry then
        info.finishedByUrl (info.recordIdByToken result) (result.startResult info.call)
      else info.finished recordId result.resultCode⟩
  else mgr.setPromise info.call source result.resultCode

def handleFreeInstallResult (source : Nat) (recordId : Int) (info : FreeInstallInfo)
    (result : InstallResult) (isAsync : Bool) : FreeInstallManager :=
  if result.resultCode = errOk then
    mgr.handleOnFreeInstallSuccess source recordId info result isAsync
  else mgr.handleOnFreeInstallFail source recordId info result isAsync

def notifyFreeInstallResult (source : Nat) (recordId : Int) (want : InstallWant)
    (result : InstallResult) (isAsync : Bool) : FreeInstallManager :=
  match mgr.freeInstallList.find? (·.isResultFor want isAsync) with
  | some info =>
    { mgr with
      freeInstallList := mgr.freeInstallList.eraseP (·.isResultFor want isAsync)
        }.handleFreeInstallResult source recordId info result isAsync
  | none => mgr

def notifyInsightIntentFreeInstallResult (source : Nat) (want : InstallWant)
    (result : InstallResult) : FreeInstallManager :=
  let removed := mgr.removeFreeInstallInfo want
  if result.resultCode ≠ errOk then
    removed.tell ⟨source, some source, .executeIntentDone errInvalidValue⟩
  else
    let tasks := mgr.freeInstallList.filter (·.isTaskOf want)
    { removed with
      outcomes := mgr.outcomes ++ tasks.map fun info =>
        if result.hasSrcEntry info.call then
          ⟨info.call, some source,
            info.finished (info.recordIdByToken result) (result.startResult info.call)⟩
        else ⟨source, some source, .executeIntentDone errInvalidValue⟩ }

def onInstallFinished (call : Nat) (result : InstallResult) : FreeInstallManager :=
  match mgr.call call with
  | some entered =>
    if !entered.isAwaited then mgr
    else
      let answered := mgr.setCall call { entered with isAwaited := false }
      let request := entered.request
      if request.isRemote then
        answered.notifyFreeInstallResult call request.recordId request.want result false
      else if request.want.isInsightIntent then
        answered.notifyInsightIntentFreeInstallResult call request.want result
      else
        answered.notifyFreeInstallResult call request.recordId request.want result request.isAsync
  | none => mgr

end

def setFirst (change : FreeInstallInfo -> FreeInstallInfo) (isThe : FreeInstallInfo -> Bool) :
    List FreeInstallInfo -> List FreeInstallInfo
  | [] => []
  | info :: rest => if isThe info then change info :: rest else info :: setFirst change isThe rest

def setPreStartMissionCallStatus (mgr : FreeInstallManager)
    (bundleName abilityName startTime : String) (status : Bool) : FreeInstallManager :=
  { mgr with
    freeInstallList := setFirst ({ · with isPreStartMissionCalled := status })
      (·.isTask bundleName abilityName startTime) mgr.freeInstallList }

def step (mgr : FreeInstallManager) : FreeInstallStep -> FreeInstallManager
  | .startFreeInstall request isPermitted => mgr.startFreeInstall request isPermitted
  | .remoteFreeInstall want userId recordId isPermitted =>
    mgr.remoteFreeInstall want userId recordId isPermitted
  | .queryAbilityInfo call hasBundleMgrHelper setAppRunningState =>
    mgr.queryAbilityInfo call hasBundleMgrHelper setAppRunningState
  | .startRemoteFreeInstall call result => mgr.startRemoteFreeInstall call result
  | .waitTimesOut call => mgr.waitTimesOut call
  | .removeFreeInstallInfo call => mgr.removeTimedOut call
  | .getFuture call => mgr.getFuture call
  | .onInstallFinished call result => mgr.onInstallFinished call result
  | .setPreStartMissionCallStatus bundleName abilityName startTime status =>
    mgr.setPreStartMissionCallStatus bundleName abilityName startTime status

end FreeInstallManager

def freeInstallManager : Machine FreeInstallManager FreeInstallStep where
  start := {}
  step := FreeInstallManager.step

end AbilityRuntime.FreeInstall
