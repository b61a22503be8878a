import AbilityRuntime.AutoStartup.AbilityAutoStartupDataManager

set_option autoImplicit false

namespace AbilityRuntime.AutoStartup

open Library AbilityAutoStartupDataManager Function

def u0UserId : Int32 := 0

def u1UserId : Int32 := 1

def extensionTypeAppService : String := "AppServiceExtension"

structure AutoStartupAbilityData where
  abilityTypeName : String := "UIAbility"
  accessTokenId : String
  userId : Int32
  setterUserId : Int32
  isVisible : Bool := true
  hasStatusBarExtension : Bool := false

/-- What an operation learns of its caller and of the ability before it comes to the store. -/
structure Checks where
  permission : ErrCode := .errOk
  abilityData : Option AutoStartupAbilityData
  accountPermission : ErrCode := .errOk
  isSupportStatusBar : Bool := true

structure Application where
  bundleName : String
  abilityName : String
  appCloneIndex : Int32
  accessTokenId : String
  userId : Int32
deriving DecidableEq, Repr

def AutoStartupInfo.application (info : AutoStartupInfo) : Application where
  bundleName := info.bundleName
  abilityName := info.abilityName
  appCloneIndex := info.appCloneIndex
  accessTokenId := info.accessTokenId
  userId := info.userId

inductive AutoStartupStep where
  | setApplicationAutoStartup (info : AutoStartupInfo) (checks : Checks) (calls : KvCalls)
  | cancelApplicationAutoStartup (info : AutoStartupInfo) (checks : Checks) (calls : KvCalls)
  | setApplicationAutoStartupByEDM (info : AutoStartupInfo) (flag isHiddenStart : Bool)
      (checks : Checks) (calls : KvCalls)
  | cancelApplicationAutoStartupByEDM (info : AutoStartupInfo) (flag : Bool) (checks : Checks)
      (calls : KvCalls)
  | deleteAutoStartupData (bundleName : String) (tokenId : UInt32) (calls : KvCalls)

/-- The service with what the last successful operation on each application wrote, which no code
looks at. -/
structure AutoStartupService where
  store : KvStore := []
  lastWritten : Application -> Option AutoStartupStatus := fun _ => none

namespace Checks

variable (checks : Checks)

def getAbilityInfo : Except ErrCode AutoStartupAbilityData :=
  match checks.abilityData with
  | none => .error .innerErr
  | some abilityData =>
    if !abilityData.isVisible then .error .abilityVisibleFalseDenyRequest
    else if abilityData.abilityTypeName = extensionTypeAppService &&
        abilityData.userId ≠ u1UserId then
      .error .innerErr
    else .ok abilityData

def verifyCrossUserAccountPermission (abilityData : AutoStartupAbilityData) : ErrCode :=
  if abilityData.setterUserId = u0UserId || abilityData.setterUserId = u1UserId then .errOk
  else if abilityData.setterUserId ≠ abilityData.userId then checks.accountPermission
  else .errOk

def checkHiddenStartConditions (isHiddenStart : Bool) (abilityData : AutoStartupAbilityData) :
    ErrCode :=
  if isHiddenStart then
    if !abilityData.hasStatusBarExtension then .errNoStatusBarAbility
    else if !checks.isSupportStatusBar then .errCapabilityNotSupport
    else .errOk
  else .errOk

end Checks

namespace AutoStartupInfo

def withAbilityData (info : AutoStartupInfo) (abilityData : AutoStartupAbilityData)
    (setterType : AutoStartupSetterType) : AutoStartupInfo :=
  { info with
    abilityTypeName := abilityData.abilityTypeName
    setterUserId := abilityData.setterUserId
    accessTokenId := abilityData.accessTokenId
    userId := abilityData.userId
    setterType }

def status (info : AutoStartupInfo) (isAutoStartup isEdmForce : Bool) : AutoStartupStatus where
  isAutoStartup := isAutoStartup
  isEdmForce := isEdmForce
  setterUserId := info.setterUserId
  setterType := info.setterType
  isHiddenStart := info.isHiddenStart

end AutoStartupInfo

namespace AbilityAutoStartupService

variable (env : Environment) (store : KvStore) (calls : KvCalls)

section

variable (info : AutoStartupInfo)

def innerSetApplicationAutoStartup : KvStore × ErrCode :=
  let (store, code, status, originKey) := queryAutoStartupData env store calls info
  if code ≠ .errOk && code ≠ .errNameNotFound then (store, code)
  else if code = .errNameNotFound then
    insertAutoStartupData env store calls info true false
  else if status.isEdmForce then (store, .errEdmAppControlled)
  else updateAutoStartupData env store calls info originKey true false

def setApplicationAutoStartup (checks : Checks) : KvStore × ErrCode :=
  if checks.permission ≠ .errOk then (store, checks.permission)
  else if info.isHiddenStart then (store, .errInvalidValue)
  else
    match checks.getAbilityInfo with
    | .error code => (store, code)
    | .ok abilityData =>
      let code := checks.verifyCrossUserAccountPermission abilityData
      if code ≠ .errOk then (store, code)
      else
        innerSetApplicationAutoStartup env store calls (info.withAbilityData abilityData .user)

def innerCancelApplicationAutoStartup : KvStore × ErrCode :=
  let (store, code, status, originKey) := queryAutoStartupData env store calls info
  if code ≠ .errOk then (store, code)
  else if status.isEdmForce then (store, .errEdmAppControlled)
  else if status.isAutoStartup then
    if status.setterUserId ≠ -1 && status.setterUserId ≠ info.setterUserId &&
        status.setterType = .user then
      (store, .errInvalidOperation)
    else AbilityAutoStartupDataManager.deleteAutoStartupData store calls info originKey
  else (store, .errOk)

def cancelApplicationAutoStartup (checks : Checks) : KvStore × ErrCode :=
  if checks.permission ≠ .errOk then (store, checks.permission)
  else
    match checks.getAbilityInfo with
    | .error code => (store, code)
    | .ok abilityData =>
      let code := checks.verifyCrossUserAccountPermission abilityData
      if code ≠ .errOk then (store, code)
      else
        innerCancelApplicationAutoStartup env store calls (info.withAbilityData abilityData .user)

def innerApplicationAutoStartupByEDM (isSet flag : Bool) : KvStore × ErrCode :=
  let (store, code, _, originKey) := queryAutoStartupData env store calls info
  if code ≠ .errOk && code ≠ .errNameNotFound then (store, code)
  else if code = .errNameNotFound then
    insertAutoStartupData env store calls info isSet flag
  else updateAutoStartupData env store calls info originKey isSet flag

def setApplicationAutoStartupByEDM (flag isHiddenStart : Bool)
    (checks : Checks) : KvStore × ErrCode :=
  if checks.permission ≠ .errOk then (store, checks.permission)
  else
    match checks.getAbilityInfo with
    | .error code => (store, code)
    | .ok abilityData =>
      let code := checks.checkHiddenStartConditions isHiddenStart abilityData
      if code ≠ .errOk then (store, code)
      else
        let code := checks.verifyCrossUserAccountPermission abilityData
        if code ≠ .errOk then (store, code)
        else
          innerApplicationAutoStartupByEDM env store calls
            { info.withAbilityData abilityData .system with isHiddenStart } true flag

def cancelApplicationAutoStartupByEDM (flag : Bool) (checks : Checks) : KvStore × ErrCode :=
  if checks.permission ≠ .errOk then (store, checks.permission)
  else
    match checks.getAbilityInfo with
    | .error code => (store, code)
    | .ok abilityData =>
      let code := checks.verifyCrossUserAccountPermission abilityData
      if code ≠ .errOk then (store, code)
      else
        innerApplicationAutoStartupByEDM env store calls
          (info.withAbilityData abilityData .system) false flag

end

-- The token of an uninstalled bundle is passed on as a signed number.
def deleteAutoStartupData (bundleName : String) (tokenId : UInt32) : KvStore × ErrCode :=
  deleteAutoStartupDataOfToken env store calls bundleName tokenId.toInt32

end AbilityAutoStartupService

namespace AutoStartupService

open AbilityAutoStartupService

variable (env : Environment) (service : AutoStartupService)

def perform : AutoStartupStep -> KvStore × ErrCode
  | .setApplicationAutoStartup info checks calls =>
    setApplicationAutoStartup env service.store calls info checks
  | .cancelApplicationAutoStartup info checks calls =>
    cancelApplicationAutoStartup env service.store calls info checks
  | .setApplicationAutoStartupByEDM info flag isHiddenStart checks calls =>
    setApplicationAutoStartupByEDM env service.store calls info flag isHiddenStart checks
  | .cancelApplicationAutoStartupByEDM info flag checks calls =>
    cancelApplicationAutoStartupByEDM env service.store calls info flag checks
  | .deleteAutoStartupData bundleName tokenId calls =>
    AbilityAutoStartupService.deleteAutoStartupData env service.store calls bundleName tokenId

def written (lastWritten : Application -> Option AutoStartupStatus) :
    AutoStartupStep -> Application -> Option AutoStartupStatus
  | .setApplicationAutoStartup info checks _ =>
    match checks.abilityData with
    | none => lastWritten
    | some abilityData =>
      let full := info.withAbilityData abilityData .user
      update lastWritten full.application (some (full.status true false))
  | .cancelApplicationAutoStartup info checks _ =>
    match checks.abilityData with
    | none => lastWritten
    | some abilityData =>
      let application := (info.withAbilityData abilityData .user).application
      update lastWritten application ((lastWritten application).filter (!·.isAutoStartup))
  | .setApplicationAutoStartupByEDM info flag isHiddenStart checks _ =>
    match checks.abilityData with
    | none => lastWritten
    | some abilityData =>
      let full := { info.withAbilityData abilityData .system with isHiddenStart }
      update lastWritten full.application (some (full.status true flag))
  | .cancelApplicationAutoStartupByEDM info flag checks _ =>
    match checks.abilityData with
    | none => lastWritten
    | some abilityData =>
      let full := info.withAbilityData abilityData .system
      update lastWritten full.application (some (full.status false flag))
  | .deleteAutoStartupData _ tokenId _ => fun application =>
    if application.accessTokenId = toString tokenId.toNat then none else lastWritten application

def step (step : AutoStartupStep) : AutoStartupService :=
  let (store, code) := service.perform env step
  { store, lastWritten :=
      if code = .errOk then written service.lastWritten step else service.lastWritten }

end AutoStartupService

def abilityAutoStartupService (env : Environment) :
    Machine AutoStartupService AutoStartupStep where
  start := {}
  step := AutoStartupService.step env

end AbilityRuntime.AutoStartup
