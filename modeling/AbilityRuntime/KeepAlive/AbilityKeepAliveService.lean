import Mathlib.Data.List.Basic

set_option autoImplicit false

namespace AbilityRuntime.KeepAlive

inductive KeepAliveSetter
  | unspecified
  | system
  | user
  deriving DecidableEq

def KeepAliveSetter.toInt : KeepAliveSetter -> Int
  | .unspecified => -1
  | .system => 0
  | .user => 1

inductive KeepAliveAppType
  | unspecified
  | thirdParty
  | system
  deriving DecidableEq

inductive KeepAlivePolicy
  | unspecified
  | notAllowCancel
  | allowCancel
  deriving DecidableEq

structure KeepAliveInfo where
  userId : Int := -1
  setterId : Int := -1
  appType : KeepAliveAppType := .unspecified
  setter : KeepAliveSetter := .unspecified
  policy : KeepAlivePolicy := .unspecified
  bundleName : String := ""
  deriving DecidableEq

inductive ErrCode
  | errOk
  | errInvalidValue
  | errNameNotFound
  | errTargetBundleNotExist
  | checkPermissionFailed
  | errGetTargetBundleInfoFailed
  | errChangeKeepAlive
  deriving DecidableEq

structure KeepAliveStatus where
  code : ErrCode
  setterId : Int := -1
  setter : KeepAliveSetter := .unspecified
  policy : KeepAlivePolicy := .unspecified
  deriving DecidableEq

structure Value where
  setter : KeepAliveSetter
  setterId : Int
  policy : KeepAlivePolicy
  deriving DecidableEq

/-- An entry of the kv store. The key is the json object of all members of an info. -/
structure Entry where
  key : KeepAliveInfo
  value : Value
  deriving DecidableEq

abbrev KvStore := List Entry

namespace KvStore

def put (store : KvStore) (key : KeepAliveInfo) (value : Value) : KvStore :=
  store.filter (·.key ≠ key) ++ [⟨key, value⟩]

def delete (store : KvStore) (key : KeepAliveInfo) : KvStore := store.filter (·.key ≠ key)

end KvStore

namespace AbilityKeepAliveDataManager

variable (getEntries : KvStore -> List Entry)

def convertKeepAliveStatusToValue (info : KeepAliveInfo) : Value :=
  ⟨info.setter, info.setterId, info.policy⟩

def convertKeepAliveStatusFromValue (value : Value) (status : KeepAliveStatus) : KeepAliveStatus :=
  { status with setter := value.setter, setterId := value.setterId, policy := value.policy }

def isEqual (key info : KeepAliveInfo) : Bool :=
  key.userId = info.userId && (info.bundleName.isEmpty || key.bundleName = info.bundleName) &&
    (info.appType = .unspecified || key.appType = info.appType)

def insertKeepAliveData (store : KvStore) (info : KeepAliveInfo) : KvStore × ErrCode :=
  if info.bundleName.isEmpty || info.userId < 0 || info.appType = .unspecified ||
      info.setter = .unspecified then
    (store, .errInvalidValue)
  else (store.put info (convertKeepAliveStatusToValue info), .errOk)

def deleteKeepAliveData (store : KvStore) (info : KeepAliveInfo) : KvStore × ErrCode :=
  if info.userId < 0 then (store, .errInvalidValue)
  else
    let allEntries := getEntries store
    (allEntries.foldl (fun store item =>
      if isEqual item.key info then store.delete item.key else store) store, .errOk)

def queryKeepAliveData (store : KvStore) (info : KeepAliveInfo) : KeepAliveStatus :=
  if info.bundleName.isEmpty || info.userId < 0 then { code := .errInvalidValue }
  else
    match (getEntries store).find? fun item => isEqual item.key info with
    | none => { code := .errNameNotFound }
    | some item =>
      { convertKeepAliveStatusFromValue item.value { code := .errNameNotFound } with
        code := .errOk }

end AbilityKeepAliveDataManager

namespace AbilityKeepAliveService

open AbilityKeepAliveDataManager

variable (getEntries : KvStore -> List Entry)

def setKeepAliveTrue (store : KvStore) (info : KeepAliveInfo) : KvStore × ErrCode :=
  let status := queryKeepAliveData getEntries store info
  if status.code ≠ .errOk ∧ status.code ≠ .errNameNotFound then (store, status.code)
  else if status.code = .errNameNotFound then insertKeepAliveData store info
  else if status.setter.toInt ≤ info.setter.toInt then (store, .errOk)
  else
    let (store, _) := deleteKeepAliveData getEntries store info
    insertKeepAliveData store info

def cancelKeepAlive (store : KvStore) (info : KeepAliveInfo) : KvStore × ErrCode :=
  let status := queryKeepAliveData getEntries store info
  if status.code ≠ .errOk ∧ status.code ≠ .errNameNotFound then (store, status.code)
  else if status.code = .errNameNotFound then (store, .errTargetBundleNotExist)
  else if status.setter.toInt < info.setter.toInt then (store, .checkPermissionFailed)
  else deleteKeepAliveData getEntries store info

def getValidUserId (callerUserId userId : Int) : Int :=
  if userId ≥ 0 then userId else callerUserId

def setApplicationKeepAlive (callerUserId : Int) (store : KvStore) (info : KeepAliveInfo)
    (flag : Bool) : KvStore × ErrCode :=
  let info := { info with userId := getValidUserId callerUserId info.userId }
  if flag then setKeepAliveTrue getEntries store info else cancelKeepAlive getEntries store info

def setAppServiceExtensionKeepAlive (store : KvStore) (info : KeepAliveInfo) (flag : Bool) :
    KvStore × ErrCode :=
  let status := queryKeepAliveData getEntries store info
  if status.code ≠ .errOk ∧ status.code ≠ .errNameNotFound then (store, status.code)
  else if status.code = .errNameNotFound then
    if flag then insertKeepAliveData store info else (store, .errGetTargetBundleInfoFailed)
  else if !flag then
    if info.setterId ≠ status.setterId ∧ info.setter = status.setter then
      (store, .errChangeKeepAlive)
    else if info.setter = .user ∧ status.policy = .notAllowCancel then (store, .errChangeKeepAlive)
    else deleteKeepAliveData getEntries store info
  else if info.setter = .user ∨ (info.setter = .system ∧ info.policy = status.policy) then
    (store, .errOk)
  else
    let (store, _) := deleteKeepAliveData getEntries store info
    insertKeepAliveData store info

end AbilityKeepAliveService

end AbilityRuntime.KeepAlive
