import AbilityRuntime.Mission.InnerMissionInfo

set_option autoImplicit false

namespace AbilityRuntime.AutoStartup

open Mission Mission.SavedMissionInfo

inductive ErrCode where
  | errOk
  | errInvalidValue
  | errNoInit
  | errInvalidOperation
  | errNameNotFound
  | errEdmAppControlled
  | errNoStatusBarAbility
  | errCapabilityNotSupport
  | abilityVisibleFalseDenyRequest
  | innerErr
  | permissionDenied (code : Int)
deriving DecidableEq, Repr

inductive AutoStartupSetterType where
  | unspecified
  | system
  | user
deriving DecidableEq, Repr

def AutoStartupSetterType.toInt32 : AutoStartupSetterType -> Int32
  | .unspecified => -1
  | .system => 0
  | .user => 1

def AutoStartupSetterType.ofInt32 (setterTypeValue : Int32) : AutoStartupSetterType :=
  if setterTypeValue = 0 then .system
  else if setterTypeValue = 1 then .user
  else .unspecified

structure AutoStartupInfo where
  appCloneIndex : Int32 := 0
  userId : Int32 := -1
  setterUserId : Int32 := -1
  isHiddenStart : Bool := false
  bundleName : String
  abilityName : String
  moduleName : String := ""
  abilityTypeName : String := ""
  accessTokenId : String := ""
  setterType : AutoStartupSetterType := .unspecified

structure AutoStartupStatus where
  isAutoStartup : Bool := false
  isEdmForce : Bool := false
  setterUserId : Int32 := -1
  setterType : AutoStartupSetterType := .unspecified
  isHiddenStart : Bool := false
deriving DecidableEq, Repr

structure Entry where
  key : String
  value : String

abbrev KvStore := List Entry

namespace KvStore

def put (store : KvStore) (key value : String) : KvStore :=
  store.filter (·.key ≠ key) ++ [⟨key, value⟩]

def delete (store : KvStore) (key : String) : KvStore := store.filter (·.key ≠ key)

end KvStore

inductive Status where
  | success
  | dataCorrupted
  | error
deriving DecidableEq, Repr

/-- What the calls of the kv store answer to one operation, the deletions by their number. -/
structure KvCalls where
  hasKvStore : Bool := true
  getEntries : Status := .success
  delete : Nat -> Status := fun _ => .success
  put : Status := .success

/-- The json library, and the order in which `GetEntries` gives the entries. -/
structure Environment where
  json : Nlohmann
  getEntries : KvStore -> List Entry

namespace AbilityAutoStartupDataManager

def jsonKeyBundleName : String := "bundleName"
def jsonKeyAbilityName : String := "abilityName"
def jsonKeyModuleName : String := "moduleName"
def jsonKeyIsAutoStartup : String := "isAutoStartup"
def jsonKeyIsEdmForce : String := "isEdmForce"
def jsonKeyTypeName : String := "abilityTypeName"
def jsonKeyAppCloneIndex : String := "appCloneIndex"
def jsonKeyAccessTokenid : String := "accessTokenId"
def jsonKeySetterUserid : String := "setterUserId"
def jsonKeyUserid : String := "userId"
def jsonKeySetterType : String := "setterType"
def jsonKeyIsHiddenStart : String := "isHiddenStart"

variable (env : Environment)

-- A corrupted store is deleted and created anew.
def restoreKvStore (store : KvStore) : Status -> KvStore
  | .dataCorrupted => []
  | .success | .error => store

def keyMembers (info : AutoStartupInfo) : List (String × JsonNode) :=
  [(jsonKeyBundleName, .string info.bundleName),
    (jsonKeyModuleName, .string info.moduleName),
    (jsonKeyAbilityName, .string info.abilityName),
    (jsonKeyAppCloneIndex, .number info.appCloneIndex.toInt),
    (jsonKeyAccessTokenid, .string info.accessTokenId),
    (jsonKeyUserid, .number info.userId.toInt)]

def convertAutoStartupDataToKey (info : AutoStartupInfo) : String :=
  env.json.dump (.ofList (keyMembers info))

def valueMembers (info : AutoStartupInfo) (isAutoStartup isEdmForce : Bool) :
    List (String × JsonNode) :=
  [(jsonKeyIsAutoStartup, .boolean isAutoStartup),
    (jsonKeyIsEdmForce, .boolean isEdmForce),
    (jsonKeyTypeName, .string info.abilityTypeName),
    (jsonKeySetterUserid, .number info.setterUserId.toInt),
    (jsonKeySetterType, .number info.setterType.toInt32.toInt),
    (jsonKeyIsHiddenStart, .boolean info.isHiddenStart)]

def convertAutoStartupStatusToValue (info : AutoStartupInfo) (isAutoStartup isEdmForce : Bool) :
    String :=
  env.json.dump (.ofList (valueMembers info isAutoStartup isEdmForce))

def convertAutoStartupStatusFromValue (value : String) (startupStatus : AutoStartupStatus) :
    AutoStartupStatus :=
  match env.json.parse value with
  | none => startupStatus
  | some jsonObject => {
      isAutoStartup := (getBool jsonObject jsonKeyIsAutoStartup).getD startupStatus.isAutoStartup
      isEdmForce := (getBool jsonObject jsonKeyIsEdmForce).getD startupStatus.isEdmForce
      setterUserId := (getInt32 jsonObject jsonKeySetterUserid).getD startupStatus.setterUserId
      setterType := ((getInt32 jsonObject jsonKeySetterType).map .ofInt32).getD
        startupStatus.setterType
      isHiddenStart := (getBool jsonObject jsonKeyIsHiddenStart).getD startupStatus.isHiddenStart }

def convertAutoStartupInfoFromKey (key : String) (info : AutoStartupInfo) : AutoStartupInfo :=
  match env.json.parse key with
  | none => info
  | some jsonObject => { info with
      bundleName := (getString jsonObject jsonKeyBundleName).getD info.bundleName
      moduleName := (getString jsonObject jsonKeyModuleName).getD info.moduleName
      abilityName := (getString jsonObject jsonKeyAbilityName).getD info.abilityName
      appCloneIndex := (getInt32 jsonObject jsonKeyAppCloneIndex).getD info.appCloneIndex
      accessTokenId := (getString jsonObject jsonKeyAccessTokenid).getD info.accessTokenId
      userId := (getInt32 jsonObject jsonKeyUserid).getD info.userId }

-- JsonUtils::IsEqual: a member that is missing or of another type is equal to anything.
def isEqualString (jsonObject : JsonObject) (key value : String) : Bool :=
  (getString jsonObject key).all (· = value)

def isEqualInt32 (jsonObject : JsonObject) (key : String) (value : Int32) : Bool :=
  (getInt32 jsonObject key).all (· = value)

def isEqual (key : String) (info : AutoStartupInfo) : Bool :=
  match env.json.parse key with
  | none => false
  | some jsonObject =>
    isEqualString jsonObject jsonKeyBundleName info.bundleName &&
      isEqualString jsonObject jsonKeyAbilityName info.abilityName &&
      isEqualInt32 jsonObject jsonKeyAppCloneIndex info.appCloneIndex &&
      isEqualString jsonObject jsonKeyAccessTokenid info.accessTokenId &&
      isEqualInt32 jsonObject jsonKeyUserid info.userId

def isEqualToken (key accessTokenId : String) : Bool :=
  match env.json.parse key with
  | none => false
  | some jsonObject => getString jsonObject jsonKeyAccessTokenid = some accessTokenId

def isInvalid (info : AutoStartupInfo) : Bool :=
  info.bundleName = "" || info.abilityName = "" || info.accessTokenId = "" || info.userId = -1

def isInvalidData (info : AutoStartupInfo) : Bool :=
  isInvalid info || info.setterUserId = -1 || info.setterType = .unspecified

def insertAutoStartupData (store : KvStore) (calls : KvCalls) (info : AutoStartupInfo)
    (isAutoStartup isEdmForce : Bool) : KvStore × ErrCode :=
  if isInvalidData info then (store, .errInvalidValue)
  else if !calls.hasKvStore then (store, .errNoInit)
  else if calls.put ≠ .success then (restoreKvStore store calls.put, .errInvalidOperation)
  else
    (store.put (convertAutoStartupDataToKey env info)
      (convertAutoStartupStatusToValue env info isAutoStartup isEdmForce), .errOk)

def updateAutoStartupData (store : KvStore) (calls : KvCalls) (info : AutoStartupInfo)
    (originKey : String) (isAutoStartup isEdmForce : Bool) : KvStore × ErrCode :=
  if isInvalidData info then (store, .errInvalidValue)
  else if !calls.hasKvStore then (store, .errNoInit)
  else if calls.delete 0 ≠ .success then
    (restoreKvStore store (calls.delete 0), .errInvalidOperation)
  else
    let deleted := store.delete originKey
    if calls.put ≠ .success then (restoreKvStore deleted calls.put, .errInvalidOperation)
    else
      (deleted.put (convertAutoStartupDataToKey env info)
        (convertAutoStartupStatusToValue env info isAutoStartup isEdmForce), .errOk)

def deleteAutoStartupData (store : KvStore) (calls : KvCalls) (info : AutoStartupInfo)
    (originKey : String) : KvStore × ErrCode :=
  if isInvalid info then (store, .errInvalidValue)
  else if !calls.hasKvStore then (store, .errNoInit)
  else if calls.delete 0 ≠ .success then
    (restoreKvStore store (calls.delete 0), .errInvalidOperation)
  else (store.delete originKey, .errOk)

def deleteEntries (accessTokenId : String) (delete : Nat -> Status) :
    Nat -> List Entry -> KvStore -> KvStore × ErrCode
  | _, [], store => (store, .errOk)
  | done, item :: rest, store =>
    if isEqualToken env item.key accessTokenId then
      if delete done ≠ .success then (restoreKvStore store (delete done), .errInvalidOperation)
      else deleteEntries accessTokenId delete (done + 1) rest (store.delete item.key)
    else deleteEntries accessTokenId delete done rest store

def deleteAutoStartupDataOfToken (store : KvStore) (calls : KvCalls) (bundleName : String)
    (accessTokenId : Int32) : KvStore × ErrCode :=
  if bundleName = "" then (store, .errInvalidValue)
  else if !calls.hasKvStore then (store, .errNoInit)
  else if calls.getEntries ≠ .success then
    (restoreKvStore store calls.getEntries, .errInvalidOperation)
  else
    deleteEntries env (toString accessTokenId.toInt) calls.delete 0 (env.getEntries store) store

/-- The store after the call, the code, and the status with the key of the entry that is found. -/
def queryAutoStartupData (store : KvStore) (calls : KvCalls) (info : AutoStartupInfo) :
    KvStore × ErrCode × AutoStartupStatus × String :=
  if isInvalid info then (store, .errInvalidValue, {}, "")
  else if !calls.hasKvStore then (store, .errNoInit, {}, "")
  else if calls.getEntries ≠ .success then
    (restoreKvStore store calls.getEntries, .errInvalidOperation, {}, "")
  else
    match (env.getEntries store).find? fun item => isEqual env item.key info with
    | none => (store, .errNameNotFound, {}, "")
    | some item =>
      (store, .errOk, convertAutoStartupStatusFromValue env item.value {}, item.key)

end AbilityAutoStartupDataManager

end AbilityRuntime.AutoStartup
