import Mathlib.Logic.Function.Basic

set_option autoImplicit false

namespace AbilityRuntime.ExitReason

inductive Value
  | recoverInfo (recoverInfoList : List String) (sessionIdList : List Int32)
  | accessTokenId (accessTokenId : UInt32)

inductive ErrCode
  | errOk
  | errInvalidValue

/-- The kv store as a map; its calls succeed, and a `get` finds a value or no key. -/
abbrev KvStore := String -> Option Value

namespace KvStore

def put (store : KvStore) (key : String) (value : Value) : KvStore :=
  Function.update store key (some value)

def delete (store : KvStore) (key : String) : KvStore := Function.update store key none

end KvStore

namespace AppExitReasonDataManager

def keyRecoverInfoPrefix : String := "recover_info"

def getAbilityRecoverInfoKey (accessTokenId : UInt32) : String :=
  keyRecoverInfoPrefix ++ toString accessTokenId.toNat

def getSessionIdKey (sessionId : Int32) : String :=
  keyRecoverInfoPrefix ++ toString sessionId.toInt

-- The callers pass empty vectors, and an object without the two lists leaves them so.
def convertAbilityRecoverInfoFromValue : Value -> List String × List Int32
  | .recoverInfo recoverInfoList sessionIdList => (recoverInfoList, sessionIdList)
  | .accessTokenId _ => ([], [])

-- An object without a token leaves the caller's variable as it is.
def convertAccessTokenIdFromValue (value : Value) (accessTokenId : UInt32) : UInt32 :=
  match value with
  | .recoverInfo _ _ => accessTokenId
  | .accessTokenId stored => stored

def innerDeleteAbilityRecoverInfo (store : KvStore) (accessTokenId : UInt32) : KvStore :=
  store.delete (getAbilityRecoverInfoKey accessTokenId)

def innerAddSessionId (store : KvStore) (sessionId : Int32) (accessTokenId : UInt32) : KvStore :=
  store.put (getSessionIdKey sessionId) (.accessTokenId accessTokenId)

def innerDeleteSessionId (store : KvStore) (sessionId : Int32) : KvStore :=
  store.delete (getSessionIdKey sessionId)

def updateAbilityRecoverInfo (store : KvStore) (accessTokenId : UInt32)
    (recoverInfoList : List String) (sessionIdList : List Int32) : KvStore :=
  let key := getAbilityRecoverInfoKey accessTokenId
  (store.delete key).put key (.recoverInfo recoverInfoList sessionIdList)

def addAbilityRecoverInfo (store : KvStore) (accessTokenId : UInt32)
    (moduleName abilityName : String) (sessionId : Int32) : Option (KvStore × ErrCode) :=
  let key := getAbilityRecoverInfoKey accessTokenId
  let recoverInfo := moduleName ++ abilityName
  let (recoverInfoList, sessionIdList) :=
    ((store key).map convertAbilityRecoverInfoFromValue).getD ([], [])
  match recoverInfoList.idxOf? recoverInfo with
  | some index =>
    -- The local vector takes the new session id; nothing is put back.
    if index < sessionIdList.length then some (store, .errOk) else none
  | none =>
    let store := store.put key
      (.recoverInfo (recoverInfoList ++ [recoverInfo]) (sessionIdList ++ [sessionId]))
    some (innerAddSessionId store sessionId accessTokenId, .errOk)

def deleteAllRecoverInfoByTokenId (store : KvStore) (tokenId : UInt32) : KvStore × ErrCode :=
  match store (getAbilityRecoverInfoKey tokenId) with
  | none => (store, .errInvalidValue)
  | some value =>
    let (_, sessionIdList) := convertAbilityRecoverInfoFromValue value
    let store := sessionIdList.foldl innerDeleteSessionId store
    (innerDeleteAbilityRecoverInfo store tokenId, .errOk)

/-- `errInvalidValue` is the error returned as a token, `uninitialised` the unset local variable. -/
def getTokenIdBySessionID (errInvalidValue uninitialised : UInt32) (store : KvStore)
    (sessionId : Int32) : UInt32 :=
  match store (getAbilityRecoverInfoKey sessionId.toUInt32) with
  | none => errInvalidValue
  | some value => convertAccessTokenIdFromValue value uninitialised

/-- `std::remove` of an element of the vector itself, which is passed by reference. -/
def removeElement (recoverInfoList : List String) (index : Nat) (recoverInfo : String) :
    List String :=
  recoverInfoList.foldl (fun kept other =>
    if other = (kept[index]?).getD recoverInfo then kept else kept ++ [other]) []

def deleteAbilityRecoverInfoBySessionId (errInvalidValue uninitialised : UInt32) (store : KvStore)
    (sessionId : Int32) : Option (KvStore × ErrCode) :=
  let accessTokenId := getTokenIdBySessionID errInvalidValue uninitialised store sessionId
  match store (getAbilityRecoverInfoKey accessTokenId) with
  | none => some (store, .errInvalidValue)
  | some value =>
    let (recoverInfoList, sessionIdList) := convertAbilityRecoverInfoFromValue value
    match sessionIdList.idxOf? sessionId with
    | none =>
      if sessionIdList.isEmpty then
        some (innerDeleteAbilityRecoverInfo store accessTokenId, .errOk)
      else some (store, .errOk)
    | some index =>
      let sessionIdList := sessionIdList.filter (· ≠ sessionId)
      match recoverInfoList[index]? with
      | none => none
      | some recoverInfo =>
        let recoverInfoList := removeElement recoverInfoList index recoverInfo
        let store := innerDeleteSessionId store sessionId
        let store := updateAbilityRecoverInfo store accessTokenId recoverInfoList sessionIdList
        if sessionIdList.isEmpty then
          some (innerDeleteAbilityRecoverInfo store accessTokenId, .errOk)
        else some (store, .errOk)

def deleteAbilityRecoverInfo (store : KvStore) (accessTokenId : UInt32)
    (moduleName abilityName : String) : Option (KvStore × ErrCode) :=
  match store (getAbilityRecoverInfoKey accessTokenId) with
  | none => some (store, .errInvalidValue)
  | some value =>
    let recoverInfo := moduleName ++ abilityName
    let (recoverInfoList, sessionIdList) := convertAbilityRecoverInfoFromValue value
    match recoverInfoList.idxOf? recoverInfo with
    | none =>
      if recoverInfoList.isEmpty then
        some (innerDeleteAbilityRecoverInfo store accessTokenId, .errOk)
      else some (store, .errOk)
    | some index =>
      let recoverInfoList := recoverInfoList.filter (· ≠ recoverInfo)
      match sessionIdList[index]? with
      | none => none
      | some sessionId =>
        let sessionIdList := sessionIdList.filter (· ≠ sessionId)
        let store := innerDeleteSessionId store sessionId
        let store := updateAbilityRecoverInfo store accessTokenId recoverInfoList sessionIdList
        if recoverInfoList.isEmpty then
          some (innerDeleteAbilityRecoverInfo store accessTokenId, .errOk)
        else some (store, .errOk)

def getAbilityRecoverInfo (store : KvStore) (accessTokenId : UInt32)
    (moduleName abilityName : String) : ErrCode × Bool :=
  match store (getAbilityRecoverInfoKey accessTokenId) with
  | none => (.errInvalidValue, false)
  | some value =>
    let recoverInfo := moduleName ++ abilityName
    let (recoverInfoList, _) := convertAbilityRecoverInfoFromValue value
    (.errOk, (recoverInfoList.idxOf? recoverInfo).isSome)

end AppExitReasonDataManager

end AbilityRuntime.ExitReason
