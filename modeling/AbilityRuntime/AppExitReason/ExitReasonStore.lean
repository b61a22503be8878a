import AbilityRuntime.Library.Json
import AbilityRuntime.Library.KeyedMap

set_option autoImplicit false

namespace AbilityRuntime.AppExitReason

open Library

structure ExitReason where
  reason : UInt32 := 0
  subReason : Int32 := -1
  killId : Int32 := -1
  exitMsg : String := ""

/-- The members that are written to the store; `state` is the number of the `AppProcessState`. -/
structure RunningProcessInfo where
  pid : Int32 := 0
  uid : Int32 := 0
  rssValue : Int32 := 0
  pssValue : Int32 := 0
  state : Int32 := 0
  processName : String := ""

inductive ErrCode
  | errOk
  | errInvalidValue
  | errNoInit
  | errInvalidOperation
  | errGetExitInfoFailed
  | errRecordSignalReasonFailed
  deriving DecidableEq

def reasonNormal : UInt32 := 1

def invalidTokenId : UInt32 := 0

def separator : String := ":"

/-- The kv store. A value is the text of a json document, which is parsed when it is read. -/
abbrev KvStore := KeyedMap String Json

structure KvCalls where
  checkKvStore : Bool
  getEntries : Bool
  put : Bool
  delete : String -> Bool

def KvCalls.succeed : KvCalls := ⟨true, true, true, fun _ => true⟩

structure Outputs where
  isSetReason : Bool := false
  exitReason : ExitReason := {}
  processInfo : RunningProcessInfo := {}
  timeStamp : Int64 := 0
  withKillMsg : Bool := false

structure ExitCacheInfo where
  exitInfo : RunningProcessInfo
  bundleName : String
  abilityNames : List String

def toKey (accessTokenId : UInt32) : String := toString accessTokenId.toNat

section Conversions

def convertAppExitReasonInfoToValue (now : Int64) (abilityList : List String)
    (exitReason : ExitReason) (processInfo : RunningProcessInfo) (withKillMsg : Bool) : Json :=
  let killMsg := if withKillMsg then exitReason.exitMsg else ""
  .ofMembers [
    ("pid", .integer processInfo.pid.toInt),
    ("uid", .integer processInfo.uid.toInt),
    ("reason", .integer exitReason.reason.toNat),
    ("sub_kill_reason", .integer exitReason.subReason.toInt),
    ("exit_msg", .string exitReason.exitMsg),
    ("kill_msg", .string killMsg),
    ("rss_value", .integer processInfo.rssValue.toInt),
    ("pss_value", .integer processInfo.pssValue.toInt),
    ("process_name", .string processInfo.processName),
    ("time_stamp", .integer now.toInt),
    ("ability_list", .array (abilityList.map .string)),
    ("process_state", .integer processInfo.state.toInt),
    ("kill_id", .integer exitReason.killId.toInt)]

def convertAppExitReasonInfoToValueOfExtensionName (now : Int64) (extensionListName : String)
    (exitReason : ExitReason) (processInfo : RunningProcessInfo) (withKillMsg : Bool) : Json :=
  let killMsg := if withKillMsg then exitReason.exitMsg else ""
  .ofMembers [
    ("pid", .integer processInfo.pid.toInt),
    ("uid", .integer processInfo.uid.toInt),
    ("reason", .integer exitReason.reason.toNat),
    ("sub_kill_reason", .integer exitReason.subReason.toInt),
    ("exit_msg", .string exitReason.exitMsg),
    ("kill_msg", .string killMsg),
    ("rss_value", .integer processInfo.rssValue.toInt),
    ("pss_value", .integer processInfo.pssValue.toInt),
    ("process_name", .string processInfo.processName),
    ("time_stamp", .integer now.toInt),
    ("extension_name", .string extensionListName)]

variable (json : Json)

def int32Member (name : String) (held : Int32) : Int32 :=
  (json.integerMember? name).elim held Int32.ofInt

def stringMember (name : String) (held : String) : String := (json.stringMember? name).getD held

def convertReasonFromValue (exitReason : ExitReason) (withKillMsg : Bool) : ExitReason × Bool :=
  let exitReason := {
    reason := (json.integerMember? "reason").elim exitReason.reason UInt32.ofInt
    subReason := int32Member json "sub_kill_reason" exitReason.subReason
    exitMsg := stringMember json "exit_msg" exitReason.exitMsg
    killId := int32Member json "kill_id" exitReason.killId }
  let killMsg := stringMember json "kill_msg" ""
  if killMsg ≠ "" then ({ exitReason with exitMsg := killMsg }, true)
  else (exitReason, withKillMsg)

def convertAppExitReasonInfoFromValue (outputs : Outputs) (abilityList : List String) :
    Outputs × List String :=
  let (exitReason, withKillMsg) :=
    convertReasonFromValue json outputs.exitReason outputs.withKillMsg
  let processInfo := outputs.processInfo
  ({ outputs with
      exitReason
      withKillMsg
      processInfo := {
        pid := int32Member json "pid" processInfo.pid
        uid := int32Member json "uid" processInfo.uid
        rssValue := int32Member json "rss_value" processInfo.rssValue
        pssValue := int32Member json "pss_value" processInfo.pssValue
        processName := stringMember json "process_name" processInfo.processName
        state := int32Member json "process_state" processInfo.state }
      timeStamp := (json.integerMember? "time_stamp").elim outputs.timeStamp Int64.ofInt },
    (json.arrayMember? "ability_list").elim abilityList (·.filterMap Json.string?))

end Conversions

def setAppExitReason (calls : KvCalls) (now : Int64) (bundleName : String) (accessTokenId : UInt32)
    (abilityList : List String) (exitReason : ExitReason) (processInfo : RunningProcessInfo)
    (withKillMsg : Bool) : ErrCode × Option (String × Json) :=
  if bundleName = "" ∨ accessTokenId = invalidTokenId then (.errInvalidValue, none)
  else if !calls.checkKvStore then (.errNoInit, none)
  else
    (.errOk, some (toKey accessTokenId,
      convertAppExitReasonInfoToValue now abilityList exitReason processInfo withKillMsg))

/-- The error code, and the puts that are submitted; `now` has the clock at each of them. -/
def setUIExtensionAbilityExitReason (calls : KvCalls) (now : String -> Int64) (bundleName : String)
    (extensionList : List String) (exitReason : ExitReason) (processInfo : RunningProcessInfo)
    (withKillMsg : Bool) : ErrCode × List (String × Json) :=
  if bundleName = "" then (.errInvalidValue, [])
  else if !calls.checkKvStore then (.errNoInit, [])
  else
    (.errOk, extensionList.map fun extension =>
      (bundleName ++ separator ++ extension,
        convertAppExitReasonInfoToValueOfExtensionName (now extension) extension exitReason
          processInfo withKillMsg))

/-- One turn of the loop over the entries; the flag is whether the status is still `SUCCESS`. -/
def deleteEntry (calls : KvCalls) (accessTokenIdStr keyUiExten : String) (store : KvStore × Bool)
    (key : String) : KvStore × Bool :=
  if ¬accessTokenIdStr.toList <:+: key.toList ∧ ¬keyUiExten.toList <:+: key.toList then store
  else if calls.delete key then (store.1.erase key, store.2)
  else (store.1, false)

def deleteAppExitReason (calls : KvCalls) (store : KvStore) (bundleName : String)
    (accessTokenId : UInt32) : KvStore × ErrCode :=
  let accessTokenIdStr := toKey accessTokenId
  if bundleName = "" ∨ accessTokenId = invalidTokenId then (store, .errInvalidValue)
  else if !calls.checkKvStore then (store, .errNoInit)
  else
    let keyUiExten := bundleName ++ separator
    if !calls.getEntries then (store, .errInvalidOperation)
    else
      let (store, succeeded) :=
        store.keys.foldl (deleteEntry calls accessTokenIdStr keyUiExten) (store, true)
      (store, if succeeded then .errOk else .errInvalidOperation)

def handleAbilityMatchAndCleanup (abilityName : String) (abilityList : List String)
    (outputs : Outputs) (cleanFlag : Bool) : Outputs × List String :=
  ({ outputs with isSetReason := true },
    if cleanFlag then abilityList.filter (· ≠ abilityName) else abilityList)

def updateAppExitReason (calls : KvCalls) (now : Int64) (store : KvStore) (accessTokenId : UInt32)
    (abilityList : List String) (exitReason : ExitReason) (processInfo : RunningProcessInfo)
    (withKillMsg : Bool) : KvStore :=
  let value := convertAppExitReasonInfoToValue now abilityList exitReason processInfo withKillMsg
  if calls.put then store.insert (toKey accessTokenId) value else store

def innerDeleteAppExitReason (calls : KvCalls) (store : KvStore) (keyName : String) : KvStore :=
  if calls.delete keyName then store.erase keyName else store

def getAppExitReason (calls : KvCalls) (now : Int64) (store : KvStore) (bundleName : String)
    (accessTokenId : UInt32) (abilityName : String) (outputs : Outputs) (cleanFlag : Bool) :
    KvStore × ErrCode × Outputs :=
  let accessTokenIdStr := toKey accessTokenId
  if bundleName = "" ∨ accessTokenId = invalidTokenId then (store, .errInvalidValue, outputs)
  else if !calls.checkKvStore then (store, .errNoInit, outputs)
  else if !calls.getEntries then (store, .errInvalidValue, outputs)
  else
    match store.lookup accessTokenIdStr with
    | none => (store, .errOk, outputs)
    | some value =>
      let (outputs, abilityList) := convertAppExitReasonInfoFromValue value outputs []
      let (store, outputs, abilityList) :=
        if abilityName ∈ abilityList then
          let (outputs, abilityList) :=
            handleAbilityMatchAndCleanup abilityName abilityList outputs cleanFlag
          (updateAppExitReason calls now store accessTokenId abilityList outputs.exitReason
            outputs.processInfo outputs.withKillMsg, outputs, abilityList)
        else (store, outputs, abilityList)
      let store :=
        if abilityList.isEmpty then innerDeleteAppExitReason calls store accessTokenIdStr else store
      (store, .errOk, outputs)

section RecordSignalReason

variable (calls : KvCalls) (keys : List String) (found : Option (UInt32 × ExitCacheInfo))

/-- The first half of `RecordSignalReason`; `found` is what `GetExitInfo` finds of the process. -/
def lookForRecord : Except ErrCode (Option (UInt32 × ExitCacheInfo)) :=
  if !calls.checkKvStore then .error .errNoInit
  else if !calls.getEntries then .error .errInvalidValue
  else
    match found with
    | none => .error .errGetExitInfoFailed
    | some (accessTokenId, cacheInfo) =>
      if toKey accessTokenId ∈ keys then .ok none else .ok (some (accessTokenId, cacheInfo))

def setSignalReason (now : Int64) (accessTokenId : UInt32) (cacheInfo : ExitCacheInfo)
    (signal : Int32) : ErrCode × Option (String × Json) :=
  let exitReason : ExitReason := { reason := reasonNormal, subReason := signal }
  let (ret, submitted) := setAppExitReason calls now cacheInfo.bundleName accessTokenId
    cacheInfo.abilityNames exitReason cacheInfo.exitInfo false
  (if ret = .errOk then .errOk else .errRecordSignalReasonFailed, submitted)

def recordSignalReason (now : Int64) (signal : Int32) : ErrCode × Option (String × Json) :=
  match lookForRecord calls keys found with
  | .error code => (code, none)
  | .ok none => (.errOk, none)
  | .ok (some (accessTokenId, cacheInfo)) =>
    setSignalReason calls now accessTokenId cacheInfo signal

end RecordSignalReason

end AbilityRuntime.AppExitReason
