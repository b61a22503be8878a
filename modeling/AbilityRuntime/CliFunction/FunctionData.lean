import AbilityRuntime.CliFunction.FunctionInfo
import AbilityRuntime.Library.KeyedMap
import AbilityRuntime.Library.Runs

set_option autoImplicit false

namespace AbilityRuntime.CliFunction

open Library

def FOUNDATION_UID : Int := 5523
def MAX_TIMES : Nat := 2

/-! ### The kv store -/

structure KvStore where
  opened : Bool := false
  entries : KeyedMap String String := ∅

inductive KvAnswer where
  | succeeds
  | reportsMissing
  | fails

inductive Status where
  | success
  | keyNotFound
  | failed
deriving DecidableEq, Repr

/-- The store while a call uses it. After the answers that are given it succeeds. -/
structure KvSession where
  store : KvStore
  answers : List KvAnswer := []
  entryOrder : HashOrder (String × String)
  keyOrder : HashOrder String

namespace KvSession

variable (session : KvSession)

def lookup (key : String) : Option String := session.store.entries.lookup key

def answer : KvAnswer × KvSession :=
  match session.answers with
  | [] => (.succeeds, session)
  | first :: rest => (first, { session with answers := rest })

def withEntries (entries : KeyedMap String String) : KvSession :=
  { session with store := { session.store with entries } }

def getKvStore : Status × KvSession :=
  match session.answer with
  | (.fails, session) => (.failed, session)
  | (_, session) => (.success, { session with store := { session.store with opened := true } })

def tryKvStore : Nat -> KvSession -> Bool × KvSession
  | 0, session => (session.store.opened, session)
  | tryTimes + 1, session =>
    match session.getKvStore with
    | (.success, session) => (true, session)
    | (_, session) => tryKvStore tryTimes session

def checkKvStore : Bool × KvSession :=
  if session.store.opened then (true, session) else tryKvStore MAX_TIMES session

def get (key : String) : Except Status String × KvSession :=
  match session.answer with
  | (.fails, session) => (.error .failed, session)
  | (_, session) =>
    match session.lookup key with
    | none => (.error .keyNotFound, session)
    | some value => (.ok value, session)

def put (key value : String) : Status × KvSession :=
  match session.answer with
  | (.fails, session) => (.failed, session)
  | (_, session) => (.success, session.withEntries (session.store.entries.insert key value))

def delete (key : String) : Status × KvSession :=
  match session.answer with
  | (.fails, session) => (.failed, session)
  | (.reportsMissing, session) =>
    if (session.lookup key).isNone then (.keyNotFound, session)
    else (.success, session.withEntries (session.store.entries.erase key))
  | (.succeeds, session) => (.success, session.withEntries (session.store.entries.erase key))

def getEntries (prefixKey : String) : Option (List (String × String)) × KvSession :=
  match session.answer with
  | (.fails, session) => (none, session)
  | (_, session) =>
    (some (session.entryOrder.arrange
      ((session.store.entries.entries.map fun entry => (entry.1, entry.2)).filter fun entry =>
        prefixKey.toList.isPrefixOf entry.1.toList)), session)

end KvSession

/-! ### The data manager -/

section Manager

variable (text : JsonText)

def generateFunctionKey (functionNamespace functionName : String) : String :=
  functionNamespace ++ "/" ++ functionName

def FunctionInfo.storeKey (function : FunctionInfo) : String :=
  generateFunctionKey function.functionNamespace function.functionName

def readFunction (value : String) : Option FunctionInfo :=
  (text.parse value).bind fun json =>
    match parseFromJson text json {} with
    | (true, function) => some function
    | (false, _) => none

def storeFunctionNoLock (function : FunctionInfo) (session : KvSession) : ErrCode × KvSession :=
  match session.put function.storeKey (text.dump function.parseToJson) with
  | (.success, session) => (.ok, session)
  | (_, session) => (.errKvstoreError, session)

-- What is there already is overwritten; asking for it has no other use.
def registerFunction (function : FunctionInfo) (session : KvSession) : ErrCode × KvSession :=
  match session.checkKvStore with
  | (false, session) => (.errNoInit, session)
  | (true, session) => storeFunctionNoLock text function (session.get function.storeKey).2

def storeFunctions : List FunctionInfo -> Nat -> KvSession -> Nat × KvSession
  | [], successCount, session => (successCount, session)
  | function :: rest, successCount, session =>
    match session.checkKvStore with
    | (false, session) => (successCount, session)
    | (true, session) =>
      match storeFunctionNoLock text function session with
      | (.ok, session) => storeFunctions rest (successCount + 1) session
      | (_, session) => (successCount, session)

def batchRegisterFunctions (functions : List FunctionInfo) (session : KvSession) :
    ErrCode × Nat × KvSession :=
  if functions = [] then (.errInvalidParam, 0, session)
  else
    let (successCount, session) := storeFunctions text functions 0 session
    if successCount = functions.length then (.ok, successCount, session)
    else (.errKvstoreError, successCount, session)

def getFunctionByName (functionNamespace functionName : String) (session : KvSession) :
    Except ErrCode FunctionInfo × KvSession :=
  match session.checkKvStore with
  | (false, session) => (.error .errNoInit, session)
  | (true, session) =>
    match session.get (generateFunctionKey functionNamespace functionName) with
    | (.error .keyNotFound, session) => (.error .errFunctionNotExist, session)
    | (.error _, session) => (.error .errKvstoreError, session)
    | (.ok value, session) =>
      match readFunction text value with
      | none => (.error .errJsonParseFailed, session)
      | some function => (.ok function, session)

def isIntentFunction (value : String) : Bool :=
  (readFunction text value).any (·.functionType = .intentFunction)

def getExistingIntentFunctions (functionNamespace : String) (session : KvSession) :
    Except ErrCode (List String) × KvSession :=
  match session.checkKvStore with
  | (false, session) => (.error .errNoInit, session)
  | (true, session) =>
    match session.getEntries (functionNamespace ++ "/") with
    | (none, session) => (.error .errKvstoreError, session)
    | (some entries, session) =>
      (.ok ((entries.filter fun entry => isIntentFunction text entry.2).map Prod.fst), session)

/-- The keys of the functions so far, how many were stored, and what ended it. -/
structure Added where
  code : ErrCode
  newKeys : List String
  successCount : Nat
  session : KvSession

def addNewFunctions : List FunctionInfo -> List String -> Nat -> KvSession -> Added
  | [], newKeys, successCount, session => ⟨.ok, newKeys, successCount, session⟩
  | function :: rest, newKeys, successCount, session =>
    if function.functionType ≠ .intentFunction then
      addNewFunctions rest newKeys successCount session
    else
      match session.checkKvStore with
      | (false, session) => ⟨.errNoInit, newKeys, successCount, session⟩
      | (true, session) =>
        match storeFunctionNoLock text function session with
        | (.ok, session) =>
          addNewFunctions rest (newKeys ++ [function.storeKey]) (successCount + 1) session
        | (error, session) => ⟨error, newKeys ++ [function.storeKey], successCount, session⟩

def deleteObsoleteFunctions (newKeys : List String) : List String → KvSession → ErrCode × KvSession
  | [], session => (.ok, session)
  | oldKey :: rest, session =>
    if oldKey ∈ newKeys then deleteObsoleteFunctions newKeys rest session
    else
      match session.checkKvStore with
      | (false, session) => (.errNoInit, session)
      | (true, session) =>
        match session.delete oldKey with
        | (.failed, session) => (.errKvstoreError, session)
        | (_, session) => deleteObsoleteFunctions newKeys rest session

def unregisterFunction (functionNamespace functionName : String) (session : KvSession) :
    ErrCode × KvSession :=
  match session.checkKvStore with
  | (false, session) => (.errNoInit, session)
  | (true, session) =>
    match session.delete (generateFunctionKey functionNamespace functionName) with
    | (.success, session) => (.ok, session)
    | (.keyNotFound, session) => (.errFunctionNotExist, session)
    | (.failed, session) => (.errKvstoreError, session)

def deleteIntentFunctions : List (String × String) -> KvSession -> ErrCode × KvSession
  | [], session => (.ok, session)
  | entry :: rest, session =>
    match session.checkKvStore with
    | (false, session) => (.ok, session)
    | (true, session) =>
      if !isIntentFunction text entry.2 then deleteIntentFunctions rest session
      else
        match session.delete entry.1 with
        | (.failed, session) => (.errKvstoreError, session)
        | (_, session) => deleteIntentFunctions rest session

def unregisterIntentFunctionsByNamespace (functionNamespace : String) (session : KvSession) :
    ErrCode × KvSession :=
  match session.checkKvStore with
  | (false, session) => (.errNoInit, session)
  | (true, session) =>
    match session.getEntries (functionNamespace ++ "/") with
    | (none, session) => (.errKvstoreError, session)
    | (some allEntries, session) => deleteIntentFunctions text allEntries session

def getAllFunctions (session : KvSession) : Except ErrCode (List FunctionInfo) × KvSession :=
  match session.checkKvStore with
  | (false, session) => (.error .errNoInit, session)
  | (true, session) =>
    match session.getEntries "" with
    | (none, session) => (.error .errKvstoreError, session)
    | (some allEntries, session) =>
      (.ok (allEntries.filterMap fun entry => readFunction text entry.2), session)

def resetNamespaceFunctions (functionNamespace : String) (functions : List FunctionInfo)
    (session : KvSession) : ErrCode × Nat × KvSession :=
  if functionNamespace = "" then (.errInvalidParam, 0, session)
  else
    match getExistingIntentFunctions text functionNamespace session with
    | (.error error, session) => (error, 0, session)
    | (.ok existingKeys, session) =>
      let added := addNewFunctions text functions [] 0 session
      if added.code ≠ .ok then (added.code, added.successCount, added.session)
      else
        let (code, session) := deleteObsoleteFunctions added.newKeys
          (session.keyOrder.arrange existingKeys) added.session
        (code, added.successCount, session)

end Manager

/-! ### The service -/

structure Caller where
  callingUid : Int
  native : Bool
  systemApp : Bool
  accessFunction : Bool

inductive FunctionCall where
  | registerFunction (function : FunctionInfo)
  | batchRegisterFunctions (functions : Bytes)
  | getFunctionInfo (functionNamespace functionName : String)
  | unregisterFunction (functionNamespace functionName : String)
  | unregisterIntentFunctionsByNamespace (functionNamespace : String)
  | resetNamespaceFunctions (functionNamespace : String) (functions : Bytes)
  | getAllFunctions

structure FunctionStep where
  call : FunctionCall
  caller : Caller
  answers : List KvAnswer := []
  entryOrder : HashOrder (String × String)
  keyOrder : HashOrder String

structure Reply where
  code : ErrCode
  successCount : Nat := 0
  functions : List FunctionInfo := []

def Caller.changes (caller : Caller) : Bool := caller.callingUid = FOUNDATION_UID && caller.native

def Caller.queries (caller : Caller) : ErrCode :=
  if !caller.systemApp && !caller.native then .errNotSystemApp
  else if !caller.accessFunction then .errPermissionDenied
  else .ok

section Service

variable (text : JsonText) (session : KvSession)

def serveRegisterFunction (function : FunctionInfo) : Reply × KvSession :=
  if !function.validate text then ({ code := .errInvalidParam }, session)
  else
    let (code, session) := registerFunction text function session
    ({ code }, session)

def serveBatchRegisterFunctions (functions : Bytes) : Reply × KvSession :=
  let functionList := (toFunctionInfoVec text functions).2
  if functionList = [] then ({ code := .errInvalidParam }, session)
  else
    let validFunctions := functionList.filter (·.validate text)
    if validFunctions = [] then ({ code := .errInvalidParam }, session)
    else
      let (code, successCount, session) := batchRegisterFunctions text validFunctions session
      ({ code, successCount }, session)

def serveGetFunctionInfo (functionNamespace functionName : String) : Reply × KvSession :=
  match getFunctionByName text functionNamespace functionName session with
  | (.error code, session) => ({ code }, session)
  | (.ok function, session) => ({ code := .ok, functions := [function] }, session)

def serveResetNamespaceFunctions (functionNamespace : String) (functions : Bytes) :
    Reply × KvSession :=
  if functionNamespace = "" then ({ code := .errInvalidParam }, session)
  else
    match toFunctionInfoVec text functions with
    | (.ok, functionList) =>
      let validFunctions := functionList.filter (·.validate text)
      if validFunctions.any (·.functionNamespace ≠ functionNamespace) then
        ({ code := .errInvalidParam }, session)
      else
        let (code, successCount, session) :=
          resetNamespaceFunctions text functionNamespace validFunctions session
        ({ code, successCount }, session)
    | (code, _) => ({ code }, session)

-- More functions than a buffer may hold are not sent.
def serveGetAllFunctions : Reply × KvSession :=
  match getAllFunctions text session with
  | (.error code, session) => ({ code }, session)
  | (.ok functions, session) =>
    if MAX_FUNCTION_INFO_COUNT < functions.length then ({ code := .errInvalidValue }, session)
    else ({ code := .ok, functions }, session)

def changed (caller : Caller) (served : Reply × KvSession) : Reply × KvSession :=
  if caller.changes then served else ({ code := .errPermissionDenied }, session)

def queried (caller : Caller) (served : Reply × KvSession) : Reply × KvSession :=
  if caller.queries = .ok then served else ({ code := caller.queries }, session)

def serve (caller : Caller) : FunctionCall -> Reply × KvSession
  | .registerFunction function =>
    changed session caller (serveRegisterFunction text session function)
  | .batchRegisterFunctions functions =>
    changed session caller (serveBatchRegisterFunctions text session functions)
  | .getFunctionInfo functionNamespace functionName =>
    queried session caller (serveGetFunctionInfo text session functionNamespace functionName)
  | .unregisterFunction functionNamespace functionName =>
    let (code, after) := unregisterFunction functionNamespace functionName session
    changed session caller ({ code }, after)
  | .unregisterIntentFunctionsByNamespace functionNamespace =>
    let (code, after) := unregisterIntentFunctionsByNamespace text functionNamespace session
    changed session caller ({ code }, after)
  | .resetNamespaceFunctions functionNamespace functions =>
    changed session caller (serveResetNamespaceFunctions text session functionNamespace functions)
  | .getAllFunctions => queried session caller (serveGetAllFunctions text session)

end Service

structure FunctionService where
  store : KvStore := {}
  replies : List (FunctionStep × Reply) := []

def FunctionStep.session (step : FunctionStep) (store : KvStore) : KvSession where
  store := store
  answers := step.answers
  entryOrder := step.entryOrder
  keyOrder := step.keyOrder

def FunctionStep.serve (text : JsonText) (step : FunctionStep) (store : KvStore) :
    Reply × KvSession :=
  CliFunction.serve text (step.session store) step.caller step.call

def functionMachine (text : JsonText) : Machine FunctionService FunctionStep where
  start := {}
  step service step :=
    let (reply, session) := step.serve text service.store
    { store := session.store, replies := service.replies ++ [(step, reply)] }

end AbilityRuntime.CliFunction
