import AbilityRuntime.CliFunction.FunctionData

set_option autoImplicit false

namespace AbilityRuntime.CliFunction

open Library Function String List

/-! ### The functions as a map -/

abbrev FunctionMap := String × String -> Option FunctionInfo

def FunctionInfo.mapKey (function : FunctionInfo) : String × String :=
  (function.functionNamespace, function.functionName)

def lastOf (functions : List FunctionInfo) (key : String × String) : Option FunctionInfo :=
  functions.reverse.find? (·.mapKey = key)

namespace FunctionMap

section

variable (map : FunctionMap)

def accept (function : FunctionInfo) : FunctionMap :=
  Function.update map function.mapKey (some function)

def acceptAll (functions : List FunctionInfo) : FunctionMap :=
  functions.foldl accept map

def forget (keys : List String) : FunctionMap := fun key =>
  if generateFunctionKey key.1 key.2 ∈ keys then none else map key

theorem acceptAll_apply (functions : List FunctionInfo)
    (key : String × String) : map.acceptAll functions key = (lastOf functions key).or (map key) := by
  induction functions generalizing map with
  | nil => rfl
  | cons function rest ih =>
    have unfolded : map.acceptAll (function :: rest) = (map.accept function).acceptAll rest := rfl
    rw [unfolded, ih, lastOf, lastOf, reverse_cons, find?_append, Option.or_assoc]
    by_cases same : key = function.mapKey
    · simp [accept, same]
    · simp [accept, update_of_ne same, Ne.symm same]

theorem forget_forget (first second : List String) :
    (map.forget first).forget second = map.forget (first ++ second) := by
  funext key
  by_cases inSecond : generateFunctionKey key.1 key.2 ∈ second <;>
    simp [forget, inSecond]

end

end FunctionMap

/-- What a reset of a namespace may do with the functions of its request that are valid. -/
structure ResetRule (functionNamespace : String) (valid : List FunctionInfo)
    (before : FunctionMap) (reply : Reply) (after : FunctionMap) : Prop where
  others : ∀ key, key.1 ≠ functionNamespace -> after key = before key
  complete : reply.code = .ok -> (∀ function ∈ valid, function.functionNamespace =
    functionNamespace) ∧ ∀ name, after (functionNamespace, name) =
      lastOf valid (functionNamespace, name)
  storing : reply.code ≠ .ok -> reply.successCount < valid.length ->
    after = before.acceptAll (valid.take reply.successCount) ∧
      ∀ key, before key ≠ none -> after key ≠ none
  deleting : reply.code ≠ .ok -> ∀ key,
    after key = before.acceptAll (valid.take reply.successCount) key ∨
      reply.successCount = valid.length ∧ lastOf valid key = none ∧ after key = none

def ReadRule (step : FunctionStep) (map : FunctionMap) (reply : Reply) : Prop :=
  match step.call with
  | .getFunctionInfo functionNamespace functionName =>
    (reply.code = .ok -> ∃ function, reply.functions = [function] ∧
      map (functionNamespace, functionName) = some function) ∧
    (reply.code = .errFunctionNotExist -> map (functionNamespace, functionName) = none) ∧
    ((∀ answer ∈ step.answers, answer ≠ .fails) -> step.caller.queries = .ok ->
      reply.code = .ok ∨ reply.code = .errFunctionNotExist)
  | .getAllFunctions =>
    (reply.code = .ok -> reply.functions.Nodup ∧
      ∀ function, function ∈ reply.functions ↔ map function.mapKey = some function) ∧
    ((∀ answer ∈ step.answers, answer ≠ .fails) -> step.caller.queries = .ok ->
      (∀ functions : List FunctionInfo, functions.Nodup ->
        (∀ function ∈ functions, map function.mapKey = some function) ->
        functions.length ≤ MAX_FUNCTION_INFO_COUNT) ->
      reply.code = .ok)
  | _ => True

def MapStep (text : JsonText) (before : FunctionMap) (step : FunctionStep) (reply : Reply)
    (after : FunctionMap) : Prop :=
  match step.call with
  | .registerFunction function =>
    if reply.code = .ok then function.validate text = true ∧ after = before.accept function
    else after = before
  | .batchRegisterFunctions functions =>
    let (code, functionList) := toFunctionInfoVec text functions
    let valid := functionList.filter (·.validate text)
    if code = .ok then
      after = before.acceptAll (valid.take reply.successCount) ∧
        (reply.code = .ok -> reply.successCount = valid.length)
    else reply.code ≠ .ok ∧ after = before
  | .unregisterFunction functionNamespace functionName =>
    if reply.code = .ok then
      after = Function.update before (functionNamespace, functionName) none
    else after = before
  | .unregisterIntentFunctionsByNamespace functionNamespace =>
    (∀ key, key.1 ≠ functionNamespace -> after key = before key) ∧
    (∀ key, after key = before key ∨ after key = none) ∧
    (reply.code = .ok -> ∀ name, after (functionNamespace, name) = none)
  | .resetNamespaceFunctions functionNamespace functions =>
    let (code, functionList) := toFunctionInfoVec text functions
    if code = .ok then
      ResetRule functionNamespace (functionList.filter (·.validate text)) before reply after
    else reply.code ≠ .ok ∧ after = before
  | .getFunctionInfo _ _ | .getAllFunctions => ReadRule step before reply ∧ after = before

inductive MapRun (text : JsonText) : List (FunctionStep × Reply) -> FunctionMap -> Prop where
  | start : MapRun text [] fun _ => none
  | step {replies : List (FunctionStep × Reply)} {before after : FunctionMap}
      {step : FunctionStep} {reply : Reply} (run : MapRun text replies before)
      (taken : MapStep text before step reply after) :
      MapRun text (replies ++ [(step, reply)]) after

/-! ### How the store holds the map -/

section Represents

variable {text : JsonText}

theorem split_unique {before before' after after' : List Char} {mark : Char}
    (equal : before ++ mark :: after = before' ++ mark :: after')
    (absentBefore : mark ∉ before') (absentAfter : mark ∉ after') :
    before = before' ∧ after = after' := by
  obtain ⟨middle, rfl, rest⟩ | ⟨middle, rfl, rest⟩ := append_eq_append_iff.mp equal
  · cases middle with
    | nil => exact ⟨by simp, by simpa using rest⟩
    | cons first middle =>
      obtain ⟨rfl, _⟩ := cons.inj rest
      exact absurd (by simp) absentBefore
  · cases middle with
    | nil => exact ⟨by simp, by simpa using rest.symm⟩
    | cons first middle =>
      obtain ⟨rfl, later⟩ := cons.inj rest
      exact absurd (by simp [later]) absentAfter

theorem toList_generateFunctionKey (functionNamespace functionName : String) :
    (generateFunctionKey functionNamespace functionName).toList =
      functionNamespace.toList ++ '/' :: functionName.toList := by
  rw [generateFunctionKey, toList_append, toList_append, List.append_assoc]
  rfl

variable {function : FunctionInfo}

section

variable (valid : function.validate text = true)
include valid

theorem validate_slash :
    '/' ∉ function.functionNamespace.toList ∧ '/' ∉ function.functionName.toList := by
  simp only [FunctionInfo.validate, Bool.and_eq_true, decide_eq_true_eq] at valid
  exact ⟨valid.1.1.2, valid.1.1.1.2⟩

theorem generateFunctionKey_eq {key : String × String} :
    generateFunctionKey key.1 key.2 = function.storeKey ↔ key = function.mapKey := by
  obtain ⟨inNamespace, inName⟩ := validate_slash valid
  constructor
  · intro equal
    have texts := congrArg toList equal
    rw [FunctionInfo.storeKey, toList_generateFunctionKey, toList_generateFunctionKey] at texts
    obtain ⟨space, name⟩ := split_unique texts inNamespace inName
    exact Prod.ext (toList_inj.mp space) (toList_inj.mp name)
  · rintro rfl
    rfl

theorem isPrefixOf_storeKey (functionNamespace : String) :
    (functionNamespace ++ "/").toList.isPrefixOf function.storeKey.toList = true ↔
      function.functionNamespace = functionNamespace := by
  obtain ⟨inNamespace, inName⟩ := validate_slash valid
  have slash : (functionNamespace ++ "/").toList = functionNamespace.toList ++ ['/'] := by
    rw [toList_append]
    rfl
  rw [List.isPrefixOf_iff_prefix, FunctionInfo.storeKey, toList_generateFunctionKey, slash]
  constructor
  · rintro ⟨rest, equal⟩
    rw [List.append_assoc] at equal
    exact (toList_inj.mp (split_unique equal inNamespace inName).1).symm
  · rintro rfl
    exact ⟨function.functionName.toList, by simp⟩

theorem readFunction_dump (lossless : text.Lossless function.parseToJson) :
    readFunction text (text.dump function.parseToJson) = some function := by
  rw [readFunction, lossless (canonical_parseToJson function), Option.bind_some,
    parseFromJson_parseToJson valid]

end

/-- The store has the functions of the map as documents under their keys, and nothing else. -/
structure Represents (text : JsonText) (entries : KeyedMap String String) (map : FunctionMap) :
    Prop where
  stored : ∀ key value, entries.lookup key = some value ↔ ∃ function,
    map function.mapKey = some function ∧ function.storeKey = key ∧
      text.dump function.parseToJson = value
  sound : ∀ key function, map key = some function -> function.mapKey = key ∧
    function.validate text = true ∧ text.Lossless function.parseToJson

namespace Represents

variable {entries : KeyedMap String String} {map : FunctionMap}

theorem empty : Represents text ∅ fun _ => none where
  stored := by simp
  sound := by simp

section

variable (represents : Represents text entries map)
include represents

theorem insert {function : FunctionInfo} (valid : function.validate text = true)
    (lossless : text.Lossless function.parseToJson) :
    Represents text (entries.insert function.storeKey (text.dump function.parseToJson))
      (map.accept function) where
  stored := by
    intro key value
    rw [KeyedMap.lookup_insert_eq]
    split
    next same =>
      subst same
      constructor
      · rintro ⟨⟩
        exact ⟨function, by simp [FunctionMap.accept], rfl, rfl⟩
      · rintro ⟨other, held, sameKey, rfl⟩
        have equal : other.mapKey = function.mapKey := (generateFunctionKey_eq valid).mp sameKey
        rw [FunctionMap.accept, equal, update_self] at held
        cases held
        rfl
    next ne =>
      rw [represents.stored]
      refine exists_congr fun other => and_congr_left fun ⟨sameKey, _⟩ => ?_
      have apart : other.mapKey ≠ function.mapKey := by
        intro equal
        have keys : other.storeKey = function.storeKey := (generateFunctionKey_eq valid).mpr equal
        exact ne (sameKey.symm.trans keys)
      rw [FunctionMap.accept, update_of_ne apart]
  sound := by
    intro key other held
    rw [FunctionMap.accept] at held
    by_cases same : key = function.mapKey
    · rw [same, update_self] at held
      cases held
      exact ⟨same.symm, valid, lossless⟩
    · rw [update_of_ne same] at held
      exact represents.sound key other held

theorem erase (key : String) : Represents text (entries.erase key) (map.forget [key]) where
  stored := by
    intro other value
    rw [KeyedMap.lookup_erase_eq]
    split
    next same =>
      subst same
      constructor
      · exact nofun
      · rintro ⟨function, held, sameKey, _⟩
        have named : generateFunctionKey function.mapKey.1 function.mapKey.2 = other := sameKey
        rw [FunctionMap.forget, if_pos (by simp [named])] at held
        cases held
    next ne =>
      rw [represents.stored]
      refine exists_congr fun function => and_congr_left fun ⟨sameKey, _⟩ => ?_
      have named : generateFunctionKey function.mapKey.1 function.mapKey.2 = other := sameKey
      rw [FunctionMap.forget, named, if_neg (by simpa using ne)]
  sound := by
    intro other function held
    rw [FunctionMap.forget] at held
    split at held
    · cases held
    · exact represents.sound other function held

theorem lookup_generateFunctionKey
    (key : String × String) : entries.lookup (generateFunctionKey key.1 key.2) =
      (map key).map fun function => text.dump function.parseToJson := by
  cases held : map key with
  | some function =>
    obtain ⟨same, valid, _⟩ := represents.sound key function held
    subst same
    exact (represents.stored _ _).mpr ⟨function, held, rfl, rfl⟩
  | none =>
    cases found : entries.lookup (generateFunctionKey key.1 key.2) with
    | none => rfl
    | some value =>
      obtain ⟨function, present, sameKey, _⟩ := (represents.stored _ _).mp found
      have valid := (represents.sound _ function present).2.1
      rw [(generateFunctionKey_eq valid).mp sameKey.symm] at held
      rw [present] at held
      cases held

theorem forget_missing {key : String}
    (missing : entries.lookup key = none) : map.forget [key] = map := by
  funext other
  rw [FunctionMap.forget]
  split
  next same =>
    rw [mem_singleton] at same
    rw [<- same, represents.lookup_generateFunctionKey] at missing
    exact (Option.map_eq_none_iff.mp missing).symm
  · rfl

theorem forget_generateFunctionKey (key : String × String) :
    map.forget [generateFunctionKey key.1 key.2] = update map key none := by
  funext other
  rw [FunctionMap.forget]
  by_cases same : other = key
  · simp [same]
  · rw [update_of_ne same]
    split
    next equal =>
      cases held : map other with
      | none => rfl
      | some function =>
        obtain ⟨sameKey, valid, _⟩ := represents.sound other function held
        subst sameKey
        exact absurd ((generateFunctionKey_eq valid).mp (mem_singleton.mp equal).symm).symm same
    · rfl

end

end Represents

end Represents

end AbilityRuntime.CliFunction
