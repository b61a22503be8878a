import AbilityRuntime.Library.ByteStream
import AbilityRuntime.Library.Json

set_option autoImplicit false

namespace AbilityRuntime.CliFunction

open Library List

def MAX_FUNCTION_INFO_COUNT : Nat := 200 * 1000
def MAX_SCHEMA_STRING_LENGTH : Nat := 16 * 1024

inductive ErrCode where
  | ok
  | errInvalidValue
  | errInvalidParam
  | errJsonParseFailed
  | errPermissionDenied
  | errNotSystemApp
  | errNoInit
  | errKvstoreError
  | errFunctionNotExist
deriving DecidableEq, Repr

-- The source's END only bounds the values; no function has it.
inductive FunctionType where
  | intentFunction
deriving DecidableEq, Repr

def FunctionType.value : FunctionType -> Int
  | intentFunction => 0

def FunctionType.ofValue (value : Int) : Option FunctionType :=
  if value = 0 then some intentFunction else none

structure FunctionInfo where
  functionName : String := ""
  functionNamespace : String := ""
  version : String := ""
  description : String := ""
  inputSchema : String := ""
  outputSchema : String := ""
  functionType : FunctionType := .intentFunction
deriving DecidableEq, Repr

/-- What a parser of a field does to the function that it fills; it may fail after it did. -/
abbrev FieldParser := FunctionInfo -> Bool × FunctionInfo

def FieldParser.andThen (first second : FieldParser) : FieldParser := fun function =>
  match first function with
  | (true, function) => second function
  | (false, function) => (false, function)

section Parse

variable (text : JsonText) (json : Json)

def parseRequiredStringField (fieldName : String) (allowEmpty : Bool)
    (assign : FunctionInfo -> String -> FunctionInfo) : FieldParser := fun function =>
  match json.stringMember? fieldName with
  | none => (false, function)
  | some output => (allowEmpty || output ≠ "", assign function output)

def acceptsSchema (schema : String) : Bool :=
  schema = "" || schema.utf8ByteSize ≤ MAX_SCHEMA_STRING_LENGTH && (text.parse schema).isSome

def parseSchema (fieldName : String) (assign : FunctionInfo -> String -> FunctionInfo) :
    FieldParser := fun function =>
  match json.member? fieldName with
  | none => (true, function)
  | some (.string output) => (acceptsSchema text output, assign function output)
  | some _ => (false, function)

def parseInputSchema : FieldParser :=
  parseSchema text json "inputSchema" fun function output => { function with inputSchema := output }

def parseOutputSchema : FieldParser :=
  parseSchema text json "outputSchema"
    fun function output => { function with outputSchema := output }

def parseFunctionType : FieldParser := fun function =>
  match json.member? "functionType" with
  | some (.integer value) =>
    match FunctionType.ofValue value with
    | none => (false, function)
    | some functionType => (true, { function with functionType })
  | _ => (false, function)

def parseFromJson : FieldParser :=
  (parseRequiredStringField json "functionName" false
      fun function output => { function with functionName := output }).andThen <|
    (parseRequiredStringField json "functionNamespace" false
      fun function output => { function with functionNamespace := output }).andThen <|
    (parseRequiredStringField json "version" true
      fun function output => { function with version := output }).andThen <|
    (parseRequiredStringField json "description" true
      fun function output => { function with description := output }).andThen <|
    (parseInputSchema text json).andThen <|
    (parseOutputSchema text json).andThen <|
    parseFunctionType json

end Parse

namespace FunctionInfo

def schemaMember (name schema : String) : List (String × Json) :=
  if schema = "" then [] else [(name, .string schema)]

def parseToJson (function : FunctionInfo) : Json :=
  .ofMembers
    ([("functionName", .string function.functionName),
      ("functionNamespace", .string function.functionNamespace),
      ("version", .string function.version), ("description", .string function.description)] ++
    schemaMember "inputSchema" function.inputSchema ++
    schemaMember "outputSchema" function.outputSchema ++
    [("functionType", .integer function.functionType.value)])

def validate (text : JsonText) (function : FunctionInfo) : Bool :=
  function.functionName ≠ "" && function.functionNamespace ≠ "" &&
    '/' ∉ function.functionName.toList && '/' ∉ function.functionNamespace.toList &&
    acceptsSchema text function.inputSchema && acceptsSchema text function.outputSchema

end FunctionInfo

/-! ### Functions in a buffer -/

section RawData

variable (text : JsonText)

def readRaw (stream : StringStream) (count : Nat) : Option Bytes × StringStream :=
  let (bytes, stream) := stream.read count
  if stream.good then (some bytes, stream) else (none, stream)

def parseBytes (bytes : Bytes) : Option Json :=
  (String.fromUTF8? ⟨bytes.toArray⟩).bind text.parse

def readItemToJson (ssLength : Nat) (stream : StringStream) : Except ErrCode Json × StringStream :=
  match readRaw stream 4 with
  | (none, stream) => (.error .errInvalidValue, stream)
  | (some size, stream) =>
    let itemSize := leValue size
    let curPos := stream.tellg
    if curPos < 0 ∨ (ssLength : Int) < curPos ∨ (ssLength : Int) - curPos < itemSize then
      (.error .errInvalidValue, stream)
    else
      match readRaw stream itemSize with
      | (none, stream) => (.error .errInvalidValue, stream)
      | (some itemStr, stream) =>
        match parseBytes text itemStr with
        | none => (.error .errJsonParseFailed, stream)
        | some json => (.ok json, stream)

-- A document that is refused may have filled some of the fields before.
def readOneItem (ssLength : Nat) (stream : StringStream) : ErrCode × FunctionInfo × StringStream :=
  match readItemToJson text ssLength stream with
  | (.error error, stream) => (error, {}, stream)
  | (.ok json, stream) =>
    match parseFromJson text json {} with
    | (true, function) => (.ok, function, stream)
    | (false, function) => (.errJsonParseFailed, function, stream)

/-- The functions are there from the start, so what is not read any more is there as it began. -/
def readItems (ssLength : Nat) : Nat -> StringStream -> List FunctionInfo ->
    ErrCode × List FunctionInfo
  | 0, _, functions => (.ok, functions)
  | left + 1, stream, functions =>
    match readOneItem text ssLength stream with
    | (.ok, function, stream) => readItems ssLength left stream (functions ++ [function])
    | (error, function, _) => (error, functions ++ function :: replicate left {})

def toFunctionInfoVec (rawData : Bytes) : ErrCode × List FunctionInfo :=
  if rawData = [] then (.ok, [])
  else
    match readRaw { written := rawData } 4 with
    | (none, _) => (.errInvalidValue, [])
    | (some count, stream) =>
      if MAX_FUNCTION_INFO_COUNT < leValue count then (.errInvalidValue, [])
      else readItems text rawData.length (leValue count) stream []

end RawData

/-! ### What was written is read back -/

section ReadBack

variable {text : JsonText} {function : FunctionInfo}

theorem canonical_parseToJson (function : FunctionInfo) : function.parseToJson.Canonical := by
  refine Json.canonical_ofMembers fun entry member => ?_
  simp only [mem_append, mem_cons, not_mem_nil, or_false, FunctionInfo.schemaMember] at member
  obtain (((rfl | rfl | rfl | rfl) | schema) | schema) | rfl := member
  case inl.inl.inr | inl.inr =>
    split at schema
    · cases schema
    · rw [mem_singleton.mp schema]
      trivial
  all_goals trivial

theorem member?_parseToJson (function : FunctionInfo) (name : String) :
    function.parseToJson.member? name =
      if name = "functionType" then some (.integer function.functionType.value)
      else if name = "outputSchema" ∧ function.outputSchema ≠ "" then
        some (.string function.outputSchema)
      else if name = "inputSchema" ∧ function.inputSchema ≠ "" then
        some (.string function.inputSchema)
      else if name = "description" then some (.string function.description)
      else if name = "version" then some (.string function.version)
      else if name = "functionNamespace" then some (.string function.functionNamespace)
      else if name = "functionName" then some (.string function.functionName)
      else none := by
  rw [FunctionInfo.parseToJson, Json.member?_ofMembers]
  by_cases noInput : function.inputSchema = "" <;> by_cases noOutput : function.outputSchema = "" <;>
    simp [FunctionInfo.schemaMember, noInput, noOutput, lookup_entry]

theorem parseRequiredStringField_written {name : String} {allowEmpty : Bool} {output : String}
    {assign : FunctionInfo -> String -> FunctionInfo} {json : Json} (filled : FunctionInfo)
    (held : json.member? name = some (.string output))
    (allowed : allowEmpty = true ∨ output ≠ "") :
    parseRequiredStringField json name allowEmpty assign filled = (true, assign filled output) := by
  have found : json.stringMember? name = some output := by
    rw [Json.stringMember?, held]
    rfl
  rw [parseRequiredStringField, found]
  simpa using allowed

theorem parseSchema_written {name output : String}
    {assign : FunctionInfo -> String -> FunctionInfo} {json : Json} {filled : FunctionInfo}
    (held : json.member? name = if output ≠ "" then some (.string output) else none)
    (accepted : acceptsSchema text output = true) (blank : assign filled "" = filled) :
    parseSchema text json name assign filled = (true, assign filled output) := by
  rw [parseSchema, held]
  by_cases empty : output = ""
  · simp [empty, blank]
  · simp [empty, accepted]

theorem parseFromJson_parseToJson (valid : function.validate text = true) :
    parseFromJson text function.parseToJson {} = (true, function) := by
  simp only [FunctionInfo.validate, Bool.and_eq_true, decide_eq_true_eq] at valid
  obtain ⟨⟨⟨⟨⟨name, space⟩, _⟩, _⟩, input⟩, output⟩ := valid
  have held := member?_parseToJson function
  have nameHeld : function.parseToJson.member? "functionName" =
      some (.string function.functionName) := by simp [held]
  have spaceHeld : function.parseToJson.member? "functionNamespace" =
      some (.string function.functionNamespace) := by simp [held]
  have versionHeld : function.parseToJson.member? "version" =
      some (.string function.version) := by simp [held]
  have descriptionHeld : function.parseToJson.member? "description" =
      some (.string function.description) := by simp [held]
  have typeHeld : function.parseToJson.member? "functionType" =
      some (.integer function.functionType.value) := by simp [held]
  simp only [parseFromJson, FieldParser.andThen,
    parseRequiredStringField_written _ nameHeld (.inr name),
    parseRequiredStringField_written _ spaceHeld (.inr space),
    parseRequiredStringField_written _ versionHeld (.inl rfl),
    parseRequiredStringField_written _ descriptionHeld (.inl rfl)]
  rw [parseInputSchema, parseSchema_written (by simp [held]) input rfl]
  simp only
  rw [parseOutputSchema, parseSchema_written (by simp [held]) output rfl]
  simp only [parseFunctionType, typeHeld]
  rfl

end ReadBack

end AbilityRuntime.CliFunction
