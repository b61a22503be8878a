import AbilityRuntime.Library.Json
import AbilityRuntime.Library.KeyedMap

set_option autoImplicit false

namespace AbilityRuntime.ModObjDispatcher

open Library

inductive BlankType where
  | empty
  | void

inductive SimpleType where
  | bool
  | i8
  | i16
  | i32
  | i64
  | u8
  | u16
  | u32
  | u64
  | f32
  | f64
  | string
  | enum

inductive SequenceKind where
  | array
  | vector
  | set

inductive RemoteKind where
  | proxy
  | stub

inductive ValueType where
  | blank (type : BlankType)
  | simple (type : SimpleType)
  | sequence (kind : SequenceKind)
  | map
  | struct
  | remote (kind : RemoteKind)

inductive MoTypeInfo where
  | blank (type : BlankType)
  | simple (type : SimpleType) (idlType : String)
  | sequence (kind : SequenceKind) (elementType : Option MoTypeInfo) (arraySize : UInt32)
  | map (mapKeyType : ValueType) (mapValueType : Option MoTypeInfo)
  | struct (idlType : String)
  | remote (kind : RemoteKind) (idlType : String)

namespace MoTypeInfo

def vt : MoTypeInfo -> ValueType
  | blank type => .blank type
  | simple type _ => .simple type
  | sequence kind _ _ => .sequence kind
  | map _ _ => .map
  | struct _ => .struct
  | remote kind _ => .remote kind

def idlType : MoTypeInfo -> String
  | simple _ name => name
  | struct name => name
  | remote _ name => name
  | _ => ""

end MoTypeInfo

def toLower (text : String) : String := String.ofList (text.toList.map Char.toLower)

def mapTypeStringToVt (typeName : String) : ValueType :=
  match toLower typeName with
  | "void" => .blank .void
  | "bool" | "boolean" => .simple .bool
  | "i8" | "int8" => .simple .i8
  | "i16" | "int16" => .simple .i16
  | "i32" | "int32" => .simple .i32
  | "i64" | "int64" => .simple .i64
  | "u8" | "uint8" => .simple .u8
  | "u16" | "uint16" => .simple .u16
  | "u32" | "uint32" => .simple .u32
  | "u64" | "uint64" => .simple .u64
  | "f32" | "float" => .simple .f32
  | "f64" | "double" => .simple .f64
  | "string" => .simple .string
  | "array" => .sequence .array
  | "vector" => .sequence .vector
  | "set" => .sequence .set
  | "map" => .map
  | "struct" => .struct
  | "interface" => .remote .proxy
  | "enum" => .simple .enum
  | _ => .blank .empty

def isSimpleVtType : ValueType -> Bool
  | .simple .enum => false
  | .simple _ => true
  | _ => false

def unsigned? : Json -> Option Nat
  | .integer (.ofNat value) => some value
  | _ => none

def parseTypeInfoMembers (members : List (String × Json))
    (nested : List (String × Option MoTypeInfo)) : Option MoTypeInfo :=
  match (members.lookup "type").bind Json.string? with
  | none => none
  | some typeStr =>
    match mapTypeStringToVt typeStr with
    | .blank .empty => none
    | .blank type => some (.blank type)
    | .map => do
      let keyInfo <- (nested.lookup "key_type").join
      guard (isSimpleVtType keyInfo.vt)
      let valueInfo <- (nested.lookup "value_type").join
      return .map keyInfo.vt (some valueInfo)
    | .sequence .array => do
      let size <- (members.lookup "size").bind unsigned?
      let elementInfo <- (nested.lookup "value_type").join
      return .sequence .array (some elementInfo) (UInt32.ofNat size)
    | .sequence kind => do
      let elementInfo <- (nested.lookup "value_type").join
      return .sequence kind (some elementInfo) 0
    | .simple .enum => ((members.lookup "idl_type").bind Json.string?).map (.simple .enum)
    | .simple type => some (.simple type "")
    | .struct => ((members.lookup "idl_type").bind Json.string?).map .struct
    | .remote kind => ((members.lookup "idl_type").bind Json.string?).map (.remote kind)

mutual

def parseTypeInfoFromJson : Json -> Option MoTypeInfo
  | .object members => parseTypeInfoMembers members (parseNested members)
  | _ => none

def parseNested : List (String × Json) -> List (String × Option MoTypeInfo)
  | [] => []
  | (name, member) :: rest => (name, parseTypeInfoFromJson member) :: parseNested rest

end

/-- What keeps a document from being parsed: a type error or invalid metadata. -/
inductive MetadataFailure where
  | jsonTypeError
  | metadataInvalid

abbrev Parsed (A : Type) := Except MetadataFailure A

structure MoStructFieldMeta where
  name : String
  typeInfo : Option MoTypeInfo
  memberId : UInt32

structure MoStructMeta where
  name : String
  memberId : UInt32
  fields : List MoStructFieldMeta

structure MoMethodParamMeta where
  name : String
  typeInfo : Option MoTypeInfo

structure MoMethodMeta where
  interfaceName : String
  name : String
  memberId : UInt32
  ipcCode : UInt32
  oneway : Bool
  returnType : Option MoTypeInfo
  params : List MoMethodParamMeta

structure MoEnumValueMeta where
  name : String
  value : Int32
  memberId : UInt32

structure MoEnumMeta where
  name : String
  memberId : UInt32
  values : List MoEnumValueMeta

inductive MoInterfaceType where
  | normal
  | mainService
  | callback
deriving DecidableEq, Repr

structure MoInterfaceMeta where
  name : String
  descriptor : String
  memberId : UInt32
  interfaceType : MoInterfaceType
  descriptorJson : Json
  methods : List MoMethodMeta

def MoInterfaceMeta.isMainService (interface : MoInterfaceMeta) : Bool :=
  interface.interfaceType = .mainService

/-- The members met so far: their names, their ids and the ids in use. -/
structure MemberNames where
  nameToMemberId : KeyedMap String UInt32 := ∅
  memberIdToName : KeyedMap UInt32 String := ∅
  usedIds : List UInt32 := []

-- The first entry of a name or an id stays; nothing is entered for a member without a name.
def insertNameMap (map : KeyedMap String UInt32) (key : String) (value : UInt32) :
    KeyedMap String UInt32 :=
  if key ≠ "" ∧ (map.lookup key).isNone then map.insert key value else map

def insertIdMap (map : KeyedMap UInt32 String) (key : UInt32) (value : String) :
    KeyedMap UInt32 String :=
  if value ≠ "" ∧ (map.lookup key).isNone then map.insert key value else map

namespace MemberNames

def insert (names : MemberNames) (name : String) (memberId : UInt32) : MemberNames :=
  { names with
    nameToMemberId := insertNameMap names.nameToMemberId name memberId
    memberIdToName := insertIdMap names.memberIdToName memberId name }

def claimId (names : MemberNames) (required : Bool) (memberId : UInt32) : Parsed MemberNames :=
  if memberId = 0 then
    if required then .error .metadataInvalid else .ok names
  else if memberId ∈ names.usedIds then .error .metadataInvalid
  else .ok { names with usedIds := memberId :: names.usedIds }

end MemberNames

def getMemberId (object : Json) : UInt32 :=
  match (object.member? "memberId").bind unsigned? with
  | some value => UInt32.ofNat value
  | none => 0

-- nlohmann's value(): the default where the member is missing, a type error where the value is no
-- object or the member is not of the type of the default.
def jsonValue {A : Type} (read : Json -> Option A) (default : A) (name : String) : Json -> Parsed A
  | .object members =>
    match members.lookup name with
    | none => .ok default
    | some member =>
      match read member with
      | some value => .ok value
      | none => .error .jsonTypeError
  | _ => .error .jsonTypeError

-- Any number and also a boolean is converted to an integer.
def number? : Json -> Option Int
  | .integer value => some value
  | .float whole => some whole
  | .boolean value => some (if value then 1 else 0)
  | _ => none

def stringValue : String -> Json -> Parsed String := jsonValue Json.string? ""

def boolValue : String -> Json -> Parsed Bool := jsonValue Json.boolean? false

def intValue : String -> Json -> Parsed Int := jsonValue number? 0

def typeInfoMember (name : String) (object : Json) : Parsed (Option MoTypeInfo) :=
  match object.objectMember? name with
  | none => .ok none
  | some typeInfoObj =>
    match parseTypeInfoFromJson typeInfoObj with
    | some typeInfo => .ok (some typeInfo)
    | none => .error .metadataInvalid

-- The elements of a list are parsed one after the other, each with what the earlier ones left.
def parseEach {S A B : Type} (parse : S -> A -> Parsed (S × B)) : S -> List A -> Parsed (S × List B)
  | state, [] => .ok (state, [])
  | state, first :: rest => do
    let (state, value) <- parse state first
    let (state, values) <- parseEach parse state rest
    return (state, value :: values)

def elements (name : String) (object : Json) : List Json := (object.arrayMember? name).getD []

def objects (name : String) (object : Json) : List Json := (elements name object).filter Json.isObject

def parseEnumValue (enumName : String) (names : MemberNames) (valueObj : Json) :
    Parsed (MemberNames × MoEnumValueMeta) := do
  let name <- stringValue "name" valueObj
  let value <- intValue "value" valueObj
  let memberId := getMemberId valueObj
  let names <- names.claimId false memberId
  return (names.insert (enumName ++ "." ++ name) memberId, ⟨name, Int32.ofInt value, memberId⟩)

def parseEnum (names : MemberNames) (enumObj : Json) : Parsed (MemberNames × MoEnumMeta) := do
  let name <- stringValue "name" enumObj
  let memberId := getMemberId enumObj
  let names <- names.claimId true memberId
  let names := names.insert name memberId
  let (names, values) <- parseEach (parseEnumValue name) names (elements "values" enumObj)
  return (names, ⟨name, memberId, values⟩)

def parseField (structName : String) (names : MemberNames) (fieldObj : Json) :
    Parsed (MemberNames × MoStructFieldMeta) := do
  let name <- stringValue "name" fieldObj
  let memberId := getMemberId fieldObj
  let names <- names.claimId false memberId
  let typeInfo <- typeInfoMember "type_info" fieldObj
  return (names.insert (structName ++ "." ++ name) memberId, ⟨name, typeInfo, memberId⟩)

def parseStruct (names : MemberNames) (structObj : Json) : Parsed (MemberNames × MoStructMeta) := do
  let name <- stringValue "name" structObj
  let memberId := getMemberId structObj
  let names <- names.claimId true memberId
  let names := names.insert name memberId
  let (names, fields) <- parseEach (parseField name) names (elements "fields" structObj)
  return (names, ⟨name, memberId, fields⟩)

def parseParam (methodName : String) (names : MemberNames) (paramObj : Json) :
    Parsed (MemberNames × MoMethodParamMeta) := do
  let name <- stringValue "name" paramObj
  let typeInfo <- typeInfoMember "type_info" paramObj
  let memberId := getMemberId paramObj
  let names <- names.claimId false memberId
  return (names.insert (methodName ++ "." ++ name) memberId, ⟨name, typeInfo⟩)

def parseMethod (interfaceName : String) (names : MemberNames) (methodObj : Json) :
    Parsed (MemberNames × MoMethodMeta) := do
  let name <- stringValue "name" methodObj
  let memberId := getMemberId methodObj
  let names <- names.claimId true memberId
  let ipcCode <- intValue "code" methodObj
  let oneway <- boolValue "oneway" methodObj
  let returnType <- typeInfoMember "return_type" methodObj
  let methodName := interfaceName ++ "." ++ name
  let (names, params) <- parseEach (parseParam methodName) names (elements "parameters" methodObj)
  return (names.insert methodName memberId,
    ⟨interfaceName, name, memberId, UInt32.ofInt ipcCode, oneway, returnType, params⟩)

def interfaceType? (value : UInt32) : Option MoInterfaceType :=
  if value = 0 then some .normal
  else if value = 1 then some .mainService
  else if value = 2 then some .callback
  else none

/-- The members met so far and the main service, which is empty until one with a name is met. -/
abbrev InterfaceState := MemberNames × String

-- A main service after one with a name makes the document invalid.
def parseInterface (state : InterfaceState) (interfaceObj : Json) :
    Parsed (InterfaceState × MoInterfaceMeta) := do
  let (names, mainServiceInterface) := state
  let name <- stringValue "name" interfaceObj
  let descriptor <- stringValue "descriptor" interfaceObj
  let memberId := getMemberId interfaceObj
  let names <- names.claimId true memberId
  let interfaceTypeValue <- intValue "interface_type" interfaceObj
  match interfaceType? (UInt32.ofInt interfaceTypeValue) with
  | none => .error .metadataInvalid
  | some interfaceType =>
    let names := names.insert name memberId
    let (names, methods) <- parseEach (parseMethod name) names (elements "methods" interfaceObj)
    let interface : MoInterfaceMeta :=
      ⟨name, descriptor, memberId, interfaceType, interfaceObj, methods⟩
    if interface.isMainService then
      if mainServiceInterface ≠ "" then .error .metadataInvalid
      else return ((names, name), interface)
    else return ((names, mainServiceInterface), interface)

structure Metadata where
  version : Option String
  mainServiceInterface : String
  interfaces : List MoInterfaceMeta
  enums : List MoEnumMeta
  structs : List MoStructMeta
  nameToMemberId : KeyedMap String UInt32
  memberIdToName : KeyedMap UInt32 String
  memberIdToMethod : KeyedMap UInt32 MoMethodMeta

namespace Metadata

def isIdlTypeDeclared (metadata : Metadata) (idlType : String) : Bool :=
  metadata.enums.any (·.name = idlType) || metadata.structs.any (·.name = idlType) ||
    metadata.interfaces.any (·.name = idlType)

-- A type without a name refers to nothing.
def isReferenceDeclared (metadata : Metadata) : Option MoTypeInfo -> Bool
  | none => true
  | some typeInfo => typeInfo.idlType = "" || metadata.isIdlTypeDeclared typeInfo.idlType

def areReferencesDeclared (metadata : Metadata) : Bool :=
  metadata.structs.all (fun struct =>
    struct.fields.all fun field => metadata.isReferenceDeclared field.typeInfo) &&
  metadata.interfaces.all fun interface => interface.methods.all fun method =>
    metadata.isReferenceDeclared method.returnType &&
      method.params.all fun param => metadata.isReferenceDeclared param.typeInfo

end Metadata

def memberIdToMethod (interfaces : List MoInterfaceMeta) : KeyedMap UInt32 MoMethodMeta :=
  (interfaces.flatMap (·.methods)).foldl (fun map method => map.insert method.memberId method) ∅

def parseRoot (root : Json) : Parsed Metadata := do
  let (names, enums) <- parseEach parseEnum {} (objects "enums" root)
  let (names, structs) <- parseEach parseStruct names (objects "structs" root)
  let ((names, mainServiceInterface), interfaces) <-
    parseEach parseInterface (names, "") (objects "interfaces" root)
  let metadata : Metadata :=
    { version := root.stringMember? "version"
      mainServiceInterface
      interfaces
      enums
      structs
      nameToMemberId := names.nameToMemberId
      memberIdToName := names.memberIdToName
      memberIdToMethod := memberIdToMethod interfaces }
  if mainServiceInterface = "" then .error .metadataInvalid
  else if metadata.areReferencesDeclared then return metadata
  else .error .metadataInvalid

-- A text that is no JSON document is discarded.
def parseMetadata : Option Json -> Parsed Metadata
  | some (.object members) => parseRoot (.object members)
  | _ => .error .metadataInvalid

end AbilityRuntime.ModObjDispatcher
