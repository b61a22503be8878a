import AbilityRuntime.ModObjDispatcher.MetadataManager

set_option autoImplicit false

namespace AbilityRuntime.ModObjDispatcher

open Library List Json Except MemberNames

inductive Check where
  | reads (readable : Bool)
  | valid (accepted : Bool)
  | id (required : Bool) (memberId : UInt32)

namespace Check

def run (usedIds : List UInt32) : Check -> Parsed (List UInt32)
  | reads readable => if readable then .ok usedIds else .error .jsonTypeError
  | valid accepted => if accepted then .ok usedIds else .error .metadataInvalid
  | id required memberId =>
    if memberId = 0 then
      if required then .error .metadataInvalid else .ok usedIds
    else if memberId ∈ usedIds then .error .metadataInvalid
    else .ok (memberId :: usedIds)

def Holds : Check -> Prop
  | reads readable => readable = true
  | valid accepted => accepted = true
  | id required memberId => required = true -> memberId ≠ 0

def id? : Check -> Option UInt32
  | id _ memberId => if memberId = 0 then none else some memberId
  | _ => none

def requiredId? : Check -> Option UInt32
  | id true memberId => some memberId
  | _ => none

end Check

def verdict (usedIds : List UInt32) (checks : List Check) : Parsed (List UInt32) :=
  checks.foldlM Check.run usedIds

structure Pass (checks : List Check) : Prop where
  held : ∀ check ∈ checks, check.Holds
  distinct : (checks.filterMap Check.id?).Nodup

/-- A member as the name maps get it, with id 0 where it has none. -/
structure Member where
  name : String
  entry : String
  memberId : UInt32

def MemberNames.enter (names : MemberNames) (members : List Member) (usedIds : List UInt32) :
    MemberNames :=
  { members.foldl (fun names member => names.insert member.entry member.memberId) names with
    usedIds }

section Reading

variable {A : Type} (read : Json -> Option A) (default : A) (name : String) (object : Json)

def readable : Bool := object.isObject && (object.member? name).all fun member => (read member).isSome

def valueOf : A := ((object.member? name).bind read).getD default

def hasValidType : Bool :=
  (object.objectMember? name).all fun typeInfoObj => (parseTypeInfoFromJson typeInfoObj).isSome

def typeOf : Option MoTypeInfo := (object.objectMember? name).bind parseTypeInfoFromJson

end Reading

def nameOf (object : Json) : String := valueOf string? "" "name" object

def nameCheck (object : Json) : Check := .reads (readable string? "name" object)

namespace EnumValue

def checks (object : Json) : List Check :=
  [nameCheck object, .reads (readable number? "value" object), .id false (getMemberId object)]

def member (enumName : String) (object : Json) : Member :=
  ⟨nameOf object, enumName ++ "." ++ nameOf object, getMemberId object⟩

def declared (object : Json) : MoEnumValueMeta :=
  ⟨nameOf object, Int32.ofInt (valueOf number? 0 "value" object), getMemberId object⟩

end EnumValue

namespace Enum

def checks (object : Json) : List Check :=
  [nameCheck object, .id true (getMemberId object)] ++
    (elements "values" object).flatMap EnumValue.checks

def members (object : Json) : List Member :=
  ⟨nameOf object, nameOf object, getMemberId object⟩ ::
    (elements "values" object).map (EnumValue.member (nameOf object))

def declared (object : Json) : MoEnumMeta :=
  ⟨nameOf object, getMemberId object, (elements "values" object).map EnumValue.declared⟩

end Enum

namespace Field

def checks (object : Json) : List Check :=
  [nameCheck object, .id false (getMemberId object), .valid (hasValidType "type_info" object)]

def member (structName : String) (object : Json) : Member :=
  ⟨nameOf object, structName ++ "." ++ nameOf object, getMemberId object⟩

def declared (object : Json) : MoStructFieldMeta :=
  ⟨nameOf object, typeOf "type_info" object, getMemberId object⟩

end Field

namespace Struct

def checks (object : Json) : List Check :=
  [nameCheck object, .id true (getMemberId object)] ++
    (elements "fields" object).flatMap Field.checks

def members (object : Json) : List Member :=
  ⟨nameOf object, nameOf object, getMemberId object⟩ ::
    (elements "fields" object).map (Field.member (nameOf object))

def declared (object : Json) : MoStructMeta :=
  ⟨nameOf object, getMemberId object, (elements "fields" object).map Field.declared⟩

end Struct

namespace Param

def checks (object : Json) : List Check :=
  [nameCheck object, .valid (hasValidType "type_info" object), .id false (getMemberId object)]

def member (methodName : String) (object : Json) : Member :=
  ⟨nameOf object, methodName ++ "." ++ nameOf object, getMemberId object⟩

def declared (object : Json) : MoMethodParamMeta := ⟨nameOf object, typeOf "type_info" object⟩

end Param

namespace Method

def checks (object : Json) : List Check :=
  [nameCheck object, .id true (getMemberId object), .reads (readable number? "code" object),
    .reads (readable boolean? "oneway" object), .valid (hasValidType "return_type" object)] ++
    (elements "parameters" object).flatMap Param.checks

def entry (interfaceName : String) (object : Json) : String :=
  interfaceName ++ "." ++ nameOf object

def members (interfaceName : String) (object : Json) : List Member :=
  (elements "parameters" object).map (Param.member (entry interfaceName object)) ++
    [⟨nameOf object, entry interfaceName object, getMemberId object⟩]

def declared (interfaceName : String) (object : Json) : MoMethodMeta where
  interfaceName
  name := nameOf object
  memberId := getMemberId object
  ipcCode := UInt32.ofInt (valueOf number? 0 "code" object)
  oneway := valueOf boolean? false "oneway" object
  returnType := typeOf "return_type" object
  params := (elements "parameters" object).map Param.declared

end Method

namespace Interface

def type? (object : Json) : Option MoInterfaceType :=
  interfaceType? (UInt32.ofInt (valueOf number? 0 "interface_type" object))

def isMain (object : Json) : Bool := type? object = some .mainService

def checks (mainServiceInterface : String) (object : Json) : List Check :=
  [nameCheck object, .reads (readable string? "descriptor" object),
    .id true (getMemberId object), .reads (readable number? "interface_type" object),
    .valid (type? object).isSome] ++
    ((elements "methods" object).flatMap Method.checks ++
      [.valid (!isMain object || mainServiceInterface = "")])

def members (object : Json) : List Member :=
  ⟨nameOf object, nameOf object, getMemberId object⟩ ::
    (elements "methods" object).flatMap (Method.members (nameOf object))

def declared (object : Json) : MoInterfaceMeta where
  name := nameOf object
  descriptor := valueOf string? "" "descriptor" object
  memberId := getMemberId object
  interfaceType := (type? object).getD .normal
  descriptorJson := object
  methods := (elements "methods" object).map (Method.declared (nameOf object))

def mainAfter (mainServiceInterface : String) (object : Json) : String :=
  if isMain object then nameOf object else mainServiceInterface

end Interface

namespace Interfaces

def checks : String -> List Json -> List Check
  | _, [] => []
  | mainServiceInterface, first :: rest =>
    Interface.checks mainServiceInterface first ++
      checks (Interface.mainAfter mainServiceInterface first) rest

def mainAfter (mainServiceInterface : String) (objects : List Json) : String :=
  objects.foldl Interface.mainAfter mainServiceInterface

end Interfaces

namespace Root

variable (root : Json)

def members : List Member :=
  (objects "enums" root).flatMap Enum.members ++
    ((objects "structs" root).flatMap Struct.members ++
      (objects "interfaces" root).flatMap Interface.members)

def mainServiceInterface : String := Interfaces.mainAfter "" (objects "interfaces" root)

def declared : Metadata :=
  let names := ({} : MemberNames).enter (members root) []
  let interfaces := (objects "interfaces" root).map Interface.declared
  { version := root.stringMember? "version"
    mainServiceInterface := mainServiceInterface root
    interfaces
    enums := (objects "enums" root).map Enum.declared
    structs := (objects "structs" root).map Struct.declared
    nameToMemberId := names.nameToMemberId
    memberIdToName := names.memberIdToName
    memberIdToMethod := memberIdToMethod interfaces }

/-- Everything that is asked of a document, in the order of the reading. -/
def checks : List Check :=
  (objects "enums" root).flatMap Enum.checks ++
    ((objects "structs" root).flatMap Struct.checks ++
      (Interfaces.checks "" (objects "interfaces" root) ++
        [.valid (mainServiceInterface root ≠ ""), .valid (declared root).areReferencesDeclared]))

end Root

/-! ### The parser asks just this -/

theorem verdict_nil (usedIds : List UInt32) : verdict usedIds [] = .ok usedIds := rfl

theorem verdict_cons (usedIds : List UInt32) (check : Check) (checks : List Check) :
    verdict usedIds (check :: checks) = check.run usedIds >>= fun used => verdict used checks :=
  foldlM_cons ..

theorem verdict_append (usedIds : List UInt32) (checks others : List Check) :
    verdict usedIds (checks ++ others) =
      verdict usedIds checks >>= fun used => verdict used others :=
  foldlM_append ..

namespace MemberNames

variable (names : MemberNames)

@[simp] theorem enter_usedIds (members : List Member) (usedIds : List UInt32) :
    (names.enter members usedIds).usedIds = usedIds := rfl

theorem foldl_insert_usedIds (members : List Member) (usedIds : List UInt32) :
    members.foldl (fun names member => names.insert member.entry member.memberId)
        { names with usedIds } =
      names.enter members usedIds := by
  induction members generalizing names with
  | nil => rfl
  | cons first rest ih => exact ih (names.insert first.entry first.memberId)

theorem enter_enter (members others : List Member) (used usedIds : List UInt32) :
    (names.enter members used).enter others usedIds = names.enter (members ++ others) usedIds := by
  have same := foldl_insert_usedIds (members.foldl
    (fun names member => names.insert member.entry member.memberId) names) others used
  rw [enter, enter, same]
  simp only [enter, foldl_append]

end MemberNames

section Steps

variable {A B C : Type} {usedIds : List UInt32} {names : MemberNames} {checks : List Check}
  {result : List UInt32 -> C}

theorem reads_then {read : Json -> Option A} {default : A} {name : String} {object : Json}
    {rest : A -> Parsed C}
    (follows : rest (valueOf read default name object) = (verdict usedIds checks).map result) :
    (jsonValue read default name object >>= rest) =
      (verdict usedIds (.reads (readable read name object) :: checks)).map result := by
  rw [verdict_cons]
  cases object with
  | object members =>
    cases found : members.lookup name with
    | none =>
      have value : valueOf read default name (.object members) = default := by
        simp [valueOf, member?, found]
      rw [value] at follows
      simpa [jsonValue, readable, Json.isObject, Json.member?, found, Check.run, bind,
        Except.bind] using follows
    | some member =>
      cases held : read member with
      | none => simp [jsonValue, readable, Json.member?, found, held, Check.run, bind, Except.bind,
          Except.map]
      | some value =>
        have same : valueOf read default name (.object members) = value := by
          simp [valueOf, member?, found, held]
        rw [same] at follows
        simpa [jsonValue, readable, Json.isObject, Json.member?, found, held, Check.run, bind,
          Except.bind] using follows
  | _ => rfl

theorem type_then {name : String} {object : Json} {rest : Option MoTypeInfo -> Parsed C}
    (follows : rest (typeOf name object) = (verdict usedIds checks).map result) :
    (typeInfoMember name object >>= rest) =
      (verdict usedIds (.valid (hasValidType name object) :: checks)).map result := by
  rw [verdict_cons]
  cases found : object.objectMember? name with
  | none =>
    simp only [typeOf, found] at follows
    simpa [typeInfoMember, hasValidType, found, Check.run, bind, Except.bind] using follows
  | some typeInfoObj =>
    cases parsed : parseTypeInfoFromJson typeInfoObj with
    | none => simp [typeInfoMember, hasValidType, found, parsed, Check.run, bind, Except.bind,
        Except.map]
    | some typeInfo =>
      simp only [typeOf, found, Option.bind_some, parsed] at follows
      simpa [typeInfoMember, hasValidType, found, parsed, Check.run, bind, Except.bind]
        using follows

theorem id_then {required : Bool} {memberId : UInt32} {rest : MemberNames -> Parsed C}
    (follows : ∀ used, rest { names with usedIds := used } = (verdict used checks).map result) :
    (names.claimId required memberId >>= rest) =
      (verdict names.usedIds (.id required memberId :: checks)).map result := by
  rw [verdict_cons, claimId, Check.run]
  split
  · split
    · rfl
    · exact follows names.usedIds
  · split
    · rfl
    · exact follows _

theorem parseEach_eq {parse : MemberNames -> Json -> Parsed (MemberNames × B)}
    {asked : Json -> List Check} {members : Json -> List Member} {declared : Json -> B}
    (each : ∀ names object, parse names object = (verdict names.usedIds (asked object)).map
      fun used => (names.enter (members object) used, declared object)) (objects : List Json) :
    parseEach parse names objects = (verdict names.usedIds (objects.flatMap asked)).map
      fun used => (names.enter (objects.flatMap members) used, objects.map declared) := by
  induction objects generalizing names with
  | nil => rfl
  | cons first rest ih =>
    rw [flatMap_cons, flatMap_cons, verdict_append, parseEach, each]
    cases verdict names.usedIds (asked first) with
    | error failure => rfl
    | ok used =>
      change (parseEach parse (names.enter (members first) used) rest >>= _) = _
      rw [ih, enter_usedIds]
      change _ = (verdict used (rest.flatMap asked)).map _
      cases verdict used (rest.flatMap asked) with
      | error failure => rfl
      | ok usedIds =>
        change ok (_, _) = ok (_, _)
        rw [enter_enter, map_cons]

theorem each_then {parse : MemberNames -> Json -> Parsed (MemberNames × B)}
    {asked : Json -> List Check} {members : Json -> List Member} {declared : Json -> B}
    (each : ∀ names object, parse names object = (verdict names.usedIds (asked object)).map
      fun used => (names.enter (members object) used, declared object))
    {objects : List Json} {rest : MemberNames × List B -> Parsed C}
    (follows : ∀ used, rest (names.enter (objects.flatMap members) used, objects.map declared) =
      (verdict used checks).map result) :
    (parseEach parse names objects >>= rest) =
      (verdict names.usedIds (objects.flatMap asked ++ checks)).map result := by
  rw [parseEach_eq each, verdict_append]
  cases verdict names.usedIds (objects.flatMap asked) with
  | error failure => rfl
  | ok used => exact follows used

end Steps

/-! ### Each object is asked its checks -/

theorem parseEnumValue_eq (enumName : String) (names : MemberNames) (object : Json) :
    parseEnumValue enumName names object =
      (verdict names.usedIds (EnumValue.checks object)).map fun used =>
        (names.enter [EnumValue.member enumName object] used, EnumValue.declared object) :=
  reads_then <| reads_then <| id_then fun _ => rfl

theorem parseEnum_eq (names : MemberNames) (object : Json) :
    parseEnum names object = (verdict names.usedIds (Enum.checks object)).map fun used =>
      (names.enter (Enum.members object) used, Enum.declared object) := by
  refine reads_then <| id_then fun used => ?_
  rw [<- append_nil ((elements "values" object).flatMap EnumValue.checks)]
  refine each_then (parseEnumValue_eq _) fun usedIds => ?_
  change ok ((names.enter [⟨nameOf object, nameOf object, getMemberId object⟩] used).enter _
    usedIds, _) = _
  rw [enter_enter, <- map_eq_flatMap]
  rfl

theorem parseField_eq (structName : String) (names : MemberNames) (object : Json) :
    parseField structName names object =
      (verdict names.usedIds (Field.checks object)).map fun used =>
        (names.enter [Field.member structName object] used, Field.declared object) :=
  reads_then <| id_then fun _ => type_then rfl

theorem parseStruct_eq (names : MemberNames) (object : Json) :
    parseStruct names object = (verdict names.usedIds (Struct.checks object)).map fun used =>
      (names.enter (Struct.members object) used, Struct.declared object) := by
  refine reads_then <| id_then fun used => ?_
  rw [<- append_nil ((elements "fields" object).flatMap Field.checks)]
  refine each_then (parseField_eq _) fun usedIds => ?_
  change ok ((names.enter [⟨nameOf object, nameOf object, getMemberId object⟩] used).enter _
    usedIds, _) = _
  rw [enter_enter, <- map_eq_flatMap]
  rfl

theorem parseParam_eq (methodName : String) (names : MemberNames) (object : Json) :
    parseParam methodName names object =
      (verdict names.usedIds (Param.checks object)).map fun used =>
        (names.enter [Param.member methodName object] used, Param.declared object) :=
  reads_then <| type_then <| id_then fun _ => rfl

theorem parseMethod_eq (interfaceName : String) (names : MemberNames) (object : Json) :
    parseMethod interfaceName names object =
      (verdict names.usedIds (Method.checks object)).map fun used =>
        (names.enter (Method.members interfaceName object) used,
          Method.declared interfaceName object) := by
  refine reads_then <| id_then fun used => reads_then <| reads_then <| type_then ?_
  rw [<- append_nil ((elements "parameters" object).flatMap Param.checks)]
  refine each_then (parseParam_eq _) fun usedIds => ?_
  change ok (((names.enter [] used).enter _ usedIds).enter
    [⟨nameOf object, Method.entry interfaceName object, getMemberId object⟩] usedIds, _) = _
  rw [enter_enter, enter_enter, <- map_eq_flatMap]
  rfl

theorem parseInterface_eq (names : MemberNames) (mainServiceInterface : String) (object : Json) :
    parseInterface (names, mainServiceInterface) object =
      (verdict names.usedIds (Interface.checks mainServiceInterface object)).map fun used =>
        ((names.enter (Interface.members object) used,
          Interface.mainAfter mainServiceInterface object), Interface.declared object) := by
  refine reads_then <| reads_then <| id_then fun used => reads_then ?_
  change _ = (verdict used (.valid (Interface.type? object).isSome :: (_ ++ _))).map _
  rw [verdict_cons]
  have found : Interface.type? object =
    interfaceType? (UInt32.ofInt (valueOf number? 0 "interface_type" object)) := rfl
  rw [<- found]
  cases type : Interface.type? object with
  | none => rfl
  | some interfaceType =>
    have main : Interface.isMain object = decide (interfaceType = .mainService) := by
      simp [Interface.isMain, type]
    have result : Interface.declared object = ⟨nameOf object,
        valueOf string? "" "descriptor" object, getMemberId object, interfaceType, object,
        (elements "methods" object).map (Method.declared (nameOf object))⟩ := by
      simp [Interface.declared, type]
    refine each_then (parseMethod_eq _) fun usedIds => ?_
    change (if decide (interfaceType = .mainService) = true then
      if mainServiceInterface ≠ "" then _ else ok ((((names.enter
        [⟨nameOf object, nameOf object, getMemberId object⟩] used).enter _ usedIds), _), _)
      else ok ((((names.enter
        [⟨nameOf object, nameOf object, getMemberId object⟩] used).enter _ usedIds), _), _)) = _
    rw [enter_enter, result, Interface.mainAfter, main]
    by_cases isMain : interfaceType = .mainService
    · by_cases first : mainServiceInterface = ""
      · rw [decide_eq_true isMain, decide_eq_true first]
        simp only [first, ne_eq, not_true_eq_false, if_true, if_false]
        rfl
      · rw [decide_eq_true isMain, decide_eq_false first]
        simp only [first, ne_eq, not_false_eq_true, if_true]
        rfl
    · rw [decide_eq_false isMain]
      rfl

theorem parseInterfaces_eq (names : MemberNames) (mainServiceInterface : String)
    (objects : List Json) :
    parseEach parseInterface (names, mainServiceInterface) objects =
      (verdict names.usedIds (Interfaces.checks mainServiceInterface objects)).map fun used =>
        ((names.enter (objects.flatMap Interface.members) used,
          Interfaces.mainAfter mainServiceInterface objects), objects.map Interface.declared) := by
  induction objects generalizing names mainServiceInterface with
  | nil => rfl
  | cons first rest ih =>
    rw [Interfaces.checks, verdict_append, parseEach, parseInterface_eq]
    cases verdict names.usedIds (Interface.checks mainServiceInterface first) with
    | error failure => rfl
    | ok used =>
      change (parseEach parseInterface (names.enter (Interface.members first) used, _) rest
        >>= _) = _
      rw [ih, enter_usedIds]
      change _ = (verdict used (Interfaces.checks _ rest)).map _
      cases verdict used (Interfaces.checks (Interface.mainAfter mainServiceInterface first)
        rest) with
      | error failure => rfl
      | ok usedIds =>
        change ok ((_, _), _) = ok ((_, _), _)
        rw [enter_enter, flatMap_cons, map_cons]
        rfl

theorem parseRoot_eq (root : Json) :
    parseRoot root = (verdict [] (Root.checks root)).map fun _ => Root.declared root := by
  refine each_then parseEnum_eq fun used => each_then parseStruct_eq fun usedIds => ?_
  change (parseEach parseInterface (_, "") _ >>= _) = _
  rw [parseInterfaces_eq, verdict_append, enter_enter, enter_usedIds]
  cases verdict usedIds (Interfaces.checks "" (objects "interfaces" root)) with
  | error failure => rfl
  | ok ids =>
    have declared : Root.declared root =
        { version := root.stringMember? "version"
          mainServiceInterface := Interfaces.mainAfter "" (objects "interfaces" root)
          interfaces := (objects "interfaces" root).map Interface.declared
          enums := (objects "enums" root).map Enum.declared
          structs := (objects "structs" root).map Struct.declared
          nameToMemberId := ((({} : MemberNames).enter ((objects "enums" root).flatMap Enum.members ++
            (objects "structs" root).flatMap Struct.members) usedIds).enter
              ((objects "interfaces" root).flatMap Interface.members) ids).nameToMemberId
          memberIdToName := ((({} : MemberNames).enter ((objects "enums" root).flatMap Enum.members ++
            (objects "structs" root).flatMap Struct.members) usedIds).enter
              ((objects "interfaces" root).flatMap Interface.members) ids).memberIdToName
          memberIdToMethod := memberIdToMethod
            ((objects "interfaces" root).map Interface.declared) } := by
      rw [enter_enter, append_assoc]
      rfl
    change (if Root.mainServiceInterface root = "" then error _ else
      if Metadata.areReferencesDeclared _ = true then ok _ else error _) = _
    rw [<- declared]
    change _ = ((Check.run ids (.valid _) >>= fun used => (Check.run used (.valid _) >>=
      fun used => verdict used [])).map _)
    by_cases main : Root.mainServiceInterface root = ""
    · simp [main, Check.run, bind, Except.bind, Except.map]
    · cases references : (Root.declared root).areReferencesDeclared <;>
        simp [main, Check.run, bind, Except.bind, Except.map, verdict_nil]

end AbilityRuntime.ModObjDispatcher
