import AbilityRuntime.ModObjDispatcher.MetadataDocument
import Mathlib.Data.List.Flatten
import Mathlib.Data.List.Induction
import Mathlib.Data.List.Perm.Basic
import Mathlib.Data.Option.Basic

set_option autoImplicit false

namespace AbilityRuntime.ModObjDispatcher

open Library Option Check List Interface

inductive ReferenceKind where
  | enum
  | struct
  | interface

def MoTypeInfo.references : MoTypeInfo -> List (ReferenceKind × String)
  | simple .enum idlType => [(.enum, idlType)]
  | struct idlType => [(.struct, idlType)]
  | remote _ idlType => [(.interface, idlType)]
  | sequence _ (some elementType) _ => elementType.references
  | map _ (some mapValueType) => mapValueType.references
  | _ => []

namespace Metadata

variable (metadata : Metadata)

def declares : ReferenceKind -> String -> Prop
  | .enum, name => ∃ enum ∈ metadata.enums, enum.name = name
  | .struct, name => ∃ struct ∈ metadata.structs, struct.name = name
  | .interface, name => ∃ interface ∈ metadata.interfaces, interface.name = name

def fields : List MoStructFieldMeta := metadata.structs.flatMap (·.fields)

def methods : List MoMethodMeta := metadata.interfaces.flatMap (·.methods)

def params : List MoMethodParamMeta := metadata.methods.flatMap (·.params)

def types : List MoTypeInfo :=
  metadata.fields.filterMap (·.typeInfo) ++
    (metadata.params.filterMap (·.typeInfo) ++ metadata.methods.filterMap (·.returnType))

def memberIds : List UInt32 :=
  metadata.enums.map (·.memberId) ++ (metadata.structs.map (·.memberId) ++
    metadata.interfaces.flatMap fun interface =>
      interface.memberId :: interface.methods.map (·.memberId))

/-- The metadata of a document with these members is closed and consistent. -/
structure Consistent (members : List Member) : Prop where
  typedFields : ∀ field ∈ metadata.fields, field.typeInfo.isSome
  typedParams : ∀ param ∈ metadata.params, param.typeInfo.isSome
  referenced : ∀ type ∈ metadata.types, ∀ reference ∈ type.references,
    metadata.declares reference.1 reference.2
  distinct : metadata.memberIds.Nodup
  given : ∀ memberId ∈ metadata.memberIds, memberId ≠ 0
  inverse : ∀ member ∈ members, member.name ≠ "" -> member.memberId ≠ 0 ->
    metadata.nameToMemberId.lookup member.entry = some member.memberId ∧
      metadata.memberIdToName.lookup member.memberId = some member.entry
  methodOf : ∀ memberId method, metadata.memberIdToMethod.lookup memberId = some method ↔
    method ∈ metadata.methods ∧ method.memberId = memberId
  main : (metadata.interfaces.filter (·.isMainService)).length = 1

end Metadata

/-- A document is parsed without a type error of nlohmann::json, and into consistent metadata. -/
def ParsesWell (document : Option Json) : Prop :=
  parseMetadata document ≠ .error .jsonTypeError ∧ ∀ metadata root, document = some root ->
    parseMetadata document = .ok metadata -> metadata.Consistent (Root.members root)

section References

def referencesOfMembers (members : List (String × Json))
    (nested : List (String × List (ReferenceKind × String))) : List (ReferenceKind × String) :=
  let idlType := ((members.lookup "idl_type").bind Json.string?).getD ""
  match ((members.lookup "type").bind Json.string?).map mapTypeStringToVt with
  | some .map => (nested.lookup "value_type").getD []
  | some (.sequence _) => (nested.lookup "value_type").getD []
  | some (.simple .enum) => [(.enum, idlType)]
  | some .struct => [(.struct, idlType)]
  | some (.remote _) => [(.interface, idlType)]
  | _ => []

mutual

def referencesOf : Json -> List (ReferenceKind × String)
  | .object members => referencesOfMembers members (nestedReferences members)
  | _ => []

def nestedReferences : List (String × Json) -> List (String × List (ReferenceKind × String))
  | [] => []
  | (name, member) :: rest => (name, referencesOf member) :: nestedReferences rest

end

end References

namespace Root

variable (root : Json)

def fieldObjects : List Json := (objects "structs" root).flatMap (elements "fields")

def methodObjects : List Json := (objects "interfaces" root).flatMap (elements "methods")

def paramObjects : List Json := (methodObjects root).flatMap (elements "parameters")

def typeObjects : List Json :=
  (fieldObjects root).filterMap (Json.objectMember? "type_info") ++
    ((paramObjects root).filterMap (Json.objectMember? "type_info") ++
      (methodObjects root).filterMap (Json.objectMember? "return_type"))

def listOf : ReferenceKind -> String
  | .enum => "enums"
  | .struct => "structs"
  | .interface => "interfaces"

structure Closed : Prop where
  typed : ∀ object ∈ fieldObjects root ++ paramObjects root,
    (object.objectMember? "type_info").isSome
  referenced : ∀ object ∈ typeObjects root, ∀ reference ∈ referencesOf object,
    ∃ declaration ∈ objects (listOf reference.1) root, nameOf declaration = reference.2
  firstOfName : (members root).Pairwise fun earlier later =>
    later.name ≠ "" -> later.memberId ≠ 0 -> earlier.entry ≠ later.entry
  namedMain : ∀ object ∈ objects "interfaces" root, isMain object -> nameOf object ≠ ""

/-- Where a value cannot be read the parser has given up before. -/
structure MeetsExpectations : Prop where
  readable : ∀ before rest, checks root = before ++ .reads false :: rest -> ¬Pass before
  closed : Pass (checks root) -> Closed root

end Root

/-! ### The verdict -/

theorem verdict_ok_iff (usedIds : List UInt32) (checks : List Check) :
    (∃ used, verdict usedIds checks = .ok used) ↔
      (∀ check ∈ checks, check.Holds) ∧ (checks.filterMap id?).Nodup ∧
        ∀ memberId ∈ checks.filterMap id?, memberId ∉ usedIds := by
  induction checks generalizing usedIds with
  | nil => exact ⟨fun _ => ⟨nofun, nodup_nil, nofun⟩, fun _ => ⟨usedIds, rfl⟩⟩
  | cons check checks ih =>
    rw [verdict_cons]
    have unread : ∀ (passes : Bool) (failure : MetadataFailure),
        check.id? = none -> (check.Holds ↔ passes = true) ->
        check.run usedIds = (if passes then .ok usedIds else .error failure) ->
        ((∃ used, (check.run usedIds >>= fun used => verdict used checks) = .ok used) ↔
          (∀ other ∈ check :: checks, other.Holds) ∧
            ((check :: checks).filterMap id?).Nodup ∧
            ∀ memberId ∈ (check :: checks).filterMap id?, memberId ∉ usedIds) := by
      intro passes failure noId holds run
      rw [filterMap_cons_none noId, forall_mem_cons, holds, run]
      cases passes with
      | true => simpa [bind, Except.bind] using ih usedIds
      | false => simp [bind, Except.bind]
    cases check with
    | reads readable => exact unread readable .jsonTypeError rfl Iff.rfl rfl
    | valid accepted => exact unread accepted .metadataInvalid rfl Iff.rfl rfl
    | id required memberId =>
      by_cases zero : memberId = 0
      · subst zero
        refine unread (!required) .metadataInvalid rfl ?_ ?_
        · cases required <;> simp [Check.Holds]
        · cases required <;> rfl
      · have some : id? (.id required memberId) = .some memberId := if_neg zero
        rw [filterMap_cons_some some, forall_mem_cons, forall_mem_cons,
          nodup_cons, Check.run, if_neg zero]
        by_cases used : memberId ∈ usedIds
        · simp [used, bind, Except.bind]
        · rw [if_neg used]
          refine (ih (memberId :: usedIds)).trans ?_
          simp only [mem_cons, not_or]
          constructor
          · rintro ⟨held, distinct, free⟩
            exact ⟨⟨fun _ => zero, held⟩, ⟨fun same => (free memberId same).1 rfl, distinct⟩, used,
              fun other member => (free other member).2⟩
          · rintro ⟨⟨_, held⟩, ⟨fresh, distinct⟩, _, free⟩
            exact ⟨held, distinct, fun other member =>
              ⟨fun same => fresh (same ▸ member), free other member⟩⟩

theorem verdict_ok_iff_pass (checks : List Check) :
    (∃ used, verdict [] checks = .ok used) ↔ Pass checks := by
  rw [verdict_ok_iff]
  exact ⟨fun ⟨held, distinct, _⟩ => ⟨held, distinct⟩, fun ⟨held, distinct⟩ => ⟨held, distinct, nofun⟩⟩

theorem verdict_typeError_iff (usedIds : List UInt32) (checks : List Check) :
    verdict usedIds checks = .error .jsonTypeError ↔
      ∃ before rest, checks = before ++ .reads false :: rest ∧
        ∃ used, verdict usedIds before = .ok used := by
  constructor
  · intro raised
    induction checks generalizing usedIds with
    | nil => cases raised
    | cons check checks ih =>
      rw [verdict_cons] at raised
      cases run : check.run usedIds with
      | error failure =>
        refine ⟨[], checks, ?_, usedIds, rfl⟩
        rw [run] at raised
        cases raised
        cases check with
        | reads readable => cases readable <;> simp_all [Check.run]
        | valid accepted => cases accepted <;> simp [Check.run] at run
        | id required memberId =>
          simp only [Check.run] at run
          split at run
          · cases required <;> cases run
          · split at run <;> cases run
      | ok used =>
        rw [run] at raised
        obtain ⟨before, rest, rfl, last, passed⟩ := ih used raised
        refine ⟨check :: before, rest, rfl, last, ?_⟩
        rw [verdict_cons, run]
        exact passed
  · rintro ⟨before, rest, rfl, used, passed⟩
    rw [verdict_append, passed]
    rfl

/-! ### What a type refers to -/

theorem lookup_parseNested (members : List (String × Json)) (name : String) :
    (parseNested members).lookup name = (members.lookup name).map parseTypeInfoFromJson := by
  induction members with
  | nil => rfl
  | cons entry rest ih =>
    rw [parseNested, lookup_entry, lookup_entry, ih]
    split <;> rfl

theorem lookup_nestedReferences (members : List (String × Json)) (name : String) :
    (nestedReferences members).lookup name = (members.lookup name).map referencesOf := by
  induction members with
  | nil => rfl
  | cons entry rest ih =>
    rw [nestedReferences, lookup_entry, lookup_entry, ih]
    split <;> rfl

theorem references_of_members {members : List (String × Json)}
    (inner : ∀ name member, members.lookup name = some member ->
      ∀ type, parseTypeInfoFromJson member = some type -> type.references = referencesOf member)
    {type : MoTypeInfo} (parsed : parseTypeInfoMembers members (parseNested members) = some type) :
    type.references = referencesOfMembers members (nestedReferences members) := by
  have element : ∀ {elementType}, ((parseNested members).lookup "value_type").join =
      some elementType ->
      elementType.references = ((nestedReferences members).lookup "value_type").getD [] := by
    intro elementType found
    rw [lookup_parseNested] at found
    rw [lookup_nestedReferences]
    cases held : members.lookup "value_type" with
    | none => simp [held] at found
    | some member =>
      rw [held] at found
      exact inner _ member held elementType found
  unfold parseTypeInfoMembers at parsed
  unfold referencesOfMembers
  cases typeMember : (members.lookup "type").bind Json.string? with
  | none => simp [typeMember] at parsed
  | some typeStr =>
    simp only [typeMember] at parsed
    rw [map_some]
    cases vt : mapTypeStringToVt typeStr with
    | blank blank =>
      cases blank with
      | empty => simp [vt] at parsed
      | void =>
        simp only [vt, Option.some.injEq] at parsed
        subst parsed
        rfl
    | simple simple =>
      cases simple
      case enum =>
        simp only [vt, map_eq_some_iff] at parsed
        obtain ⟨idlType, found, rfl⟩ := parsed
        simp [found, MoTypeInfo.references]
      all_goals
        simp only [vt, Option.some.injEq] at parsed
        subst parsed
        rfl
    | sequence kind =>
      cases kind
      case array =>
        simp only [vt, bind_eq_bind, bind_eq_some_iff] at parsed
        obtain ⟨size, _, elementInfo, found, last⟩ := parsed
        cases last
        have same := element found
        exact same
      all_goals
        simp only [vt, bind_eq_bind, bind_eq_some_iff] at parsed
        obtain ⟨elementInfo, found, last⟩ := parsed
        cases last
        have same := element found
        exact same
    | map =>
      simp only [vt, bind_eq_bind, bind_eq_some_iff] at parsed
      obtain ⟨keyInfo, _, _, _, valueInfo, found, last⟩ := parsed
      cases last
      have same := element found
      exact same
    | struct =>
      simp only [vt, map_eq_some_iff] at parsed
      obtain ⟨idlType, found, rfl⟩ := parsed
      simp [found, MoTypeInfo.references]
    | remote kind =>
      simp only [vt, map_eq_some_iff] at parsed
      obtain ⟨idlType, found, rfl⟩ := parsed
      simp [found, MoTypeInfo.references]

mutual

theorem references_eq : ∀ (json : Json) (type : MoTypeInfo),
    parseTypeInfoFromJson json = some type -> type.references = referencesOf json
  | .object members, _, parsed => by
    rw [parseTypeInfoFromJson] at parsed
    rw [referencesOf]
    exact references_of_members (references_lookup members) parsed
  | .null, _, parsed => by cases parsed
  | .boolean _, _, parsed => by cases parsed
  | .integer _, _, parsed => by cases parsed
  | .float _, _, parsed => by cases parsed
  | .string _, _, parsed => by cases parsed
  | .array _, _, parsed => by cases parsed

theorem references_lookup : ∀ (members : List (String × Json)) (name : String) (member : Json),
    members.lookup name = some member -> ∀ type, parseTypeInfoFromJson member = some type ->
      type.references = referencesOf member
  | [], _, _, found => by cases found
  | (first, held) :: rest, name, member, found => by
    rw [lookup_entry] at found
    split at found
    · cases found
      exact references_eq held
    · exact references_lookup rest name member found

end

/-! ### What a document declares -/

namespace Root

variable {root : Json}

theorem declares_iff (kind : ReferenceKind) (name : String) :
    (declared root).declares kind name ↔
      ∃ declaration ∈ objects (listOf kind) root, nameOf declaration = name := by
  cases kind <;> simp [Metadata.declares, declared, listOf, Enum.declared, Struct.declared,
    Interface.declared]

theorem fields_eq : (declared root).fields = (fieldObjects root).map Field.declared := by
  simp [Metadata.fields, declared, fieldObjects, flatMap_map, map_flatMap, Struct.declared]

theorem params_eq : (declared root).params = (paramObjects root).map Param.declared := by
  simp [Metadata.params, Metadata.methods, declared, paramObjects, methodObjects, flatMap_map,
    map_flatMap, flatMap_assoc, Interface.declared, Method.declared]

theorem returnTypes_eq :
    (declared root).methods.filterMap (·.returnType) =
      (methodObjects root).filterMap (typeOf "return_type") := by
  simp only [Metadata.methods, declared, methodObjects, flatMap_map, filterMap_flatMap,
    Interface.declared, filterMap_map]
  rfl

theorem types_eq : (declared root).types = (typeObjects root).filterMap parseTypeInfoFromJson := by
  rw [Metadata.types, fields_eq, params_eq, returnTypes_eq, typeObjects]
  simp only [filterMap_append, filterMap_filterMap, filterMap_map]
  rfl

variable {object : Json}

theorem mem_interfaces_checks {objects : List Json} (member : object ∈ objects)
    (mainServiceInterface : String) :
    ∃ main, Interface.checks main object ⊆ Interfaces.checks mainServiceInterface objects := by
  induction objects generalizing mainServiceInterface with
  | nil => cases member
  | cons first rest ih =>
    rcases mem_cons.1 member with rfl | later
    · exact ⟨mainServiceInterface, subset_append_left _ _⟩
    · obtain ⟨main, within⟩ := ih later (Interface.mainAfter mainServiceInterface first)
      exact ⟨main, fun _ asked => mem_append_right _ (within asked)⟩

theorem method_checks (member : object ∈ methodObjects root) :
    Method.checks object ⊆ checks root := by
  obtain ⟨interface, declared, method⟩ := mem_flatMap.1 member
  obtain ⟨main, within⟩ := mem_interfaces_checks declared ""
  intro check asked
  have listed : check ∈ Interface.checks main interface :=
    mem_append_right _ (mem_append_left _ (mem_flatMap.2 ⟨object, method, asked⟩))
  exact mem_append_right _ (mem_append_right _ (mem_append_left _ (within listed)))

theorem param_checks (member : object ∈ paramObjects root) : Param.checks object ⊆ checks root := by
  obtain ⟨method, declared, param⟩ := mem_flatMap.1 member
  exact fun check asked => method_checks declared
    (mem_append_right _ (mem_flatMap.2 ⟨object, param, asked⟩))

theorem field_checks (member : object ∈ fieldObjects root) : Field.checks object ⊆ checks root := by
  obtain ⟨struct, declared, field⟩ := mem_flatMap.1 member
  intro check asked
  have listed : check ∈ Struct.checks struct :=
    mem_append_right _ (mem_flatMap.2 ⟨object, field, asked⟩)
  exact mem_append_right _ (mem_append_left _ (mem_flatMap.2 ⟨struct, declared, listed⟩))

theorem parses_of_pass (pass : Pass (checks root))
    (member : object ∈ typeObjects root) : (parseTypeInfoFromJson object).isSome := by
  have parses : ∀ {name : String} {holder : Json}, .valid (hasValidType name holder) ∈ checks root →
      holder.objectMember? name = some object -> (parseTypeInfoFromJson object).isSome := by
    intro name holder checked found
    have accepted : hasValidType name holder = true := pass.held _ checked
    simpa [hasValidType, found] using accepted
  rw [typeObjects, mem_append, mem_append] at member
  rcases member with field | param | method
  · obtain ⟨holder, held, found⟩ := mem_filterMap.1 field
    exact parses (field_checks held (by simp [Field.checks])) found
  · obtain ⟨holder, held, found⟩ := mem_filterMap.1 param
    exact parses (param_checks held (by simp [Param.checks])) found
  · obtain ⟨holder, held, found⟩ := mem_filterMap.1 method
    exact parses (method_checks held (by simp [Method.checks])) found

/-! ### Member ids -/

theorem enum_required (object : Json) :
    (Enum.checks object).filterMap requiredId? = [getMemberId object] := by
  simp [Enum.checks, EnumValue.checks, nameCheck, requiredId?, filterMap_cons, filterMap_flatMap]

theorem struct_required (object : Json) :
    (Struct.checks object).filterMap requiredId? = [getMemberId object] := by
  simp [Struct.checks, Field.checks, nameCheck, requiredId?, filterMap_cons, filterMap_flatMap]

theorem method_required (object : Json) :
    (Method.checks object).filterMap requiredId? = [getMemberId object] := by
  simp [Method.checks, Param.checks, nameCheck, requiredId?, filterMap_cons, filterMap_flatMap]

theorem interface_required (main : String) (object : Json) :
    (Interface.checks main object).filterMap requiredId? =
      getMemberId object :: (elements "methods" object).map getMemberId := by
  simp [Interface.checks, nameCheck, requiredId?, filterMap_cons,
    filterMap_flatMap, method_required, map_eq_flatMap]

theorem interfaces_required (main : String) (objects : List Json) :
    (Interfaces.checks main objects).filterMap requiredId? =
      objects.flatMap fun object =>
        getMemberId object :: (elements "methods" object).map getMemberId := by
  induction objects generalizing main with
  | nil => rfl
  | cons first rest ih =>
    rw [Interfaces.checks, filterMap_append, ih, flatMap_cons, interface_required]

theorem memberIds_eq : (declared root).memberIds = (checks root).filterMap requiredId? := by
  simp only [checks, filterMap_append, filterMap_flatMap, interfaces_required,
    enum_required, struct_required, <- map_eq_flatMap]
  simp [Metadata.memberIds, declared, Enum.declared, Struct.declared, Interface.declared,
    requiredId?, flatMap_map, Method.declared, Function.comp_def, filterMap_cons]

theorem required_sublist {checks : List Check} (held : ∀ check ∈ checks, check.Holds) :
    (checks.filterMap requiredId?).Sublist (checks.filterMap id?) := by
  induction checks with
  | nil => exact List.Sublist.slnil
  | cons check checks ih =>
    obtain ⟨first, rest⟩ := forall_mem_cons.1 held
    cases required : check.requiredId? with
    | none =>
      rw [filterMap_cons_none required]
      exact (ih rest).trans ((sublist_cons_self check checks).filterMap _)
    | some memberId =>
      have same : check.id? = some memberId := by
        match check, required, first with
        | .id true _, rfl, given => exact if_neg (given rfl)
      rw [filterMap_cons_some required, filterMap_cons_some same]
      exact (ih rest).cons_cons memberId

theorem memberIds_distinct (pass : Pass (checks root)) : (declared root).memberIds.Nodup := by
  rw [memberIds_eq]
  exact (required_sublist pass.held).nodup pass.distinct

theorem memberIds_given (pass : Pass (checks root)) :
    ∀ memberId ∈ (declared root).memberIds, memberId ≠ 0 := by
  rw [memberIds_eq]
  intro memberId member
  obtain ⟨check, asked, required⟩ := mem_filterMap.1 member
  have held := pass.held check asked
  match check, required, held with
  | .id true _, rfl, held => exact held rfl

/-! ### The name maps -/

def idOf (member : Member) : Option UInt32 :=
  if member.memberId = 0 then none else some member.memberId

theorem each_ids {asked : Json -> List Check} {member : Json -> Member}
    (each : ∀ object, (asked object).filterMap id? = (idOf (member object)).toList)
    (objects : List Json) :
    (objects.map member).filterMap idOf = (objects.flatMap asked).filterMap id? := by
  induction objects with
  | nil => rfl
  | cons first rest ih =>
    rw [flatMap_cons, filterMap_append, each, <- ih, map_cons, filterMap_cons]
    cases idOf (member first) <;> rfl

theorem enumValue_ids (enumName : String) (object : Json) :
    (EnumValue.checks object).filterMap id? = (idOf (EnumValue.member enumName object)).toList := by
  by_cases none : getMemberId object = 0 <;>
    simp [EnumValue.checks, nameCheck, filterMap_cons, id?, EnumValue.member, idOf, none]

theorem enum_ids (object : Json) :
    (Enum.members object).filterMap idOf = (Enum.checks object).filterMap id? := by
  rw [Enum.members, Enum.checks, filterMap_append, <- each_ids (enumValue_ids (nameOf object)),
    filterMap_cons]
  simp only [nameCheck, filterMap_cons, id?, idOf]
  split <;> rfl

theorem field_ids (structName : String) (object : Json) :
    (Field.checks object).filterMap id? = (idOf (Field.member structName object)).toList := by
  by_cases none : getMemberId object = 0 <;>
    simp [Field.checks, nameCheck, filterMap_cons, id?, Field.member, idOf, none]

theorem struct_ids (object : Json) :
    (Struct.members object).filterMap idOf = (Struct.checks object).filterMap id? := by
  rw [Struct.members, Struct.checks, filterMap_append, <- each_ids (field_ids (nameOf object)),
    filterMap_cons]
  simp only [nameCheck, filterMap_cons, id?, idOf]
  split <;> rfl

theorem param_ids (methodName : String) (object : Json) :
    (Param.checks object).filterMap id? = (idOf (Param.member methodName object)).toList := by
  by_cases none : getMemberId object = 0 <;>
    simp [Param.checks, nameCheck, filterMap_cons, id?, Param.member, idOf, none]

theorem method_ids (interfaceName : String) (object : Json) :
    ((Method.members interfaceName object).filterMap idOf).Perm
      ((Method.checks object).filterMap id?) := by
  rw [Method.members, Method.checks, filterMap_append, filterMap_append, each_ids (param_ids _)]
  refine perm_append_comm.trans ?_
  simp only [nameCheck, filterMap_cons, id?, idOf]
  split <;> rfl

theorem interface_ids (main : String) (object : Json) :
    ((Interface.members object).filterMap idOf).Perm
      ((Interface.checks main object).filterMap id?) := by
  have methods : (((elements "methods" object).flatMap
      (Method.members (nameOf object))).filterMap idOf).Perm
        (((elements "methods" object).flatMap Method.checks).filterMap id?) := by
    rw [filterMap_flatMap, filterMap_flatMap]
    exact List.Perm.flatMap_left _ fun method _ => method_ids (nameOf object) method
  have checked : (Interface.checks main object).filterMap id? =
      (idOf ⟨nameOf object, nameOf object, getMemberId object⟩).toList ++
        ((elements "methods" object).flatMap Method.checks).filterMap id? := by
    by_cases none : getMemberId object = 0 <;>
      simp [Interface.checks, nameCheck, filterMap_cons, id?, idOf, none]
  have listed : (Interface.members object).filterMap idOf =
      (idOf ⟨nameOf object, nameOf object, getMemberId object⟩).toList ++
        ((elements "methods" object).flatMap (Method.members (nameOf object))).filterMap idOf := by
    by_cases none : getMemberId object = 0 <;>
      simp [Interface.members, idOf, none]
  rw [checked, listed]
  exact methods.append_left _

theorem interfaces_ids (main : String) (objects : List Json) :
    ((objects.flatMap Interface.members).filterMap idOf).Perm
      ((Interfaces.checks main objects).filterMap id?) := by
  induction objects generalizing main with
  | nil => exact List.Perm.nil
  | cons first rest ih =>
    rw [flatMap_cons, Interfaces.checks, filterMap_append, filterMap_append]
    exact (interface_ids main first).append (ih _)

theorem ids_perm : ((members root).filterMap idOf).Perm ((checks root).filterMap id?) := by
  simp only [members, checks, filterMap_append, filterMap_flatMap, enum_ids, struct_ids]
  refine List.Perm.append_left _ (List.Perm.append_left _ ?_)
  rw [<- filterMap_flatMap]
  simpa [id?, filterMap_cons] using interfaces_ids "" (objects "interfaces" root)

theorem member_of_id {members : List Member} (distinct : (members.filterMap idOf).Nodup)
    {member other : Member} (listed : member ∈ members) (listedToo : other ∈ members)
    (given : member.memberId ≠ 0) (same : other.memberId = member.memberId) : other = member := by
  have id : idOf member = some member.memberId := if_neg given
  have otherId : idOf other = some member.memberId := by rw [idOf, same, if_neg given]
  induction members with
  | nil => cases listed
  | cons first rest ih =>
    rcases mem_cons.1 listed with rfl | later <;>
      rcases mem_cons.1 listedToo with rfl | laterToo
    · rfl
    · rw [filterMap_cons_some id, nodup_cons] at distinct
      exact absurd (mem_filterMap.2 ⟨other, laterToo, otherId⟩) distinct.1
    · rw [filterMap_cons_some otherId, nodup_cons] at distinct
      exact absurd (mem_filterMap.2 ⟨member, later, id⟩) distinct.1
    · exact ih (distinct.sublist ((sublist_cons_self first rest).filterMap _)) later laterToo

theorem lookup_insertNameMap (map : KeyedMap String UInt32) (key entry : String) (value : UInt32)
    (named : entry ≠ "") :
    (insertNameMap map key value).lookup entry =
      (map.lookup entry).or (if key = entry then some value else none) := by
  unfold insertNameMap
  by_cases same : key = entry
  · subst same
    cases held : map.lookup key <;> simp [named, held]
  · rw [if_neg same, or_none]
    split
    · rw [KeyedMap.lookup_insert_eq, if_neg (Ne.symm same)]
    · rfl

theorem lookup_insertIdMap (map : KeyedMap UInt32 String) (key memberId : UInt32) (value : String) :
    (insertIdMap map key value).lookup memberId =
      (map.lookup memberId).or (if key = memberId ∧ value ≠ "" then some value else none) := by
  unfold insertIdMap
  by_cases same : key = memberId
  · subst same
    by_cases named : value = "" <;> cases held : map.lookup key <;> simp [named, held]
  · have none : ¬(key = memberId ∧ value ≠ "") := fun both => same both.1
    rw [if_neg none, or_none]
    split
    · rw [KeyedMap.lookup_insert_eq, if_neg (Ne.symm same)]
    · rfl

theorem lookup_nameToMemberId (names : MemberNames) (members : List Member) (usedIds : List UInt32)
    {entry : String} (named : entry ≠ "") :
    (names.enter members usedIds).nameToMemberId.lookup entry =
      (names.nameToMemberId.lookup entry).or
        ((members.find? (·.entry = entry)).map (·.memberId)) := by
  induction members generalizing names with
  | nil => exact (or_none).symm
  | cons first rest ih =>
    refine (ih (names.insert first.entry first.memberId)).trans ?_
    rw [MemberNames.insert, lookup_insertNameMap _ _ _ _ named, Option.or_assoc, find?_cons]
    by_cases same : first.entry = entry <;> simp [same]

theorem lookup_memberIdToName (names : MemberNames) (members : List Member) (usedIds : List UInt32)
    (memberId : UInt32) :
    (names.enter members usedIds).memberIdToName.lookup memberId =
      (names.memberIdToName.lookup memberId).or
        ((members.find? fun member => member.memberId = memberId ∧ member.entry ≠ "").map
          (·.entry)) := by
  induction members generalizing names with
  | nil => exact (or_none).symm
  | cons first rest ih =>
    refine (ih (names.insert first.entry first.memberId)).trans ?_
    rw [MemberNames.insert, lookup_insertIdMap, Option.or_assoc, find?_cons]
    by_cases same : first.memberId = memberId ∧ first.entry ≠ ""
    · rw [if_pos same, decide_eq_true same]; rfl
    · rw [if_neg same, decide_eq_false same]; rfl

theorem pairwise_iff_find {members : List Member} (distinct : (members.filterMap idOf).Nodup) :
    members.Pairwise (fun earlier later =>
        later.name ≠ "" -> later.memberId ≠ 0 -> earlier.entry ≠ later.entry) ↔
      ∀ member ∈ members, member.name ≠ "" -> member.memberId ≠ 0 ->
        members.find? (·.entry = member.entry) = some member := by
  induction members using reverseRecOn with
  | nil => simp
  | append_singleton members last ih =>
    have earlier := ih (distinct.sublist ((sublist_append_left members [last]).filterMap _))
    rw [pairwise_append, earlier]
    constructor
    · rintro ⟨first, _, apart⟩ member listed named given
      rw [find?_append]
      rcases mem_append.1 listed with old | new
      · rw [first member old named given, some_or]
      · cases mem_singleton.1 new
        have unmet : members.find? (·.entry = last.entry) = none := find?_eq_none.2
          fun other held => by simpa using apart other held last new named given
        simp [unmet]
    · intro first
      have found : ∀ member ∈ members ++ [last], member.name ≠ "" -> member.memberId ≠ 0 ->
          ∀ other ∈ members, other.entry = member.entry ->
            members.find? (·.entry = member.entry) = some member := by
        intro member listed named given other held same
        have whole := first member listed named given
        rw [find?_append] at whole
        cases within : members.find? (·.entry = member.entry) with
        | none => exact absurd same (by simpa using find?_eq_none.1 within other held)
        | some some => rwa [within, some_or] at whole
      refine ⟨fun member old named given => ?_, pairwise_singleton _ _, ?_⟩
      · exact found member (mem_append_left _ old) named given member old rfl
      · intro other held member new named given same
        cases mem_singleton.1 new
        have repeated := mem_of_find?_eq_some
          (found last (mem_append_right _ new) named given other held same)
        have id : idOf last = some last.memberId := if_neg given
        rw [filterMap_append, filterMap_cons_some id, nodup_append] at distinct
        exact distinct.2.2 _ (mem_filterMap.2 ⟨last, repeated, id⟩) _ mem_cons_self rfl

theorem entry_of_named {member : Member} (listed : member ∈ members root) (named : member.name ≠ "") :
    member.entry ≠ "" := by
  have qualified : ∀ holder : String, holder ++ "." ++ member.name ≠ "" := by
    intro holder empty
    exact named (String.append_eq_empty_iff.1 empty).2
  simp only [members, mem_append, mem_flatMap, Enum.members, Struct.members,
    Interface.members, Method.members, mem_cons, List.mem_map] at listed
  rcases listed with ⟨enum, _, rfl | ⟨value, _, rfl⟩⟩ | ⟨struct, _, rfl | ⟨field, _, rfl⟩⟩ |
    ⟨interface, _, rfl | ⟨method, _, ⟨param, _, rfl⟩ | rfl | none⟩⟩
  all_goals first | exact named | exact qualified _ | cases none

theorem inverse_iff (pass : Pass (checks root)) :
    (∀ member ∈ members root, member.name ≠ "" -> member.memberId ≠ 0 ->
        (declared root).nameToMemberId.lookup member.entry = some member.memberId ∧
          (declared root).memberIdToName.lookup member.memberId = some member.entry) ↔
      (members root).Pairwise fun earlier later =>
        later.name ≠ "" -> later.memberId ≠ 0 -> earlier.entry ≠ later.entry := by
  have distinct : ((members root).filterMap idOf).Nodup := ids_perm.nodup_iff.2 pass.distinct
  rw [pairwise_iff_find distinct]
  refine forall₄_congr fun member listed named given => ?_
  have entered := entry_of_named listed named
  have byName : (declared root).nameToMemberId.lookup member.entry =
      ((members root).find? (·.entry = member.entry)).map (·.memberId) :=
    (lookup_nameToMemberId {} (members root) [] entered).trans (none_or)
  have byId : (declared root).memberIdToName.lookup member.memberId = some member.entry := by
    refine (lookup_memberIdToName {} (members root) [] member.memberId).trans ?_
    cases found : (members root).find? fun other =>
        other.memberId = member.memberId ∧ other.entry ≠ "" with
    | none =>
      have unmet := find?_eq_none.1 found member listed
      exact absurd (decide_eq_true ⟨rfl, entered⟩) unmet
    | some other =>
      have same : other.memberId = member.memberId := by
        have both := find?_some found
        rw [decide_eq_true_eq] at both
        exact both.1
      rw [member_of_id distinct listed (mem_of_find?_eq_some found) given same]
      rfl
  rw [byName]
  constructor
  · rintro ⟨named, _⟩
    obtain ⟨first, found, same⟩ := map_eq_some_iff.1 named
    rw [found, member_of_id distinct listed (mem_of_find?_eq_some found) given same]
  · intro found
    exact ⟨by rw [found]; rfl, byId⟩

/-! ### Methods and the main service -/

theorem lookup_insertMethods (methods : List MoMethodMeta)
    (distinct : (methods.map (·.memberId)).Nodup) (map : KeyedMap UInt32 MoMethodMeta)
    (memberId : UInt32) (method : MoMethodMeta) :
    (methods.foldl (fun map method => map.insert method.memberId method) map).lookup memberId =
        some method ↔
      method ∈ methods ∧ method.memberId = memberId ∨
        memberId ∉ methods.map (·.memberId) ∧ map.lookup memberId = some method := by
  induction methods generalizing map with
  | nil => simp
  | cons first rest ih =>
    rw [map_cons, nodup_cons] at distinct
    rw [foldl_cons, ih distinct.2, KeyedMap.lookup_insert_eq]
    by_cases same : memberId = first.memberId
    · subst same
      have later : ¬(method ∈ rest ∧ method.memberId = first.memberId) :=
        fun both => distinct.1 (mem_map.2 ⟨method, both⟩)
      simp only [later, distinct.1, false_or, map_cons, mem_cons, not_true,
        false_and, or_false, if_true, not_false_iff, true_and, Option.some.injEq]
      constructor
      · rintro rfl
        exact ⟨.inl rfl, rfl⟩
      · rintro ⟨rfl | listed, id⟩
        exacts [rfl, absurd ⟨listed, id⟩ later]
    · have other : method = first -> method.memberId ≠ memberId := by
        rintro rfl
        exact Ne.symm same
      rw [if_neg same, map_cons, mem_cons, mem_cons, not_or]
      constructor
      · rintro (⟨listed, id⟩ | ⟨free, held⟩)
        exacts [.inl ⟨.inr listed, id⟩, .inr ⟨⟨same, free⟩, held⟩]
      · rintro (⟨rfl | listed, id⟩ | ⟨⟨_, free⟩, held⟩)
        exacts [absurd id (other rfl), .inl ⟨listed, id⟩, .inr ⟨free, held⟩]

theorem methodOf (pass : Pass (checks root)) (memberId : UInt32) (method : MoMethodMeta) :
    (declared root).memberIdToMethod.lookup memberId = some method ↔
      method ∈ (declared root).methods ∧ method.memberId = memberId := by
  have distinct : ((declared root).methods.map (·.memberId)).Nodup := by
    refine List.Nodup.sublist ?_ (memberIds_distinct pass)
    rw [Metadata.methods, map_flatMap, Metadata.memberIds]
    refine List.Sublist.trans ?_ (sublist_append_right _ _)
    refine List.Sublist.trans ?_ (sublist_append_right _ _)
    exact List.Sublist.flatMap_right _ fun interface _ => sublist_cons_self _ _
  refine (lookup_insertMethods (declared root).methods distinct ∅ memberId method).trans ?_
  simp

theorem notMain_of_holds {main : String}
    (held : ∀ check ∈ Interface.checks main object, check.Holds) (given : main ≠ "") :
    Interface.isMain object = false := by
  have checked : Check.valid (!Interface.isMain object || main = "") ∈ Interface.checks main object :=
    mem_append_right _ (mem_append_right _ mem_cons_self)
  have accepted : (!Interface.isMain object || decide (main = "")) = true := held _ checked
  simpa [given] using accepted

theorem noMain_of_holds {objects : List Json} {main : String}
    (held : ∀ check ∈ Interfaces.checks main objects, check.Holds) (given : main ≠ "") :
    objects.filter Interface.isMain = [] := by
  induction objects with
  | nil => rfl
  | cons first rest ih =>
    rw [Interfaces.checks, forall_mem_append] at held
    have other := notMain_of_holds held.1 given
    have same : mainAfter main first = main := by simp [mainAfter, other]
    rw [same] at held
    rw [filter_cons_of_neg (by simp [other])]
    exact ih held.2

theorem mainAfter_of_noMain {objects : List Json} {main : String}
    (none : objects.filter isMain = []) : Interfaces.mainAfter main objects = main := by
  induction objects with
  | nil => rfl
  | cons first rest ih =>
    cases isMain : isMain first with
    | true => simp [isMain] at none
    | false =>
      have same : Interface.mainAfter main first = main := by simp [Interface.mainAfter, isMain]
      rw [filter_cons_of_neg (by simp [isMain])] at none
      rw [Interfaces.mainAfter, foldl_cons, same]
      exact ih none

theorem main_iff {objects : List Json}
    (held : ∀ check ∈ Interfaces.checks "" objects, check.Holds)
    (given : Interfaces.mainAfter "" objects ≠ "") :
    (objects.filter isMain).length = 1 ↔
      ∀ object ∈ objects, isMain object -> nameOf object ≠ "" := by
  induction objects with
  | nil => exact absurd rfl given
  | cons first rest ih =>
    rw [Interfaces.checks, forall_mem_append] at held
    rw [Interfaces.mainAfter, foldl_cons] at given
    rw [forall_mem_cons]
    cases isMain : isMain first with
    | false =>
      have same : mainAfter "" first = "" := by simp [mainAfter, isMain]
      rw [same] at held given
      rw [filter_cons_of_neg (by simp [isMain]), ih held.2 given]
      simp
    | true =>
      have next : mainAfter "" first = nameOf first := by
        simp [mainAfter, isMain]
      rw [next] at held given
      rw [filter_cons_of_pos isMain, length_cons]
      by_cases named : nameOf first = ""
      · rw [named] at given
        have more : rest.filter Interface.isMain ≠ [] := fun none => given (mainAfter_of_noMain none)
        have some := length_pos_iff.2 more
        constructor
        · omega
        · exact fun all => absurd named (all.1 rfl)
      · have none := noMain_of_holds held.2 named
        simp only [none, length_nil, Nat.zero_add, true_iff]
        refine ⟨fun _ => named, fun object listed main => ?_⟩
        have found := mem_filter.2 ⟨listed, main⟩
        rw [none] at found
        cases found

/-! ### What is not asked -/

theorem typed_iff {name : String} (accepted : hasValidType name object = true) :
    (typeOf name object).isSome ↔ (object.objectMember? name).isSome := by
  cases found : object.objectMember? name with
  | none => simp [typeOf, found]
  | some typeInfoObj => simpa [typeOf, hasValidType, found] using accepted

theorem typedFields_iff (pass : Pass (checks root)) :
    (∀ field ∈ (declared root).fields, field.typeInfo.isSome) ↔
      ∀ object ∈ fieldObjects root, (object.objectMember? "type_info").isSome := by
  rw [fields_eq, List.forall_mem_map]
  refine forall₂_congr fun object listed => typed_iff ?_
  exact pass.held (.valid (hasValidType "type_info" object))
    (field_checks listed (by simp [Field.checks]))

theorem typedParams_iff (pass : Pass (checks root)) :
    (∀ param ∈ (declared root).params, param.typeInfo.isSome) ↔
      ∀ object ∈ paramObjects root, (object.objectMember? "type_info").isSome := by
  rw [params_eq, List.forall_mem_map]
  refine forall₂_congr fun object listed => typed_iff ?_
  exact pass.held (.valid (hasValidType "type_info" object))
    (param_checks listed (by simp [Param.checks]))

theorem referenced_iff (pass : Pass (checks root)) :
    (∀ type ∈ (declared root).types, ∀ reference ∈ type.references,
        (declared root).declares reference.1 reference.2) ↔
      ∀ object ∈ typeObjects root, ∀ reference ∈ referencesOf object,
        ∃ declaration ∈ objects (listOf reference.1) root, nameOf declaration = reference.2 := by
  simp only [types_eq, declares_iff, mem_filterMap]
  constructor
  · intro closed object listed
    obtain ⟨type, parsed⟩ := isSome_iff_exists.1 (parses_of_pass pass listed)
    rw [<- references_eq object type parsed]
    exact closed type ⟨object, listed, parsed⟩
  · rintro closed type ⟨object, listed, parsed⟩
    rw [references_eq object type parsed]
    exact closed object listed

theorem isMainService_declared (object : Json) :
    (Interface.declared object).isMainService = Interface.isMain object := by
  unfold MoInterfaceMeta.isMainService Interface.declared Interface.isMain
  cases type? object <;> simp

theorem consistent_iff (pass : Pass (checks root)) :
    (declared root).Consistent (members root) ↔ Closed root := by
  have mains : ((declared root).interfaces.filter (·.isMainService)).length = 1 ↔
      ∀ object ∈ objects "interfaces" root, Interface.isMain object -> nameOf object ≠ "" := by
    have held : ∀ check ∈ Interfaces.checks "" (objects "interfaces" root), check.Holds :=
      fun check asked => pass.held check
        (mem_append_right _ (mem_append_right _ (mem_append_left _ asked)))
    have given : decide (mainServiceInterface root ≠ "") = true := pass.held (.valid _)
      (mem_append_right _ (mem_append_right _ (mem_append_right _ mem_cons_self)))
    rw [<- main_iff held (of_decide_eq_true given)]
    simp [declared, List.filter_map, Function.comp_def, isMainService_declared]
  constructor
  · intro consistent
    refine ⟨forall_mem_append.2 ⟨?_, ?_⟩, ?_, ?_, ?_⟩
    · exact (typedFields_iff pass).1 consistent.typedFields
    · exact (typedParams_iff pass).1 consistent.typedParams
    · exact (referenced_iff pass).1 consistent.referenced
    · exact (inverse_iff pass).1 consistent.inverse
    · exact mains.1 consistent.main
  · intro closed
    obtain ⟨fields, params⟩ := forall_mem_append.1 closed.typed
    exact {
      typedFields := (typedFields_iff pass).2 fields
      typedParams := (typedParams_iff pass).2 params
      referenced := (referenced_iff pass).2 closed.referenced
      distinct := memberIds_distinct pass
      given := memberIds_given pass
      inverse := (inverse_iff pass).2 closed.firstOfName
      methodOf := methodOf pass
      main := mains.2 closed.namedMain }

end Root

theorem parseMetadata_object {root : Json} (object : root.isObject = true) :
    parseMetadata (some root) = (verdict [] (Root.checks root)).map fun _ => Root.declared root := by
  cases root with
  | object members => exact parseRoot_eq _
  | _ => cases object

theorem parseMetadata_other {root : Json} (other : root.isObject = false) :
    parseMetadata (some root) = .error .metadataInvalid := by
  cases root with
  | object members => cases other
  | _ => rfl

theorem typeError_iff {root : Json} (object : root.isObject = true) :
    parseMetadata (some root) = .error .jsonTypeError ↔
      ∃ before rest, Root.checks root = before ++ .reads false :: rest ∧ Pass before := by
  have raised : (verdict [] (Root.checks root)).map (fun _ => Root.declared root) =
      .error .jsonTypeError ↔ verdict [] (Root.checks root) = .error .jsonTypeError := by
    cases verdict [] (Root.checks root) <;> simp [Except.map]
  rw [parseMetadata_object object, raised, verdict_typeError_iff]
  simp only [verdict_ok_iff_pass]

theorem parsed_iff {root : Json} (object : root.isObject = true) (metadata : Metadata) :
    parseMetadata (some root) = .ok metadata ↔
      Pass (Root.checks root) ∧ metadata = Root.declared root := by
  rw [parseMetadata_object object, <- verdict_ok_iff_pass]
  cases verdict [] (Root.checks root) <;> simp [Except.map, eq_comm]

/-- A document is parsed well when its checks come before its unreadable values. -/
theorem parsesWell_iff (document : Option Json) :
    ParsesWell document ↔
      ∀ root, document = some root -> root.isObject = true -> Root.MeetsExpectations root := by
  constructor
  · rintro ⟨noError, consistent⟩ root rfl object
    constructor
    · intro before rest split pass
      exact noError ((typeError_iff object).2 ⟨before, rest, split, pass⟩)
    · intro pass
      exact (Root.consistent_iff pass).1
        (consistent _ root rfl ((parsed_iff object _).2 ⟨pass, rfl⟩))
  · intro meets
    cases document with
    | none => exact ⟨nofun, nofun⟩
    | some root =>
      cases object : root.isObject with
      | false =>
        rw [ParsesWell, parseMetadata_other object]
        exact ⟨nofun, nofun⟩
      | true =>
        have expected := meets root rfl object
        constructor
        · intro raised
          obtain ⟨before, rest, split, pass⟩ := (typeError_iff object).1 raised
          exact expected.readable before rest split pass
        · rintro metadata _ ⟨rfl⟩ parsed
          obtain ⟨pass, rfl⟩ := (parsed_iff object metadata).1 parsed
          exact (Root.consistent_iff pass).2 (expected.closed pass)

theorem enumValue_raises :
    ¬ParsesWell (some (.object [("enums", .array [.object [("memberId", .integer 1),
      ("name", .string "Color"), ("values", .array [.integer 5])]])])) := by
  rintro ⟨noError, _⟩
  exact noError rfl

end AbilityRuntime.ModObjDispatcher
