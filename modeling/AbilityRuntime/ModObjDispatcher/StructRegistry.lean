import AbilityRuntime.ModObjDispatcher.MetadataManager
import AbilityRuntime.Library.Runs

set_option autoImplicit false

namespace AbilityRuntime.ModObjDispatcher

open Library Option KeyedMap Function List

/-- The structs of the whole process: g_structFieldTypes and g_structFieldOrder. -/
structure StructRegistry where
  structFieldTypes : KeyedMap String (KeyedMap String (Option MoTypeInfo)) := ∅
  structFieldOrder : KeyedMap String (List String) := ∅

def MoStructMeta.fieldTypes (struct : MoStructMeta) : KeyedMap String (Option MoTypeInfo) :=
  struct.fields.foldl (fun map field => map.insert field.name field.typeInfo) ∅

def MoStructMeta.fieldOrder (struct : MoStructMeta) : List String := struct.fields.map (·.name)

namespace StructRegistry

def add (registry : StructRegistry) (struct : MoStructMeta) : StructRegistry where
  structFieldTypes := registry.structFieldTypes.insert struct.name struct.fieldTypes
  structFieldOrder := registry.structFieldOrder.insert struct.name struct.fieldOrder

def registerStructMetadata (structs : List MoStructMeta) : StructRegistry := structs.foldl add {}

def unregisterStructMetadata (registry : StructRegistry) (structs : List MoStructMeta) :
    StructRegistry where
  structFieldTypes := eraseAll registry.structFieldTypes (structs.map (·.name))
  structFieldOrder := eraseAll registry.structFieldOrder (structs.map (·.name))

def getStructFieldType (registry : StructRegistry) (structName fieldName : String) :
    Option (Option MoTypeInfo) :=
  (registry.structFieldTypes.lookup structName).bind (·.lookup fieldName)

def getStructFieldNames (registry : StructRegistry) (structName : String) : Option (List String) :=
  registry.structFieldOrder.lookup structName

def structCreate (registry : StructRegistry) (structName : String) :
    Option (KeyedMap String (Option MoTypeInfo)) :=
  registry.structFieldTypes.lookup structName

end StructRegistry

/-- The metadata managers, each with its metadata while it is loaded, and the registry. -/
structure Dispatchers where
  managers : Nat -> Option Metadata := fun _ => none
  registry : StructRegistry := {}

inductive DispatcherStep where
  /-- The reply is none when the request fails, and the text is none when it is no document. -/
  | ensureLoaded (mgr : Nat) (reply : Option (Option Json))
  | clearCache (mgr : Nat)

namespace Dispatchers

def loads (state : Dispatchers) (mgr : Nat) (reply : Option (Option Json)) : Option Metadata :=
  match state.managers mgr, reply with
  | none, some root => (parseMetadata root).toOption
  | _, _ => none

def ensureLoaded (state : Dispatchers) (mgr : Nat) (reply : Option (Option Json)) :
    Dispatchers :=
  match state.loads mgr reply with
  | some metadata =>
    { managers := update state.managers mgr (some metadata)
      registry := StructRegistry.registerStructMetadata metadata.structs }
  | none => state

def clearCache (state : Dispatchers) (mgr : Nat) : Dispatchers :=
  match state.managers mgr with
  | some metadata =>
    { managers := update state.managers mgr none
      registry := state.registry.unregisterStructMetadata metadata.structs }
  | none => state

def step (state : Dispatchers) : DispatcherStep -> Dispatchers
  | .ensureLoaded mgr reply => state.ensureLoaded mgr reply
  | .clearCache mgr => state.clearCache mgr

end Dispatchers

def dispatchers : Machine Dispatchers DispatcherStep where
  start := {}
  step := Dispatchers.step

/-- The registry answers for a struct with its own fields, their order and their types. -/
structure Answers (registry : StructRegistry) (struct : MoStructMeta) : Prop where
  names : registry.getStructFieldNames struct.name = some struct.fieldOrder
  types : ∀ field ∈ struct.fields,
    registry.getStructFieldType struct.name field.name = some field.typeInfo
  created : ∃ fieldTypes, registry.structCreate struct.name = some fieldTypes ∧
    ∀ field ∈ struct.fields, fieldTypes.lookup field.name = some field.typeInfo

def AnswersAll (state : Dispatchers) : Prop :=
  ∀ mgr metadata, state.managers mgr = some metadata ->
    ∀ struct ∈ metadata.structs, Answers state.registry struct

def Declares (structs : List MoStructMeta) (struct : MoStructMeta) : Prop :=
  ∃ last, structs.reverse.find? (·.name = struct.name) = some last ∧
    last.fieldOrder = struct.fieldOrder ∧ ∀ field ∈ struct.fields,
      (last.fields.reverse.find? (·.name = field.name)).map (·.typeInfo) = some field.typeInfo

/-- A load declares all structs of the loaded, and a clear leaves none without. -/
def KeepsStructs (state : Dispatchers) : DispatcherStep -> Prop
  | .ensureLoaded mgr reply => ∀ metadata, state.loads mgr reply = some metadata ->
      ∀ other loaded, (if other = mgr then some metadata else state.managers other) = some loaded ->
        ∀ struct ∈ loaded.structs, Declares metadata.structs struct
  | .clearCache mgr => ∀ metadata, state.managers mgr = some metadata ->
      ∀ other loaded, other ≠ mgr -> state.managers other = some loaded ->
        ∀ struct ∈ loaded.structs, ∀ cleared ∈ metadata.structs, cleared.name ≠ struct.name

theorem lookup_fieldTypes (struct : MoStructMeta) (fieldName : String) :
    struct.fieldTypes.lookup fieldName =
      (struct.fields.reverse.find? (·.name = fieldName)).map (·.typeInfo) := by
  have general : ∀ (fields : List MoStructFieldMeta) (map : KeyedMap String (Option MoTypeInfo)),
      (fields.foldl (fun map field => map.insert field.name field.typeInfo) map).lookup fieldName =
        ((fields.reverse.find? (·.name = fieldName)).map (·.typeInfo)).or
          (map.lookup fieldName) := by
    intro fields
    induction fields with
    | nil => exact fun _ => rfl
    | cons field rest ih =>
      intro map
      rw [foldl_cons, ih, lookup_insert_eq, reverse_cons, find?_append]
      cases rest.reverse.find? (·.name = fieldName) with
      | some found => rfl
      | none => by_cases same : fieldName = field.name <;> simp [same, eq_comm]
  rw [MoStructMeta.fieldTypes, general, AList.lookup_empty, or_none]

theorem lookup_registerStructMetadata (structs : List MoStructMeta) (name : String) :
    (StructRegistry.registerStructMetadata structs).structFieldTypes.lookup name =
        (structs.reverse.find? (·.name = name)).map (·.fieldTypes) ∧
      (StructRegistry.registerStructMetadata structs).structFieldOrder.lookup name =
        (structs.reverse.find? (·.name = name)).map (·.fieldOrder) := by
  have general : ∀ (structs : List MoStructMeta) (registry : StructRegistry),
      (structs.foldl StructRegistry.add registry).structFieldTypes.lookup name =
          ((structs.reverse.find? (·.name = name)).map (·.fieldTypes)).or
            (registry.structFieldTypes.lookup name) ∧
        (structs.foldl StructRegistry.add registry).structFieldOrder.lookup name =
          ((structs.reverse.find? (·.name = name)).map (·.fieldOrder)).or
            (registry.structFieldOrder.lookup name) := by
    intro structs
    induction structs with
    | nil => exact fun _ => ⟨rfl, rfl⟩
    | cons struct rest ih =>
      intro registry
      rw [foldl_cons, (ih _).1, (ih _).2, reverse_cons, find?_append]
      simp only [StructRegistry.add, lookup_insert_eq]
      cases rest.reverse.find? (·.name = name) with
      | some found => exact ⟨rfl, rfl⟩
      | none => by_cases same : name = struct.name <;> simp [same, eq_comm]
  have both := general structs {}
  simpa [StructRegistry.registerStructMetadata] using both

theorem answers_registerStructMetadata_iff {structs : List MoStructMeta} {struct : MoStructMeta} :
    Answers (StructRegistry.registerStructMetadata structs) struct ↔ Declares structs struct := by
  obtain ⟨types, order⟩ := lookup_registerStructMetadata structs struct.name
  constructor
  · rintro ⟨names, each, _⟩
    rw [StructRegistry.getStructFieldNames, order, map_eq_some_iff] at names
    obtain ⟨last, found, same⟩ := names
    refine ⟨last, found, same, fun field mem => ?_⟩
    have answer := each field mem
    rw [StructRegistry.getStructFieldType, types, found, map_some, bind_some,
      lookup_fieldTypes] at answer
    exact answer
  · rintro ⟨last, found, same, each⟩
    have registered : (StructRegistry.registerStructMetadata structs).structFieldTypes.lookup
        struct.name = some last.fieldTypes := by rw [types, found, map_some]
    have each' : ∀ field ∈ struct.fields, last.fieldTypes.lookup field.name = some field.typeInfo :=
      fun field mem => (lookup_fieldTypes last field.name).trans (each field mem)
    refine ⟨?_, fun field mem => ?_, last.fieldTypes, registered, each'⟩
    · rw [StructRegistry.getStructFieldNames, order, found, map_some, same]
    · rw [StructRegistry.getStructFieldType, registered, bind_some, each' field mem]

theorem answers_unregisterStructMetadata_iff {registry : StructRegistry}
    {structs : List MoStructMeta} {struct : MoStructMeta} (before : Answers registry struct) :
    Answers (registry.unregisterStructMetadata structs) struct ↔
      ∀ cleared ∈ structs, cleared.name ≠ struct.name := by
  have named : struct.name ∈ structs.map (·.name) ↔ ∃ cleared ∈ structs, cleared.name = struct.name :=
    mem_map
  constructor
  · rintro ⟨names, _, _⟩ cleared mem same
    rw [StructRegistry.getStructFieldNames, StructRegistry.unregisterStructMetadata,
      lookup_eraseAll, if_pos (named.2 ⟨cleared, mem, same⟩)] at names
    cases names
  · intro kept
    have apart : struct.name ∉ structs.map (·.name) := fun mem =>
      let ⟨cleared, listed, same⟩ := named.1 mem
      kept cleared listed same
    obtain ⟨names, types, created⟩ := before
    have fieldTypes := lookup_eraseAll registry.structFieldTypes (structs.map (·.name)) struct.name
    have fieldOrder := lookup_eraseAll registry.structFieldOrder (structs.map (·.name)) struct.name
    rw [if_neg apart] at fieldTypes fieldOrder
    refine ⟨fieldOrder.trans names, fun field mem => ?_, ?_⟩
    · rw [StructRegistry.getStructFieldType, StructRegistry.unregisterStructMetadata, fieldTypes]
      exact types field mem
    · obtain ⟨held, created, each⟩ := created
      exact ⟨held, fieldTypes.trans created, each⟩

namespace Dispatchers

variable {state : Dispatchers}

theorem answersAll_ensureLoaded_iff (before : AnswersAll state) (mgr : Nat)
    (reply : Option (Option Json)) :
    AnswersAll (state.ensureLoaded mgr reply) ↔ KeepsStructs state (.ensureLoaded mgr reply) := by
  cases loaded : state.loads mgr reply with
  | none => simp [ensureLoaded, KeepsStructs, loaded, before]
  | some metadata =>
    simp only [ensureLoaded, KeepsStructs, loaded, AnswersAll, update_apply,
      answers_registerStructMetadata_iff, Option.some.injEq]
    exact ⟨fun each _ same => same ▸ each, fun each => each metadata rfl⟩

theorem answersAll_clearCache_iff (before : AnswersAll state) (mgr : Nat) :
    AnswersAll (state.clearCache mgr) ↔ KeepsStructs state (.clearCache mgr) := by
  cases loaded : state.managers mgr with
  | none => simp [clearCache, KeepsStructs, loaded, before]
  | some metadata =>
    simp only [clearCache, KeepsStructs, loaded, AnswersAll, Option.some.injEq]
    constructor
    · rintro after _ rfl other held apart found struct mem
      exact (answers_unregisterStructMetadata_iff (before other held found struct mem)).1
        (after other held (by rw [update_of_ne apart, found]) struct mem)
    · intro keeps other held found struct mem
      have apart : other ≠ mgr := by
        rintro rfl
        rw [update_self] at found
        cases found
      rw [update_of_ne apart] at found
      exact (answers_unregisterStructMetadata_iff (before other held found struct mem)).2
        (keeps metadata rfl other held apart found struct mem)

theorem answersAll_step_iff (before : AnswersAll state) (step : DispatcherStep) :
    AnswersAll (state.step step) ↔ KeepsStructs state step := by
  cases step with
  | ensureLoaded mgr reply => exact answersAll_ensureLoaded_iff before mgr reply
  | clearCache mgr => exact answersAll_clearCache_iff before mgr

end Dispatchers

/-- Every loaded manager finds its structs exactly when no step takes another's. -/
theorem dispatchers_answer_iff (steps : List DispatcherStep) :
    dispatchers.Throughout steps AnswersAll ↔ dispatchers.EveryStep steps KeepsStructs := by
  refine @Machine.throughout_iff_everyStep _ _ dispatchers (fun _ _ => True) KeepsStructs
    AnswersAll AnswersAll nofun ?_ (fun _ => id) ?_ steps fun _ _ _ _ => trivial
  · exact fun state step before _ => (Dispatchers.answersAll_step_iff before step).2
  · exact fun state step before _ => (Dispatchers.answersAll_step_iff before step).1

def structDocument (struct : String) : Json := .object
  [("structs", .array [.object [("name", .string struct), ("memberId", .integer 1),
    ("fields", .array [.object [("name", .string "f"),
      ("type_info", .object [("type", .string "i32")])]])]]),
   ("interfaces", .array [.object [("name", .string "Main"), ("memberId", .integer 2),
    ("interface_type", .integer 1)]])]

def secondLoad : List DispatcherStep :=
  [.ensureLoaded 0 (some (some (structDocument "A"))),
    .ensureLoaded 1 (some (some (structDocument "B")))]

theorem secondLoad_losesStruct : ¬dispatchers.Throughout secondLoad AnswersAll := by
  have own : ((dispatchers.run secondLoad).managers 0).map (·.structs.map (·.name)) =
      some ["A"] := by decide +kernel
  have lost : (dispatchers.run secondLoad).registry.getStructFieldNames "A" = none := by
    decide +kernel
  intro throughout
  obtain ⟨metadata, loaded, names⟩ := Option.map_eq_some_iff.1 own
  obtain ⟨struct, mem, name⟩ := mem_map.1 (names ▸ mem_singleton_self "A")
  have answers := throughout secondLoad [] (by simp) 0 metadata loaded struct mem
  have answered := answers.names
  rw [name, lost] at answered
  cases answered

end AbilityRuntime.ModObjDispatcher
