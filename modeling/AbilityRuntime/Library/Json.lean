import Mathlib.Data.String.Basic

set_option autoImplicit false

namespace AbilityRuntime.Library

open List

theorem lookup_entry {K V : Type} [BEq K] [LawfulBEq K] [DecidableEq K] (key other : K) (value : V)
    (rest : List (K × V)) :
    ((key, value) :: rest).lookup other =
      if other = key then some value else rest.lookup other := by
  by_cases same : other = key
  · subst same
    rw [lookup_cons_self, if_pos rfl]
  · have apart : (other == key) = false := beq_eq_false_iff_ne.2 same
    rw [lookup_cons, apart, if_neg same]

/-- A JSON value as nlohmann::json holds it, with whole numbers only. -/
inductive Json where
  | null
  | boolean (value : Bool)
  | integer (value : Int)
  | float (whole : Int)
  | string (value : String)
  | array (elements : List Json)
  | object (members : List (String × Json))

namespace Json

def isObject : Json -> Bool
  | object _ => true
  | _ => false

def member? (name : String) : Json -> Option Json
  | object members => members.lookup name
  | _ => none

def string? : Json -> Option String
  | string value => some value
  | _ => none

def integer? : Json -> Option Int
  | integer value => some value
  | _ => none

def boolean? : Json -> Option Bool
  | boolean value => some value
  | _ => none

def array? : Json -> Option (List Json)
  | array elements => some elements
  | _ => none

def object? : Json -> Option Json
  | object members => some (object members)
  | _ => none

def stringMember? (name : String) (json : Json) : Option String := (json.member? name).bind string?

def integerMember? (name : String) (json : Json) : Option Int := (json.member? name).bind integer?

def booleanMember? (name : String) (json : Json) : Option Bool := (json.member? name).bind boolean?

def arrayMember? (name : String) (json : Json) : Option (List Json) :=
  (json.member? name).bind array?

def objectMember? (name : String) (json : Json) : Option Json := (json.member? name).bind object?

def setMember (name : String) (value : Json) : List (String × Json) -> List (String × Json)
  | [] => [(name, value)]
  | (first, held) :: rest =>
    if name < first then (name, value) :: (first, held) :: rest
    else if name = first then (name, value) :: rest
    else (first, held) :: setMember name value rest

def ofMembers (members : List (String × Json)) : Json :=
  object (members.foldl (fun all entry => setMember entry.1 entry.2 all) [])

theorem lookup_setMember (name other : String) (value : Json) (members : List (String × Json)) :
    (setMember name value members).lookup other =
      if other = name then some value else members.lookup other := by
  induction members with
  | nil => exact lookup_entry name other value []
  | cons entry rest ih =>
    obtain ⟨first, held⟩ := entry
    unfold setMember
    split
    · exact lookup_entry name other value _
    · split
      next equal =>
        subst equal
        rw [lookup_entry, lookup_entry]
        split <;> rfl
      next apart =>
        rw [lookup_entry, lookup_entry, ih]
        by_cases same : other = first
        · rw [if_pos same, if_pos same, if_neg fun equal => apart (equal.symm.trans same)]
        · rw [if_neg same, if_neg same]

theorem member?_ofMembers (members : List (String × Json)) (name : String) :
    (ofMembers members).member? name = members.reverse.lookup name := by
  have general : ∀ (all : List (String × Json)),
      (members.foldl (fun all entry => setMember entry.1 entry.2 all) all).lookup name =
        (members.reverse.lookup name).or (all.lookup name) := by
    induction members with
    | nil => exact fun _ => rfl
    | cons entry rest ih =>
      intro all
      rw [foldl_cons, ih, lookup_setMember, reverse_cons, lookup_append]
      rw [lookup_entry, Option.or_assoc]
      split <;> rfl
  rw [ofMembers, member?, general, lookup_nil, Option.or_none]

mutual

def Canonical : Json -> Prop
  | array elements => CanonicalElements elements
  | object members => (members.map Prod.fst).Pairwise (· < ·) ∧ CanonicalMembers members
  | _ => True

def CanonicalElements : List Json -> Prop
  | [] => True
  | first :: rest => first.Canonical ∧ CanonicalElements rest

def CanonicalMembers : List (String × Json) -> Prop
  | [] => True
  | (_, first) :: rest => first.Canonical ∧ CanonicalMembers rest

end

theorem canonicalElements_iff {elements : List Json} :
    CanonicalElements elements ↔ ∀ element ∈ elements, element.Canonical := by
  induction elements with
  | nil => simp [CanonicalElements]
  | cons first rest ih => simp [CanonicalElements, ih]

variable {members : List (String × Json)}

theorem canonicalMembers_iff : CanonicalMembers members ↔ ∀ entry ∈ members, entry.2.Canonical := by
  induction members with
  | nil => simp [CanonicalMembers]
  | cons entry rest ih => simp [CanonicalMembers, ih]

theorem mem_setMember {name : String} {value : Json} {entry : String × Json}
    (member : entry ∈ setMember name value members) :
    entry = (name, value) ∨ entry ∈ members := by
  induction members with
  | nil => exact .inl (by simpa [setMember] using member)
  | cons first rest ih =>
    unfold setMember at member
    split at member
    · exact (mem_cons.1 member).imp id id
    · split at member
      · exact (mem_cons.1 member).imp id (mem_cons_of_mem _)
      · rcases mem_cons.1 member with same | later
        · exact .inr (same ▸ mem_cons_self)
        · exact (ih later).imp id (mem_cons_of_mem _)

theorem sorted_setMember (name : String) (value : Json)
    (sorted : (members.map Prod.fst).Pairwise (· < ·)) :
    ((setMember name value members).map Prod.fst).Pairwise (· < ·) := by
  induction members with
  | nil => simp [setMember]
  | cons first rest ih =>
    rw [map_cons, pairwise_cons] at sorted
    unfold setMember
    split
    next before =>
      rw [map_cons, map_cons, pairwise_cons, pairwise_cons]
      refine ⟨fun other member => ?_, sorted⟩
      rcases mem_cons.1 member with rfl | later
      exacts [before, before.trans (sorted.1 other later)]
    next notBefore =>
      split
      next same =>
        subst same
        rw [map_cons, pairwise_cons]
        exact sorted
      next apart =>
        rw [map_cons, pairwise_cons]
        refine ⟨fun other member => ?_, ih sorted.2⟩
        obtain ⟨entry, held, rfl⟩ := mem_map.1 member
        rcases mem_setMember held with rfl | earlier
        · exact lt_of_le_of_ne (not_lt.1 notBefore) (Ne.symm apart)
        · exact sorted.1 _ (mem_map_of_mem earlier)

theorem canonical_ofMembers
    (canonical : ∀ entry ∈ members, entry.2.Canonical) : (ofMembers members).Canonical := by
  have general : ∀ all : List (String × Json), (all.map Prod.fst).Pairwise (· < ·) ->
      (∀ entry ∈ all, entry.2.Canonical) ->
      (object (members.foldl (fun all entry => setMember entry.1 entry.2 all) all)).Canonical := by
    induction members with
    | nil => exact fun all sorted each => ⟨sorted, canonicalMembers_iff.2 each⟩
    | cons entry rest ih =>
      intro all sorted each
      refine ih (fun entry member => canonical entry (mem_cons_of_mem _ member)) _
        (sorted_setMember _ _ sorted) fun other member => ?_
      rcases mem_setMember member with rfl | earlier
      exacts [canonical entry mem_cons_self, each other earlier]
  exact general [] List.Pairwise.nil (by simp)

theorem canonical_array {elements : List Json} (each : ∀ element ∈ elements, element.Canonical) :
    (array elements).Canonical :=
  canonicalElements_iff.2 each

end Json

structure JsonText where
  dump : Json -> String
  parse : String -> Option Json

def JsonText.Lossless (text : JsonText) (json : Json) : Prop :=
  json.Canonical -> text.parse (text.dump json) = some json

end AbilityRuntime.Library
