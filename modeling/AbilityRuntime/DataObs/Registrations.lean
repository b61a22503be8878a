import Mathlib.Data.List.Perm.Basic
import Mathlib.Data.List.Count
import AbilityRuntime.DataObs.Node

set_option autoImplicit false

namespace AbilityRuntime.DataObs

open List Childrens

structure Registration where
  path : List String
  entry : Entry

namespace Registration

def under (name : String) (reg : Registration) : Registration :=
  ⟨name :: reg.path, reg.entry⟩

def object (reg : Registration) : Option Nat := reg.entry.observer.asObject

def hears (path : List String) (userId : Int) (reg : Registration) : Bool :=
  (reg.path == path ||
    (reg.entry.isDescendants && reg.path != path &&
      reg.path.isPrefixOf path)) &&
    (reg.entry.userId == userId || reg.entry.userId == 0 || userId == 0)

end Registration

namespace Registry

section

variable (registry : List Registration)

def entriesAt (path : List String) : List Entry :=
  (registry.filter fun reg => reg.path == path).map Registration.entry

def limited (path : List String) (entry : Entry) : Bool :=
  Node.isLimit (entriesAt registry path) entry

def add (path : List String) (entry : Entry) : List Registration :=
  if limited registry path entry then registry else registry ++ [⟨path, entry⟩]

def removeAt (path : List String) (object : Option Nat) : List Registration :=
  registry.filter fun reg => !(reg.path == path && reg.object == object)

def removeObject (object : Nat) : List Registration :=
  registry.filter fun reg => reg.object != some object

end

end Registry

mutual

def Node.registrations : Node -> List Registration
  | .mk entrys childrens => entrys.map (Registration.mk []) ++ childrens.registrations

def Childrens.registrations : Childrens -> List Registration
  | .nil => []
  | .cons key child rest => child.registrations.map (Registration.under key) ++ rest.registrations

end

mutual

def Node.Tidy : Node -> Prop
  | .mk _ childrens => childrens.Tidy

def Childrens.Tidy : Childrens -> Prop
  | .nil => True
  | .cons key child rest => key ∉ rest.keys ∧ child.vacant = false ∧ child.Tidy ∧ rest.Tidy

end

namespace Childrens

@[elab_as_elim]
theorem listInduction {motive : Childrens -> Prop} (childrens : Childrens) (nil : motive .nil)
    (cons : ∀ key child rest, motive rest -> motive (.cons key child rest)) : motive childrens :=
  @rec (fun _ => True) motive (fun _ _ _ => trivial) nil
    (fun key child rest _ ih => cons key child rest ih) childrens

variable {childrens : Childrens}

theorem put_find {name : String} {child : Node}
    (found : childrens.find name = some child) : childrens.put name child = childrens := by
  induction childrens using listInduction with
  | nil => simp [find] at found
  | cons key first rest ih =>
    simp only [find] at found
    split at found
    next same => cases found; simp [put, same]
    next other => simp [put, other, ih found]

theorem registrations_split (childrens : Childrens) (name : String) :
    childrens.registrations.Perm
      (((childrens.find name).getD Node.fresh).registrations.map (Registration.under name) ++
        (childrens.erase name).registrations) := by
  induction childrens using listInduction with
  | nil => simp [find, erase, registrations, Node.fresh, Node.registrations]
  | cons key child rest ih =>
    by_cases same : key = name
    · simp [find, erase, registrations, same]
    · simp only [find, erase, registrations, same, if_false]
      exact (ih.append_left _).trans (perm_append_comm_assoc _ _ _)

theorem put_registrations (childrens : Childrens) (name : String) (node : Node) :
    (childrens.put name node).registrations.Perm
      (node.registrations.map (Registration.under name) ++ (childrens.erase name).registrations) := by
  induction childrens using listInduction with
  | nil => simp [put, erase, registrations]
  | cons key child rest ih =>
    by_cases same : key = name
    · simp [put, erase, registrations, same]
    · simp only [put, erase, registrations, same, if_false]
      exact (ih.append_left _).trans (perm_append_comm_assoc _ _ _)

theorem put_keys (childrens : Childrens) (name : String) (node : Node) (key : String) :
    key ∈ (childrens.put name node).keys ↔ key ∈ childrens.keys ∨ key = name := by
  induction childrens using listInduction with
  | nil => simp [put, keys]
  | cons first child rest ih =>
    by_cases same : first = name
    · simp only [put, same, if_true, keys, mem_cons]; tauto
    · simp only [put, same, if_false, keys, mem_cons, ih]; tauto

theorem erase_keys {name key : String}
    (mem : key ∈ (childrens.erase name).keys) : key ∈ childrens.keys := by
  induction childrens using listInduction with
  | nil => exact mem
  | cons first child rest ih =>
    simp only [erase] at mem
    split at mem
    · exact mem_cons_of_mem _ mem
    · rcases mem_cons.mp mem with same | later
      · exact same ▸ mem_cons_self
      · exact mem_cons_of_mem _ (ih later)

theorem Tidy.find (tidy : childrens.Tidy) {name : String} {child : Node}
    (found : childrens.find name = some child) : child.vacant = false ∧ child.Tidy := by
  induction childrens using listInduction with
  | nil => simp [Childrens.find] at found
  | cons key first rest ih =>
    obtain ⟨-, used, firstTidy, restTidy⟩ := tidy
    simp only [Childrens.find] at found
    split at found
    · cases found; exact ⟨used, firstTidy⟩
    · exact ih restTidy found

theorem Tidy.put (tidy : childrens.Tidy) (name : String) {node : Node} (used : node.vacant = false)
    (nodeTidy : node.Tidy) : (childrens.put name node).Tidy := by
  induction childrens using listInduction with
  | nil => exact ⟨by simp [keys], used, nodeTidy, trivial⟩
  | cons key child rest ih =>
    obtain ⟨unique, childUsed, childTidy, restTidy⟩ := tidy
    by_cases same : key = name
    · simp only [Childrens.put, same, if_true]; exact ⟨same ▸ unique, used, nodeTidy, restTidy⟩
    · simp only [Childrens.put, same, if_false]
      refine ⟨?_, childUsed, childTidy, ih restTidy⟩
      rw [put_keys]
      exact fun mem => mem.elim unique same

theorem Tidy.erase (tidy : childrens.Tidy) (name : String) :
    (childrens.erase name).Tidy ∧ name ∉ (childrens.erase name).keys := by
  induction childrens using listInduction with
  | nil => exact ⟨trivial, by simp [Childrens.erase, keys]⟩
  | cons key child rest ih =>
    obtain ⟨unique, childUsed, childTidy, restTidy⟩ := tidy
    by_cases same : key = name
    · simp only [Childrens.erase, same, if_true]; exact ⟨restTidy, same ▸ unique⟩
    · simp only [Childrens.erase, same, if_false]
      obtain ⟨erased, absent⟩ := ih restTidy
      refine ⟨⟨fun mem => unique (erase_keys mem), childUsed, childTidy, erased⟩, ?_⟩
      simp [keys, Ne.symm same, absent]

theorem registrations_path {reg : Registration}
    (mem : reg ∈ childrens.registrations) :
    ∃ name rest, reg.path = name :: rest ∧ name ∈ childrens.keys := by
  induction childrens using listInduction with
  | nil => simp [registrations] at mem
  | cons key child rest ih =>
    rcases mem_append.mp mem with here | later
    · obtain ⟨inner, -, rfl⟩ := mem_map.mp here
      exact ⟨key, inner.path, rfl, by simp [keys]⟩
    · obtain ⟨name, tail, path, known⟩ := ih later
      exact ⟨name, tail, path, mem_cons_of_mem _ known⟩

end Childrens

end AbilityRuntime.DataObs
