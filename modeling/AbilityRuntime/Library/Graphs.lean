import Mathlib.Data.Fintype.Pigeonhole
import Mathlib.Data.Set.Finite.Basic
import Mathlib.Order.WellFounded

set_option autoImplicit false

namespace AbilityRuntime.Library

section

open Nat Option

variable {A : Type} {next : A -> Option A} {start : A}

def walk (next : A -> Option A) (start : A) : Nat -> Option A
  | 0 => some start
  | steps + 1 => (walk next start steps).bind next

def Ends (next : A -> Option A) (start : A) : Prop := ∃ steps, walk next start steps = none

def NeverReturns (next : A -> Option A) (start : A) : Prop :=
  ∀ first later place, first < later -> walk next start first = some place ->
    walk next start later ≠ some place

theorem walk_add (first later : Nat) :
    walk next start (first + later) =
      (walk next start first).bind fun place => walk next place later := by
  induction later with
  | zero => cases walk next start first <;> rfl
  | succ later ih =>
    rw [<- add_assoc, walk, ih]
    cases walk next start first <;> rfl

theorem walk_succ (steps : Nat) :
    walk next start (steps + 1) = (next start).bind fun place => walk next place steps := by
  rw [add_comm, walk_add]
  rfl

theorem walk_none_mono {first later : Nat} (ended : walk next start first = none)
    (after : first ≤ later) : walk next start later = none := by
  obtain ⟨more, rfl⟩ := Nat.exists_eq_add_of_le after
  rw [walk_add, ended, Option.bind_none]

theorem walk_round {period : Nat} {place : A} (back : walk next place period = some place) :
    ∀ rounds, walk next place (rounds * period) = some place := by
  intro rounds
  induction rounds with
  | zero => rw [Nat.zero_mul, walk]
  | succ rounds ih => rw [Nat.succ_mul, walk_add, ih, Option.bind_some, back]

theorem ends_iff_neverReturns {places : Set A} (finite : places.Finite)
    (inside : ∀ place further, next place = some further -> further ∈ places) :
    Ends next start ↔ NeverReturns next start := by
  constructor
  · rintro ⟨steps, ended⟩ first later place before here again
    obtain ⟨period, rfl⟩ := Nat.exists_eq_add_of_le before.le
    rw [walk_add, here, Option.bind_some] at again
    have round := walk_round again steps
    have past : steps ≤ first + steps * period := by
      have := Nat.le_mul_of_pos_right steps (Nat.pos_of_lt_add_right before)
      omega
    have gone := walk_none_mono ended past
    rw [walk_add, here, bind_some, round] at gone
    cases gone
  · intro never
    by_contra endless
    have going : ∀ steps, ∃ place, walk next start steps = some place := fun steps =>
      ne_none_iff_exists'.mp fun ended => endless ⟨steps, ended⟩
    choose place at_ using going
    have visited : ∀ steps, place (steps + 1) ∈ places := by
      intro steps
      have step := at_ (steps + 1)
      rw [walk, at_ steps, bind_some] at step
      exact inside _ _ step
    have : Finite places := finite
    obtain ⟨first, later, ne, same⟩ := Finite.exists_ne_map_eq_of_infinite
      fun steps : Nat => (⟨place (steps + 1), visited steps⟩ : places)
    have twice : place (first + 1) = place (later + 1) := congrArg Subtype.val same
    rcases lt_or_gt_of_ne ne with before | after
    · exact never _ _ _ (succ_lt_succ before) (at_ _) (twice ▸ at_ _)
    · exact never _ _ _ (succ_lt_succ after) (at_ _) (twice ▸ at_ _)

end

section

variable {α : Type} {depends : α -> α -> Prop}

def Acyclic (depends : α -> α -> Prop) : Prop := ∀ node, ¬Relation.TransGen depends node node

theorem acyclic_of_wellFounded (wellFounded : WellFounded (flip depends)) : Acyclic depends := by
  intro node circle
  exact wellFounded.transGen.irrefl.irrefl node (Relation.transGen_swap.mpr circle)

theorem Acyclic.exists_sink (acyclic : Acyclic depends) {nodes : List α} (some : nodes ≠ []) :
    ∃ node ∈ nodes, ∀ other ∈ nodes, ¬depends node other := by
  let below (dependency dependent : {node // node ∈ nodes}) : Prop :=
    Relation.TransGen depends dependent.1 dependency.1
  have : Finite {node // node ∈ nodes} := (List.finite_toSet nodes).to_subtype
  have : IsTrans _ below := ⟨fun _ _ _ first second => second.trans first⟩
  have : Std.Irrefl below := ⟨fun node => acyclic node.1⟩
  have wellFounded : WellFounded below := Finite.wellFounded_of_trans_of_irrefl below
  obtain ⟨first, mem⟩ := List.exists_mem_of_ne_nil nodes some
  obtain ⟨⟨node, inside⟩, -, least⟩ := wellFounded.has_min Set.univ ⟨⟨first, mem⟩, trivial⟩
  exact ⟨node, inside, fun other within edge => least ⟨other, within⟩ trivial (.single edge)⟩

end

end AbilityRuntime.Library
