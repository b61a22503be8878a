import Mathlib.Data.String.Basic
import Mathlib.Data.List.Nodup

set_option autoImplicit false

namespace RecordMap

open Std.ExtTreeMap Std
variable {K R P : Type} {cmp : K -> K -> Ordering}

def records (m : ExtTreeMap K (List R) cmp) [TransCmp cmp] (k : K) : List R :=
  m[k]?.getD []

def putBack [TransCmp cmp] (m : ExtTreeMap K (List R) cmp) (k : K) (list : List R) :
    ExtTreeMap K (List R) cmp :=
  if list.isEmpty then m.erase k else m.insert k list

def prune (keep : K -> R -> Bool) (m : ExtTreeMap K (List R) cmp) : ExtTreeMap K (List R) cmp :=
  m.filterMap fun k list =>
    let kept := list.filter (keep k)
    if kept.isEmpty then none else some kept

def WellFormed [TransCmp cmp] (pair : R -> P) (m : ExtTreeMap K (List R) cmp) : Prop :=
  ∀ (k : K) (list : List R), m[k]? = some list -> list ≠ [] ∧ (list.map pair).Nodup

variable [TransCmp cmp] [LawfulEqCmp cmp]

variable {m : ExtTreeMap K (List R) cmp}

omit [LawfulEqCmp cmp] in
theorem records_of_some {k : K} {list : List R}
    (found : m[k]? = some list) : records m k = list := by
  simp [records, found]

omit [LawfulEqCmp cmp] in
@[simp] theorem records_empty (k : K) : records (∅ : ExtTreeMap K (List R) cmp) k = [] := by
  simp [records]

theorem records_insert [DecidableEq K] (m : ExtTreeMap K (List R) cmp) (k key : K)
    (list : List R) :
    records (m.insert k list) key = if k = key then list else records m key := by
  by_cases same : k = key <;> simp [records, getElem?_insert, same]

theorem records_putBack [DecidableEq K] (m : ExtTreeMap K (List R) cmp) (k key : K)
    (list : List R) :
    records (putBack m k list) key = if k = key then list else records m key := by
  unfold putBack
  split
  next empty =>
    have nil : list = [] := List.isEmpty_iff.mp empty
    by_cases same : k = key <;> simp [records, getElem?_erase, same, nil]
  · exact records_insert m k key list

@[simp] theorem records_prune (keep : K -> R -> Bool) (m : ExtTreeMap K (List R) cmp) (k : K) :
    records (prune keep m) k = (records m k).filter (keep k) := by
  simp only [records, prune, getElem?_filterMap']
  cases m[k]? with
  | none => rfl
  | some list =>
    simp only [Option.bind_some, Option.getD_some]
    split
    next empty => simpa using (List.isEmpty_iff.mp empty).symm
    · rfl

omit [LawfulEqCmp cmp] in
theorem wellFormed_empty (pair : R -> P) : WellFormed pair (∅ : ExtTreeMap K (List R) cmp) := by
  intro k list found
  simp at found

omit [LawfulEqCmp cmp] in
theorem wellFormed_insert {pair : R -> P} (wf : WellFormed pair m) (k : K) {list : List R}
    (nonempty : list ≠ []) (nodup : (list.map pair).Nodup) : WellFormed pair (m.insert k list) := by
  intro key found h
  rw [getElem?_insert] at h
  split at h
  · cases h; exact ⟨nonempty, nodup⟩
  · exact wf key found h

omit [LawfulEqCmp cmp] in
theorem wellFormed_putBack {pair : R -> P} (wf : WellFormed pair m) (k : K) {list : List R}
    (nodup : (list.map pair).Nodup) : WellFormed pair (putBack m k list) := by
  unfold putBack
  split
  · intro key found h
    rw [getElem?_erase] at h
    split at h
    · cases h
    · exact wf key found h
  next nonempty =>
    exact wellFormed_insert wf k (fun nil => nonempty (by simp [nil])) nodup

theorem wellFormed_prune {pair : R -> P} (wf : WellFormed pair m)
    (keep : K -> R -> Bool) : WellFormed pair (prune keep m) := by
  intro key kept h
  rw [prune, getElem?_filterMap'] at h
  obtain ⟨list, found, h⟩ := Option.bind_eq_some_iff.mp h
  simp only at h
  split at h
  · cases h
  next nonempty =>
    cases h
    refine ⟨fun nil => nonempty (by simp [nil]), ?_⟩
    exact (wf key list found).2.sublist (List.filter_sublist.map pair)

end RecordMap
