import Mathlib.Data.List.Count
import Mathlib.Data.List.Nodup
import Mathlib.Data.List.Perm.Basic

set_option autoImplicit false

namespace AbilityRuntime.Library

section

open List
variable {α β : Type} {list : List α} {chosen : α -> Bool}

theorem perm_cons_eraseP {found : α} (first : list.find? chosen = some found) :
    list.Perm (found :: list.eraseP chosen) := by
  induction list with
  | nil => cases first
  | cons head tail ih =>
    cases own : chosen head with
    | true =>
      rw [find?_cons_of_pos own] at first
      cases first
      rw [eraseP_cons_of_pos own]
    | false =>
      have other : ¬chosen head = true := by simp [own]
      rw [find?_cons_of_neg other] at first
      rw [eraseP_cons_of_neg other]
      exact ((ih first).cons head).trans (List.Perm.swap ..)

theorem replaceF_eq_self {found : α} {change : α -> α} (first : list.find? chosen = some found) :
    list.replaceF (fun item => if chosen item then some (change item) else none) = list ↔
      change found = found := by
  induction list with
  | nil => cases first
  | cons item rest ih =>
    by_cases own : chosen item = true
    · obtain rfl : item = found := by simpa [own] using first
      simp [own]
    · have later := ih (by simpa [own] using first)
      simpa [own] using later

theorem countP_eraseP (chosen : α -> Bool) (list : List α) :
    (list.eraseP chosen).countP chosen = list.countP chosen - 1 := by
  induction list with
  | nil => rfl
  | cons first rest ih =>
    cases goes : chosen first with
    | true => simp [goes]
    | false => simp [goes, ih]

theorem eraseP_eq_filter (once : list.countP chosen ≤ 1) :
    list.eraseP chosen = list.filter fun item => !chosen item := by
  induction list with
  | nil => rfl
  | cons first rest ih =>
    cases goes : chosen first with
    | true =>
      rw [countP_cons_of_pos goes] at once
      have none : rest.countP chosen = 0 := by omega
      rw [countP_eq_zero] at none
      have kept : (rest.filter fun item => !chosen item) = rest :=
        filter_eq_self.mpr fun item mem => by simpa using none item mem
      rw [eraseP_cons_of_pos goes, filter_cons_of_neg (by simp [goes]), kept]
    | false =>
      rw [countP_cons_of_neg (by simp [goes])] at once
      rw [eraseP_cons_of_neg (by simp [goes]), filter_cons_of_pos (by simp [goes]), ih once]

theorem eraseP_of_nodup [DecidableEq β] {key : α -> β} (nodup : (list.map key).Nodup) (value : β) :
    (list.eraseP fun item => key item = value) = list.filter fun item => key item ≠ value := by
  have once : list.countP (fun item => key item = value) ≤ 1 := by
    have counted : (list.map key).count value = list.countP fun item => key item = value := by
      rw [count, countP_map]
      rfl
    rw [<- counted]
    exact nodup_iff_count_le_one.mp nodup value
  rw [eraseP_eq_filter once]
  exact filter_congr fun item _ => by simp

end

section

variable {Row First Second : Type} [DecidableEq First] {rows : List Row} {first : Row -> First}

theorem row_of_idxOf (second : Row -> Second) {sought : First} {index : Nat}
    (found : (rows.map first).idxOf? sought = some index) :
    ∃ row ∈ rows, first row = sought ∧ (rows.map second)[index]? = some (second row) := by
  rw [List.idxOf?_eq_some_iff] at found
  obtain ⟨inside, same, -⟩ := found
  have bound : index < rows.length := by simpa using inside
  refine ⟨rows[index], List.getElem_mem bound, ?_, by simp [bound]⟩
  simpa using same

theorem filter_ne_column [DecidableEq Row]
    (identifies : ∀ row ∈ rows, ∀ other ∈ rows, first row = first other -> row = other) {row : Row}
    (mem : row ∈ rows) :
    (rows.map first).filter (· ≠ first row) = (rows.filter (· ≠ row)).map first := by
  rw [List.filter_map]
  congr 1
  refine List.filter_congr fun other inside => ?_
  have same : first other = first row ↔ other = row :=
    ⟨identifies other inside row mem, congrArg first⟩
  simp [same]

end

end AbilityRuntime.Library
