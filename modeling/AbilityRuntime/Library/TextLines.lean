import Mathlib.Data.List.Basic

set_option autoImplicit false

namespace AbilityRuntime.Library

section

open String List

/-- The texts that std::getline reads; nothing is read after a last delimiter. -/
def textLines (delimiter : Char) (text : String) : List String :=
  let pieces := text.toList.splitOn delimiter
  (if pieces.getLast? = some [] then pieces.dropLast else pieces).map String.ofList

def filledLines (delimiter : Char) (text : String) : List String :=
  (textLines delimiter text).filter (!·.isEmpty)

theorem filledLines_eq (delimiter : Char) (text : String) :
    filledLines delimiter text =
      ((text.toList.splitOn delimiter).filter (!·.isEmpty)).map ofList := by
  have empty : (fun line => !line.isEmpty) ∘ ofList = fun piece : List Char => !piece.isEmpty := by
    funext piece
    cases piece with
    | nil => rfl
    | cons first rest => simp
  unfold filledLines textLines
  rw [filter_map, empty]
  congr 1
  split
  next last =>
    obtain ⟨rest, whole⟩ := getLast?_eq_some_iff.1 last
    rw [whole, dropLast_concat, filter_append]
    exact (append_nil _).symm
  · rfl

theorem filledLines_empty (delimiter : Char) : filledLines delimiter "" = [] := by
  rfl

theorem filledLines_append (delimiter : Char) (first second : String) :
    filledLines delimiter (first ++ singleton delimiter ++ second) =
      filledLines delimiter first ++ filledLines delimiter second := by
  simp only [filledLines_eq, toList_append, toList_singleton, List.append_assoc,
    singleton_append, splitOn_append_cons_self, filter_append, map_append]

variable {delimiter : Char} {text : String}

theorem filledLines_of_notMem (apart : delimiter ∉ text.toList)
    (filled : text ≠ "") : filledLines delimiter text = [text] := by
  have some : text.toList.isEmpty = false := by
    cases chars : text.toList with
    | nil => exact absurd (toList_eq_nil_iff.1 chars) filled
    | cons first rest => rfl
  rw [filledLines_eq, splitOn_eq_singleton apart, filter_cons_of_pos (by rw [some]; rfl)]
  exact congrArg (fun line => [line]) ofList_toList

theorem filled_of_mem {line : String} (mem : line ∈ filledLines delimiter text) : line ≠ "" := by
  have filled := (mem_filter.1 mem).2
  rintro rfl
  cases filled

theorem notMem_splitOn {A : Type} [DecidableEq A] {delimiter : A} {list piece : List A}
    (mem : piece ∈ list.splitOn delimiter) : delimiter ∉ piece := by
  induction list generalizing piece with
  | nil =>
    obtain rfl := mem_singleton.1 mem
    exact not_mem_nil
  | cons first rest ih =>
    rw [splitOn_cons_eq_if_modifyHead] at mem
    split at mem
    · rcases mem_cons.1 mem with rfl | later
      exacts [not_mem_nil, ih later]
    next ne =>
      cases pieces : rest.splitOn delimiter with
      | nil => exact absurd pieces (splitOn_ne_nil delimiter rest)
      | cons head tail =>
        rw [pieces, modifyHead_cons] at mem
        rcases mem_cons.1 mem with rfl | later
        · rintro ⟨⟩
          · exact ne (BEq.refl _)
          next inside => exact ih (pieces ▸ mem_cons_self) inside
        · exact ih (pieces ▸ mem_cons_of_mem _ later)

theorem notMem_of_mem {line : String}
    (mem : line ∈ filledLines delimiter text) : delimiter ∉ line.toList := by
  rw [filledLines_eq] at mem
  obtain ⟨piece, kept, rfl⟩ := mem_map.1 mem
  rw [toList_ofList]
  exact notMem_splitOn (mem_filter.1 kept).1

theorem prefix_delimited {A : Type} {delimiter : A} {first other : List A}
    (apart : delimiter ∉ first) (otherApart : delimiter ∉ other) (rest tail : List A) :
    first ++ delimiter :: rest <+: other ++ delimiter :: tail ↔ first = other ∧ rest <+: tail := by
  induction first generalizing other with
  | nil =>
    cases other with
    | nil => simp
    | cons head other =>
      have ne : delimiter ≠ head := fun same => otherApart (same ▸ mem_cons_self)
      simp [ne]
  | cons head first ih =>
    cases other with
    | nil =>
      have ne : head ≠ delimiter := fun same => apart (same ▸ mem_cons_self)
      simp [ne]
    | cons otherHead other =>
      have later := ih (fun inside => apart (mem_cons_of_mem _ inside))
        (fun inside => otherApart (mem_cons_of_mem _ inside))
      simp [later, and_assoc]

theorem textLines_delimited {first rest : String}
    (whole : text.toList = first.toList ++ delimiter :: rest.toList)
    (apart : delimiter ∉ first.toList) :
    textLines delimiter text = first :: textLines delimiter rest := by
  obtain ⟨head, tail, pieces⟩ := exists_cons_of_ne_nil (splitOn_ne_nil delimiter rest.toList)
  unfold textLines
  dsimp only
  rw [whole, splitOn_append_cons_self, splitOn_eq_singleton apart, singleton_append,
    pieces, getLast?_cons_cons]
  split <;> simp [dropLast]

theorem textLines_of_notMem (apart : delimiter ∉ text.toList)
    (filled : text ≠ "") : textLines delimiter text = [text] := by
  have some : text.toList ≠ [] := fun empty => filled (toList_eq_nil_iff.1 empty)
  unfold textLines
  rw [splitOn_eq_singleton apart]
  simp [some]

end

section

variable {α : Type} [DecidableEq α]

def splitAtFirst (pattern : List α) : List α -> Option (List α × List α)
  | [] => if pattern = [] then some ([], []) else none
  | char :: rest =>
    if pattern.isPrefixOf (char :: rest) then some ([], char :: rest)
    else (splitAtFirst pattern rest).map fun (before, after) => (char :: before, after)

theorem splitAtFirst_some {pattern text before after : List α}
    (found : splitAtFirst pattern text = some (before, after)) :
    text = before ++ after ∧ pattern <+: after := by
  induction text generalizing before with
  | nil =>
    rw [splitAtFirst] at found
    split at found
    next empty => cases found; exact ⟨rfl, empty ▸ List.prefix_refl _⟩
    · cases found
  | cons char rest ih =>
    rw [splitAtFirst] at found
    split at found
    next here => cases found; exact ⟨rfl, List.isPrefixOf_iff_prefix.mp here⟩
    · obtain ⟨⟨earlier, later⟩, deeper, same⟩ := Option.map_eq_some_iff.mp found
      cases same
      obtain ⟨rfl, starts⟩ := ih deeper
      exact ⟨rfl, starts⟩

end

end AbilityRuntime.Library
