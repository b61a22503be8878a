import Mathlib.Data.List.Nodup
import Mathlib.Data.List.Perm.Basic

set_option autoImplicit false

namespace AbilityRuntime.Library

open List
variable {Index Other Value Answer : Type}

def scatter (set : Value -> Answer -> Value) (asked : List Nat) (given : List Answer)
    (values : List Value) : List Value :=
  (asked.zip given).foldl (fun values (index, answer) => values.modify index (set · answer)) values

def answerTo [BEq Index] (asked : List Index) (given : List Answer) (index : Index) : Option Answer :=
  (asked.zip given).lookup index

theorem set_map_range {total index : Nat} (f : Nat -> Value) (value : Value) :
    ((range total).map f).set index value =
      (range total).map fun i => if i = index then value else f i := by
  apply ext_getElem
  · simp
  · intro i _ _
    rw [getElem_set]
    simp [eq_comm]

theorem modify_map_range {total index : Nat} (f : Nat -> Value) (g : Value -> Value) :
    ((range total).map f).modify index g =
      (range total).map fun i => if i = index then g (f i) else f i := by
  apply ext_getElem
  · simp
  · intro i _ _
    rw [getElem_modify]
    simp [eq_comm]

section Answered

variable [DecidableEq Index] [DecidableEq Other]

@[simp] theorem answerTo_nil (given : List Answer) (index : Index) : answerTo [] given index = none :=
  rfl

@[simp] theorem answerTo_none (asked : List Index) (index : Index) :
    answerTo asked ([] : List Answer) index = none := by
  rw [answerTo, zip_nil_right, lookup_nil]

theorem answerTo_cons (first : Index) (asked : List Index) (answer : Answer) (given : List Answer)
    (index : Index) :
    answerTo (first :: asked) (answer :: given) index =
      if index = first then some answer else answerTo asked given index := by
  rw [answerTo, zip_cons_cons, lookup_cons]
  by_cases same : index = first
  · simp [same]
  · rw [if_neg same, beq_false_of_ne same, answerTo]

theorem answerTo_of_not_mem {asked : List Index} {given : List Answer} {index : Index}
    (absent : index ∉ asked) : answerTo asked given index = none := by
  induction asked generalizing given with
  | nil => rfl
  | cons first asked ih =>
    rw [mem_cons, not_or] at absent
    cases given with
    | nil => rw [answerTo_none]
    | cons answer given => rw [answerTo_cons, if_neg absent.1, ih absent.2]

theorem answerTo_getElem {asked : List Index} {given : List Answer} {index : Index} {place : Nat}
    (distinct : asked.Nodup) (found : asked[place]? = some index) :
    answerTo asked given index = given[place]? := by
  induction asked generalizing given place with
  | nil => simp at found
  | cons first asked ih =>
    rw [nodup_cons] at distinct
    cases given with
    | nil => simp
    | cons answer given =>
      rw [answerTo_cons]
      cases place with
      | zero =>
        simp only [getElem?_cons_zero, Option.some.injEq] at found
        simp [found]
      | succ place =>
        have other : index ≠ first := by
          rintro rfl
          exact distinct.1 (mem_of_getElem? found)
        rw [if_neg other, ih distinct.2 found, getElem?_cons_succ]

theorem answerTo_self (asked : List Index) (answer : Index -> Answer) (index : Index) :
    answerTo asked (asked.map answer) index = if index ∈ asked then some (answer index) else none := by
  induction asked with
  | nil => rfl
  | cons first asked ih =>
    rw [map_cons, answerTo_cons, ih]
    by_cases same : index = first <;> simp [same]

theorem answerTo_map {asked : List Index} {given : List Answer} {index : Index} (rename : Index -> Other)
    (injective : ∀ other ∈ asked, rename other = rename index -> other = index) :
    answerTo (asked.map rename) given (rename index) = answerTo asked given index := by
  induction asked generalizing given with
  | nil => rfl
  | cons first asked ih =>
    cases given with
    | nil => simp
    | cons answer given =>
      rw [map_cons, answerTo_cons, answerTo_cons,
        ih fun other mem => injective other (mem_cons_of_mem _ mem)]
      by_cases same : index = first
      · simp [same]
      · have apart : rename index ≠ rename first := fun equal =>
          same (injective first mem_cons_self equal.symm).symm
        simp [same, apart]

end Answered

theorem scatter_map_range (set : Value -> Answer -> Value) {asked : List Nat} {given : List Answer}
    {total : Nat} (f : Nat -> Value) (distinct : asked.Nodup) :
    scatter set asked given ((range total).map f) =
      (range total).map fun i => ((answerTo asked given i).map (set (f i))).getD (f i) := by
  induction asked generalizing given f with
  | nil => simp [scatter]
  | cons first asked ih =>
    rw [nodup_cons] at distinct
    cases given with
    | nil => simp [scatter]
    | cons answer given =>
      have step : scatter set (first :: asked) (answer :: given) ((range total).map f) =
          scatter set asked given (((range total).map f).modify first (set · answer)) := rfl
      rw [step, modify_map_range, ih _ distinct.2]
      refine map_congr_left fun i _ => ?_
      rw [answerTo_cons]
      by_cases same : i = first
      · have absent : answerTo asked given i = none := answerTo_of_not_mem (same ▸ distinct.1)
        simp [same, same ▸ absent]
      · simp [same]

def itemAt (items : List Nat) (place : Nat) : Nat := items.getD place 0

theorem itemAt_eq {items : List Nat} {place : Nat} (inside : place < items.length) :
    itemAt items place = items[place] := by
  simp [itemAt, inside]

theorem zipIdx_eq_map_range (items : List Nat) :
    items.zipIdx = (range items.length).map fun place => (itemAt items place, place) := by
  apply ext_getElem
  · simp
  · intro place first _
    rw [length_zipIdx] at first
    simp [itemAt_eq first]

theorem map_range_itemAt (items : List Nat) : (range items.length).map (itemAt items) = items := by
  apply ext_getElem
  · simp
  · intro place _ second
    simp [itemAt_eq second]

theorem scatter_unknown {items : List Nat} {given : List Bool} (known : Nat -> Bool)
    (distinct : items.Nodup) :
    scatter (fun _ answer => answer) ((items.zipIdx.filter fun item => !known item.1).map Prod.snd) given
        (items.map known) =
      items.map fun item =>
        known item || (answerTo (items.filter fun item => !known item) given item).getD false := by
  obtain ⟨places, chosen⟩ : ∃ places, places =
      (range items.length).filter fun place => !known (itemAt items place) := ⟨_, rfl⟩
  have asked : (items.zipIdx.filter fun item => !known item.1).map Prod.snd = places := by
    rw [zipIdx_eq_map_range, filter_map, map_map, chosen]
    exact map_id' _
  have about : items.filter (fun item => !known item) = places.map (itemAt items) := by
    conv_lhs => rw [<- map_range_itemAt items]
    rw [filter_map, chosen]
    rfl
  have spread (f : Nat -> Bool) : items.map f = (range items.length).map (f ∘ itemAt items) := by
    rw [<- map_map, map_range_itemAt]
  rw [asked, about, spread, spread, scatter_map_range _ _ (chosen ▸ nodup_range.filter _)]
  refine map_congr_left fun place inside => ?_
  have same : answerTo (places.map (itemAt items)) given (itemAt items place) =
      answerTo places given place := by
    refine answerTo_map (itemAt items) fun other mem equal => ?_
    rw [chosen] at mem
    have first := mem_range.mp (mem_of_mem_filter mem)
    have second := mem_range.mp inside
    rw [itemAt_eq first, itemAt_eq second] at equal
    exact (distinct.getElem_inj_iff).mp equal
  simp only [Function.comp_apply, same]
  cases knows : known (itemAt items place) with
  | true =>
    have absent : answerTo places given place = none := by
      refine answerTo_of_not_mem fun mem => ?_
      simp [chosen, knows] at mem
    simp [absent]
  | false => cases answerTo places given place <;> simp

theorem countP_update {indexes : List Index} [DecidableEq Index] (before after : Index -> Bool)
    {index : Index} (distinct : indexes.Nodup) (mem : index ∈ indexes) (fresh : before index = false)
    (others : ∀ other, other ≠ index -> after other = before other) :
    indexes.countP after = indexes.countP before + if after index then 1 else 0 := by
  have order := perm_cons_erase mem
  have rest : (indexes.erase index).countP after = (indexes.erase index).countP before := by
    refine countP_congr fun other inside => ?_
    rw [others other fun same => (distinct.not_mem_erase) (same ▸ inside)]
  rw [order.countP_eq, order.countP_eq before, countP_cons, countP_cons, rest, fresh]
  simp

theorem countP_either {items : List Value} (one other both : Value -> Bool)
    (either : ∀ item ∈ items, both item = (one item || other item))
    (apart : ∀ item ∈ items, one item = true -> other item = false) :
    items.countP one + items.countP other = items.countP both := by
  induction items with
  | nil => rfl
  | cons first rest ih =>
    have counted := ih (fun item mem => either item (mem_cons_of_mem _ mem))
      (fun item mem => apart item (mem_cons_of_mem _ mem))
    have here := either first mem_cons_self
    have disjoint := apart first mem_cons_self
    rw [countP_cons, countP_cons, countP_cons, here, <- counted]
    cases first' : one first
    · simp [Nat.add_assoc]
    · rw [disjoint first']
      simp [Nat.add_right_comm]

theorem all_of_countP_eq {items : List Value} {strong weak : Value -> Bool}
    (implied : ∀ item ∈ items, strong item = true -> weak item = true)
    (same : items.countP strong = items.countP weak) :
    ∀ item ∈ items, weak item = true -> strong item = true := by
  intro item mem holds
  have part : (items.filter weak).filter strong = items.filter strong := by
    rw [filter_filter]
    refine filter_congr fun other inside => ?_
    cases truth : strong other
    · simp
    · simp [implied other inside truth]
  have whole : (items.filter weak).filter strong = items.filter weak := by
    refine filter_sublist.eq_of_length ?_
    rw [part, <- countP_eq_length_filter, <- countP_eq_length_filter, same]
  have found : item ∈ (items.filter weak).filter strong := by
    rw [whole]
    exact mem_filter.mpr ⟨mem, holds⟩
  exact (mem_filter.mp found).2

theorem countP_answers {asked : List Nat} {given : List Bool} {total : Nat} (counts : Nat -> Bool)
    (distinct : asked.Nodup) (inside : ∀ index ∈ asked, index < total) :
    (asked.zip given).countP (fun (index, answer) => answer && counts index) =
      (range total).countP fun index => (answerTo asked given index).getD false && counts index := by
  induction asked generalizing given with
  | nil => simp
  | cons first asked ih =>
    rw [nodup_cons] at distinct
    cases given with
    | nil => simp
    | cons answer given =>
      have absent : answerTo asked given first = none := answerTo_of_not_mem distinct.1
      have mem : first ∈ range total := mem_range.mpr (inside first mem_cons_self)
      rw [zip_cons_cons, countP_cons,
        ih distinct.2 fun index later => inside index (mem_cons_of_mem _ later)]
      have added := countP_update
        (fun index => (answerTo asked given index).getD false && counts index)
        (fun index => (answerTo (first :: asked) (answer :: given) index).getD false && counts index)
        nodup_range mem (by simp [absent]) (by intro other apart; simp [answerTo_cons, apart])
      rw [added, answerTo_cons, if_pos rfl]
      rfl

end AbilityRuntime.Library
