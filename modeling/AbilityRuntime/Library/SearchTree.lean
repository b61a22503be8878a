import Mathlib.Data.List.Perm.Basic

set_option autoImplicit false

namespace AbilityRuntime.Library

open List.Perm Bool List

inductive SearchTree (K V : Type) where
  | leaf
  | node (left : SearchTree K V) (entry : K × V) (right : SearchTree K V)

namespace SearchTree

variable {K V : Type}

def entries : SearchTree K V -> List (K × V)
  | leaf => []
  | node left entry right => left.entries ++ entry :: right.entries

def equivalent (less : K -> K -> Bool) (left right : K) : Bool :=
  !less left right && !less right left

section Operations

variable (less : K -> K -> Bool)

def find (key : K) : SearchTree K V -> Option (K × V)
  | leaf => none
  | node left entry right =>
    if less key entry.1 then left.find key
    else if less entry.1 key then right.find key
    else some entry

-- An equivalent key stays, and takes the new value.
def insert (key : K) (value : V) : SearchTree K V -> SearchTree K V
  | leaf => node leaf (key, value) leaf
  | node left entry right =>
    if less key entry.1 then node (left.insert key value) entry right
    else if less entry.1 key then node left entry (right.insert key value)
    else node left (entry.1, value) right

def join : SearchTree K V -> SearchTree K V -> SearchTree K V
  | leaf, other => other
  | node left entry right, other => node left entry (right.join other)

def erase (key : K) : SearchTree K V -> SearchTree K V
  | leaf => leaf
  | node left entry right =>
    if less key entry.1 then node (left.erase key) entry right
    else if less entry.1 key then node left entry (right.erase key)
    else left.join right

def eraseIf (chosen : K × V -> Bool) : SearchTree K V -> SearchTree K V
  | leaf => leaf
  | node left entry right =>
    if chosen entry then (left.eraseIf chosen).join (right.eraseIf chosen)
    else node (left.eraseIf chosen) entry (right.eraseIf chosen)

end Operations

inductive Op (K V : Type) where
  | insert (key : K) (value : V)
  | erase (key : K)
  | eraseIf (chosen : K × V -> Bool)

def Op.keys : Op K V -> List K
  | insert key _ => [key]
  | erase key => [key]
  | eraseIf _ => []

def apply (less : K -> K -> Bool) (tree : SearchTree K V) : Op K V -> SearchTree K V
  | .insert key value => tree.insert less key value
  | .erase key => tree.erase less key
  | .eraseIf chosen => tree.eraseIf chosen

/-- The trees of a sequence of operations, rebalanced in any way that keeps the order. -/
inductive Reaches (less : K -> K -> Bool) : List (Op K V) -> SearchTree K V -> Prop
  | start : Reaches less [] leaf
  | step {ops : List (Op K V)} {tree after : SearchTree K V} (reached : Reaches less ops tree)
      (op : Op K V) (balanced : after.entries = (tree.apply less op).entries) :
      Reaches less (ops ++ [op]) after

def put (same : K -> K -> Bool) (key : K) (value : V) (held : List (K × V)) : List (K × V) :=
  if held.any fun entry => same key entry.1 then
    held.map fun entry => if same key entry.1 then (entry.1, value) else entry
  else held ++ [(key, value)]

def hold (same : K -> K -> Bool) (held : List (K × V)) : Op K V -> List (K × V)
  | .insert key value => put same key value held
  | .erase key => held.filter fun entry => !same key entry.1
  | .eraseIf chosen => held.filter fun entry => !chosen entry

def held (same : K -> K -> Bool) (ops : List (Op K V)) : List (K × V) := ops.foldl (hold same) []

abbrev OrderedOn (less : K -> K -> Bool) (keys : Set K) : Prop :=
  IsStrictWeakOrder {key // key ∈ keys} fun left right => less left.1 right.1 = true

variable {less : K -> K -> Bool} {keys : Set K}

namespace OrderedOn

variable (order : OrderedOn less keys) {first second third : K}

include order

theorem irrefl (mem : first ∈ keys) : less first first = false := by
  have strict := order.toIsStrictOrder.toIrrefl.irrefl ⟨first, mem⟩
  simpa using strict

section

variable (firstMember : first ∈ keys)
include firstMember

section

variable (secondMember : second ∈ keys)
include secondMember

theorem trans (thirdMember : third ∈ keys) (below : less first second = true)
    (above : less second third = true) :
    less first third = true :=
  order.toIsStrictOrder.toIsTrans.trans ⟨first, firstMember⟩ ⟨second, secondMember⟩
    ⟨third, thirdMember⟩ below above

theorem asymm (below : less first second = true) : less second first = false := by
  by_contra above
  have circle := trans order firstMember secondMember firstMember below (by simpa using above)
  rw [irrefl order firstMember] at circle
  contradiction

theorem equivalent_trans (thirdMember : third ∈ keys) (left : equivalent less first second = true)
    (right : equivalent less second third = true) : equivalent less first third = true := by
  have joined := order.incomp_trans ⟨first, firstMember⟩ ⟨second, secondMember⟩ ⟨third, thirdMember⟩
  simp only [equivalent, and_eq_true, not_eq_true'] at left right ⊢
  simpa using joined (by simpa using left) (by simpa using right)

theorem less_equivalent (thirdMember : third ∈ keys) (below : less first second = true)
    (same : equivalent less second third = true) : less first third = true := by
  have parts : less second third = false ∧ less third second = false := by
    simpa [equivalent] using same
  by_contra notBelow
  cases above : less third first with
  | true =>
    have circle := trans order thirdMember firstMember secondMember above below
    rw [parts.2] at circle
    contradiction
  | false =>
    have level : equivalent less third second = true := by simp [equivalent, parts]
    have joined := equivalent_trans order firstMember thirdMember secondMember
      (by simpa [equivalent, above] using notBelow) level
    simp [equivalent, below] at joined

theorem equivalent_less (thirdMember : third ∈ keys) (same : equivalent less first second = true)
    (below : less second third = true) : less first third = true := by
  have parts : less first second = false ∧ less second first = false := by
    simpa [equivalent] using same
  by_contra notBelow
  cases above : less third first with
  | true =>
    have circle := trans order secondMember thirdMember firstMember below above
    rw [parts.2] at circle
    contradiction
  | false =>
    have level : equivalent less second first = true := by simp [equivalent, parts]
    have joined := equivalent_trans order secondMember firstMember thirdMember level
      (by simpa [equivalent, above] using notBelow)
    simp [equivalent, below] at joined

end

end

end OrderedOn

theorem not_equivalent_of_less {first second : K} (below : less first second = true) :
    equivalent less first second = false := by
  simp [equivalent, below]

theorem not_equivalent_of_greater {first second : K} (above : less second first = true) :
    equivalent less first second = false := by
  simp [equivalent, above]

def Sorted (less : K -> K -> Bool) (tree : SearchTree K V) : Prop :=
  tree.entries.Pairwise fun left right => less left.1 right.1 = true

def Within (keys : Set K) (tree : SearchTree K V) : Prop := ∀ entry ∈ tree.entries, entry.1 ∈ keys

variable {left right tree : SearchTree K V} {entry : K × V} {key : K} {value : V}

theorem sorted_node : (node left entry right).Sorted less ↔
    left.Sorted less ∧ right.Sorted less ∧
      (∀ lower ∈ left.entries, less lower.1 entry.1 = true) ∧
      (∀ upper ∈ right.entries, less entry.1 upper.1 = true) ∧
      ∀ lower ∈ left.entries, ∀ upper ∈ right.entries, less lower.1 upper.1 = true := by
  simp only [Sorted, entries, pairwise_append, pairwise_cons, forall_mem_cons]
  grind

theorem within_node : (node left entry right).Within keys ↔
    left.Within keys ∧ entry.1 ∈ keys ∧ right.Within keys := by
  simp [Within, entries, or_imp, forall_and]

theorem entries_join (left right : SearchTree K V) :
    (left.join right).entries = left.entries ++ right.entries := by
  induction left with
  | leaf => rfl
  | node lower entry upper _ ih => simp [join, entries, ih]

theorem entries_eraseIf (chosen : K × V -> Bool) (tree : SearchTree K V) :
    (tree.eraseIf chosen).entries = tree.entries.filter fun entry => !chosen entry := by
  induction tree with
  | leaf => rfl
  | node left entry right leftIh rightIh =>
    rw [eraseIf, entries, filter_append]
    cases goes : chosen entry with
    | true => simp [goes, entries_join, leftIh, rightIh]
    | false => simp [goes, entries, leftIh, rightIh]

theorem mem_insert {added : K × V} (mem : added ∈ (tree.insert less key value).entries) :
    added.1 = key ∨ ∃ old ∈ tree.entries, old.1 = added.1 := by
  induction tree with
  | leaf => simp_all [insert, entries]
  | node left entry right leftIh rightIh =>
    rw [insert] at mem
    split_ifs at mem
    all_goals
      simp only [entries, mem_append, mem_cons] at mem ⊢
      grind

section Put

variable {same : K -> K -> Bool} {held front back : List (K × V)}

theorem put_untouched (free : ∀ entry ∈ held, same key entry.1 = false) :
    (held.map fun entry => if same key entry.1 then (entry.1, value) else entry) = held := by
  have untouched : ∀ entry ∈ held,
      (if same key entry.1 then (entry.1, value) else entry) = id entry :=
    fun entry listed => by simp [free entry listed]
  rw [map_congr_left untouched, map_id]

theorem put_append_back (free : ∀ entry ∈ back, same key entry.1 = false) :
    (put same key value (front ++ back)).Perm (put same key value front ++ back) := by
  have absent : (back.any fun entry => same key entry.1) = false := by simpa using free
  unfold put
  rw [any_append, absent, Bool.or_false]
  split
  · rw [map_append, put_untouched free]
  · have swapped : (back ++ [(key, value)]).Perm ([(key, value)] ++ back) := perm_append_comm
    simpa using swapped.append_left front

theorem put_append_front (free : ∀ entry ∈ front, same key entry.1 = false) :
    put same key value (front ++ back) = front ++ put same key value back := by
  have absent : (front.any fun entry => same key entry.1) = false := by simpa using free
  unfold put
  rw [any_append, absent, Bool.false_or]
  split
  · rw [map_append, put_untouched free]
  · rw [append_assoc]

theorem put_cons_same (here : same key entry.1 = true)
    (free : ∀ entry ∈ back, same key entry.1 = false) :
    put same key value (entry :: back) = (entry.1, value) :: back := by
  simp [put, here, put_untouched free]

end Put

section Ordered

variable (order : OrderedOn less keys)

include order

section

variable (within : (node left entry right).Within keys)
include within

theorem right_differs (mem : key ∈ keys) (sorted : (node left entry right).Sorted less)
    (below : less key entry.1 = true) :
    ∀ upper ∈ entry :: right.entries, equivalent less key upper.1 = false := by
  obtain ⟨-, here, rightWithin⟩ := within_node.mp within
  obtain ⟨-, -, -, above, -⟩ := sorted_node.mp sorted
  rw [forall_mem_cons]
  refine ⟨not_equivalent_of_less below, fun upper listed => ?_⟩
  exact not_equivalent_of_less
    (order.trans mem here (rightWithin upper listed) below (above upper listed))

theorem left_differs (mem : key ∈ keys) (sorted : (node left entry right).Sorted less)
    (notBelow : less key entry.1 = false) :
    ∀ lower ∈ left.entries, equivalent less key lower.1 = false := by
  obtain ⟨leftWithin, here, -⟩ := within_node.mp within
  obtain ⟨-, -, below, -, -⟩ := sorted_node.mp sorted
  intro lower listed
  apply not_equivalent_of_greater
  cases above : less entry.1 key with
  | true => exact order.trans (leftWithin lower listed) here mem (below lower listed) above
  | false =>
    exact order.less_equivalent (leftWithin lower listed) here mem (below lower listed)
      (by simp [equivalent, above, notBelow])

theorem right_differs_of_equivalent (mem : key ∈ keys)
    (sorted : (node left entry right).Sorted less) (same : equivalent less key entry.1 = true) :
    ∀ upper ∈ right.entries, equivalent less key upper.1 = false := by
  obtain ⟨-, here, rightWithin⟩ := within_node.mp within
  obtain ⟨-, -, -, above, -⟩ := sorted_node.mp sorted
  exact fun upper listed => not_equivalent_of_less
    (order.equivalent_less mem here (rightWithin upper listed) same (above upper listed))

end

section

variable (within : tree.Within keys)
include within

section

variable (sorted : tree.Sorted less)
include sorted

theorem find_eq (mem : key ∈ keys) :
    tree.find less key = tree.entries.find? fun entry => equivalent less key entry.1 := by
  induction tree with
  | leaf => rfl
  | node left entry right leftIh rightIh =>
    obtain ⟨leftWithin, -, rightWithin⟩ := within_node.mp within
    obtain ⟨leftSorted, rightSorted, -, -, -⟩ := sorted_node.mp sorted
    rw [find, entries, find?_append]
    cases below : less key entry.1 with
    | true =>
      have beyond := right_differs order within mem sorted below
      have none :
          (entry :: right.entries).find? (fun entry => equivalent less key entry.1) = none :=
        find?_eq_none.mpr fun upper listed => by simp [beyond upper listed]
      rw [if_pos rfl, leftIh leftWithin leftSorted, none, Option.or_none]
    | false =>
      have before := left_differs order within mem sorted below
      have none : left.entries.find? (fun entry => equivalent less key entry.1) = none :=
        find?_eq_none.mpr fun lower listed => by simp [before lower listed]
      rw [if_neg Bool.false_ne_true, none, Option.none_or, find?_cons]
      cases above : less entry.1 key with
      | true =>
        rw [if_pos rfl, not_equivalent_of_greater above, rightIh rightWithin rightSorted]
      | false =>
        have same : equivalent less key entry.1 = true := by simp [equivalent, below, above]
        rw [if_neg Bool.false_ne_true, same]

theorem erase_entries (mem : key ∈ keys) :
    (tree.erase less key).entries =
      tree.entries.filter fun entry => !equivalent less key entry.1 := by
  induction tree with
  | leaf => rfl
  | node left entry right leftIh rightIh =>
    obtain ⟨leftWithin, -, rightWithin⟩ := within_node.mp within
    obtain ⟨leftSorted, rightSorted, -, -, -⟩ := sorted_node.mp sorted
    rw [erase, entries, filter_append]
    cases below : less key entry.1 with
    | true =>
      have beyond := right_differs order within mem sorted below
      have kept : (entry :: right.entries).filter (fun entry => !equivalent less key entry.1) =
          entry :: right.entries :=
        filter_eq_self.mpr fun upper listed => by simp [beyond upper listed]
      rw [if_pos rfl, entries, leftIh leftWithin leftSorted, kept]
    | false =>
      have before := left_differs order within mem sorted below
      have kept : left.entries.filter (fun entry => !equivalent less key entry.1) = left.entries :=
        filter_eq_self.mpr fun lower listed => by simp [before lower listed]
      rw [if_neg Bool.false_ne_true, kept]
      cases above : less entry.1 key with
      | true =>
        rw [if_pos rfl, entries, rightIh rightWithin rightSorted,
          filter_cons_of_pos (by simp [not_equivalent_of_greater above])]
      | false =>
        have same : equivalent less key entry.1 = true := by simp [equivalent, below, above]
        have beyond := right_differs_of_equivalent order within mem sorted same
        have rest : right.entries.filter (fun entry => !equivalent less key entry.1) =
            right.entries :=
          filter_eq_self.mpr fun upper listed => by simp [beyond upper listed]
        rw [if_neg Bool.false_ne_true, entries_join, filter_cons_of_neg (by simp [same]), rest]

theorem insert_entries (mem : key ∈ keys) :
    (tree.insert less key value).entries.Perm (put (equivalent less) key value tree.entries) := by
  induction tree with
  | leaf => exact Perm.refl _
  | node left entry right leftIh rightIh =>
    obtain ⟨leftWithin, -, rightWithin⟩ := within_node.mp within
    obtain ⟨leftSorted, rightSorted, -, -, -⟩ := sorted_node.mp sorted
    rw [insert]
    cases below : less key entry.1 with
    | true =>
      have beyond := right_differs order within mem sorted below
      exact ((leftIh leftWithin leftSorted).append_right _).trans (put_append_back beyond).symm
    | false =>
      have before := left_differs order within mem sorted below
      rw [if_neg Bool.false_ne_true]
      cases above : less entry.1 key with
      | true =>
        have here : ∀ entry' ∈ [entry], equivalent less key entry'.1 = false := by
          simpa using not_equivalent_of_greater above
        rw [if_pos rfl, entries, entries, put_append_front before, perm_append_left_iff]
        exact ((rightIh rightWithin rightSorted).cons entry).trans
          (Perm.of_eq (put_append_front here).symm)
      | false =>
        have same : equivalent less key entry.1 = true := by simp [equivalent, below, above]
        have beyond := right_differs_of_equivalent order within mem sorted same
        rw [if_neg Bool.false_ne_true, entries, entries, put_append_front before,
          put_cons_same same beyond]

theorem insert_sorted (mem : key ∈ keys) :
    (tree.insert less key value).Sorted less := by
  induction tree with
  | leaf => exact pairwise_singleton _ _
  | node left entry right leftIh rightIh =>
    obtain ⟨leftWithin, here, rightWithin⟩ := within_node.mp within
    obtain ⟨leftSorted, rightSorted, lower, upper, apart⟩ := sorted_node.mp sorted
    rw [insert]
    cases below : less key entry.1 with
    | true =>
      rw [if_pos rfl, sorted_node]
      refine ⟨leftIh leftWithin leftSorted, rightSorted, ?_, upper, ?_⟩
      · intro added listed
        rcases mem_insert listed with new | ⟨old, before, same⟩
        · rw [new]; exact below
        · rw [<- same]; exact lower old before
      · intro added listed top above
        rcases mem_insert listed with new | ⟨old, before, same⟩
        · rw [new]
          exact order.trans mem here (rightWithin top above) below (upper top above)
        · rw [<- same]; exact apart old before top above
    | false =>
      rw [if_neg Bool.false_ne_true]
      cases above : less entry.1 key with
      | true =>
        rw [if_pos rfl, sorted_node]
        refine ⟨leftSorted, rightIh rightWithin rightSorted, lower, ?_, ?_⟩
        · intro added listed
          rcases mem_insert listed with new | ⟨old, before, same⟩
          · rw [new]; exact above
          · rw [<- same]; exact upper old before
        · intro bottom inside added listed
          rcases mem_insert listed with new | ⟨old, before, same⟩
          · rw [new]
            exact order.trans (leftWithin bottom inside) here mem (lower bottom inside) above
          · rw [<- same]; exact apart bottom inside old before
      | false =>
        exact sorted_node.mpr ⟨leftSorted, rightSorted, lower, upper, apart⟩

theorem find_mem (mem : entry ∈ tree.entries) : tree.find less entry.1 = some entry := by
  obtain ⟨front, back, split⟩ := append_of_mem mem
  have lower : ∀ other ∈ front, equivalent less entry.1 other.1 = false := by
    intro other listed
    rw [Sorted, split, pairwise_append] at sorted
    exact not_equivalent_of_greater (sorted.2.2 other listed entry mem_cons_self)
  have self : equivalent less entry.1 entry.1 = true := by
    simp [equivalent, order.irrefl (within entry mem)]
  have none : front.find? (fun other => equivalent less entry.1 other.1) = none :=
    find?_eq_none.mpr fun other listed => by simp [lower other listed]
  rw [find_eq order within sorted (within entry mem), split, find?_append, none,
    Option.none_or, find?_cons, self]

end

end

end Ordered

theorem Sorted.filter {kept : K × V -> Bool} {after : SearchTree K V} (sorted : tree.Sorted less)
    (left : after.entries = tree.entries.filter kept) : after.Sorted less := by
  rw [Sorted, left]
  exact Pairwise.filter kept sorted

theorem Within.filter {kept : K × V -> Bool} {after : SearchTree K V} (within : tree.Within keys)
    (left : after.entries = tree.entries.filter kept) : after.Within keys := by
  intro entry listed
  rw [left] at listed
  exact within entry (mem_filter.mp listed).1

section Runs

variable {same : K -> K -> Bool} {ops : List (Op K V)}

theorem put_perm {before after : List (K × V)} (perm : before.Perm after) :
    (put same key value before).Perm (put same key value after) := by
  unfold put
  rw [perm.any_eq]
  split
  · exact perm.map _
  · exact perm.append_right _

theorem hold_perm {before after : List (K × V)} (perm : before.Perm after) (op : Op K V) :
    (hold same before op).Perm (hold same after op) := by
  cases op with
  | insert key value => exact put_perm perm
  | erase key => exact perm.filter _
  | eraseIf chosen => exact perm.filter _

theorem hold_congr {other : K -> K -> Bool} {held : List (K × V)} {op : Op K V}
    (agree : ∀ key ∈ op.keys, ∀ entry ∈ held, same key entry.1 = other key entry.1) :
    hold same held op = hold other held op := by
  cases op with
  | insert key value =>
    have here := agree key mem_cons_self
    have changed : (held.map fun entry => if same key entry.1 then (entry.1, value) else entry) =
        held.map fun entry => if other key entry.1 then (entry.1, value) else entry :=
      map_congr_left fun entry listed => by rw [here entry listed]
    have known : (held.any fun entry => same key entry.1) =
        held.any fun entry => other key entry.1 := by
      rw [Bool.eq_iff_iff, any_eq_true, any_eq_true]
      exact exists_congr fun entry => and_congr_right fun listed => by rw [here entry listed]
    simp only [hold, put, changed, known]
  | erase key =>
    have here := agree key mem_cons_self
    exact filter_congr fun entry listed => by rw [here entry listed]
  | eraseIf chosen => rfl

theorem apply_sorted (order : OrderedOn less keys) (within : tree.Within keys)
    (sorted : tree.Sorted less) {op : Op K V} (known : ∀ key ∈ op.keys, key ∈ keys) :
    (tree.apply less op).Within keys ∧ (tree.apply less op).Sorted less ∧
      (tree.apply less op).entries.Perm (hold (equivalent less) tree.entries op) := by
  cases op with
  | insert key value =>
    have mem := known key mem_cons_self
    refine ⟨?_, insert_sorted order within sorted mem, insert_entries order within sorted mem⟩
    intro added listed
    rcases mem_insert listed with new | ⟨old, before, same⟩
    · rw [new]; exact mem
    · rw [<- same]; exact within old before
  | erase key =>
    have left := erase_entries order within sorted (known key mem_cons_self)
    exact ⟨within.filter left, sorted.filter left, of_eq left⟩
  | eraseIf chosen =>
    have left := entries_eraseIf chosen tree
    exact ⟨within.filter left, sorted.filter left, of_eq left⟩

theorem Reaches.refines (order : OrderedOn less keys)
    (agree : ∀ left ∈ keys, ∀ right ∈ keys, equivalent less left right = same left right)
    (known : ∀ op ∈ ops, ∀ key ∈ op.keys, key ∈ keys) (reached : Reaches less ops tree) :
    tree.Within keys ∧ tree.Sorted less ∧ tree.entries.Perm (held same ops) := by
  induction reached with
  | start => exact ⟨nofun, Pairwise.nil, Perm.refl _⟩
  | @step ops tree after reached op balanced ih =>
    obtain ⟨within, sorted, perm⟩ := ih fun op listed => known op (mem_append_left _ listed)
    have inside : ∀ key ∈ op.keys, key ∈ keys := known op (by simp)
    obtain ⟨stepWithin, stepSorted, stepPerm⟩ := apply_sorted order within sorted inside
    have congr : hold (equivalent less) tree.entries op = hold same tree.entries op :=
      hold_congr fun key listed entry mem =>
        agree key (inside key listed) entry.1 (within entry mem)
    refine ⟨?_, ?_, ?_⟩
    · rw [Within, balanced]; exact stepWithin
    · rw [Sorted, balanced]; exact stepSorted
    · rw [balanced, held, foldl_concat]
      exact (stepPerm.trans (Perm.of_eq congr)).trans (hold_perm perm op)

theorem Reaches.find_held (order : OrderedOn less keys)
    (agree : ∀ left ∈ keys, ∀ right ∈ keys, equivalent less left right = same left right)
    (known : ∀ op ∈ ops, ∀ key ∈ op.keys, key ∈ keys) (reached : Reaches less ops tree)
    (listed : entry ∈ held same ops) : tree.find less entry.1 = some entry := by
  obtain ⟨within, sorted, perm⟩ := reached.refines order agree known
  exact find_mem order within sorted (perm.mem_iff.mpr listed)

end Runs

end SearchTree

end AbilityRuntime.Library
