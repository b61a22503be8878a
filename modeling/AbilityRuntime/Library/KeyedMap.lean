import Mathlib.Data.Finmap

set_option autoImplicit false

namespace AbilityRuntime.Library

open Option AList List Sigma

abbrev KeyedMap (K V : Type) := AList fun _ : K => V

structure HashOrder (Item : Type) where
  arrange : List Item -> List Item
  perm : ∀ items, (arrange items).Perm items

namespace KeyedMap

variable {K V : Type} [DecidableEq K]

def values (map : KeyedMap K V) : List V := map.entries.map snd

def eraseAll (map : KeyedMap K V) (keys : List K) : KeyedMap K V :=
  keys.foldl (fun map key => map.erase key) map

def unlessEmpty (map : KeyedMap K V) : Option (KeyedMap K V) :=
  if map.keys.isEmpty then none else some map

def filterMapValues (change : V -> Option V) (map : KeyedMap K V) : KeyedMap K V where
  entries := map.entries.filterMap fun entry => (change entry.2).map (⟨entry.1, ·⟩)
  nodupKeys := by
    refine nodupKeys_iff_pairwise.mpr
      (Pairwise.filterMap _ ?_ (nodupKeys_iff_pairwise.mp map.nodupKeys))
    intro first second ne _ changed _ other
    obtain ⟨_, _, rfl⟩ := map_eq_some_iff.mp changed
    obtain ⟨_, _, rfl⟩ := map_eq_some_iff.mp other
    exact ne

theorem lookup_filterMapValues (change : V -> Option V) (map : KeyedMap K V) (key : K) :
    (filterMapValues change map).lookup key = (map.lookup key).bind change := by
  refine ext fun value => ?_
  rw [bind_eq_some_iff, <- mem_def, mem_lookup_iff]
  simp only [filterMapValues, mem_filterMap, map_eq_some_iff, Sigma.mk.injEq]
  constructor
  · rintro ⟨⟨_, before⟩, held, _, changed, rfl, same⟩
    rw [<- eq_of_heq same]
    exact ⟨before, mem_lookup_iff.mpr held, changed⟩
  · rintro ⟨before, found, changed⟩
    exact ⟨⟨key, before⟩, mem_lookup_iff.mp found, value, changed, rfl, HEq.rfl⟩

def mapTo {W : Type} (change : V -> W) (map : KeyedMap K V) : KeyedMap K W where
  entries := map.entries.map fun entry => ⟨entry.1, change entry.2⟩
  nodupKeys := by
    refine nodupKeys_iff_pairwise.mpr (pairwise_map.mpr ?_)
    exact nodupKeys_iff_pairwise.mp map.nodupKeys

theorem lookup_mapTo {W : Type} (change : V -> W) (map : KeyedMap K V) (key : K) :
    (mapTo change map).lookup key = (map.lookup key).map change := by
  refine ext fun value => ?_
  rw [map_eq_some_iff, <- mem_def, mem_lookup_iff]
  simp only [mapTo, List.mem_map, Sigma.mk.injEq]
  constructor
  · rintro ⟨⟨_, before⟩, held, rfl, changed⟩
    exact ⟨before, mem_lookup_iff.mpr held, eq_of_heq changed⟩
  · rintro ⟨before, found, rfl⟩
    exact ⟨⟨key, before⟩, mem_lookup_iff.mp found, rfl, HEq.rfl⟩

def mapValues (change : V -> V) (map : KeyedMap K V) : KeyedMap K V :=
  filterMapValues (fun value => some (change value)) map

def without (map : KeyedMap K V) (chosen : K -> Bool) : KeyedMap K V where
  entries := map.entries.filter fun entry => !chosen entry.1
  nodupKeys := map.nodupKeys.sublist filter_sublist

theorem lookup_without (map : KeyedMap K V) (chosen : K -> Bool) (key : K) :
    (without map chosen).lookup key = if chosen key then none else map.lookup key := by
  refine ext fun value => ?_
  rw [<- mem_def, mem_lookup_iff]
  simp only [without, mem_filter, <- mem_lookup_iff, mem_def]
  cases chosen key <;> simp

variable {map : KeyedMap K V} {key : K} {value : V}

theorem lookup_of_without {chosen : K -> Bool}
    (found : (without map chosen).lookup key = some value) : map.lookup key = some value := by
  rw [lookup_without] at found
  split at found
  · cases found
  · exact found

def modify (map : KeyedMap K V) (key : K) (change : V -> V) : KeyedMap K V :=
  match map.lookup key with
  | some value => map.insert key (change value)
  | none => map

theorem lookup_mapValues (change : V -> V) (map : KeyedMap K V) (key : K) :
    (mapValues change map).lookup key = (map.lookup key).map change := by
  rw [mapValues, lookup_filterMapValues]
  cases map.lookup key with
  | none => rfl
  | some value => rfl

omit [DecidableEq K] in
theorem values_mapValues (change : V -> V) (map : KeyedMap K V) :
    values (mapValues change map) = (values map).map change := by
  simp [values, mapValues, filterMapValues]

theorem lookup_erase_eq (map : KeyedMap K V) (key other : K) :
    (map.erase key).lookup other = if other = key then none else map.lookup other := by
  split
  next same => rw [same, lookup_erase]
  next ne => exact lookup_erase_ne ne

theorem lookup_of_erase {other : K}
    (found : (map.erase key).lookup other = some value) : map.lookup other = some value := by
  rw [lookup_erase_eq] at found
  split at found
  · cases found
  · exact found

theorem erase_of_lookup_none (free : map.lookup key = none) : map.erase key = map :=
  ext (kerase_of_notMem_keys (lookup_eq_none.mp free))

theorem erase_insert_of_lookup_none (free : map.lookup key = none)
    (value : V) : (map.insert key value).erase key = map := by
  rw [insert_of_notMem (lookup_eq_none.mp free)]
  exact ext (kerase_cons_eq rfl)

theorem lookup_insert_eq (map : KeyedMap K V) (key other : K) (value : V) :
    (map.insert key value).lookup other = if other = key then some value else map.lookup other := by
  split
  next same => rw [same, lookup_insert]
  next ne => exact lookup_insert_ne ne

theorem lookup_modify (map : KeyedMap K V) (key other : K) (change : V -> V) :
    (modify map key change).lookup other =
      if other = key then (map.lookup key).map change else map.lookup other := by
  unfold modify
  split
  next value found => rw [lookup_insert_eq, found, map_some]
  next missing =>
    split
    next same => rw [same, missing, map_none]
    · rfl

theorem erase_modify (map : KeyedMap K V) (key : K) (change : V -> V) :
    (modify map key change).erase key = map.erase key := by
  unfold modify
  split
  · exact ext (kerase_cons_eq rfl)
  · rfl

theorem mem_of_lookup (found : map.lookup key = some value) : key ∈ map := by
  rw [<- lookup_isSome, found]
  rfl

theorem mem_insert_of_mem (present : key ∈ map) (value : V)
    (other : K) : other ∈ map.insert key value ↔ other ∈ map := by
  rw [mem_insert]
  constructor
  · rintro (rfl | already)
    exacts [present, already]
  · exact .inr

theorem lookup_eraseAll (map : KeyedMap K V) (keys : List K) (key : K) :
    (eraseAll map keys).lookup key = if key ∈ keys then none else map.lookup key := by
  induction keys generalizing map with
  | nil => simp [eraseAll]
  | cons first rest ih =>
    rw [eraseAll, foldl_cons]
    have later := ih (map.erase first)
    rw [eraseAll] at later
    rw [later, lookup_erase_eq]
    by_cases same : key = first <;> simp [same]

theorem mem_values : value ∈ values map ↔ ∃ key, map.lookup key = some value := by
  rw [values, List.mem_map]
  constructor
  · rintro ⟨⟨key, found⟩, mem, rfl⟩
    exact ⟨key, mem_lookup_iff.mpr mem⟩
  · rintro ⟨key, found⟩
    exact ⟨⟨key, value⟩, mem_lookup_iff.mp found, rfl⟩

theorem values_insert (map : KeyedMap K V) (key : K) (value : V) :
    values (map.insert key value) = value :: values (map.erase key) := rfl

theorem values_erase_perm (found : map.lookup key = some value) :
    (values map).Perm (value :: values (map.erase key)) := by
  have held : ⟨key, value⟩ ∈ map.entries := mem_lookup_iff.mp found
  obtain ⟨first, before, after, fresh, whole, erased⟩ := exists_of_kerase (mem_keys_of_mem held)
  have same : first = value := by
    have firstHeld : ⟨key, first⟩ ∈ map.entries := by simp [whole]
    have := mem_lookup_iff.mpr firstHeld
    rw [mem_def, found] at this
    exact (some.inj this).symm
  subst same
  have rest : values (map.erase key) = before.map snd ++ after.map snd := by
    simp only [values, erase, erased, map_append]
  rw [rest, values, whole, map_append, map_cons]
  exact perm_middle

theorem values_flatten_perm {A : Type} {map other : KeyedMap K (List A)}
    (same : ∀ key, ((map.lookup key).getD []).Perm ((other.lookup key).getD [])) :
    (values map).flatten.Perm (values other).flatten := by
  induction map using insertRec generalizing other with
  | H0 =>
    have empty : ∀ value ∈ values other, value = [] := by
      intro value held
      obtain ⟨key, found⟩ := mem_values.mp held
      have blank := same key
      rw [found] at blank
      exact perm_nil.mp blank.symm
    exact (Perm.of_eq (flatten_eq_nil_iff.mpr empty)).symm
  | IH key value map fresh ih =>
    have missing := lookup_eq_none.mpr fresh
    have others : (values map).flatten.Perm (values (other.erase key)).flatten := by
      refine ih fun one => ?_
      rw [lookup_erase_eq]
      split
      next chosen => rw [chosen, missing]
      next ne =>
        have before := same one
        rwa [lookup_insert_eq, if_neg ne] at before
    have here := same key
    rw [lookup_insert, getD_some] at here
    rw [values_insert, erase_of_lookup_none missing, flatten_cons]
    cases found : other.lookup key with
    | none =>
      rw [found] at here
      rw [perm_nil.mp here, nil_append]
      rwa [erase_of_lookup_none found] at others
    | some held =>
      rw [found] at here
      exact (here.append others).trans (values_erase_perm found).flatten.symm

theorem lookup_of_find {holds : (_ : K) × V -> Bool} {entry : (_ : K) × V}
    (found : map.entries.find? holds = some entry) :
    map.lookup entry.1 = some entry.2 ∧ holds entry = true :=
  ⟨mem_lookup_iff.mpr (mem_of_find?_eq_some found), find?_some found⟩

omit [DecidableEq K] in
theorem not_mem_values_of_find (holds : V -> Bool)
    (missing : (map.entries.find? fun entry => holds entry.2) = none)
    (held : value ∈ values map) : holds value = false := by
  obtain ⟨entry, mem, rfl⟩ := mem_map.mp held
  simpa using find?_eq_none.mp missing entry mem

theorem keys_isEmpty : map.keys.isEmpty = true ↔ ∀ key, map.lookup key = none := by
  rw [List.isEmpty_iff, eq_nil_iff_forall_not_mem]
  simp only [<- AList.mem_keys, <- lookup_eq_none]

@[simp] theorem unlessEmpty_lookup (map : KeyedMap K V) (key : K) :
    ((unlessEmpty map).bind fun kept => kept.lookup key) = map.lookup key := by
  unfold unlessEmpty
  split
  next empty => exact (keys_isEmpty.mp empty key).symm
  · rfl

omit [DecidableEq K] in
theorem unlessEmpty_getD (map : KeyedMap K V) : (unlessEmpty map).getD ∅ = map := by
  unfold unlessEmpty
  split
  next empty =>
    have entries : map.entries = [] := by simpa [AList.keys, List.keys] using empty
    exact AList.ext entries.symm
  · rfl

omit [DecidableEq K] in
theorem unlessEmpty_filled {kept : KeyedMap K V} (found : unlessEmpty map = some kept) :
    kept.keys.isEmpty = false := by
  unfold unlessEmpty at found
  split at found
  · cases found
  next filled =>
    cases found
    simpa using filled

theorem lookup_keepFilled {L : Type} (map : KeyedMap K (KeyedMap L V)) (key other : K)
    (value : KeyedMap L V) :
    (if value.keys.length = 0 then map.erase key else map.insert key value).lookup other =
      if other = key then unlessEmpty value else map.lookup other := by
  have tests : value.keys.length = 0 ↔ value.keys.isEmpty = true := by simp
  by_cases empty : value.keys.isEmpty = true
  · rw [if_pos (tests.mpr empty), unlessEmpty, if_pos empty, lookup_erase_eq]
  · rw [if_neg (mt tests.mp empty), unlessEmpty, if_neg empty, lookup_insert_eq]

end KeyedMap

end AbilityRuntime.Library
