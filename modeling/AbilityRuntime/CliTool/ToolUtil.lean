import AbilityRuntime.Library.KeyedMap

set_option autoImplicit false

namespace AbilityRuntime.CliTool.ToolUtil

open Library AList List Option

abbrev Key := List Char

variable {V : Type}

abbrev WantParams (V : Type) := KeyedMap Key V

def bareKey : Key -> Option Key
  | '-' :: '-' :: char :: rest => some (char :: rest)
  | '-' :: char :: rest => some (char :: rest)
  | _ => none

def strippedKey : Key -> Key
  | '-' :: '-' :: rest => rest
  | key => key.tail

def isRenamed (params : WantParams V) (key : Key) : Bool :=
  (bareKey key).any (· ∉ params)

def toRename (params : WantParams V) : List (Σ _ : Key, V) :=
  params.entries.filter (isRenamed params ·.1)

def rename (args : WantParams V) (moves : List (Σ _ : Key, V)) : WantParams V :=
  moves.foldl (fun args move => (args.erase move.1).insert (strippedKey move.1) move.2) args

def normalizeSkillParamKeys (args : WantParams V) : WantParams V := rename args (toRename args)

/-- The entries of the result are those of the arguments, each under its own key or the bare one. -/
structure KeepsValues (args : WantParams V) (place : Key -> Key) : Prop where
  own : ∀ key ∈ args, place key = key ∨ bareKey key = some (place key)
  keys : (normalizeSkillParamKeys args).keys.Perm (args.keys.map place)
  values : ∀ key ∈ args, (normalizeSkillParamKeys args).lookup (place key) = args.lookup key

/-- No two spellings of a missing key, and no key of two dashes without the one of a single dash. -/
structure Apart (args : WantParams V) : Prop where
  spellings : ∀ key ∈ args, ∀ other ∈ args, ∀ bare ∉ args, bareKey key = some bare ->
    bareKey other = some bare -> key = other
  dashes : ['-', '-'] ∈ args -> ['-'] ∈ args

theorem strippedKey_eq {key bare : Key} (prefixed : bareKey key = some bare) :
    strippedKey key = if key = ['-', '-'] then [] else bare := by
  unfold bareKey at prefixed
  split at prefixed
  · simpa [strippedKey] using prefixed
  next char rest short =>
    cases prefixed
    by_cases dash : char = '-'
    · subst dash
      cases rest with
      | nil => rfl
      | cons other rest => exact (short other rest rfl rfl).elim
    · unfold strippedKey
      split
      next same => simp_all
      · simp [dash]
  · cases prefixed

variable {args : WantParams V} {moves : List (Σ _ : Key, V)} {key : Key}

theorem mem_rename (present : key ∈ rename args moves) :
    (key ∈ args ∧ ∀ move ∈ moves, move.1 ≠ key) ∨ ∃ move ∈ moves, strippedKey move.1 = key := by
  induction moves generalizing args with
  | nil => exact .inl ⟨present, nofun⟩
  | cons move rest ih =>
    rcases ih present with ⟨held, others⟩ | ⟨later, mem, same⟩
    · rw [mem_insert, mem_erase] at held
      rcases held with same | ⟨ne, held⟩
      · exact .inr ⟨move, mem_cons_self, same.symm⟩
      · exact .inl ⟨held, forall_mem_cons.mpr ⟨Ne.symm ne, others⟩⟩
    · exact .inr ⟨later, mem_cons_of_mem _ mem, same⟩

theorem lookup_rename_of_other (others : ∀ move ∈ moves, move.1 ≠ key ∧ strippedKey move.1 ≠ key) :
    (rename args moves).lookup key = args.lookup key := by
  induction moves generalizing args with
  | nil => rfl
  | cons move rest ih =>
    obtain ⟨⟨source, target⟩, later⟩ := forall_mem_cons.mp others
    refine (ih later).trans ?_
    rw [lookup_insert_ne target.symm, lookup_erase_ne source.symm]

theorem lookup_rename_of_mem (nodup : moves.Nodup) {move : Σ _ : Key, V} (mem : move ∈ moves)
    (apart : ∀ move ∈ moves, ∀ other ∈ moves, other.1 ≠ strippedKey move.1 ∧
      (strippedKey other.1 = strippedKey move.1 -> other = move)) :
    (rename args moves).lookup (strippedKey move.1) = some move.2 := by
  induction moves generalizing args with
  | nil => cases mem
  | cons first rest ih =>
    rw [nodup_cons] at nodup
    rcases mem_cons.mp mem with rfl | later
    · have others : ∀ other ∈ rest, other.1 ≠ strippedKey move.1 ∧
          strippedKey other.1 ≠ strippedKey move.1 := by
        intro other listed
        obtain ⟨source, target⟩ := apart move mem other (mem_cons_of_mem _ listed)
        exact ⟨source, fun same => nodup.1 (target same ▸ listed)⟩
      exact (lookup_rename_of_other others).trans (lookup_insert _)
    · exact ih nodup.2 later fun move mem other listed =>
        apart move (mem_cons_of_mem _ mem) other (mem_cons_of_mem _ listed)

theorem mem_toRename {move : Σ _ : Key, V} :
    move ∈ toRename args ↔ args.lookup move.1 = some move.2 ∧
      ∃ bare, bareKey move.1 = some bare ∧ bare ∉ args := by
  rw [toRename, mem_filter, <- mem_def, mem_lookup_iff, isRenamed]
  cases bareKey move.1 <;> simp

theorem KeepsValues.place_eq {place : Key -> Key} (keeps : KeepsValues args place) {bare : Key}
    (mem : key ∈ args) (prefixed : bareKey key = some bare) (absent : bare ∉ args) :
    place key = bare := by
  rcases keeps.own key mem with same | stripped
  · obtain ⟨value, found⟩ := isSome_iff_exists.mp (lookup_isSome.mpr mem)
    have standing := keeps.values key mem
    rw [same, found] at standing
    rcases mem_rename (KeyedMap.mem_of_lookup standing) with ⟨-, others⟩ | ⟨move, listed, target⟩
    · exact absurd rfl (others ⟨key, value⟩ (mem_toRename.mpr ⟨found, _, prefixed, absent⟩))
    · obtain ⟨-, other, moved, free⟩ := mem_toRename.mp listed
      rw [strippedKey_eq moved] at target
      split_ifs at target with dashes
      · exact nomatch target ▸ prefixed
      · exact absurd (target ▸ mem) free
  · exact (some.inj (prefixed.symm.trans stripped)).symm

theorem KeepsValues.apart {place : Key -> Key} (keeps : KeepsValues args place) : Apart args := by
  have injective := inj_on_of_nodup_map (keeps.keys.nodup_iff.mp (keys_nodup _))
  constructor
  · intro key mem other listed bare absent prefixed same
    exact injective mem listed ((keeps.place_eq mem prefixed absent).trans
      (keeps.place_eq listed same absent).symm)
  · intro mem
    by_contra absent
    have moved := keeps.place_eq mem rfl absent
    have standing : ['-'] ∈ normalizeSkillParamKeys args := by
      rw [<- lookup_isSome, <- moved, keeps.values _ mem]
      exact lookup_isSome.mpr mem
    rcases mem_rename standing with ⟨held, -⟩ | ⟨move, listed, target⟩
    · exact absent held
    · obtain ⟨found, other, prefixed, free⟩ := mem_toRename.mp listed
      rw [strippedKey_eq prefixed] at target
      split_ifs at target with dashes
      have held := KeyedMap.mem_of_lookup found
      have again := keeps.place_eq held (prefixed.trans (target ▸ rfl)) absent
      exact dashes (injective held mem (again.trans moved.symm))

theorem Apart.moved (apart : Apart args) (mem : key ∈ args)
    (renamed : isRenamed args key = true) : bareKey key = some (strippedKey key) ∧ strippedKey key ∉ args := by
  obtain ⟨bare, prefixed, absent⟩ : ∃ bare, bareKey key = some bare ∧ bare ∉ args := by
    rw [isRenamed] at renamed
    cases prefixed : bareKey key <;> simp_all
  have stripped : strippedKey key = bare := by
    rw [strippedKey_eq prefixed, if_neg]
    rintro rfl
    cases prefixed
    exact absent (apart.dashes mem)
  exact ⟨stripped ▸ prefixed, stripped ▸ absent⟩

def place (args : WantParams V) (key : Key) : Key :=
  if isRenamed args key then strippedKey key else key

theorem Apart.injective (apart : Apart args) {other : Key} (mem : key ∈ args)
    (listed : other ∈ args) (same : place args key = place args other) : key = other := by
  unfold place at same
  split_ifs at same with renamed also also
  · obtain ⟨prefixed, absent⟩ := apart.moved mem renamed
    exact apart.spellings _ mem _ listed _ absent prefixed (same ▸ (apart.moved listed also).1)
  · exact absurd (same ▸ listed) (apart.moved mem renamed).2
  · exact absurd (same ▸ mem) (apart.moved listed also).2
  · exact same

theorem Apart.values (apart : Apart args) (mem : key ∈ args) :
    (normalizeSkillParamKeys args).lookup (place args key) = args.lookup key := by
  have listed {move : Σ _ : Key, V} (moved : move ∈ toRename args) :
      move.1 ∈ args ∧ isRenamed args move.1 = true ∧ place args move.1 = strippedKey move.1 := by
    obtain ⟨held, renamed⟩ := mem_filter.mp moved
    exact ⟨mem_map_of_mem held, renamed, if_pos renamed⟩
  by_cases renamed : isRenamed args key = true
  · obtain ⟨value, found⟩ := isSome_iff_exists.mp (lookup_isSome.mpr mem)
    have moved : (⟨key, value⟩ : Σ _ : Key, V) ∈ toRename args :=
      mem_filter.mpr ⟨mem_lookup_iff.mp found, renamed⟩
    rw [found, show place args key = strippedKey key from if_pos renamed]
    refine lookup_rename_of_mem (args.nodupKeys.nodup.filter _) moved ?_
    intro move here other there
    obtain ⟨held, moves, target⟩ := listed here
    obtain ⟨otherHeld, -, otherTarget⟩ := listed there
    refine ⟨fun same => (apart.moved held moves).2 (same ▸ otherHeld), fun same => ?_⟩
    have one := apart.injective otherHeld held (otherTarget.trans (same.trans target.symm))
    exact args.nodupKeys.eq_of_fst_eq (mem_filter.mp there).1 (mem_filter.mp here).1 one
  · rw [show place args key = key from if_neg renamed]
    refine lookup_rename_of_other fun move moved => ⟨?_, fun same => ?_⟩
    · rintro rfl
      exact renamed (listed moved).2.1
    · exact (apart.moved (listed moved).1 (listed moved).2.1).2 (same ▸ mem)

theorem Apart.keepsValues (apart : Apart args) : KeepsValues args (place args) := by
  refine ⟨fun key mem => ?_, ?_, fun key mem => apart.values mem⟩
  · unfold place
    split
    next renamed => exact .inr (apart.moved mem renamed).1
    · exact .inl rfl
  · refine (perm_ext_iff_of_nodup (keys_nodup _) (args.keys_nodup.map_on
      fun key mem other listed => apart.injective mem listed)).mpr fun key => ?_
    rw [List.mem_map]
    constructor
    · intro standing
      rcases mem_rename standing with ⟨held, others⟩ | ⟨move, moved, target⟩
      · refine ⟨key, held, if_neg fun renamed => ?_⟩
        obtain ⟨value, found⟩ := isSome_iff_exists.mp (lookup_isSome.mpr held)
        exact others ⟨key, value⟩ (mem_filter.mpr ⟨mem_lookup_iff.mp found, renamed⟩) rfl
      · obtain ⟨held, renamed⟩ := mem_filter.mp moved
        exact ⟨move.1, mem_map_of_mem held, (if_pos renamed).trans target⟩
    · rintro ⟨other, held, rfl⟩
      refine lookup_isSome.mp ?_
      rw [apart.values held]
      exact lookup_isSome.mpr held

/-- No value is lost just when the spellings of each missing key are apart. -/
theorem keepsValues_iff (args : WantParams V) : (∃ place, KeepsValues args place) ↔ Apart args :=
  ⟨fun ⟨_, keeps⟩ => keeps.apart, fun apart => ⟨_, apart.keepsValues⟩⟩

theorem spellings_collide : ¬ ∀ args : WantParams Nat, ∃ place, KeepsValues args place := by
  intro every
  obtain ⟨place, keeps⟩ := every ((AList.singleton ['-', 'a'] 1).insert ['-', '-', 'a'] 2)
  exact absurd keeps.keys.length_eq (by simp; decide)

end AbilityRuntime.CliTool.ToolUtil
