import AbilityRuntime.Library.KeyedMap
import AbilityRuntime.Library.Graphs
import AbilityRuntime.UIExtension.ExtensionRecordIds

set_option autoImplicit false

namespace AbilityRuntime.UIExtension

open Library Option List

/-- The session of a record names its caller by a token, which may be null. -/
structure CallerRecord where
  uiExtensionAbilityId : Int
  sessionInfo : Option (Option Nat)
  isUIExtension : Bool
  deriving DecidableEq, Repr

abbrev AbilityTokens := KeyedMap Nat CallerRecord

structure CachedCallers where
  focusedCallerToken : Option Nat
  rootCallerToken : Option Nat

abbrev CallerCaches := KeyedMap Int (Option CachedCallers)

variable (abilities : AbilityTokens)

def getAbilityRecordByToken (token : Option Nat) : Option (Nat × CallerRecord) :=
  token.bind fun token => (abilities.lookup token).map fun record => (token, record)

/-- The recursion on the callers, to a bounded depth; beyond it there is no list yet. -/
def getCallerTokenList : Nat -> CallerRecord -> List Nat -> Option (List Nat)
  | 0, _, _ => none
  | depth + 1, abilityRecord, callerList =>
    match abilityRecord.sessionInfo with
    | none => some []
    | some callerToken =>
      match getAbilityRecordByToken abilities callerToken with
      | none => some []
      | some (token, callerAbilityRecord) =>
        if callerAbilityRecord.uiExtensionAbilityId = INVALID_EXTENSION_RECORD_ID then
          some (token :: callerList)
        else if callerAbilityRecord.uiExtensionAbilityId = abilityRecord.uiExtensionAbilityId then
          some []
        else getCallerTokenList depth callerAbilityRecord (token :: callerList)

def getCachedFocusedCallerToken (caches : CallerCaches) (extensionRecordId : Int) : Option Nat :=
  (caches.lookup extensionRecordId).join.bind CachedCallers.focusedCallerToken

def setCachedFocusedCallerToken (caches : CallerCaches) (extensionRecordId : Int)
    (focusedCallerToken : Nat) : CallerCaches :=
  match caches.lookup extensionRecordId with
  | some (some cached) =>
    caches.insert extensionRecordId
      (some { cached with focusedCallerToken := some focusedCallerToken })
  | _ => caches

def isFocused (depth : Nat) (caches : CallerCaches) (extensionRecordId : Int)
    (token focusToken : Option Nat) : Option (Bool × CallerCaches) :=
  let cachedCaller := getCachedFocusedCallerToken caches extensionRecordId
  if cachedCaller.isSome && cachedCaller = focusToken then some (true, caches)
  else
    match getAbilityRecordByToken abilities token with
    | none => some (false, caches)
    | some (_, abilityRecord) =>
      if !abilityRecord.isUIExtension then some (false, caches)
      else
        (getCallerTokenList abilities depth abilityRecord []).map fun callerList =>
          let known := callerList.filter fun item => (abilities.lookup item).isSome
          match known.find? (some · = focusToken) with
          | some item => (true, setCachedFocusedCallerToken caches extensionRecordId item)
          | none => (false, caches)

def getRootCallerTokenLocked (depth : Nat) (caches : CallerCaches) (extensionRecordId : Int)
    (abilityRecord : CallerRecord) : Option (Option Nat × CallerCaches) :=
  match caches.lookup extensionRecordId with
  | some (some cached) =>
    match cached.rootCallerToken with
    | some rootCallerToken => some (some rootCallerToken, caches)
    | none =>
      (getCallerTokenList abilities depth abilityRecord []).map fun callerList =>
        match callerList with
        | [] => (none, caches)
        | rootCallerToken :: _ =>
          (some rootCallerToken,
            caches.insert extensionRecordId
              (some { cached with rootCallerToken := some rootCallerToken }))
  | _ => some (none, caches)

def callerOf (record : CallerRecord) : Option (Nat × CallerRecord) :=
  record.sessionInfo.bind (getAbilityRecordByToken abilities)

/-- The callers of a record up to the first that is no UI extension. -/
inductive CallerChain : CallerRecord -> List Nat -> Prop where
  | root {record caller : CallerRecord} {token : Nat}
      (called : callerOf abilities record = some (token, caller))
      (isRoot : caller.uiExtensionAbilityId = INVALID_EXTENSION_RECORD_ID) :
      CallerChain record [token]
  | further {record caller : CallerRecord} {token : Nat} {tokens : List Nat}
      (called : callerOf abilities record = some (token, caller))
      (isExtension : caller.uiExtensionAbilityId ≠ INVALID_EXTENSION_RECORD_ID)
      (ne : caller.uiExtensionAbilityId ≠ record.uiExtensionAbilityId)
      (rest : CallerChain caller tokens) : CallerChain record (token :: tokens)

def furtherCaller (record : CallerRecord) : Option CallerRecord :=
  (callerOf abilities record).bind fun (_, caller) =>
    if caller.uiExtensionAbilityId = INVALID_EXTENSION_RECORD_ID then none
    else if caller.uiExtensionAbilityId = record.uiExtensionAbilityId then none
    else some caller

/-- The list is made, and it is that of the chain to the root, whose first token then decides. -/
structure DecidesByRoot (record : CallerRecord) : Prop where
  list : ∃ depth callerList, getCallerTokenList abilities depth record [] = some callerList ∧
    ∀ tokens, CallerChain abilities record tokens ↔ tokens ≠ [] ∧ callerList = tokens.reverse
  root : ∀ caches extensionRecordId cached,
    caches.lookup extensionRecordId = some (some cached) -> cached.rootCallerToken = none ->
    ∃ depth answer after,
      getRootCallerTokenLocked abilities depth caches extensionRecordId record =
        some (answer, after) ∧
      ∀ token, answer = some token ↔
        ∃ tokens, CallerChain abilities record tokens ∧ tokens.getLast? = some token
  focused : ∀ caches extensionRecordId token focusToken, abilities.lookup token = some record ->
    record.isUIExtension = true ->
    getCachedFocusedCallerToken caches extensionRecordId ≠ some focusToken ->
    ∃ depth answer after,
      isFocused abilities depth caches extensionRecordId (some token) (some focusToken) =
        some (answer, after) ∧
      (answer = true ↔ ∃ tokens, CallerChain abilities record tokens ∧ focusToken ∈ tokens)

variable {abilities} {record : CallerRecord}

theorem getCallerTokenList_succ (depth : Nat) (callerList : List Nat) :
    getCallerTokenList abilities (depth + 1) record callerList =
      match callerOf abilities record with
      | none => some []
      | some (token, caller) =>
        if caller.uiExtensionAbilityId = INVALID_EXTENSION_RECORD_ID then some (token :: callerList)
        else if caller.uiExtensionAbilityId = record.uiExtensionAbilityId then some []
        else getCallerTokenList abilities depth caller (token :: callerList) := by
  rw [getCallerTokenList, callerOf]
  cases record.sessionInfo with
  | none => rfl
  | some callerToken => rfl

theorem getCallerTokenList_isSome (depth : Nat) (callerList : List Nat) :
    (getCallerTokenList abilities depth record callerList).isSome ↔
      walk (furtherCaller abilities) record depth = none := by
  induction depth generalizing record callerList with
  | zero => simp [getCallerTokenList, walk]
  | succ depth ih =>
    rw [getCallerTokenList_succ, walk_succ, furtherCaller]
    cases callerOf abilities record with
    | none => simp
    | some called =>
      dsimp only [bind_some]
      split
      · simp
      · split
        · simp
        · exact ih _

theorem callerChain_nonempty {tokens : List Nat} (chain : CallerChain abilities record tokens) :
    tokens ≠ [] := by
  cases chain <;> exact cons_ne_nil _ _

variable {depth : Nat} {callerList : List Nat}

theorem getCallerTokenList_chain {made : List Nat}
    (list : getCallerTokenList abilities depth record callerList = some made) :
    (∃ tokens, CallerChain abilities record tokens ∧ made = tokens.reverse ++ callerList ∧
      ∀ others, CallerChain abilities record others -> others = tokens) ∨
    made = [] ∧ ∀ tokens, ¬ CallerChain abilities record tokens := by
  induction depth generalizing record callerList with
  | zero => cases list
  | succ depth ih =>
    rw [getCallerTokenList_succ] at list
    cases called : callerOf abilities record with
    | none =>
      rw [called] at list
      cases list
      refine .inr ⟨rfl, fun tokens chain => ?_⟩
      cases chain with
      | root caller => rw [called] at caller; cases caller
      | further caller => rw [called] at caller; cases caller
    | some found =>
      obtain ⟨token, caller⟩ := found
      rw [called] at list
      dsimp only at list
      split at list
      next isRoot =>
        cases list
        refine .inl ⟨[token], .root called isRoot, rfl, fun others chain => ?_⟩
        cases chain with
        | root other =>
          rw [called] at other
          cases other
          rfl
        | further other isExtension =>
          rw [called] at other
          cases other
          exact absurd isRoot isExtension
      next isExtension =>
        split at list
        next same =>
          cases list
          refine .inr ⟨rfl, fun tokens chain => ?_⟩
          cases chain with
          | root other isRoot =>
            rw [called] at other
            cases other
            exact isExtension isRoot
          | further other _ ne =>
            rw [called] at other
            cases other
            exact ne same
        next ne =>
          have below : ∀ tokens, CallerChain abilities record tokens ->
              ∃ rest, tokens = token :: rest ∧ CallerChain abilities caller rest := by
            intro tokens chain
            cases chain with
            | root other isRoot =>
              rw [called] at other
              cases other
              exact absurd isRoot isExtension
            | further other _ _ rest =>
              rw [called] at other
              cases other
              exact ⟨_, rfl, rest⟩
          rcases ih list with ⟨tokens, chain, whole, unique⟩ | ⟨empty, none⟩
          · refine .inl ⟨token :: tokens, .further called isExtension ne chain, ?_, ?_⟩
            · rw [whole, reverse_cons, append_assoc, singleton_append]
            · intro others chain
              obtain ⟨rest, rfl, deeper⟩ := below others chain
              rw [unique rest deeper]
          · refine .inr ⟨empty, fun tokens chain => ?_⟩
            obtain ⟨rest, -, deeper⟩ := below tokens chain
            exact none rest deeper

theorem callerList_chain (list : getCallerTokenList abilities depth record [] = some callerList)
    (tokens : List Nat) :
    CallerChain abilities record tokens ↔ tokens ≠ [] ∧ callerList = tokens.reverse := by
  rcases getCallerTokenList_chain list with ⟨only, chain, whole, unique⟩ | ⟨empty, none⟩
  · rw [append_nil] at whole
    constructor
    · intro other
      exact ⟨callerChain_nonempty other, by rw [whole, unique tokens other]⟩
    · rintro ⟨-, same⟩
      rw [whole, reverse_inj] at same
      exact same ▸ chain
  · refine iff_of_false (none tokens) ?_
    rintro ⟨filled, same⟩
    rw [empty, eq_comm, reverse_eq_nil_iff] at same
    exact filled same

theorem callerOf_known {token : Nat} {caller : CallerRecord}
    (called : callerOf abilities record = some (token, caller)) :
    abilities.lookup token = some caller := by
  simp only [callerOf, getAbilityRecordByToken, bind_eq_some_iff, map_eq_some_iff,
    Prod.mk.injEq] at called
  obtain ⟨_, -, _, -, _, found, rfl, rfl⟩ := called
  exact found

theorem callerChain_known {tokens : List Nat} (chain : CallerChain abilities record tokens) :
    ∀ token ∈ tokens, (abilities.lookup token).isSome := by
  induction chain with
  | root called =>
    intro token mem
    rw [mem_singleton.mp mem, callerOf_known called]
    rfl
  | further called _ _ _ ih =>
    intro token mem
    rcases mem_cons.mp mem with rfl | later
    · rw [callerOf_known called]
      rfl
    · exact ih token later

section

variable (list : getCallerTokenList abilities depth record [] = some callerList)
include list

theorem getRootCallerTokenLocked_list {caches : CallerCaches} {extensionRecordId : Int}
    {cached : CachedCallers} (found : caches.lookup extensionRecordId = some (some cached))
    (fresh : cached.rootCallerToken = none) :
    ∃ after, getRootCallerTokenLocked abilities depth caches extensionRecordId record =
      some (callerList.head?, after) := by
  unfold getRootCallerTokenLocked
  simp only [found, fresh, list, map_some]
  cases callerList with
  | nil => exact ⟨_, rfl⟩
  | cons first rest => exact ⟨_, rfl⟩

theorem isFocused_list {caches : CallerCaches} {extensionRecordId : Int} {token focusToken : Nat}
    (found : abilities.lookup token = some record) (isExtension : record.isUIExtension = true)
    (uncached : getCachedFocusedCallerToken caches extensionRecordId ≠ some focusToken) :
    ∃ answer after,
      isFocused abilities depth caches extensionRecordId (some token) (some focusToken) =
        some (answer, after) ∧
      (answer = true ↔ focusToken ∈ callerList ∧ (abilities.lookup focusToken).isSome) := by
  unfold isFocused
  simp only [uncached, getAbilityRecordByToken, found, bind_some, map_some,
    isExtension, list, decide_false, Bool.and_false, Bool.false_eq_true, if_false, Bool.not_true]
  refine ⟨_, _, rfl, ?_⟩
  split
  next item sought =>
    have inside := mem_of_find?_eq_some sought
    obtain rfl : item = focusToken := by simpa using find?_some sought
    exact iff_of_true rfl (mem_filter.mp inside)
  next missing =>
    refine iff_of_false Bool.false_ne_true fun held => ?_
    have passed := find?_eq_none.mp missing focusToken (mem_filter.mpr held)
    exact passed (decide_eq_true rfl)

theorem decidesByRoot_of_list :
    DecidesByRoot abilities record where
  list := ⟨depth, callerList, list, callerList_chain list⟩
  root := fun caches extensionRecordId cached found fresh => by
    obtain ⟨after, result⟩ := getRootCallerTokenLocked_list list found fresh
    refine ⟨depth, _, after, result, fun token => ?_⟩
    constructor
    · intro first
      have filled : callerList.reverse ≠ [] := by
        rw [ne_eq, reverse_eq_nil_iff]
        rintro rfl
        cases first
      refine ⟨callerList.reverse, (callerList_chain list _).mpr
        ⟨filled, (reverse_reverse callerList).symm⟩, ?_⟩
      rw [getLast?_reverse]
      exact first
    · rintro ⟨tokens, chain, last⟩
      rw [((callerList_chain list tokens).mp chain).2, head?_reverse]
      exact last
  focused := fun caches extensionRecordId token focusToken found isExtension uncached => by
    obtain ⟨answer, after, result, decides⟩ := isFocused_list list found isExtension uncached
    refine ⟨depth, answer, after, result, decides.trans ?_⟩
    constructor
    · rintro ⟨mem, -⟩
      have filled : callerList.reverse ≠ [] := by
        rw [ne_eq, reverse_eq_nil_iff]
        rintro rfl
        cases mem
      exact ⟨callerList.reverse, (callerList_chain list _).mpr
        ⟨filled, (reverse_reverse callerList).symm⟩, mem_reverse.mpr mem⟩
    · rintro ⟨tokens, chain, mem⟩
      rw [((callerList_chain list tokens).mp chain).2]
      exact ⟨mem_reverse.mpr mem, callerChain_known chain focusToken mem⟩

end

theorem furtherCaller_live {caller : CallerRecord}
    (further : furtherCaller abilities record = some caller) :
    caller ∈ KeyedMap.values abilities := by
  rw [furtherCaller, bind_eq_some_iff] at further
  obtain ⟨⟨token, found⟩, called, goes⟩ := further
  dsimp only at goes
  split at goes
  · cases goes
  · split at goes
    · cases goes
    · cases goes
      exact KeyedMap.mem_values.mpr ⟨token, callerOf_known called⟩

theorem ends_iff_walk (abilities : AbilityTokens) (record : CallerRecord) :
    Ends (furtherCaller abilities) record ↔ NeverReturns (furtherCaller abilities) record :=
  ends_iff_neverReturns (finite_toSet (KeyedMap.values abilities)) fun _ _ => furtherCaller_live

theorem DecidesByRoot.neverReturns (decides : DecidesByRoot abilities record) :
    NeverReturns (furtherCaller abilities) record := by
  obtain ⟨depth, callerList, list, -⟩ := decides.list
  rw [<- ends_iff_walk]
  refine ⟨depth, (getCallerTokenList_isSome depth []).mp ?_⟩
  rw [list]
  rfl

/-- The callers are listed with the true root exactly when the walk does not come back. -/
theorem decidesByRoot_iff (abilities : AbilityTokens) (record : CallerRecord) :
    DecidesByRoot abilities record ↔ NeverReturns (furtherCaller abilities) record := by
  constructor
  · exact DecidesByRoot.neverReturns
  · intro never
    obtain ⟨depth, ended⟩ := (ends_iff_walk abilities record).mpr never
    obtain ⟨callerList, list⟩ :=
      Option.isSome_iff_exists.mp ((getCallerTokenList_isSome depth []).mpr ended)
    exact decidesByRoot_of_list list

def mutualCallers : AbilityTokens :=
  ((∅ : AbilityTokens).insert 1 ⟨1, some (some 2), true⟩).insert 2 ⟨2, some (some 1), true⟩

theorem mutualCallers_endless : ¬ DecidesByRoot mutualCallers ⟨1, some (some 2), true⟩ :=
  fun decides => decides.neverReturns 0 2 _ (by decide) rfl (by decide)

end AbilityRuntime.UIExtension
