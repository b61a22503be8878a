import AbilityRuntime.AgentCards.AgentCardMgr

set_option autoImplicit false

namespace AbilityRuntime.AgentCards

open Library CardStore KeyedMap Option List AList

inductive CardCall where
  | handleBundleInstall (bundleName : String) (userId : Int)
  | handleBundleInfo (bundleName : String) (bundleInfo : BundleInfo) (userId : Int)
  | handleBundleUpdate (bundleName : String) (userId : Int)
  | handleBundleRemove (bundleName : String) (userId : Int)
  | registerAgentCard (card : AgentCard)
  | updateAgentCard (card : AgentCard)
  | deleteAgentCard (bundleName agentId : String)

structure CardStep where
  call : CardCall
  around : Surroundings

def bundleNameOf (card : AgentCard) : String := (card.appInfo.getD {}).bundleName

namespace CardStep

variable (text : JsonText) (step : CardStep)

def key : CardKey :=
  match step.call with
  | .handleBundleInstall bundleName userId => (bundleName, userId)
  | .handleBundleInfo bundleName _ userId => (bundleName, userId)
  | .handleBundleUpdate bundleName userId => (bundleName, userId)
  | .handleBundleRemove bundleName userId => (bundleName, userId)
  | .registerAgentCard card => (bundleNameOf card, step.around.userId)
  | .updateAgentCard card => (bundleNameOf card, step.around.userId)
  | .deleteAgentCard bundleName _ => (bundleName, step.around.userId)

def perform (store : CardStore) : Except ErrCode CardStore :=
  match step.call with
  | .handleBundleInstall bundleName userId =>
    handleBundleInstall text step.around store bundleName userId
  | .handleBundleInfo bundleName bundleInfo userId =>
    handleBundleInfo text step.around store bundleName bundleInfo userId
  | .handleBundleUpdate bundleName userId =>
    handleBundleUpdate text step.around store bundleName userId
  | .handleBundleRemove bundleName userId => handleBundleRemove step.around store bundleName userId
  | .registerAgentCard card => registerAgentCard step.around store card
  | .updateAgentCard card => updateAgentCard step.around store card
  | .deleteAgentCard bundleName agentId => deleteAgentCard step.around store bundleName agentId

def bundleInfo : Option BundleInfo :=
  match step.call with
  | .handleBundleInstall bundleName userId =>
    (installedBundleInfo step.around bundleName userId).toOption
  | .handleBundleInfo _ bundleInfo _ => some bundleInfo
  | .handleBundleUpdate bundleName userId =>
    (installedBundleInfo step.around bundleName userId).toOption
  | _ => none

def incoming : Option IncomingCardMap :=
  step.bundleInfo.bind fun bundleInfo =>
    (incomingCardMap text step.around step.key.1 bundleInfo).toOption

def written : List AgentCard :=
  match step.call with
  | .registerAgentCard card => [card]
  | .updateAgentCard card => [card]
  | _ => (step.incoming text).elim [] values

def forSystemApp : Bool :=
  match step.call with
  | .registerAgentCard card | .updateAgentCard card =>
    (getBundleInfo step.around (bundleNameOf card) GET_AGENT_APPLICATION_BUNDLE_INFO_FLAGS
      step.around.userId).toOption.any (·.applicationInfo.isSystemApp)
  | _ => step.bundleInfo.any (·.applicationInfo.isSystemApp)

def Writes (store : CardStore) (key : CardKey) (agentId : String) : Prop :=
  step.key = key ∧ (∃ after, step.perform text store = .ok after) ∧
    ∃ card ∈ step.written text, card.agentId = agentId

end CardStep

def entriesOf (store : CardStore) (key : CardKey) : List StoredAgentCardEntry :=
  (store.lookup key).getD []

def DistinctIds (entries : List StoredAgentCardEntry) : Prop :=
  (entries.map (·.card.agentId)).Nodup

def afterInstall (cards : IncomingCardMap) (entry : StoredAgentCardEntry) : StoredAgentCardEntry :=
  match cards.lookup entry.card.agentId with
  | none => entry
  | some incoming =>
    if compareSemVer incoming.version entry.card.version = .greater then
      { card := incoming, updateSource := .bundle }
    else { entry with card := { entry.card with type := incoming.type } }

/-! ### The cards of the profiles -/

section Profiles

variable (text : JsonText) (around : Surroundings) {bundleName : String} {bundleInfo : BundleInfo}

theorem foldlM_kept {State Item : Type} {step : State -> Item -> Except ErrCode State}
    (holds : State -> Prop)
    (kept : ∀ state item after, holds state -> step state item = .ok after -> holds after)
    (items : List Item) {state after : State} (before : holds state)
    (folded : items.foldlM step state = .ok after) : holds after := by
  induction items generalizing state with
  | nil =>
    cases folded
    exact before
  | cons item rest ih =>
    rw [foldlM_cons, bind_eq_ok] at folded
    obtain ⟨middle, first, later⟩ := folded
    exact ih (kept state item middle before first) later

def Allowed (bundleInfo : BundleInfo) (cards : IncomingCardMap) : Prop :=
  ∀ id card, cards.lookup id = some card -> card.agentId = id ∧
    (card.type = .lowCode -> bundleInfo.applicationInfo.isSystemApp = true)

variable {text around}

variable {extensionInfo : ExtensionAbilityInfo}

theorem incomingCard_lowCode {cardStr : Json} {card : AgentCard}
    (incoming : incomingCard text around bundleName bundleInfo extensionInfo cardStr = some card)
    (lowCode : card.type = .lowCode) : bundleInfo.applicationInfo.isSystemApp = true := by
  rw [incomingCard, bind_eq_bind, bind_eq_some_iff] at incoming
  obtain ⟨parsed, _, made⟩ := incoming
  rw [bind_eq_bind, bind_eq_some_iff] at made
  obtain ⟨_, checked, result⟩ := made
  have allowed := (guard_eq_some' ..).mp checked
  have same : parsed.type = card.type := by
    rw [<- Option.some.inj result, applyDeviceTypes]
  rw [same] at allowed
  simpa [lowCode] using allowed

theorem Allowed.addIncomingCard {cards : IncomingCardMap} (allowed : Allowed bundleInfo cards)
    (extensionInfo : ExtensionAbilityInfo) (cardStr : Json) :
    Allowed bundleInfo
      (addIncomingCard text around bundleName bundleInfo extensionInfo cards cardStr) := by
  unfold AgentCards.addIncomingCard
  split
  · exact allowed
  · split
    · exact allowed
    next card made =>
      intro id held found
      rw [lookup_insert_eq] at found
      split at found
      next same =>
        cases found
        exact ⟨same.symm, incomingCard_lowCode made⟩
      · exact allowed id held found

theorem Allowed.addProfile {cards after : IncomingCardMap} (allowed : Allowed bundleInfo cards)
    {profileInfo : String}
    (added : addProfile text around bundleName bundleInfo extensionInfo cards profileInfo =
      .ok after) : Allowed bundleInfo after := by
  unfold AgentCards.addProfile at added
  split at added
  · cases added
    exact allowed
  · split at added
    · cases added
    next agentCards _ =>
      cases added
      exact foldlRecOn (documentItems agentCards) _ allowed
        fun _ before cardStr _ => before.addIncomingCard extensionInfo cardStr

theorem Allowed.addExtension {cards after : IncomingCardMap} (allowed : Allowed bundleInfo cards)
    (added : addExtension text around bundleName bundleInfo cards extensionInfo = .ok after) :
    Allowed bundleInfo after := by
  unfold AgentCards.addExtension at added
  split at added
  · cases added
    exact allowed
  · split at added
    · cases added
      exact allowed
    · exact foldlM_kept _ (fun _ _ _ before => before.addProfile) _ allowed added

theorem allowed_incomingCardMap {cards : IncomingCardMap}
    (made : incomingCardMap text around bundleName bundleInfo = .ok cards) :
    Allowed bundleInfo cards := by
  refine foldlM_kept _ (fun _ _ _ before => before.addExtension) _ ?_ made
  intro id card found
  simp at found

end Profiles

/-! ### Cards that meet stored ones -/

section Merge

variable {cards : IncomingCardMap} {bundleInfo : BundleInfo}

def installedOver (cards : IncomingCardMap) (entry : StoredAgentCardEntry) :
    StoredAgentCardEntry :=
  ((cards.lookup entry.card.agentId).map (installEntry · entry)).getD entry

def freshEntries (around : Surroundings) (stored : List StoredAgentCardEntry)
    (cards : IncomingCardMap) : List StoredAgentCardEntry :=
  ((around.hashOrder.arrange (values cards)).filter fun card =>
    ∀ entry ∈ stored, entry.card.agentId ≠ card.agentId).map
      fun card => { card, updateSource := .bundle }

variable {stored : List StoredAgentCardEntry}

theorem modify_first (distinct : DistinctIds stored) {agentId : String} {index : Nat}
    (first : stored.findIdx? (·.card.agentId = agentId) = some index)
    (change view : StoredAgentCardEntry -> StoredAgentCardEntry)
    (extra : List StoredAgentCardEntry) :
    (stored.map view ++ extra).modify index change =
      stored.map (fun entry =>
        if entry.card.agentId = agentId then change (view entry) else view entry) ++ extra := by
  induction stored generalizing index with
  | nil => simp at first
  | cons head rest ih =>
    rw [DistinctIds, map_cons, nodup_cons] at distinct
    rw [findIdx?_cons] at first
    by_cases here : head.card.agentId = agentId
    · have others : rest.map (fun entry =>
          if entry.card.agentId = agentId then change (view entry) else view entry) =
          rest.map view := by
        refine map_congr_left fun entry mem => if_neg fun same => ?_
        exact distinct.1 (mem_map.mpr ⟨entry, mem, same.trans here.symm⟩)
      have zero : index = 0 := by simpa [here] using first.symm
      rw [zero, map_cons, map_cons, others, if_pos here]
      rfl
    · simp only [here, decide_false, Bool.false_eq_true, if_false, map_eq_some_iff] at first
      obtain ⟨later, found, rfl⟩ := first
      simp [ih distinct.2 found, here]

theorem mergeCards_from (distinct : DistinctIds stored) (incoming : List AgentCard)
    (distinctIncoming : (incoming.map (·.agentId)).Nodup)
    (view : StoredAgentCardEntry -> StoredAgentCardEntry) (extra : List StoredAgentCardEntry) :
    incoming.foldl (mergeCard stored) (stored.map view ++ extra) =
      stored.map (fun entry =>
        ((incoming.find? (·.agentId = entry.card.agentId)).map (installEntry · (view entry))).getD
          (view entry)) ++
      (extra ++
        (incoming.filter fun card => ∀ entry ∈ stored, entry.card.agentId ≠ card.agentId).map
          fun card => { card, updateSource := .bundle }) := by
  induction incoming generalizing view extra with
  | nil => simp
  | cons card rest ih =>
    rw [map_cons, nodup_cons] at distinctIncoming
    rw [foldl_cons, mergeCard]
    cases first : stored.findIdx? (·.card.agentId = card.agentId) with
    | none =>
      have absent : ∀ entry ∈ stored, entry.card.agentId ≠ card.agentId := by
        simpa [findIdx?_eq_none_iff] using first
      rw [append_assoc, ih distinctIncoming.2, filter_cons_of_pos (by simpa using absent)]
      congr 1
      · refine map_congr_left fun entry mem => ?_
        rw [find?_cons_of_neg (by simpa using (absent entry mem).symm)]
      · simp
    | some index =>
      obtain ⟨entry, mem, same⟩ : ∃ entry ∈ stored, entry.card.agentId = card.agentId := by
        obtain ⟨bound, holds, _⟩ := findIdx?_eq_some_iff_getElem.mp first
        exact ⟨stored[index], getElem_mem bound, by simpa using holds⟩
      have present : ¬∀ entry ∈ stored, entry.card.agentId ≠ card.agentId :=
        fun absent => absent entry mem same
      simp only [modify_first distinct first]
      rw [ih distinctIncoming.2, filter_cons_of_neg (by simpa using present)]
      congr 1
      refine map_congr_left fun entry _ => ?_
      by_cases same : entry.card.agentId = card.agentId
      · have later : rest.find? (·.agentId = entry.card.agentId) = none := by
          refine find?_eq_none.mpr fun other held equal => distinctIncoming.1 ?_
          exact mem_map.mpr ⟨other, held, (of_decide_eq_true equal).trans same⟩
        rw [later, find?_cons_of_pos (by simp [same])]
        simp [same]
      · rw [find?_cons_of_neg (by simpa using Ne.symm same)]
        simp [same]

section

variable (allowed : Allowed bundleInfo cards)
include allowed

theorem Allowed.mem_arranged {around : Surroundings}
    {card : AgentCard} : card ∈ around.hashOrder.arrange (values cards) ↔
      cards.lookup card.agentId = some card := by
  rw [(around.hashOrder.perm _).mem_iff, mem_values]
  constructor
  · rintro ⟨id, found⟩
    rwa [(allowed id card found).1]
  · exact fun found => ⟨_, found⟩

theorem Allowed.ids_nodup (around : Surroundings) :
    ((around.hashOrder.arrange (values cards)).map (·.agentId)).Nodup := by
  have keys : (values cards).map (·.agentId) = cards.keys := by
    rw [values, List.map_map, AList.keys, List.keys]
    refine map_congr_left fun entry mem => ?_
    exact (allowed entry.1 entry.2 (mem_lookup_iff.mpr mem)).1
  rw [((around.hashOrder.perm _).map _).nodup_iff, keys]
  exact cards.keys_nodup

theorem Allowed.find?_arranged (around : Surroundings)
    (id : String) : (around.hashOrder.arrange (values cards)).find? (·.agentId = id) =
      cards.lookup id := by
  cases found : (around.hashOrder.arrange (values cards)).find? (·.agentId = id) with
  | some card =>
    have same : card.agentId = id := of_decide_eq_true (find?_some found :)
    rw [<- same, allowed.mem_arranged.mp (mem_of_find?_eq_some found)]
  | none =>
    cases held : cards.lookup id with
    | none => rfl
    | some card =>
      have same := (allowed id card held).1
      have mem : card ∈ around.hashOrder.arrange (values cards) :=
        allowed.mem_arranged.mpr (same ▸ held)
      exact absurd (decide_eq_true same) (find?_eq_none.mp found card mem)

theorem mergeCards_eq (around : Surroundings) (distinct : DistinctIds stored) :
    mergeCards stored (around.hashOrder.arrange (values cards)) =
      stored.map (installedOver cards) ++ freshEntries around stored cards := by
  have merged := mergeCards_from distinct _ (allowed.ids_nodup around) id []
  rw [List.map_id, append_nil, nil_append] at merged
  rw [mergeCards, merged, freshEntries]
  congr 1
  refine map_congr_left fun entry _ => ?_
  rw [installedOver, allowed.find?_arranged]
  rfl

theorem Allowed.installedOver_agentId (entry : StoredAgentCardEntry) :
    (installedOver cards entry).card.agentId = entry.card.agentId := by
  unfold installedOver
  cases found : cards.lookup entry.card.agentId with
  | none => rfl
  | some card =>
    rw [map_some, getD_some, installEntry]
    split
    · rfl
    · exact (allowed _ card found).1

theorem Allowed.mergeCards_distinct (around : Surroundings) (distinct : DistinctIds stored) :
    DistinctIds (mergeCards stored (around.hashOrder.arrange (values cards))) := by
  have ids : (stored.map (installedOver cards)).map (·.card.agentId) =
      stored.map (·.card.agentId) := by
    rw [List.map_map]
    exact map_congr_left fun entry _ => allowed.installedOver_agentId entry
  rw [DistinctIds, mergeCards_eq allowed around distinct, map_append, ids, nodup_append]
  refine ⟨distinct, ?_, ?_⟩
  · rw [freshEntries, List.map_map]
    exact (allowed.ids_nodup around).sublist (filter_sublist.map _)
  · rintro _ held _ fresh rfl
    obtain ⟨entry, mem, same⟩ := mem_map.mp held
    simp only [freshEntries, List.mem_map, mem_filter, decide_eq_true_eq] at fresh
    obtain ⟨_, ⟨card, ⟨_, absent⟩, rfl⟩, equal⟩ := fresh
    exact absent entry mem (same.trans equal.symm)

end

end Merge

/-! ### Versions and types of what is installed -/

section Installed

variable {incoming : AgentCard} {entry : StoredAgentCardEntry}

theorem compareSemVer_valid {left right : String} (compared : compareSemVer left right ≠ .invalid) :
    isValidSemVer left = true ∧ isValidSemVer right = true := by
  unfold compareSemVer at compared
  unfold isValidSemVer
  split at compared
  next parsedLeft parsedRight => simp [parsedLeft, parsedRight]
  · exact absurd rfl compared

theorem installEntry_version (valid : isValidSemVer entry.card.version) :
    NotOlder (installEntry incoming entry).card.version entry.card.version := by
  unfold installEntry
  split
  · exact .refl valid
  next taken =>
    unfold shouldKeepStoredBundleEntry shouldKeepStoredCard at taken
    have validIncoming : isValidSemVer incoming.version = true := by
      by_contra invalid
      simp [invalid] at taken
    refine ⟨validIncoming, valid, fun less => taken ?_⟩
    simp [less]

theorem installEntry_api (source : entry.updateSource = .api) :
    installEntry incoming entry =
      if compareSemVer incoming.version entry.card.version = .greater then
        { card := incoming, updateSource := .bundle }
      else { entry with card := { entry.card with type := incoming.type } } := by
  unfold installEntry shouldKeepStoredBundleEntry shouldKeepStoredCard
  cases compared : compareSemVer incoming.version entry.card.version with
  | less | invalid => simp
  | equal | greater =>
    obtain ⟨validIncoming, valid⟩ := compareSemVer_valid (by rw [compared]; simp)
    simp [source, validIncoming, valid]

theorem installEntry_type : (installEntry incoming entry).card.type = incoming.type := by
  unfold installEntry
  split <;> rfl

theorem installedOver_api (cards : IncomingCardMap) (source : entry.updateSource = .api) :
    installedOver cards entry = afterInstall cards entry := by
  unfold installedOver afterInstall
  cases cards.lookup entry.card.agentId with
  | none => rfl
  | some card => exact installEntry_api source

end Installed

/-! ### What a call makes of the entries -/

section Effects

variable {text : JsonText} {store after : CardStore} {around : Surroundings} {key : CardKey}

def Replaces (store : CardStore) (key : CardKey) (entries : List StoredAgentCardEntry)
    (after : CardStore) : Prop :=
  entriesOf after key = entries ∧ ∀ other, other ≠ key -> after.lookup other = store.lookup other

variable {entries : List StoredAgentCardEntry}

theorem replaces_insertData (inserted : store.insertData around key entries = .ok after) :
    Replaces store key entries after := by
  unfold insertData at inserted
  split at inserted
  · cases inserted
  · cases inserted
    constructor
    · simp [entriesOf]
    · exact fun other ne => lookup_insert_ne ne

theorem replaces_deleteData (deleted : store.deleteData around key = .ok after) :
    Replaces store key [] after := by
  unfold deleteData at deleted
  split at deleted
  · cases deleted
  · cases deleted
    constructor
    · simp [entriesOf]
    · exact fun other ne => lookup_erase_ne ne

theorem queryData_eq_ok
    (found : store.queryData around key = .ok entries) : entriesOf store key = entries := by
  unfold queryData at found
  split at found
  · cases found
  · split at found
    · cases found
    next held =>
      cases found
      rw [entriesOf, held, getD_some]

theorem queryDataOrNone_eq_ok
    (found : store.queryDataOrNone around key = .ok entries) : entriesOf store key = entries := by
  unfold queryDataOrNone at found
  split at found
  next missing =>
    cases found
    unfold queryData at missing
    split at missing
    · cases missing
    · split at missing
      next absent => rw [entriesOf, absent, getD_none]
      · cases missing
  · exact queryData_eq_ok found

theorem queryCards_eq_ok
    (found : store.queryCards around key = .ok entries) : entriesOf store key = entries := by
  unfold queryCards at found
  split at found
  · cases found
  · exact queryData_eq_ok found

inductive Effect (text : JsonText) (step : CardStep) (stored : List StoredAgentCardEntry) :
    List StoredAgentCardEntry -> Prop where
  | installed {bundleInfo : BundleInfo} {cards : IncomingCardMap}
      (info : step.bundleInfo = some bundleInfo) (incoming : step.incoming text = some cards)
      (written : step.written text = values cards)
      (system : step.forSystemApp = bundleInfo.applicationInfo.isSystemApp) :
      Effect text step stored (mergeCards stored (step.around.hashOrder.arrange (values cards)))
  | removed (written : step.written text = []) (incoming : step.incoming text = none) :
      Effect text step stored []
  | registered {card : AgentCard} (call : step.call = .registerAgentCard card)
      (fresh : ∀ item ∈ stored, item.card.agentId ≠ card.agentId)
      (system : card.type = .lowCode -> step.forSystemApp = true) :
      Effect text step stored (stored ++ [{ card, updateSource := .api }])
  | updated {card : AgentCard} {it : StoredAgentCardEntry}
      (call : step.call = .updateAgentCard card)
      (found : stored.find? (·.card.agentId = card.agentId) = some it)
      (newer : isValidSemVer it.card.version -> NotOlder card.version it.card.version)
      (system : card.type = .lowCode -> step.forSystemApp = true) :
      Effect text step stored (stored.set (stored.findIdx (·.card.agentId = card.agentId))
        { card, updateSource := .api })
  | deleted (written : step.written text = []) (incoming : step.incoming text = none)
      (agentId : String) :
      Effect text step stored (stored.filter (·.card.agentId ≠ agentId))

variable {card : AgentCard}

theorem validateSystemAppRequirement_lowCode {userId : Int}
    (passed : validateSystemAppRequirement around card userId = .ok ())
    (lowCode : card.type = .lowCode) (named : bundleNameOf card ≠ "") :
    (getBundleInfo around (bundleNameOf card) GET_AGENT_APPLICATION_BUNDLE_INFO_FLAGS
      userId).toOption.any (·.applicationInfo.isSystemApp) = true := by
  unfold validateSystemAppRequirement at passed
  unfold bundleNameOf at named ⊢
  split at passed
  next missing => simp [missing] at named
  next appInfo held =>
    simp only [held, getD_some] at named ⊢
    rw [if_neg (by simp [lowCode, named]), bind_eq_ok] at passed
    obtain ⟨bundleInfo, answered, checked⟩ := passed
    rw [answered]
    exact require_eq_ok.mp checked

theorem handleBundleInfo_effect {step : CardStep} {bundleName : String} {bundleInfo : BundleInfo}
    {userId : Int} (info : step.bundleInfo = some bundleInfo)
    (on : step.key = (bundleName, userId))
    (written : step.written text = (step.incoming text).elim [] values)
    (system : step.forSystemApp = step.bundleInfo.any (·.applicationInfo.isSystemApp))
    (handled : handleBundleInfo text step.around store bundleName bundleInfo userId = .ok after) :
    ∃ entries, Effect text step (entriesOf store step.key) entries ∧
      Replaces store step.key entries after := by
  unfold handleBundleInfo at handled
  simp only [bind_eq_ok] at handled
  obtain ⟨cards, made, stored, queried, inserted⟩ := handled
  have incoming : step.incoming text = some cards := by
    rw [CardStep.incoming, info, bind_some, on, made]
    rfl
  rw [incoming] at written
  rw [info] at system
  rw [on]
  refine ⟨_, ?_, replaces_insertData inserted⟩
  rw [queryDataOrNone_eq_ok queried]
  exact .installed info incoming written system

theorem handleBundleInstall_effect {step : CardStep} {bundleName : String} {userId : Int}
    (info : step.bundleInfo = (installedBundleInfo step.around bundleName userId).toOption)
    (on : step.key = (bundleName, userId))
    (written : step.written text = (step.incoming text).elim [] values)
    (system : step.forSystemApp = step.bundleInfo.any (·.applicationInfo.isSystemApp))
    (handled : handleBundleInstall text step.around store bundleName userId = .ok after) :
    ∃ entries, Effect text step (entriesOf store step.key) entries ∧
      Replaces store step.key entries after := by
  unfold handleBundleInstall at handled
  simp only [bind_eq_ok] at handled
  obtain ⟨_, _, bundleInfo, answered, handled⟩ := handled
  rw [answered] at info
  exact handleBundleInfo_effect info on written system handled

theorem registerAgentCard_effect (registered : registerAgentCard around store card = .ok after) :
    ∃ entries, Effect text ⟨.registerAgentCard card, around⟩
        (entriesOf store (bundleNameOf card, around.userId)) entries ∧
      Replaces store (bundleNameOf card, around.userId) entries after := by
  unfold registerAgentCard at registered
  simp only [bind_eq_ok, require_eq_ok] at registered
  obtain ⟨_, _, _, _, _, named, _, validated, entries, queried, _, fresh, _, _, inserted⟩ :=
    registered
  refine ⟨_, ?_, replaces_insertData inserted⟩
  have stored := queryDataOrNone_eq_ok queried
  rw [bundleNameOf, stored]
  refine .registered rfl fresh fun lowCode => ?_
  have checks : shouldValidateAppInfo card = true := by simp [shouldValidateAppInfo, lowCode]
  have filled : bundleNameOf card ≠ "" := fun empty => named ⟨checks, .inl empty⟩
  unfold validateRegisteredAbility at validated
  rw [if_pos (by simp [shouldValidateBundleAbility, checks, lowCode]), bind_eq_ok] at validated
  obtain ⟨_, _, passed⟩ := validated
  exact validateSystemAppRequirement_lowCode passed lowCode filled

theorem checkUpdatedVersion_newer {storedCard : AgentCard} (valid : isValidSemVer card.version)
    (checked : checkUpdatedVersion card storedCard = .ok ())
    (validStored : isValidSemVer storedCard.version) :
    NotOlder card.version storedCard.version := by
  refine ⟨valid, validStored, fun less => ?_⟩
  unfold checkUpdatedVersion at checked
  simp [validStored, less] at checked

theorem updateAgentCard_effect (updated : updateAgentCard around store card = .ok after) :
    ∃ entries, Effect text ⟨.updateAgentCard card, around⟩
        (entriesOf store (bundleNameOf card, around.userId)) entries ∧
      Replaces store (bundleNameOf card, around.userId) entries after := by
  unfold updateAgentCard at updated
  simp only [bind_eq_ok, require_eq_ok] at updated
  obtain ⟨_, ⟨_, _, named, _⟩, _, valid, _, _, entries, queried, it, found, _, _, _, passed, _,
    checked, inserted⟩ := updated
  refine ⟨_, ?_, replaces_insertData inserted⟩
  have stored := queryCards_eq_ok queried
  rw [bundleNameOf, stored]
  exact .updated rfl (orError_eq_ok.mp found) (checkUpdatedVersion_newer valid checked)
    fun lowCode => validateSystemAppRequirement_lowCode passed lowCode named

theorem deleteAgentCard_effect {bundleName agentId : String}
    (deleted : deleteAgentCard around store bundleName agentId = .ok after) :
    ∃ entries, Effect text ⟨.deleteAgentCard bundleName agentId, around⟩
        (entriesOf store (bundleName, around.userId)) entries ∧
      Replaces store (bundleName, around.userId) entries after := by
  unfold deleteAgentCard at deleted
  simp only [bind_eq_ok, require_eq_ok] at deleted
  obtain ⟨_, _, entries, queried, _, _, written⟩ := deleted
  have stored := queryCards_eq_ok queried
  refine ⟨_, .deleted rfl rfl agentId, ?_⟩
  rw [stored]
  split at written
  next empty =>
    rw [empty]
    exact replaces_deleteData written
  · exact replaces_insertData written

theorem perform_effect {step : CardStep} (performed : step.perform text store = .ok after) :
    ∃ entries, Effect text step (entriesOf store step.key) entries ∧
      Replaces store step.key entries after := by
  obtain ⟨call, around⟩ := step
  cases call with
  | handleBundleInstall bundleName userId =>
    exact handleBundleInstall_effect rfl rfl rfl rfl performed
  | handleBundleInfo bundleName bundleInfo userId =>
    exact handleBundleInfo_effect rfl rfl rfl rfl performed
  | handleBundleUpdate bundleName userId =>
    exact handleBundleInstall_effect rfl rfl rfl rfl performed
  | handleBundleRemove bundleName userId =>
    have removed : handleBundleRemove around store bundleName userId = .ok after := performed
    rw [handleBundleRemove, bind_eq_ok] at removed
    obtain ⟨_, _, deleted⟩ := removed
    exact ⟨_, .removed rfl rfl, replaces_deleteData deleted⟩
  | registerAgentCard card => exact registerAgentCard_effect performed
  | updateAgentCard card => exact updateAgentCard_effect performed
  | deleteAgentCard bundleName agentId => exact deleteAgentCard_effect performed

end Effects

end AbilityRuntime.AgentCards
