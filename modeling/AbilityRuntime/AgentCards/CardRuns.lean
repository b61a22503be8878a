import AbilityRuntime.AgentCards.CardEffects
import AbilityRuntime.AgentCards.CardTexts
import Std.Data.String.ToNat

set_option autoImplicit false

namespace AbilityRuntime.AgentCards

open Library List CardStep KeyedMap Machine CardStore Nat

def cardMachine (text : JsonText) : Machine CardStore CardStep where
  start := ∅
  step store step :=
    match step.perform text store with
    | .ok after => after
    | .error _ => store

structure KeepsCards (text : JsonText) (calls : List CardStep) : Prop where
  distinct : (cardMachine text).Throughout calls fun store =>
    ∀ key, DistinctIds (entriesOf store key)
  others : (cardMachine text).EveryStep calls fun store step =>
    ∀ key, key ≠ step.key -> ((cardMachine text).step store step).lookup key = store.lookup key
  versions : ∀ done between rest, calls = done ++ between ++ rest -> ∀ key agentId,
    (∀ first last, between = first ++ last ->
      ∃ entry ∈ entriesOf ((cardMachine text).run (done ++ first)) key,
        entry.card.agentId = agentId) ->
    ∀ entry ∈ entriesOf ((cardMachine text).run done) key,
    ∀ later ∈ entriesOf ((cardMachine text).run (done ++ between)) key,
      entry.card.agentId = agentId -> later.card.agentId = agentId ->
      isValidSemVer entry.card.version -> NotOlder later.card.version entry.card.version
  replaced : (cardMachine text).EveryStep calls fun store step =>
    ∀ cards after, step.incoming text = some cards -> step.perform text store = .ok after ->
      ∀ entry ∈ entriesOf store step.key, entry.updateSource = .api ->
        afterInstall cards entry ∈ entriesOf after step.key
  lowCode : ∀ done rest, calls = done ++ rest -> ∀ key,
    ∀ entry ∈ entriesOf ((cardMachine text).run done) key, entry.card.type = .lowCode ->
      ∃ before step after, done = before ++ step :: after ∧
        step.Writes text ((cardMachine text).run before) key entry.card.agentId ∧
        step.forSystemApp = true ∧
        ∀ first next last, after = first ++ next :: last ->
          ¬next.Writes text ((cardMachine text).run (before ++ step :: first)) key
            entry.card.agentId

/-! ### What holds of the entries after a call -/

section Entries

variable {text : JsonText} {step : CardStep} {stored entries : List StoredAgentCardEntry}
  {entry later : StoredAgentCardEntry}

theorem DistinctIds.eq_of_agentId (distinct : DistinctIds stored) (member : entry ∈ stored)
    (other : later ∈ stored) (same : later.card.agentId = entry.card.agentId) : later = entry :=
  inj_on_of_nodup_map distinct other member same

theorem set_first (distinct : DistinctIds stored) (agentId : String)
    (held : ∃ entry ∈ stored, entry.card.agentId = agentId) (new : StoredAgentCardEntry) :
    stored.set (stored.findIdx (·.card.agentId = agentId)) new =
      stored.map fun entry => if entry.card.agentId = agentId then new else entry := by
  induction stored with
  | nil => rfl
  | cons head rest ih =>
    rw [DistinctIds, map_cons, nodup_cons] at distinct
    rw [findIdx_cons, map_cons]
    by_cases here : head.card.agentId = agentId
    · have others : rest.map (fun entry => if entry.card.agentId = agentId then new else entry) =
          rest := by
        refine (map_congr_left fun entry member => if_neg fun same => ?_).trans (map_id _)
        exact distinct.1 (mem_map.mpr ⟨entry, member, same.trans here.symm⟩)
      simp [here, others]
    · obtain ⟨entry, member, same⟩ := held
      have later : ∃ entry ∈ rest, entry.card.agentId = agentId := by
        obtain rfl | inside := mem_cons.mp member
        exacts [absurd same here, ⟨entry, inside, same⟩]
      simp [here, ih distinct.2 later]

theorem incoming_allowed {bundleInfo : BundleInfo} {cards : IncomingCardMap}
    (info : step.bundleInfo = some bundleInfo) (incoming : step.incoming text = some cards) :
    Allowed bundleInfo cards := by
  rw [CardStep.incoming, info, Option.bind_some] at incoming
  cases made : incomingCardMap text step.around step.key.1 bundleInfo with
  | error error =>
    rw [made] at incoming
    cases incoming
  | ok held =>
    rw [made] at incoming
    cases incoming
    exact allowed_incomingCardMap made

section

variable (effect : Effect text step stored entries)
include effect

theorem Effect.distinct (distinct : DistinctIds stored) : DistinctIds entries := by
  cases effect with
  | installed info incoming _ _ =>
    exact (incoming_allowed info incoming).mergeCards_distinct step.around distinct
  | removed => exact nodup_nil
  | registered _ fresh _ =>
    rw [DistinctIds, map_append, nodup_append]
    refine ⟨distinct, nodup_singleton _, ?_⟩
    rintro _ held _ new rfl
    obtain ⟨entry, member, same⟩ := mem_map.mp held
    exact fresh entry member (same.trans (mem_singleton.mp new))
  | @updated card it _ found _ _ =>
    have id : it.card.agentId = card.agentId := of_decide_eq_true (find?_some found :)
    rw [DistinctIds, set_first distinct _ ⟨it, mem_of_find?_eq_some found, id⟩, map_map]
    have ids : stored.map ((fun entry => entry.card.agentId) ∘ fun entry =>
        if entry.card.agentId = card.agentId then { card, updateSource := .api } else entry) =
        stored.map (·.card.agentId) := by
      refine map_congr_left fun entry _ => ?_
      by_cases same : entry.card.agentId = card.agentId <;> simp [same]
    rw [ids]
    exact distinct
  | deleted _ _ agentId => exact distinct.sublist (filter_sublist.map _)

theorem Effect.newer (distinct : DistinctIds stored) (member : entry ∈ stored)
    (after : later ∈ entries) (same : later.card.agentId = entry.card.agentId)
    (valid : isValidSemVer entry.card.version) :
    NotOlder later.card.version entry.card.version := by
  have unchanged (kept : later ∈ stored) : NotOlder later.card.version entry.card.version := by
    rw [distinct.eq_of_agentId member kept same]
    exact .refl valid
  cases effect with
  | @installed _ cards info incoming _ _ =>
    have allowed := incoming_allowed info incoming
    rw [mergeCards_eq allowed step.around distinct, mem_append] at after
    obtain installed | fresh := after
    · obtain ⟨before, held, rfl⟩ := mem_map.mp installed
      rw [allowed.installedOver_agentId] at same
      rw [distinct.eq_of_agentId member held same, installedOver]
      cases cards.lookup entry.card.agentId with
      | none => exact .refl valid
      | some card => exact installEntry_version valid
    · simp only [freshEntries, mem_map, mem_filter, decide_eq_true_eq] at fresh
      obtain ⟨card, ⟨_, absent⟩, rfl⟩ := fresh
      exact absurd same.symm (absent entry member)
  | removed => cases after
  | registered _ fresh _ =>
    obtain kept | new := mem_append.mp after
    · exact unchanged kept
    · rw [mem_singleton.mp new] at same
      exact absurd same.symm (fresh entry member)
  | @updated card it _ found newer _ =>
    obtain kept | rfl := mem_or_eq_of_mem_set after
    · exact unchanged kept
    · have id : it.card.agentId = card.agentId := of_decide_eq_true (find?_some found :)
      have here := distinct.eq_of_agentId member (mem_of_find?_eq_some found) (id.trans same)
      rw [here] at newer
      exact newer valid
  | deleted => exact unchanged (mem_of_mem_filter after)

theorem Effect.replaced (distinct : DistinctIds stored) {cards : IncomingCardMap}
    (found : step.incoming text = some cards) (member : entry ∈ stored)
    (source : entry.updateSource = .api) : afterInstall cards entry ∈ entries := by
  cases effect with
  | installed info incoming _ _ =>
    have allowed := incoming_allowed info incoming
    rw [incoming] at found
    cases found
    rw [mergeCards_eq allowed step.around distinct, mem_append]
    exact .inl (mem_map.mpr ⟨entry, member, installedOver_api cards source⟩)
  | removed _ incoming => simp [incoming] at found
  | registered call _ _ => simp [incoming, bundleInfo, call] at found
  | updated call _ _ _ => simp [incoming, bundleInfo, call] at found
  | deleted _ incoming _ => simp [incoming] at found

theorem Effect.written_or_kept (distinct : DistinctIds stored) (after : later ∈ entries) :
    (∃ card ∈ step.written text, card.agentId = later.card.agentId ∧ card.type = later.card.type) ∨
    later ∈ stored ∧ ∀ card ∈ step.written text, card.agentId ≠ later.card.agentId := by
  cases effect with
  | @installed _ cards info incoming written _ =>
    have allowed := incoming_allowed info incoming
    rw [written]
    rw [mergeCards_eq allowed step.around distinct, mem_append] at after
    obtain installed | fresh := after
    · obtain ⟨entry, member, rfl⟩ := mem_map.mp installed
      rw [allowed.installedOver_agentId, installedOver]
      cases found : cards.lookup entry.card.agentId with
      | none =>
        refine .inr ⟨member, fun card held same => ?_⟩
        obtain ⟨id, heldAt⟩ := mem_values.mp held
        rw [<- same, (allowed id card heldAt).1, heldAt] at found
        cases found
      | some card =>
        exact .inl ⟨card, mem_values.mpr ⟨_, found⟩, (allowed _ card found).1,
          installEntry_type.symm⟩
    · simp only [freshEntries, mem_map, mem_filter, decide_eq_true_eq] at fresh
      obtain ⟨card, ⟨arranged, _⟩, rfl⟩ := fresh
      exact .inl ⟨card, mem_values.mpr ⟨_, allowed.mem_arranged.mp arranged⟩, rfl, rfl⟩
  | removed => cases after
  | @registered card call fresh _ =>
    simp only [written, call, mem_singleton, exists_eq_left, forall_eq]
    obtain kept | new := mem_append.mp after
    · exact .inr ⟨kept, (fresh later kept).symm⟩
    · rw [mem_singleton.mp new]
      exact .inl ⟨rfl, rfl⟩
  | @updated card it call found _ _ =>
    have id : it.card.agentId = card.agentId := of_decide_eq_true (find?_some found :)
    simp only [written, call, mem_singleton, exists_eq_left, forall_eq]
    rw [set_first distinct _ ⟨it, mem_of_find?_eq_some found, id⟩] at after
    obtain ⟨before, held, rfl⟩ := mem_map.mp after
    by_cases same : before.card.agentId = card.agentId
    · exact .inl (by simp [same])
    · exact .inr (by simpa [same] using ⟨held, Ne.symm same⟩)
  | deleted written => exact .inr ⟨mem_of_mem_filter after, by simp [written]⟩

theorem Effect.written_lowCode {card : AgentCard} (written : card ∈ step.written text)
    (lowCode : card.type = .lowCode) :
    step.forSystemApp = true := by
  cases effect with
  | installed info incoming values system =>
    rw [values] at written
    obtain ⟨id, found⟩ := mem_values.mp written
    rw [system]
    exact (incoming_allowed info incoming id card found).2 lowCode
  | removed none | deleted none => simp [none] at written
  | registered call _ system | updated call _ _ system =>
    rw [CardStep.written, call, mem_singleton] at written
    exact system (written ▸ lowCode)

end

end Entries

/-! ### Runs -/

section Runs

variable {text : JsonText} {store : CardStore} {step : CardStep} {key : CardKey}
  {entry later : StoredAgentCardEntry}

theorem step_cases (text : JsonText) (store : CardStore) (step : CardStep) :
    (∃ after entries, step.perform text store = .ok after ∧
      (cardMachine text).step store step = after ∧
      Effect text step (entriesOf store step.key) entries ∧
      Replaces store step.key entries after) ∨
    (∀ after, step.perform text store ≠ .ok after) ∧
      (cardMachine text).step store step = store := by
  have advance : (cardMachine text).step store step =
      match step.perform text store with
      | .ok after => after
      | .error _ => store := rfl
  cases performed : step.perform text store with
  | error error =>
    rw [performed] at advance
    exact .inr ⟨fun _ => nofun, advance⟩
  | ok after =>
    rw [performed] at advance
    obtain ⟨entries, effect, replaces⟩ := perform_effect performed
    exact .inl ⟨after, entries, rfl, advance, effect, replaces⟩

theorem step_others (different : key ≠ step.key) :
    ((cardMachine text).step store step).lookup key = store.lookup key := by
  obtain ⟨after, entries, _, advance, _, replaces⟩ | ⟨_, advance⟩ := step_cases text store step
  · rw [advance]
    exact replaces.2 key different
  · rw [advance]

theorem entriesOf_step_ne (different : key ≠ step.key) :
    entriesOf ((cardMachine text).step store step) key = entriesOf store key := by
  rw [entriesOf, entriesOf, step_others different]

theorem step_distinct (distinct : ∀ key, DistinctIds (entriesOf store key)) (step : CardStep)
    (key : CardKey) : DistinctIds (entriesOf ((cardMachine text).step store step) key) := by
  by_cases here : key = step.key
  · obtain ⟨after, entries, _, advance, effect, replaces⟩ | ⟨_, advance⟩ :=
      step_cases text store step
    · rw [advance, here, replaces.1]
      exact effect.distinct (distinct step.key)
    · rw [advance]
      exact distinct key
  · rw [entriesOf_step_ne here]
    exact distinct key

theorem run_distinct (text : JsonText) (calls : List CardStep) :
    ∀ key, DistinctIds (entriesOf ((cardMachine text).run calls) key) := by
  refine run_invariant (fun store => ∀ key, DistinctIds (entriesOf store key))
    (fun key => ?_) (fun store step distinct => step_distinct distinct step) calls
  exact nodup_nil

theorem step_newer (distinct : DistinctIds (entriesOf store key))
    (member : entry ∈ entriesOf store key)
    (after : later ∈ entriesOf ((cardMachine text).step store step) key)
    (same : later.card.agentId = entry.card.agentId) (valid : isValidSemVer entry.card.version) :
    NotOlder later.card.version entry.card.version := by
  have unchanged (kept : later ∈ entriesOf store key) :
      NotOlder later.card.version entry.card.version := by
    rw [distinct.eq_of_agentId member kept same]
    exact .refl valid
  by_cases here : key = step.key
  · subst here
    obtain ⟨_, entries, _, advance, effect, replaces⟩ | ⟨_, advance⟩ := step_cases text store step
    · rw [advance, replaces.1] at after
      exact effect.newer distinct member after same valid
    · rw [advance] at after
      exact unchanged after
  · rw [entriesOf_step_ne here] at after
    exact unchanged after

theorem run_newer (done between : List CardStep) {agentId : String}
    (stays : ∀ first last, between = first ++ last ->
      ∃ entry ∈ entriesOf ((cardMachine text).run (done ++ first)) key,
        entry.card.agentId = agentId)
    (member : entry ∈ entriesOf ((cardMachine text).run done) key)
    (after : later ∈ entriesOf ((cardMachine text).run (done ++ between)) key)
    (id : entry.card.agentId = agentId) (same : later.card.agentId = agentId)
    (valid : isValidSemVer entry.card.version) :
    NotOlder later.card.version entry.card.version := by
  induction between using reverseRecOn generalizing later with
  | nil =>
    rw [append_nil] at after
    rw [(run_distinct text done key).eq_of_agentId member after (same.trans id.symm)]
    exact .refl valid
  | append_singleton between step ih =>
    obtain ⟨middle, held, middleId⟩ := stays between [step] rfl
    have earlier := ih (fun first last split => stays first (last ++ [step]) (by simp [split]))
      held middleId
    rw [<- append_assoc, run_concat] at after
    have next := step_newer (run_distinct text (done ++ between) key) held after
      (same.trans middleId.symm) earlier.1
    exact next.trans earlier

theorem step_writes (distinct : DistinctIds (entriesOf store key))
    (after : later ∈ entriesOf ((cardMachine text).step store step) key)
    (lowCode : later.card.type = .lowCode) :
    step.Writes text store key later.card.agentId ∧ step.forSystemApp = true ∨
      ¬step.Writes text store key later.card.agentId ∧ later ∈ entriesOf store key := by
  by_cases here : key = step.key
  · subst here
    obtain ⟨_, entries, performed, advance, effect, replaces⟩ | ⟨fails, advance⟩ :=
      step_cases text store step
    · rw [advance, replaces.1] at after
      obtain ⟨card, written, id, type⟩ | ⟨kept, others⟩ := effect.written_or_kept distinct after
      · exact .inl ⟨⟨rfl, ⟨_, performed⟩, card, written, id⟩,
          effect.written_lowCode written (type.trans lowCode)⟩
      · exact .inr ⟨fun ⟨_, _, card, written, id⟩ => others card written id, kept⟩
    · rw [advance] at after
      exact .inr ⟨fun ⟨_, ⟨_, performed⟩, _⟩ => fails _ performed, after⟩
  · rw [entriesOf_step_ne here] at after
    exact .inr ⟨fun writes => here writes.1.symm, after⟩

theorem run_lowCode (done : List CardStep)
    (member : entry ∈ entriesOf ((cardMachine text).run done) key)
    (lowCode : entry.card.type = .lowCode) :
    ∃ before step after, done = before ++ step :: after ∧
      step.Writes text ((cardMachine text).run before) key entry.card.agentId ∧
      step.forSystemApp = true ∧
      ∀ first next last, after = first ++ next :: last ->
        ¬next.Writes text ((cardMachine text).run (before ++ step :: first)) key
          entry.card.agentId := by
  induction done using reverseRecOn with
  | nil => cases member
  | append_singleton done step ih =>
    rw [run_concat] at member
    obtain ⟨writes, system⟩ | ⟨passes, kept⟩ := step_writes (run_distinct text done key) member
      lowCode
    · refine ⟨done, step, [], rfl, writes, system, fun first next last split => ?_⟩
      simp at split
    · obtain ⟨before, writer, after, split, writes, system, none⟩ := ih kept
      refine ⟨before, writer, after ++ [step], by simp [split], writes, system, ?_⟩
      intro first next last split'
      obtain rfl | ⟨last, final, rfl⟩ := eq_nil_or_concat last
      · obtain ⟨rfl, equal⟩ := append_inj' split' rfl
        cases equal
        rw [<- split]
        exact passes
      · have whole : after ++ [step] = (first ++ next :: last) ++ [final] := by
          simpa using split'
        exact none first next last (append_inj' whole rfl).1

end Runs

/-- Ids stay distinct, versions grow, a low-code card is a system application's, and a call leaves
the others. -/
theorem cards_kept (text : JsonText) (calls : List CardStep) : KeepsCards text calls where
  distinct := fun done _ _ => run_distinct text done
  others := fun _ _ _ _ _ different => step_others different
  versions := fun done between _ _ _ _ stays _ member _ after id same valid =>
    run_newer done between stays member after id same valid
  replaced := by
    intro done step rest _ cards after incoming performed entry member source
    obtain ⟨entries, effect, replaces⟩ := perform_effect performed
    rw [replaces.1]
    exact effect.replaced (run_distinct text done step.key) incoming member source
  lowCode := fun done _ _ _ _ member lowCode => run_lowCode done member lowCode

/-! ### How many cards are stored -/

section Limit

variable {text : JsonText} {step : CardStep} {store : CardStore} {key : CardKey}
  {around : Surroundings} {stored entries : List StoredAgentCardEntry} {card : AgentCard}

/-- What ParseStoredEntries makes of the entries that were written. -/
def readBack (text : JsonText) (around : Surroundings) (entries : List StoredAgentCardEntry) :
    List StoredAgentCardEntry :=
  entries.filterMap fun entry => parseStoredEntry text around.uninitialized (entryJson entry)

def readStore (text : JsonText) (around : Surroundings) (store : CardStore) : CardStore :=
  mapValues (readBack text around) store

def put (store : CardStore) (key : CardKey) (entries : Option (List StoredAgentCardEntry)) :
    CardStore :=
  entries.elim (store.erase key) (store.insert key)

theorem lookup_put (store : CardStore) (key other : CardKey)
    (entries : Option (List StoredAgentCardEntry)) :
    (put store key entries).lookup other = if other = key then entries else store.lookup other := by
  cases entries with
  | none => exact lookup_erase_eq store key other
  | some entries => exact lookup_insert_eq store key other entries

/-- A call works on what it reads of its own bundle and user, and writes nothing else. -/
def readingMachine (text : JsonText) : Machine CardStore CardStep where
  start := ∅
  step store step :=
    match step.perform text (readStore text step.around store) with
    | .error _ => store
    | .ok after => put store step.key (after.lookup step.key)

def Bounded (store : CardStore) : Prop :=
  ∀ key, (entriesOf store key).length ≤ MAX_AGENT_CARD_SIZE

structure KeepsLimit (text : JsonText) (calls : List CardStep) : Prop where
  bounded : (readingMachine text).Throughout calls Bounded
  refused : (readingMachine text).EveryStep calls fun store step =>
    ∀ card, step.call = .registerAgentCard card ->
      step.perform text (readStore text step.around store) = .error .errAgentCardListOutOfRange ->
        (entriesOf store step.key).length = MAX_AGENT_CARD_SIZE

/-- An installation that succeeds has room for the new agents. -/
def Fits (text : JsonText) (store : CardStore) (step : CardStep) : Prop :=
  ∀ cards after, step.incoming text = some cards ->
    step.perform text (readStore text step.around store) = .ok after ->
      (readBack text step.around (entriesOf store step.key)).length +
        (freshEntries step.around (readBack text step.around (entriesOf store step.key))
          cards).length ≤ MAX_AGENT_CARD_SIZE

theorem entriesOf_readStore (text : JsonText) (around : Surroundings) (store : CardStore)
    (key : CardKey) :
    entriesOf (readStore text around store) key = readBack text around (entriesOf store key) := by
  rw [entriesOf, readStore, lookup_mapValues, entriesOf]
  cases store.lookup key <;> rfl

theorem parseStoredEntry_agentId {entry parsed : StoredAgentCardEntry}
    {uninitialized : AgentCapabilities}
    (read : parseStoredEntry text uninitialized (entryJson entry) = some parsed) :
    parsed.card.agentId = entry.card.agentId := by
  have held : (entryJson entry).member? "card" = some entry.card.toJson := by
    simp [entryJson, Json.member?_ofMembers, lookup_cons]
  rw [parseStoredEntry, held, Option.map_eq_some_iff] at read
  obtain ⟨card, made, rfl⟩ := read
  simp only [AgentCard.fromJson, Option.bind_eq_bind, Option.bind_eq_some_iff] at made
  obtain ⟨agentId, found, rest⟩ := made
  have known : entry.card.toJson.stringMember? "agentId" = some entry.card.agentId := by
    rw [Json.stringMember?, (AgentCard.members_toJson entry.card).1]
    rfl
  rw [filledMember, known, Option.filter_eq_some_iff] at found
  obtain rfl := Option.some.inj found.1
  obtain ⟨_, _, _, _, _, _, _, _, _, _, _, _, _, _, _, _, _, _, last⟩ := rest
  cases last
  rfl

theorem DistinctIds.readBack (distinct : DistinctIds stored) (around : Surroundings) :
    DistinctIds (readBack text around stored) := by
  refine Sublist.nodup ?_ distinct
  induction stored with
  | nil => exact .slnil
  | cons entry rest ih =>
    have later := ih (distinct.sublist (sublist_cons_self ..))
    rw [AgentCards.readBack, filterMap_cons, map_cons]
    cases read : parseStoredEntry text around.uninitialized (entryJson entry) with
    | none => exact later.cons _
    | some parsed =>
      rw [map_cons, parseStoredEntry_agentId read]
      exact later.cons_cons _

theorem readBack_length (text : JsonText) (around : Surroundings) :
    (readBack text around stored).length ≤ stored.length :=
  length_filterMap_le _ _

theorem reading_step {after : CardStore}
    (performed : step.perform text (readStore text step.around store) = .ok after) :
    (readingMachine text).step store step = put store step.key (after.lookup step.key) := by
  dsimp only [readingMachine]
  rw [performed]

theorem reading_cases (text : JsonText) (store : CardStore) (step : CardStep) :
    (∃ after entries, step.perform text (readStore text step.around store) = .ok after ∧
      Effect text step (readBack text step.around (entriesOf store step.key)) entries ∧
      Replaces store step.key entries ((readingMachine text).step store step)) ∨
    (∀ after, step.perform text (readStore text step.around store) ≠ .ok after) ∧
      (readingMachine text).step store step = store := by
  cases performed : step.perform text (readStore text step.around store) with
  | error error =>
    refine .inr ⟨fun _ => nofun, ?_⟩
    dsimp only [readingMachine]
    rw [performed]
  | ok after =>
    obtain ⟨entries, effect, replaces⟩ := perform_effect performed
    rw [entriesOf_readStore] at effect
    have advance := reading_step performed
    refine .inl ⟨after, entries, rfl, effect, ?_, fun other different => ?_⟩
    · rw [<- replaces.1, advance, entriesOf, lookup_put, if_pos rfl, entriesOf]
    · rw [advance, lookup_put, if_neg different]

theorem registerAgentCard_room {after : CardStore}
    (registered : registerAgentCard around store card = .ok after) :
    (entriesOf store (bundleNameOf card, around.userId)).length < MAX_AGENT_CARD_SIZE := by
  unfold registerAgentCard at registered
  simp only [bind_eq_ok, require_eq_ok] at registered
  obtain ⟨_, _, _, _, _, _, _, _, entries, queried, _, _, _, room, _⟩ := registered
  rw [bundleNameOf, queryDataOrNone_eq_ok queried]
  exact room

theorem bind_eq_error {Value Next : Type} {first : Except ErrCode Value}
    {rest : Value -> Except ErrCode Next} {error : ErrCode} :
    (first >>= rest) = .error error ↔
      first = .error error ∨ ∃ value, first = .ok value ∧ rest value = .error error := by
  cases first <;> simp [bind, Except.bind]

theorem require_eq_error {condition : Prop} [Decidable condition] {error other : ErrCode} :
    require condition error = .error other ↔ ¬condition ∧ error = other := by
  unfold require
  split <;> simp_all

theorem validateRegisteredAbility_error {appInfo : AgentAppInfo} :
    validateRegisteredAbility around card appInfo ≠ .error .errAgentCardListOutOfRange := by
  have found {bundleName : String} {flags : List GetBundleInfoFlag} {userId : Int} :
      getBundleInfo around bundleName flags userId ≠ .error .errAgentCardListOutOfRange := by
    unfold getBundleInfo
    repeat' split
    all_goals simp
  have named {extension : Option ExtensionAbilityInfo} :
      orError extension .resolveAbilityErr ≠ .error .errAgentCardListOutOfRange := by
    cases extension <;> simp [orError]
  unfold validateRegisteredAbility validateBundleAbility validateSystemAppRequirement
  repeat' split
  all_goals simp [bind_eq_error, require_eq_error, found, named]

theorem registerAgentCard_refused
    (refused : registerAgentCard around store card = .error .errAgentCardListOutOfRange) :
    MAX_AGENT_CARD_SIZE ≤ (entriesOf store (bundleNameOf card, around.userId)).length := by
  have query {key : CardKey} :
      store.queryDataOrNone around key ≠ .error .errAgentCardListOutOfRange := by
    unfold queryDataOrNone queryData
    repeat' split
    all_goals simp_all
  have insert {key : CardKey} {entries : List StoredAgentCardEntry} :
      store.insertData around key entries ≠ .error .errAgentCardListOutOfRange := by
    unfold insertData
    split <;> simp
  simp only [registerAgentCard, bind_eq_error, require_eq_error, reduceCtorEq, and_false,
    validateRegisteredAbility_error, query, insert, false_or, and_true, exists_false, or_false] at refused
  obtain ⟨_, _, _, _, _, _, _, _, entries, queried, _, _, full⟩ := refused
  rw [bundleNameOf, queryDataOrNone_eq_ok queried]
  exact Nat.le_of_not_lt full

theorem Effect.installed_length (effect : Effect text step stored entries)
    (distinct : DistinctIds stored) {cards : IncomingCardMap}
    (incoming : step.incoming text = some cards) :
    entries.length = stored.length + (freshEntries step.around stored cards).length := by
  cases effect with
  | installed info found _ _ =>
    rw [incoming] at found
    cases found
    simp [mergeCards_eq (incoming_allowed info incoming) step.around distinct]
  | removed _ none | deleted _ none _ => simp [none] at incoming
  | registered call _ _ | updated call _ _ _ =>
    simp [CardStep.incoming, CardStep.bundleInfo, call] at incoming

theorem reading_distinct (distinct : ∀ key, DistinctIds (entriesOf store key)) (step : CardStep)
    (key : CardKey) : DistinctIds (entriesOf ((readingMachine text).step store step) key) := by
  obtain ⟨_, _, _, effect, replaces⟩ | ⟨_, advance⟩ := reading_cases text store step
  · by_cases here : key = step.key
    · rw [here, replaces.1]
      exact effect.distinct ((distinct step.key).readBack step.around)
    · rw [entriesOf, replaces.2 key here]
      exact distinct key
  · rw [advance]
    exact distinct key

theorem reading_bounded (distinct : ∀ key, DistinctIds (entriesOf store key))
    (bounded : Bounded store) (fits : Fits text store step) :
    Bounded ((readingMachine text).step store step) := by
  intro key
  obtain ⟨after, entries, performed, effect, replaces⟩ | ⟨_, advance⟩ :=
    reading_cases text store step
  · by_cases here : key = step.key
    · subst here
      rw [replaces.1]
      have before := (readBack_length text step.around).trans (bounded step.key)
      cases incoming : step.incoming text with
      | some cards =>
        rw [effect.installed_length ((distinct _).readBack step.around) incoming]
        exact fits cards after incoming performed
      | none =>
        cases effect with
        | installed _ found _ _ => simp [incoming] at found
        | removed => exact zero_le _
        | registered call fresh _ =>
          obtain ⟨call, around⟩ := step
          cases call
          have room := registerAgentCard_room performed
          rw [entriesOf_readStore] at room
          rw [length_append]
          exact room
        | updated => simpa using before
        | deleted => exact (length_filter_le _ _).trans before
    · rw [entriesOf, replaces.2 key here]
      exact bounded key
  · rw [advance]
    exact bounded key

/-- The limit is kept exactly by the runs whose installations have room for their new agents. -/
theorem cards_limited_iff (text : JsonText) (calls : List CardStep) :
    KeepsLimit text calls ↔ (readingMachine text).EveryStep calls (Fits text) := by
  have bounded : (readingMachine text).Throughout calls Bounded ↔
      (readingMachine text).EveryStep calls (Fits text) := by
    refine @throughout_iff_everyStep _ _ (readingMachine text) (fun _ _ => True) _
      (fun store => (∀ key, DistinctIds (entriesOf store key)) ∧ Bounded store) _
      ⟨fun _ => nodup_nil, fun _ => zero_le _⟩ ?_ (fun _ => And.right) ?_ calls
      fun _ _ _ _ => trivial
    · exact fun _ step kept _ fits =>
        ⟨reading_distinct kept.1 step, reading_bounded kept.1 kept.2 fits⟩
    · intro store step kept _ good cards after incoming performed
      obtain ⟨_, entries, _, effect, replaces⟩ | ⟨fails, _⟩ := reading_cases text store step
      · have length := good step.key
        rw [replaces.1, effect.installed_length ((kept.1 _).readBack _) incoming] at length
        exact length
      · exact (fails after performed).elim
  rw [<- bounded]
  refine ⟨KeepsLimit.bounded, fun bounded => ⟨bounded, ?_⟩⟩
  rintro done ⟨_, around⟩ rest split card rfl refused
  have full := registerAgentCard_refused refused
  rw [entriesOf_readStore] at full
  exact (bounded done _ split _).antisymm (full.trans (readBack_length text around))

def numberedCard (serial : Nat) : AgentCard :=
  { weatherCard with
    agentId := serial.repr
    type := .atomicService
    appInfo := some { bundleName := "forecast", abilityName := "Agent" } }

def quiet : Surroundings where
  callingUid := 0
  bundleMgrHelper := none
  queryFailure := none
  writeFailure := none
  uninitialized := noCapabilities
  hashOrder := ⟨id, fun _ => .refl _⟩

def weatherProfile : String := "\x7b\"agentCards\":[" ++ weatherDocument ++ "]\x7d"

def profileText : JsonText where
  dump _ := weatherProfile
  parse document :=
    if document = weatherProfile then
      some (.ofMembers [("agentCards", .array [weatherCard.toJson])])
    else if document = weatherDocument then some weatherCard.toJson
    else if document = "[]" then some (.array [])
    else none

def registrations (count : Nat) : List CardStep :=
  (range count).map fun serial => ⟨.registerAgentCard (numberedCard serial), quiet⟩

def weatherBundle : BundleInfo where
  hapModuleInfos := [⟨"entry", [], [⟨"Agent", "entry", .agent, [weatherProfile]⟩]⟩]
  applicationInfo := ⟨false⟩

def numberedEntries (count : Nat) : List StoredAgentCardEntry :=
  (range count).map fun serial => ⟨numberedCard serial, .api⟩

theorem repr_id : ∀ serial < MAX_AGENT_CARD_SIZE,
    inLimit LENGTH_64 serial.repr = true ∧ serial.repr ≠ "" ∧ serial.repr ≠ "weather" := by
  decide +kernel

theorem readBack_numberedEntries {count : Nat} (few : count ≤ MAX_AGENT_CARD_SIZE) :
    readBack profileText quiet (numberedEntries count) = numberedEntries count := by
  have read : AgentCard.fromJson (accepts profileText) noCapabilities weatherCard.toJson =
      some weatherCard := by decide +kernel
  have formed := AgentCard.wellFormed_fromJson read
  refine (filterMap_congr fun entry member => ?_).trans filterMap_some
  obtain ⟨serial, inside, rfl⟩ := mem_map.mp member
  have numbered : (numberedCard serial).WellFormed (accepts profileText) :=
    { formed with
      agentId := (repr_id serial ((mem_range.mp inside).trans_le few)).1
      appInfo := by
        rintro _ ⟨⟩
        exact ⟨by simp [Limited], .inl rfl⟩ }
  exact parseStoredEntry_entryJson
    ⟨noCapabilities, _, AgentCard.fromJson_toJson numbered noCapabilities⟩ _

theorem query_quiet (store : CardStore) (key : CardKey) :
    store.queryDataOrNone quiet key = .ok (entriesOf store key) := by
  unfold queryDataOrNone queryData entriesOf
  cases store.lookup key <;> rfl

theorem register_numberedCard {serial : Nat} (few : serial < MAX_AGENT_CARD_SIZE)
    (held : entriesOf store ("forecast", 0) = numberedEntries serial) :
    registerAgentCard quiet store (numberedCard serial) =
      .ok (store.insert ("forecast", 0) (numberedEntries (serial + 1))) := by
  have fresh : ∀ item ∈ entriesOf store ("forecast", 0),
      item.card.agentId ≠ (numberedCard serial).agentId := by
    simp only [held, numberedEntries, mem_map, mem_range]
    rintro _ ⟨earlier, before, rfl⟩ same
    exact before.ne (Nat.repr_injective same)
  have fields : hasRequiredRegisterFields (numberedCard serial) = true := by
    simp [hasRequiredRegisterFields, numberedCard, weatherCard, (repr_id serial few).2.1]
    decide
  have version : isValidSemVer "1.0.0" = true := by decide +kernel
  simp only [registerAgentCard, bind_eq_ok, require_eq_ok]
  refine ⟨(), fields, (), version, (), by simp [numberedCard], (), rfl, _, query_quiet _ _, (),
    fresh, (), ?_, ?_⟩
  · change (entriesOf store ("forecast", 0)).length < _
    simpa [held, numberedEntries]
  · change Except.ok (store.insert ("forecast", 0) (entriesOf store ("forecast", 0) ++ _)) = _
    rw [held, numberedEntries, numberedEntries, range_succ, map_append]
    rfl

theorem run_registrations {count : Nat} (few : count ≤ MAX_AGENT_CARD_SIZE) :
    entriesOf ((readingMachine profileText).run (registrations count)) ("forecast", 0) =
      numberedEntries count := by
  induction count with
  | zero => rfl
  | succ count ih =>
    have held := ih (le_of_lt few)
    have read : entriesOf (readStore profileText quiet
        ((readingMachine profileText).run (registrations count))) ("forecast", 0) =
          numberedEntries count := by
      rw [entriesOf_readStore, held, readBack_numberedEntries (le_of_lt few)]
    have stepped : (readingMachine profileText).step _
        ⟨.registerAgentCard (numberedCard count), quiet⟩ = put _ ("forecast", 0) _ :=
      reading_step (register_numberedCard few read)
    rw [registrations, range_succ, map_append]
    change entriesOf ((readingMachine profileText).run (registrations count ++ [_])) _ = _
    have own : CardStep.key ⟨.registerAgentCard (numberedCard count), quiet⟩ = ("forecast", 0) := rfl
    rw [run_concat, stepped, entriesOf, lookup_put, if_pos rfl, own, AList.lookup_insert]
    rfl

theorem thousand_then_install :
    ¬ ∀ (text : JsonText) (calls : List CardStep), KeepsLimit text calls := by
  intro all
  let install : CardStep := ⟨.handleBundleInfo "forecast" weatherBundle 0, quiet⟩
  have after := (all profileText (registrations MAX_AGENT_CARD_SIZE ++ [install])).bounded
    _ [] (append_nil _).symm ("forecast", 0)
  have held := run_registrations (le_refl MAX_AGENT_CARD_SIZE)
  have back := readBack_numberedEntries (le_refl MAX_AGENT_CARD_SIZE)
  have absent : ∀ entry ∈ numberedEntries MAX_AGENT_CARD_SIZE, entry.card.agentId ≠ "weather" := by
    intro entry member
    obtain ⟨serial, inside, rfl⟩ := mem_map.mp member
    exact (repr_id serial (mem_range.mp inside)).2.2
  have distinct := @run_invariant _ _ (readingMachine profileText)
    (fun store => ∀ key, DistinctIds (entriesOf store key)) (fun _ => nodup_nil)
    (fun _ step distinct => reading_distinct distinct step) (registrations MAX_AGENT_CARD_SIZE)
    ("forecast", 0)
  generalize MAX_AGENT_CARD_SIZE = most at after held back absent distinct
  rw [run_concat] at after
  generalize (readingMachine profileText).run (registrations most) = store at after held distinct
  have ids : ((incomingCardMap profileText quiet "forecast" weatherBundle).toOption.map fun cards =>
      (values cards).map (·.agentId)) = some ["weather"] := by decide +kernel
  cases made : incomingCardMap profileText quiet "forecast" weatherBundle with
  | error _ => simp [made, Except.toOption] at ids
  | ok cards =>
    obtain ⟨card, one, id⟩ : ∃ card, values cards = [card] ∧ card.agentId = "weather" := by
      simpa [made, Except.toOption, map_eq_singleton_iff] using ids
    have incoming : install.incoming profileText = some cards := by
      simp only [CardStep.incoming, CardStep.bundleInfo, CardStep.key, install, Option.bind_some,
        made, Except.toOption]
    obtain ⟨_, entries, performed, effect, replaces⟩ | ⟨fails, _⟩ :=
      reading_cases profileText store install
    · have length := effect.installed_length (distinct.readBack install.around) incoming
      have after : (entriesOf _ install.key).length ≤ most := after
      have read : readBack profileText install.around (entriesOf store install.key) =
          numberedEntries most := (congrArg _ held).trans back
      have arranged : install.around.hashOrder.arrange (values cards) = [card] := one
      rw [replaces.1, length, read, freshEntries, arranged,
        filter_eq_self.mpr (by simpa [id] using absent)] at after
      simp [numberedEntries] at after
    · refine fails ((readStore profileText quiet store).insert ("forecast", 0)
        (mergeCards (entriesOf (readStore profileText quiet store) ("forecast", 0))
          (values cards))) ?_
      simp only [CardStep.perform, install, handleBundleInfo, bind_eq_ok]
      exact ⟨_, made, _, query_quiet _ _, rfl⟩

end Limit

end AbilityRuntime.AgentCards
