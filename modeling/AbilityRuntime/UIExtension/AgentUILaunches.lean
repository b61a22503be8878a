import AbilityRuntime.Library.KeyedMap
import AbilityRuntime.Library.Runs

set_option autoImplicit false

namespace AbilityRuntime.UIExtension.AgentUI

open Library List AList KeyedMap Option

def AGENT_UI_MAX_COUNT : Nat := 5

-- The caller is the one that started the ability or consumed its preload.
structure AbilityRecord where
  bundleName : String
  isAgentUI : Bool
  callerUid : Option Int
deriving DecidableEq

/-- The ability records are all that were made, by their extension ids; the other maps and lists
hold the ids of theirs. -/
structure LaunchRecords where
  agentUIExtensionRecords : KeyedMap (Int × String) (List Int) := ∅
  extensionRecords : List Int := []
  preloadUIExtensionRecords : List Int := []
  abilityRecords : KeyedMap Int AbilityRecord := ∅
  serviceMap : List Int := []
  abilityCache : List Int := []

inductive Answer where
  | session (id : Int)
  | preloaded (id : Int)
  | reused (id : Int)
  | failed
  | created (id : Int)

inductive LaunchCall where
  | preload (id : Int) (bundleName : String) (isAgentUI : Bool)
  | addPreloadUIExtensionRecord (id : Int)
  | getOrCreateExtensionRecord (callerUid : Int) (bundleName : String) (isAgentUI : Bool)
      (answer : Answer)
  | terminateAbility (id : Int)
  | terminateDone (id : Int)
  | terminateOrCacheAbility (id : Int) (cache : Bool)
  | handleAbilityDied (id : Int)
  | handleStartTimeout (id : Int)

namespace LaunchRecords

section

variable (state : LaunchRecords) (callerUid : Int) (bundleName : String) (isAgentUI : Bool) (id : Int)

def reachesLimit : Bool :=
  (state.agentUIExtensionRecords.lookup (callerUid, bundleName)).any (AGENT_UI_MAX_COUNT ≤ ·.length)

def addAgentUILaunchRecord : KeyedMap (Int × String) (List Int) :=
  match state.agentUIExtensionRecords.lookup (callerUid, bundleName) with
  | none => state.agentUIExtensionRecords.insert (callerUid, bundleName) [id]
  | some ids =>
    if id ∈ ids then state.agentUIExtensionRecords
    else state.agentUIExtensionRecords.insert (callerUid, bundleName) (ids ++ [id])

def removeAgentUILaunchRecord : KeyedMap (Int × String) (List Int) :=
  match state.agentUIExtensionRecords.entries.find? fun entry =>
      entry.1.2 = bundleName && decide (id ∈ entry.2) with
  | none => state.agentUIExtensionRecords
  | some entry =>
    if entry.2.erase id = [] then state.agentUIExtensionRecords.erase entry.1
    else state.agentUIExtensionRecords.insert entry.1 (entry.2.erase id)

-- The key of the map of the preloads names the ability, and with it the bundle and the type.
def isPreloadExtensionRecord : Bool :=
  id ∈ state.preloadUIExtensionRecords && (state.abilityRecords.lookup id).any fun record =>
    record.bundleName = bundleName && record.isAgentUI = isAgentUI

def addToServiceMap : LaunchRecords :=
  { state with serviceMap := state.serviceMap.insert id }

def createRecord (record : AbilityRecord) : LaunchRecords :=
  { state with
    abilityRecords := state.abilityRecords.insert id record
    extensionRecords := id :: state.extensionRecords
    serviceMap := state.serviceMap.insert id }

def getOrCreateExtensionRecord : Answer -> LaunchRecords
  | .session id => state.addToServiceMap id
  | answer =>
    if isAgentUI && state.reachesLimit callerUid bundleName then state
    else
      match answer with
      | .preloaded id =>
        if state.isPreloadExtensionRecord bundleName isAgentUI id then
          { state.addToServiceMap id with
            preloadUIExtensionRecords := state.preloadUIExtensionRecords.erase id
            abilityRecords :=
              state.abilityRecords.insert id ⟨bundleName, isAgentUI, some callerUid⟩ }
        else state
      | .created id =>
        { state.createRecord id ⟨bundleName, isAgentUI, some callerUid⟩ with
          agentUIExtensionRecords :=
            if isAgentUI then state.addAgentUILaunchRecord callerUid bundleName id
            else state.agentUIExtensionRecords }
      | .reused id => state.addToServiceMap id
      | _ => state

def rollbackAgentUILaunchRecord : LaunchRecords :=
  match state.abilityRecords.lookup id with
  | none => state
  | some record =>
    if record.isAgentUI then
      { state with
        agentUIExtensionRecords := state.removeAgentUILaunchRecord record.bundleName id }
    else state

def removeUIExtensionAbilityRecord : LaunchRecords :=
  { state.rollbackAgentUILaunchRecord id with
    preloadUIExtensionRecords := state.preloadUIExtensionRecords.erase id
    extensionRecords := state.extensionRecords.filter (· ≠ id) }

def moveToTerminatingMap : LaunchRecords :=
  { state with
    serviceMap := state.serviceMap.filter (· ≠ id)
    abilityCache := state.abilityCache.filter (· ≠ id) }

def terminateOrCacheAbility (cache : Bool) : LaunchRecords :=
  let terminating := (state.removeUIExtensionAbilityRecord id).moveToTerminatingMap id
  if cache then { terminating with abilityCache := terminating.abilityCache ++ [id] } else terminating

def handleExtensionAbilityRemove : LaunchRecords :=
  if id ∈ state.abilityCache then state.moveToTerminatingMap id
  else if id ∈ state.serviceMap then
    (state.moveToTerminatingMap id).removeUIExtensionAbilityRecord id
  else state

def handleAbilityDied : LaunchRecords :=
  (state.rollbackAgentUILaunchRecord id).handleExtensionAbilityRemove id

-- The record of a start that timed out leaves the service map, and extensionRecords_ keeps it.
def handleStartTimeout : LaunchRecords :=
  (state.moveToTerminatingMap id).rollbackAgentUILaunchRecord id

def step : LaunchCall -> LaunchRecords
  | .preload id bundleName isAgentUI => state.createRecord id ⟨bundleName, isAgentUI, none⟩
  | .addPreloadUIExtensionRecord id =>
    if id ∈ state.extensionRecords then
      { state with preloadUIExtensionRecords := state.preloadUIExtensionRecords ++ [id] }
    else state
  | .getOrCreateExtensionRecord callerUid bundleName isAgentUI answer =>
    state.getOrCreateExtensionRecord callerUid bundleName isAgentUI answer
  | .terminateAbility id => state.moveToTerminatingMap id
  | .terminateDone id => state.removeUIExtensionAbilityRecord id
  | .terminateOrCacheAbility id cache => state.terminateOrCacheAbility id cache
  | .handleAbilityDied id => state.handleAbilityDied id
  | .handleStartTimeout id => state.handleStartTimeout id

def machine : Machine LaunchRecords LaunchCall := ⟨{}, step⟩

def idsOf (callerUid : Int) (bundleName : String) : List Int :=
  (state.agentUIExtensionRecords.lookup (callerUid, bundleName)).getD []

def Live : Prop :=
  id ∈ state.extensionRecords ∧
    state.abilityRecords.lookup id = some ⟨bundleName, true, some callerUid⟩

/-- The ids of a caller and a bundle are those of its records, each once, and never too many. -/
structure Good : Prop where
  listed : ∀ callerUid bundleName id,
    id ∈ state.idsOf callerUid bundleName ↔ state.Live callerUid bundleName id
  once : ∀ callerUid bundleName, (state.idsOf callerUid bundleName).Nodup
  few : ∀ callerUid bundleName, (state.idsOf callerUid bundleName).length ≤ AGENT_UI_MAX_COUNT
  filled : ∀ key, state.agentUIExtensionRecords.lookup key ≠ some []

def counted : Bool :=
  id ∈ state.extensionRecords && (state.abilityRecords.lookup id).any fun record =>
    record.isAgentUI && record.callerUid.isSome

def Meets : LaunchCall -> Prop
  | .preload id _ _ => state.abilityRecords.lookup id = none
  | .getOrCreateExtensionRecord callerUid bundleName isAgentUI answer =>
    match answer with
    | .preloaded id => isAgentUI = true ->
      state.reachesLimit callerUid bundleName = true ∨
        state.isPreloadExtensionRecord bundleName isAgentUI id = false
    | .created id => state.abilityRecords.lookup id = none
    | _ => True
  | .handleAbilityDied id =>
    state.counted id = true -> id ∈ state.serviceMap ∧ id ∉ state.abilityCache
  | .handleStartTimeout id => state.counted id = false
  | _ => True

instance decidableMeets : ∀ call, Decidable (state.Meets call)
  | .preload _ _ _ => inferInstanceAs (Decidable (_ = none))
  | .getOrCreateExtensionRecord _ _ _ answer =>
    match answer with
    | .preloaded _ => inferInstanceAs (Decidable (_ -> _))
    | .created _ => inferInstanceAs (Decidable (_ = none))
    | .session _ | .reused _ | .failed => isTrue trivial
  | .handleAbilityDied _ => inferInstanceAs (Decidable (_ -> _))
  | .handleStartTimeout _ => inferInstanceAs (Decidable (_ = false))
  | .addPreloadUIExtensionRecord _ | .terminateAbility _ | .terminateDone _
  | .terminateOrCacheAbility _ _ => isTrue trivial

-- What is left of it when the list and the map no longer agree on one id.
structure Sound : Prop where
  owned : ∀ callerUid bundleName id,
    id ∈ state.idsOf callerUid bundleName -> state.Live callerUid bundleName id
  once : ∀ callerUid bundleName, (state.idsOf callerUid bundleName).Nodup
  few : ∀ callerUid bundleName, (state.idsOf callerUid bundleName).length ≤ AGENT_UI_MAX_COUNT
  filled : ∀ key, state.agentUIExtensionRecords.lookup key ≠ some []

end

section

variable {state : LaunchRecords} {callerUid : Int} {bundleName : String} {isAgentUI : Bool} {id : Int}

theorem Good.sound (good : state.Good) : state.Sound :=
  { good with owned := fun caller bundle id => (good.listed caller bundle id).mp }

theorem Live.counted (live : state.Live callerUid bundleName id) : state.counted id = true := by
  obtain ⟨present, known⟩ := live
  simp [LaunchRecords.counted, present, known]

section

variable (sound : state.Sound)
include sound

theorem Sound.owner {key : Int × String} {ids : List Int}
    (found : state.agentUIExtensionRecords.lookup key = some ids) (member : id ∈ ids) :
    state.Live key.1 key.2 id :=
  sound.owned key.1 key.2 id (by rwa [idsOf, found])

theorem Sound.lookup_unowned {key : Int × String}
    (apart : ∀ ids, state.agentUIExtensionRecords.lookup key = some ids -> id ∉ ids) :
    (state.agentUIExtensionRecords.lookup key).bind (fun ids =>
      if ids.erase id = [] then none else some (ids.erase id)) =
        state.agentUIExtensionRecords.lookup key := by
  cases found : state.agentUIExtensionRecords.lookup key with
  | none => rfl
  | some ids =>
    have filled : ids ≠ [] := fun empty => sound.filled key (empty ▸ found)
    rw [bind_some, erase_of_not_mem (apart ids found), if_neg filled]

theorem Sound.lookup_removed {record : AbilityRecord}
    (known : state.abilityRecords.lookup id = some record) (key : Int × String) :
    (state.removeAgentUILaunchRecord record.bundleName id).lookup key =
      (state.agentUIExtensionRecords.lookup key).bind fun ids =>
        if ids.erase id = [] then none else some (ids.erase id) := by
  have owner : ∀ key ids, state.agentUIExtensionRecords.lookup key = some ids -> id ∈ ids ->
      record = ⟨key.2, true, some key.1⟩ := fun key ids found member =>
    some.inj (known.symm.trans (sound.owner found member).2)
  unfold removeAgentUILaunchRecord
  split
  next missing =>
    refine (sound.lookup_unowned fun ids found member => ?_).symm
    have entry := find?_eq_none.mp missing ⟨key, ids⟩ (mem_lookup_iff.mp found)
    simp [owner key ids found member, member] at entry
  next entry found =>
    obtain ⟨here, holds⟩ := lookup_of_find found
    simp only [Bool.and_eq_true, decide_eq_true_eq] at holds
    by_cases same : key = entry.1
    · subst same
      rw [here, bind_some]
      split
      · rw [lookup_erase]
      · rw [lookup_insert]
    · have kept := @Sound.lookup_unowned state id sound key fun ids listed member => same (by
        have both := (owner key ids listed member).symm.trans (owner entry.1 entry.2 here holds.2)
        simp only [AbilityRecord.mk.injEq, some.injEq] at both
        exact Prod.ext both.2.2 both.1)
      split
      · rw [lookup_erase_ne same, kept]
      · rw [lookup_insert_ne same, kept]

theorem Sound.lookup_rollback (id : Int) (key : Int × String) :
    (state.rollbackAgentUILaunchRecord id).agentUIExtensionRecords.lookup key =
      (state.agentUIExtensionRecords.lookup key).bind fun ids =>
        if ids.erase id = [] then none else some (ids.erase id) := by
  unfold rollbackAgentUILaunchRecord
  split
  next unknown =>
    refine (sound.lookup_unowned fun ids found member => ?_).symm
    rw [(sound.owner found member).2] at unknown
    cases unknown
  next record known =>
    split
    · exact sound.lookup_removed known key
    next other =>
      refine (sound.lookup_unowned fun ids found member => other ?_).symm
      rw [(sound.owner found member).2] at known
      cases known
      rfl

theorem Sound.idsOf_rollback (id : Int) (caller : Int) (bundle : String) :
    (state.rollbackAgentUILaunchRecord id).idsOf caller bundle =
      (state.idsOf caller bundle).erase id := by
  unfold idsOf
  rw [sound.lookup_rollback]
  cases state.agentUIExtensionRecords.lookup (caller, bundle) with
  | none => rfl
  | some ids =>
    rw [bind_some]
    split
    next empty => rw [getD_some, empty]; rfl
    · rfl

end

theorem addAgentUILaunchRecord_eq (fresh : id ∉ state.idsOf callerUid bundleName) :
    state.addAgentUILaunchRecord callerUid bundleName id =
      state.agentUIExtensionRecords.insert (callerUid, bundleName)
        (state.idsOf callerUid bundleName ++ [id]) := by
  unfold addAgentUILaunchRecord
  unfold idsOf at fresh ⊢
  split
  next missing => rw [missing]; rfl
  next ids found =>
    rw [found] at fresh ⊢
    exact if_neg fresh

theorem length_idsOf_of_room (room : state.reachesLimit callerUid bundleName = false) :
    (state.idsOf callerUid bundleName).length < AGENT_UI_MAX_COUNT := by
  unfold reachesLimit at room
  unfold idsOf
  cases found : state.agentUIExtensionRecords.lookup (callerUid, bundleName) with
  | none => exact Nat.zero_lt_succ 4
  | some ids =>
    rw [found, Option.any_some, decide_eq_false_iff_not] at room
    exact Nat.lt_of_not_le room

/-- Only the list is rolled back. -/
theorem rollback_eq (id : Int) : state.rollbackAgentUILaunchRecord id =
    { state with
      agentUIExtensionRecords := (state.rollbackAgentUILaunchRecord id).agentUIExtensionRecords } := by
  unfold rollbackAgentUILaunchRecord
  split
  · rfl
  · split <;> rfl

theorem rollback_live (id other : Int) : (state.rollbackAgentUILaunchRecord id).Live callerUid
    bundleName other ↔ state.Live callerUid bundleName other := by
  rw [rollback_eq]
  rfl

theorem removed_live (id other : Int) : (state.removeUIExtensionAbilityRecord id).Live callerUid
    bundleName other ↔ other ≠ id ∧ state.Live callerUid bundleName other := by
  unfold removeUIExtensionAbilityRecord
  rw [rollback_eq]
  simp only [Live, mem_filter, decide_eq_true_eq]
  tauto

section

variable (sound : state.Sound)
include sound

theorem Sound.rollback (id : Int) : (state.rollbackAgentUILaunchRecord id).Sound := by
  refine ⟨fun caller bundle other member => ?_, fun caller bundle => ?_, fun caller bundle => ?_,
    fun key empty => ?_⟩
  · rw [sound.idsOf_rollback] at member
    exact (rollback_live id other).mpr (sound.owned _ _ _ (mem_of_mem_erase member))
  · exact sound.idsOf_rollback id caller bundle ▸ (sound.once caller bundle).erase id
  · rw [sound.idsOf_rollback]
    exact le_trans length_erase_le (sound.few caller bundle)
  · rw [sound.lookup_rollback, bind_eq_some_iff] at empty
    obtain ⟨ids, -, left⟩ := empty
    split at left
    · cases left
    next filled => exact filled (some.inj left)

theorem Sound.remove (complete : ∀ caller bundle other, other ≠ id ->
      state.Live caller bundle other -> other ∈ state.idsOf caller bundle) :
    (state.removeUIExtensionAbilityRecord id).Good := by
  refine { sound.rollback id with listed := fun caller bundle other => ?_ }
  change other ∈ (state.rollbackAgentUILaunchRecord id).idsOf caller bundle ↔ _
  rw [sound.idsOf_rollback, (sound.once caller bundle).mem_erase_iff, removed_live]
  exact and_congr_right fun apart => ⟨sound.owned _ _ _, complete _ _ _ apart⟩

end

section

variable (good : state.Good)
include good

theorem Good.of_same {other : LaunchRecords}
    (records : other.agentUIExtensionRecords = state.agentUIExtensionRecords)
    (live : ∀ caller bundle id, other.Live caller bundle id ↔ state.Live caller bundle id) :
    other.Good := by
  have ids : ∀ caller bundle, other.idsOf caller bundle = state.idsOf caller bundle := by
    intro caller bundle
    rw [idsOf, idsOf, records]
  refine ⟨fun caller bundle id => ?_, fun caller bundle => ?_, fun caller bundle => ?_, ?_⟩
  · rw [ids, live]
    exact good.listed caller bundle id
  · rw [ids]
    exact good.once caller bundle
  · rw [ids]
    exact good.few caller bundle
  · rw [records]
    exact good.filled

theorem Good.remove (id : Int) : (state.removeUIExtensionAbilityRecord id).Good :=
  good.sound.remove fun caller bundle other _ => (good.listed caller bundle other).mpr

theorem Good.rollback_uncounted (uncounted : state.counted id = false) :
    (state.rollbackAgentUILaunchRecord id).Good := by
  refine { good.sound.rollback id with listed := fun caller bundle other => ?_ }
  rw [good.sound.idsOf_rollback, (good.once caller bundle).mem_erase_iff, rollback_live,
    good.listed]
  refine and_iff_right_of_imp fun live => ?_
  rintro rfl
  rw [live.counted] at uncounted
  cases uncounted

theorem Good.moveToTerminatingMap (id : Int) : (state.moveToTerminatingMap id).Good :=
  good.of_same rfl fun _ _ _ => Iff.rfl

theorem Good.addToServiceMap (id : Int) : (state.addToServiceMap id).Good :=
  good.of_same rfl fun _ _ _ => Iff.rfl

theorem Good.handleExtensionAbilityRemove (id : Int) :
    (state.handleExtensionAbilityRemove id).Good := by
  unfold LaunchRecords.handleExtensionAbilityRemove
  split
  · exact good.moveToTerminatingMap id
  · split
    · exact (good.moveToTerminatingMap id).remove id
    · exact good

theorem Good.handleAbilityDied (meets : state.Meets (.handleAbilityDied id)) :
    (state.handleAbilityDied id).Good := by
  cases counted : state.counted id with
  | false => exact (good.rollback_uncounted counted).handleExtensionAbilityRemove id
  | true =>
    obtain ⟨serving, uncached⟩ := meets counted
    unfold LaunchRecords.handleAbilityDied LaunchRecords.handleExtensionAbilityRemove
    rw [if_neg (by rw [rollback_eq]; exact uncached), if_pos (by rw [rollback_eq]; exact serving)]
    -- Only the id that died is out of the list with its record still in the map.
    refine @Sound.remove ((state.rollbackAgentUILaunchRecord id).moveToTerminatingMap id) id
      ?_ fun caller bundle other apart live => ?_
    · have rest := good.sound.rollback id
      exact ⟨rest.owned, rest.once, rest.few, rest.filled⟩
    · change other ∈ (state.rollbackAgentUILaunchRecord id).idsOf caller bundle
      rw [good.sound.idsOf_rollback, (good.once caller bundle).mem_erase_iff, good.listed]
      exact ⟨apart, (rollback_live id other).mp live⟩

theorem Good.createRecord {record : AbilityRecord} (new : state.abilityRecords.lookup id = none)
    (uncounted : ∀ bundle caller, record ≠ ⟨bundle, true, some caller⟩) :
    (state.createRecord id record).Good := by
  refine good.of_same rfl fun caller bundle other => ?_
  simp only [Live, LaunchRecords.createRecord, lookup_insert_eq, mem_cons]
  by_cases own : other = id
  · subst own
    simp [new, uncounted]
  · simp [own]

theorem Good.unlisted (new : state.abilityRecords.lookup id = none) (caller : Int)
    (bundle : String) : id ∉ state.idsOf caller bundle := by
  intro member
  rw [((good.listed caller bundle id).mp member).2] at new
  cases new

theorem Good.createCounted (new : state.abilityRecords.lookup id = none)
    (room : state.reachesLimit callerUid bundleName = false) :
    Good { state.createRecord id ⟨bundleName, true, some callerUid⟩ with
      agentUIExtensionRecords := state.addAgentUILaunchRecord callerUid bundleName id } := by
  have fresh := good.unlisted new
  have added := addAgentUILaunchRecord_eq (fresh callerUid bundleName)
  have ids : ∀ caller bundle,
      idsOf { state.createRecord id ⟨bundleName, true, some callerUid⟩ with
        agentUIExtensionRecords := state.addAgentUILaunchRecord callerUid bundleName id }
          caller bundle =
      if caller = callerUid ∧ bundle = bundleName then state.idsOf callerUid bundleName ++ [id]
      else state.idsOf caller bundle := by
    intro caller bundle
    rw [idsOf, added, lookup_insert_eq]
    simp only [Prod.mk.injEq]
    split <;> rfl
  refine ⟨fun caller bundle listed => ?_, fun caller bundle => ?_, fun caller bundle => ?_,
    fun key empty => ?_⟩
  · have before := good.listed caller bundle listed
    rw [ids]
    simp only [Live, LaunchRecords.createRecord, lookup_insert_eq, mem_cons]
    by_cases own : listed = id
    · subst own
      by_cases same : caller = callerUid ∧ bundle = bundleName
      · simp [same]
      · rw [if_neg same, if_pos rfl]
        refine iff_of_false (fresh caller bundle) fun live => same ?_
        cases live.2
        exact ⟨rfl, rfl⟩
    · simp only [own, false_or, if_false]
      rw [<- Live, <- before]
      split
      next same => simp [same.1, same.2, own]
      · rfl
  · rw [ids]
    split
    · simpa [nodup_append, good.once] using fun member held (same : member = id) =>
        fresh callerUid bundleName (same ▸ held)
    · exact good.once caller bundle
  · rw [ids]
    split
    · rw [length_append]
      exact length_idsOf_of_room room
    · exact good.few caller bundle
  · change (state.addAgentUILaunchRecord callerUid bundleName id).lookup key = some [] at empty
    rw [added, lookup_insert_eq] at empty
    split at empty
    · simp at empty
    · exact good.filled key empty

theorem Good.getOrCreateExtensionRecord {answer : Answer} (meets : state.Meets
      (.getOrCreateExtensionRecord callerUid bundleName isAgentUI answer)) :
    (state.getOrCreateExtensionRecord callerUid bundleName isAgentUI answer).Good := by
  unfold LaunchRecords.getOrCreateExtensionRecord
  split
  · exact good.addToServiceMap _
  split
  · exact good
  next room =>
    split
    next id _ =>
      split
      next preloaded =>
        cases isAgentUI with
        | true =>
          obtain limit | unknown := meets rfl
          · exact absurd limit (by simpa using room)
          · rw [preloaded] at unknown
            cases unknown
        | false =>
          refine good.of_same rfl fun caller bundle other => ?_
          have known : ∀ caller bundle,
              state.abilityRecords.lookup id ≠ some ⟨bundle, true, some caller⟩ := by
            intro caller bundle known
            simp [isPreloadExtensionRecord, known] at preloaded
          simp only [Live, LaunchRecords.addToServiceMap, lookup_insert_eq]
          by_cases own : other = id
          · subst own
            simp [known]
          · rw [if_neg own]
      · exact good
    next id _ =>
      cases isAgentUI with
      | true => exact good.createCounted meets (by simpa using room)
      | false => exact good.createRecord meets (by simp)
    · exact good.addToServiceMap _
    · exact good

theorem Good.step {call : LaunchCall} (meets : state.Meets call) : (state.step call).Good := by
  cases call with
  | preload id bundleName isAgentUI => exact good.createRecord meets (by simp)
  | addPreloadUIExtensionRecord id =>
    dsimp only [LaunchRecords.step]
    split
    · exact good.of_same rfl fun _ _ _ => Iff.rfl
    · exact good
  | getOrCreateExtensionRecord callerUid bundleName isAgentUI answer =>
    exact good.getOrCreateExtensionRecord meets
  | terminateAbility id => exact good.moveToTerminatingMap id
  | terminateDone id => exact good.remove id
  | terminateOrCacheAbility id cache =>
    have terminating := (good.remove id).moveToTerminatingMap id
    cases cache with
    | false => exact terminating
    | true => exact terminating.of_same rfl fun _ _ _ => Iff.rfl
  | handleAbilityDied id => exact good.handleAbilityDied meets
  | handleStartTimeout id => exact (good.moveToTerminatingMap id).rollback_uncounted meets

end

end

/-- The listed ids are the records of their callers while no clean-up and no preload leaves one of
the two out. -/
theorem agentUI_good (calls : List LaunchCall) (meets : machine.EveryStep calls Meets) :
    machine.Throughout calls Good := by
  have initial : machine.start.Good := by
    refine ⟨?_, ?_, ?_, ?_⟩ <;> simp [machine, idsOf, Live]
  exact meets.throughout initial fun _ _ good meets => good.step meets

theorem agentUI_good_run : machine.Throughout
    [.preload 1 "chat" true, .addPreloadUIExtensionRecord 1,
      .getOrCreateExtensionRecord 100 "chat" true (.created 2),
      .getOrCreateExtensionRecord 100 "chat" true (.created 3), .handleStartTimeout 1,
      .handleAbilityDied 2, .terminateAbility 3, .terminateDone 3] Good :=
  agentUI_good _ (Machine.StepsFrom.everyStep (by decide))

theorem preloaded_unlisted : ¬ ∀ calls, machine.Throughout calls Good := by
  intro every
  have good := every [.preload 1 "chat" true, .addPreloadUIExtensionRecord 1,
    .getOrCreateExtensionRecord 100 "chat" true (.preloaded 1)] _ [] (List.append_nil _).symm
  exact absurd ((good.listed 100 "chat" 1).mpr ⟨by decide, by decide⟩) (by decide)

end LaunchRecords

end AbilityRuntime.UIExtension.AgentUI
