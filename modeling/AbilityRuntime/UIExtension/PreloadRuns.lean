import Mathlib.Data.List.Perm.Basic
import AbilityRuntime.UIExtension.ExtensionRecordManager

set_option autoImplicit false

namespace AbilityRuntime.UIExtension

open Library KeyedQueues Option List Nat Holder ExtensionRecordManager

def Holder.victims : Holder -> List Nat
  | .destroy ids => ids
  | .remove id rest | .terminate id rest => id :: rest
  | .addPreload _ | .consume _ _ | .tellLoaded _ | .clear _ | .clearPreload _
  | .removeRecord _ => []

def Holder.untold : Holder -> List Nat
  | .tellLoaded id => [id]
  | .destroy ids => ids
  | .remove _ rest | .terminate _ rest => rest
  | .addPreload _ | .consume _ _ | .clear _ | .clearPreload _ | .removeRecord _ => []

def Holder.loaded : Holder -> List Nat
  | .addPreload id => [id]
  | .consume _ _ | .tellLoaded _ | .clear _ | .destroy _ | .remove _ _ | .terminate _ _
  | .clearPreload _ | .removeRecord _ => []

namespace ExtensionRecordManager

variable (mgr : ExtensionRecordManager)

def preloaded : List Nat := mgr.preloadUIExtensionMap.members

def held (part : Holder -> List Nat) : List Nat := mgr.serial.elim [] part

def toldOf : List Nat := mgr.told.map Prod.fst

structure AtRest : Prop where
  serial : mgr.serial = none
  unloads : mgr.unloads = []

/-- A record ends once and its host is told once, and nothing leaves the map without an end. -/
structure Good : Prop where
  once : ∀ id, mgr.consumed.count id + mgr.destroyed.count id ≤ 1
  told : ∀ id, mgr.toldOf.count id ≤ 1
  leaves : mgr.AtRest -> ∀ id, id ∈ mgr.preloaded ↔
    id ∈ mgr.added ∧ id ∉ mgr.consumed ∧ id ∉ mgr.destroyed
  full : mgr.preloadUIExtensionMap.NoneEmpty

def StillHolds : Holder -> Prop
  | .addPreload id => id ∉ mgr.destroyed
  | .consume key id => mgr.isPreloadExtensionRecord key = some id
  | .tellLoaded _ | .clear _ | .destroy _ | .remove _ _ | .terminate _ _ | .clearPreload _
  | .removeRecord _ => True

/-- A chosen record is still there, and a destroyed one is not put in the map. -/
def Keeps : PreloadStep -> Prop
  | .proceed => ∀ holder ∈ mgr.serial, mgr.StillHolds holder
  | .unload index =>
    ∀ unload ∈ mgr.unloads[index]?, unload.2 = .terminate -> unload.1 ∉ mgr.destroyed ->
      unload.1 ∉ mgr.consumed ∧ unload.1 ∉ mgr.preloaded
  | .registerHostClient _ | .unRegisterHostClient _ | .preloadUIExtensionAbility
  | .abilityTransitionDone _ | .startAbility _ | .unPreloadUIExtensionAbility _ _
  | .clearAllPreloadUIExtensionAbility _ | .terminateDone _ _ | .onProcessDied _ => True

structure Balanced (id : Nat) : Prop where
  added : mgr.added.count id + mgr.loading.count id + (mgr.held loaded).count id ≤ 1
  fresh : mgr.nextId ≤ id ->
    mgr.added.count id + mgr.loading.count id + (mgr.held loaded).count id = 0
  apart : mgr.preloaded.count id + mgr.consumed.count id +
    (mgr.held victims).count id ≤ mgr.added.count id
  kept : mgr.preloaded.count id + mgr.destroyed.count id ≤ 1
  once : mgr.consumed.count id + mgr.destroyed.count id ≤ 1
  told : mgr.toldOf.count id + (mgr.held untold).count id +
    mgr.preloaded.count id ≤ mgr.added.count id
  accounted : mgr.added.count id ≤ mgr.preloaded.count id + mgr.consumed.count id +
    mgr.destroyed.count id + (mgr.held victims).count id + mgr.unloads.count (id, .terminate)

structure Coherent : Prop where
  balanced : ∀ id, mgr.Balanced id
  full : mgr.preloadUIExtensionMap.NoneEmpty
  cleared : ∀ id, mgr.serial = some (.clearPreload id) -> id ∈ mgr.destroyed

variable {mgr} {records : Nat -> ExtensionRecord}

theorem Coherent.good (sound : mgr.Coherent) : mgr.Good where
  once id := (sound.balanced id).once
  told id := by
    have balanced := sound.balanced id
    have := balanced.added
    have := balanced.told
    omega
  leaves rest id := by
    obtain ⟨added, -, apart, kept, -, -, accounted⟩ := sound.balanced id
    rw [held, rest.serial] at apart accounted
    rw [rest.unloads] at accounted
    simp only [elim_none, count_nil] at apart accounted
    rw [<- count_pos_iff, <- count_pos_iff, <- count_eq_zero, <- count_eq_zero]
    omega
  full := sound.full

theorem tell_eq (id : Nat) (notice : Notice) :
    ∃ told, mgr.tell records id notice = { mgr with told } ∧
      ∀ other, (told.map Prod.fst).count other ≤ mgr.toldOf.count other + [id].count other := by
  unfold tell
  dsimp only
  split
  · exact ⟨mgr.told, rfl, fun other => le_add_right _ _⟩
  · refine ⟨mgr.told ++ [(id, notice)], rfl, fun other => ?_⟩
    rw [map_append, count_append]
    exact le_refl _

variable {id : Nat}

theorem removeById_of_count (full : mgr.preloadUIExtensionMap.NoneEmpty)
    (key : PreLoadUIExtensionMapKey) (gone : mgr.preloaded.count id = 0) :
    mgr.removePreloadUIExtensionRecordById records key id = (mgr, false) := by
  unfold removePreloadUIExtensionRecordById
  split
  · rfl
  next empty => exact absurd empty (full key)
  next ids _ found =>
    refine if_neg (fun present => ?_)
    rw [contains_iff_mem] at present
    refine count_eq_zero.1 gone (mem_members.2 ⟨key, ?_⟩)
    rwa [KeyedQueues.queue, found]

theorem removeById_cases (full : mgr.preloadUIExtensionMap.NoneEmpty)
    (key : PreLoadUIExtensionMapKey) (id : Nat) :
    mgr.removePreloadUIExtensionRecordById records key id = (mgr, false) ∨
      ∃ told, mgr.removePreloadUIExtensionRecordById records key id =
          ({ mgr with
            told, preloadUIExtensionMap := mgr.preloadUIExtensionMap.remove key id }, true) ∧
        (∀ other, (told.map Prod.fst).count other ≤ mgr.toldOf.count other + [id].count other) ∧
        mgr.preloaded.Perm (id :: (mgr.preloadUIExtensionMap.remove key id).members) := by
  unfold removePreloadUIExtensionRecordById
  split
  · exact .inl rfl
  next empty => exact absurd empty (full key)
  next ids _ found =>
    split
    next present =>
      obtain ⟨told, eq, counts⟩ := @tell_eq mgr records id .onDestroyDone
      refine .inr ⟨told, ?_, counts, members_remove ?_⟩
      · rw [eq]
      · rw [KeyedQueues.queue, found]
        exact contains_iff_mem.1 present
    · exact .inl rfl

theorem count_cons_eq (id other : Nat) (rest : List Nat) :
    (id :: rest).count other = [id].count other + rest.count other := by
  rw [<- singleton_append, count_append]

theorem count_singleton_or (holds : Nat -> Prop) (own : holds id) (other : Nat) :
    [id].count other = 0 ∨ holds other := by
  by_cases same : other = id
  · exact .inr (same ▸ own)
  · exact .inl (count_eq_zero.2 (by simpa using same))

section

variable (sound : mgr.Coherent)
include sound

theorem Coherent.hold {holder : Option Holder}
    (victims : mgr.held victims = holder.elim [] victims)
    (untold : mgr.held untold = holder.elim [] untold)
    (loaded : mgr.held loaded = holder.elim [] loaded)
    (cleared : ∀ id, holder = some (.clearPreload id) -> id ∈ mgr.destroyed) :
    (mgr.hold holder).Coherent := by
  refine ⟨fun id => ?_, sound.full, cleared⟩
  obtain ⟨added, fresh, apart, kept, once, told, accounted⟩ := sound.balanced id
  rw [loaded] at added fresh
  rw [victims] at apart accounted
  rw [untold] at told
  exact ⟨added, fresh, apart, kept, once, told, accounted⟩

theorem Coherent.addPreload (serial : mgr.serial = some (.addPreload id))
    (living : id ∉ mgr.destroyed) :
    ((mgr.addPreloadUIExtensionRecord records id).hold none).Coherent := by
  unfold addPreloadUIExtensionRecord
  split
  · refine ⟨fun other => ?_, sound.full.push _ _, nofun⟩
    obtain ⟨added, fresh, apart, kept, once, told, accounted⟩ := sound.balanced other
    have pushed := (members_push mgr.preloadUIExtensionMap (records id).wantKey id).count_eq other
    have own : [id].count other = 0 ∨ mgr.destroyed.count other = 0 :=
      count_singleton_or (mgr.destroyed.count · = 0) (count_eq_zero.2 living) other
    simp only [held, serial, elim_some, Holder.loaded, Holder.victims, Holder.untold,
      count_nil] at added fresh apart told accounted
    constructor <;>
      simp only [held, ExtensionRecordManager.hold, preloaded, toldOf, elim_none,
        count_nil, count_append] at *
    all_goals omega
  · refine ⟨fun other => ?_, sound.full, nofun⟩
    obtain ⟨added, fresh, apart, kept, once, told, accounted⟩ := sound.balanced other
    simp only [held, serial, elim_some, Holder.loaded, Holder.victims, Holder.untold,
      count_nil] at added fresh apart told accounted
    refine ⟨?_, ?_, apart, kept, once, told, accounted⟩ <;>
      simp only [held, ExtensionRecordManager.hold, elim_none, count_nil]
    all_goals omega

theorem Coherent.consume {key : PreLoadUIExtensionMapKey}
    (serial : mgr.serial = some (.consume key id))
    (first : mgr.isPreloadExtensionRecord key = some id) :
    (mgr.proceed records (.consume key id)).Coherent := by
  refine ⟨fun other => ?_, sound.full.pop key, nofun⟩
  obtain ⟨added, fresh, apart, kept, once, told, accounted⟩ := sound.balanced other
  obtain ⟨rest, queue⟩ := head?_eq_some_iff.1 first
  have popped := (members_pop queue).count_eq other
  rw [count_cons_eq] at popped
  simp only [held, serial, elim_some, Holder.loaded, Holder.victims, Holder.untold,
    count_nil, preloaded, toldOf] at added fresh apart told accounted kept
  constructor <;>
    simp only [held, ExtensionRecordManager.hold, ExtensionRecordManager.proceed,
      removePreloadUIExtensionRecord, preloaded, toldOf, elim_some, Holder.loaded,
      Holder.victims, Holder.untold, count_nil, count_append]
  all_goals omega

theorem Coherent.around (extensionRecords : List Nat)
    (hostClients : List Int) : { mgr with extensionRecords, hostClients }.Coherent := by
  refine { sound with balanced := fun id => ?_ }
  obtain ⟨added, fresh, apart, kept, once, told, accounted⟩ := sound.balanced id
  exact ⟨added, fresh, apart, kept, once, told, accounted⟩

theorem Coherent.tell {notice : Notice} {holder : Holder} {next : Option Holder}
    (serial : mgr.serial = some holder) (victims : next.elim [] Holder.victims = holder.victims)
    (untold : holder.untold = id :: next.elim [] Holder.untold)
    (loaded : next.elim [] Holder.loaded = holder.loaded)
    (cleared : ∀ id, next ≠ some (.clearPreload id)) :
    ((mgr.tell records id notice).hold next).Coherent := by
  obtain ⟨now, eq, counts⟩ := @tell_eq mgr records id notice
  rw [eq]
  refine ⟨fun other => ?_, sound.full, fun id clears => absurd clears (cleared id)⟩
  obtain ⟨added, fresh, apart, kept, once, told, accounted⟩ := sound.balanced other
  have heard := counts other
  simp only [held, serial, elim_some] at added fresh apart told accounted
  rw [untold, count_cons_eq] at told
  refine ⟨?added, ?fresh, ?apart, kept, once, ?told, ?accounted⟩ <;>
    simp only [held, ExtensionRecordManager.hold, victims, loaded, preloaded, toldOf]
      at heard told apart accounted ⊢
  all_goals omega

theorem Coherent.clear (serial : mgr.serial = some (.clear id)) :
    (mgr.proceed records (.clear id)).Coherent := by
  dsimp only [ExtensionRecordManager.proceed]
  rcases removeById_cases sound.full (records id).infoKey id with eq | ⟨now, eq, counts, removed⟩
  · rw [eq]
    refine sound.hold ?_ ?_ ?_ nofun <;> rw [held, serial] <;> rfl
  · rw [eq]
    refine ⟨fun other => ?_, sound.full.remove _ _, nofun⟩
    obtain ⟨added, fresh, apart, kept, once, told, accounted⟩ := sound.balanced other
    have heard := counts other
    have left := removed.count_eq other
    rw [count_cons_eq] at left
    simp only [held, serial, elim_some, Holder.loaded, Holder.victims, Holder.untold,
      count_nil, preloaded, toldOf] at added fresh apart kept told accounted heard left
    constructor <;>
      simp only [held, ExtensionRecordManager.hold, preloaded, toldOf, ↓reduceIte,
        elim_some, Holder.loaded, Holder.victims, Holder.untold, count_nil]
    all_goals omega

end

theorem terminate_counts (id : Nat) :
    ∃ destroyed, mgr.terminateAbilityInner id = { mgr with destroyed } ∧
      ∀ other, ([id].count other = 0 ∨ 0 < destroyed.count other) ∧
        mgr.destroyed.count other ≤ destroyed.count other ∧
        (destroyed.count other = mgr.destroyed.count other ∨
          mgr.destroyed.count other = 0 ∧ destroyed.count other = [id].count other) := by
  unfold terminateAbilityInner
  split
  next present =>
    refine ⟨mgr.destroyed, rfl, fun other => ⟨?_, le_refl _, .inl rfl⟩⟩
    exact count_singleton_or (0 < mgr.destroyed.count ·)
      (count_pos_iff.2 (contains_iff_mem.1 present)) other
  next missing =>
    refine ⟨mgr.destroyed ++ [id], rfl, fun other => ?_⟩
    have before : [id].count other = 0 ∨ mgr.destroyed.count other = 0 :=
      count_singleton_or (mgr.destroyed.count · = 0)
        (count_eq_zero.2 fun present => missing (contains_iff_mem.2 present)) other
    rw [count_append]
    omega

theorem Coherent.terminate (sound : mgr.Coherent) {rest : List Nat}
    (serial : mgr.serial = some (.terminate id rest)) :
    (mgr.proceed records (.terminate id rest)).Coherent := by
  obtain ⟨destroyed, eq, counts⟩ := @terminate_counts mgr id
  dsimp only [ExtensionRecordManager.proceed]
  rw [eq]
  refine ⟨fun other => ?_, sound.full, nofun⟩
  obtain ⟨added, fresh, apart, kept, once, told, accounted⟩ := sound.balanced other
  have now := counts other
  simp only [held, serial, elim_some, Holder.loaded, Holder.victims, Holder.untold,
    count_nil, preloaded, toldOf] at added fresh apart told accounted kept
  rw [count_cons_eq] at apart accounted
  constructor <;>
    simp only [held, ExtensionRecordManager.hold, preloaded, toldOf, elim_some,
      Holder.loaded, Holder.victims, Holder.untold, count_nil]
  all_goals omega

theorem Coherent.proceed (sound : mgr.Coherent) {holder : Holder}
    (serial : mgr.serial = some holder) (keeps : mgr.Keeps .proceed) :
    (mgr.proceed records holder).Coherent := by
  have kept := keeps holder serial
  have gone {id : Nat} (taken : id ∈ mgr.held Holder.victims ∨ id ∈ mgr.destroyed) :
      mgr.preloaded.count id = 0 := by
    obtain ⟨added, -, apart, exclusive, -, -, -⟩ := sound.balanced id
    rcases taken with victim | destroyed
    · have := count_pos_iff.2 victim
      omega
    · have := count_pos_iff.2 destroyed
      omega
  cases holder
  case addPreload id => exact sound.addPreload serial kept
  case consume key id => exact sound.consume serial kept
  case tellLoaded id => exact sound.tell serial rfl rfl rfl nofun
  case clear id => exact sound.clear serial
  case destroy ids =>
    cases ids with
    | nil => refine sound.hold ?_ ?_ ?_ nofun <;> rw [held, serial] <;> rfl
    | cons id rest => exact sound.tell serial rfl rfl rfl nofun
  case remove id rest =>
    have victim : id ∈ mgr.held victims := by
      rw [held, serial]
      exact mem_cons_self ..
    dsimp only [ExtensionRecordManager.proceed]
    rw [removeById_of_count sound.full _ (gone (.inl victim))]
    refine sound.hold ?_ ?_ ?_ nofun <;> rw [held, serial] <;> rfl
  case terminate id rest => exact sound.terminate serial
  case clearPreload id =>
    dsimp only [ExtensionRecordManager.proceed]
    rw [removeById_of_count sound.full _ (gone (.inr (sound.cleared id serial)))]
    refine sound.hold ?_ ?_ ?_ nofun <;> rw [held, serial] <;> rfl
  case removeRecord id =>
    have released : (mgr.hold none).Coherent := by
      refine sound.hold ?_ ?_ ?_ nofun <;> rw [held, serial] <;> rfl
    exact released.around (mgr.extensionRecords.erase id) mgr.hostClients

theorem count_pair {other : Nat} {stage : UnloadStage} :
    [(id, stage)].count (other, .terminate) =
      if stage = .terminate then [id].count other else 0 := by
  rw [count_singleton, count_singleton]
  cases stage <;> simp

section

variable (sound : mgr.Coherent)
include sound

theorem Coherent.unload {index : Nat} {stage : UnloadStage}
    (found : mgr.unloads[index]? = some (id, stage)) (keeps : mgr.Keeps (.unload index)) :
    (mgr.unload records index id stage).Coherent := by
  obtain ⟨inside, at'⟩ := List.getElem?_eq_some_iff.1 found
  have split := List.getElem_cons_eraseIdx_perm inside
  rw [at'] at split
  cases stage
  case remove =>
    have moved (other : Nat) :
        (mgr.unloads.set index (id, .terminate)).count (other, .terminate) =
          [id].count other + mgr.unloads.count (other, .terminate) := by
      have after := (set_perm_cons_eraseIdx inside (id, .terminate)).count_eq (other, .terminate)
      have before := split.count_eq (other, .terminate)
      rw [<- singleton_append, count_append, count_pair] at after before
      rw [if_pos rfl] at after
      rw [if_neg (by decide)] at before
      omega
    dsimp only [ExtensionRecordManager.unload]
    rcases removeById_cases sound.full (records id).wantKey id with eq | ⟨now, eq, counts, removed⟩
    · rw [eq]
      refine { sound with balanced := fun other => ?_ }
      obtain ⟨added, fresh, apart, kept, once, told, accounted⟩ := sound.balanced other
      refine ⟨added, fresh, apart, kept, once, told, Nat.le_trans accounted ?_⟩
      rw [moved]
      simp only [held, preloaded]
      omega
    · rw [eq]
      refine ⟨fun other => ?_, sound.full.remove _ _, sound.cleared⟩
      obtain ⟨added, fresh, apart, kept, once, told, accounted⟩ := sound.balanced other
      have heard := counts other
      have left := removed.count_eq other
      have waits := moved other
      rw [count_cons_eq] at left
      refine ⟨added, fresh, ?_, ?_, once, ?_, ?_⟩ <;>
        simp only [held, preloaded, toldOf] at * <;> omega
  case terminate =>
    obtain ⟨destroyed, eq, counts⟩ := @terminate_counts mgr id
    dsimp only [ExtensionRecordManager.unload]
    rw [eq]
    have kept := keeps (id, .terminate) found rfl
    have grows (other : Nat) : mgr.destroyed.count other ≤ destroyed.count other :=
      (counts other).2.1
    refine ⟨fun other => ?_, sound.full, fun other clears => ?_⟩
    · obtain ⟨added, fresh, apart, exclusive, once, told, accounted⟩ := sound.balanced other
      have now := counts other
      have single : [id].count other ≤ 1 := count_le_length
      have unloads := split.count_eq (other, .terminate)
      rw [<- singleton_append, count_append, count_pair, if_pos rfl] at unloads
      have free : [id].count other = 0 ∨ 0 < mgr.destroyed.count other ∨
          mgr.consumed.count other = 0 ∧ mgr.preloaded.count other = 0 := by
        refine count_singleton_or (fun own => 0 < mgr.destroyed.count own ∨
          mgr.consumed.count own = 0 ∧ mgr.preloaded.count own = 0) ?_ other
        by_cases dead : id ∈ mgr.destroyed
        · exact .inl (count_pos_iff.2 dead)
        · exact .inr ⟨count_eq_zero.2 (kept dead).1, count_eq_zero.2 (kept dead).2⟩
      refine ⟨added, fresh, apart, ?_, ?_, told, ?_⟩ <;>
        simp only [held, preloaded, toldOf] at * <;> omega
    · have before := count_pos_iff.2 (sound.cleared other clears)
      exact count_pos_iff.1 (Nat.lt_of_lt_of_le before (grows other))

theorem Coherent.preload : (mgr.begin records .preloadUIExtensionAbility).Coherent := by
  refine { sound with balanced := fun other => ?_ }
  obtain ⟨added, fresh, apart, kept, once, told, accounted⟩ := sound.balanced other
  have single : [mgr.nextId].count other ≤ 1 := count_le_length
  have own : [mgr.nextId].count other = 0 ∨ mgr.nextId = other :=
    count_singleton_or (mgr.nextId = ·) rfl other
  refine ⟨?_, ?_, apart, kept, once, told, accounted⟩ <;>
    simp only [held, begin] at * <;> rw [count_cons_eq] <;> omega

theorem Coherent.transitionDone (idle : mgr.serial = none) (loading : id ∈ mgr.loading) :
    ({ mgr with loading := mgr.loading.erase id }.hold (some (.addPreload id))).Coherent := by
  refine ⟨fun other => ?_, sound.full, nofun⟩
  obtain ⟨added, fresh, apart, kept, once, told, accounted⟩ := sound.balanced other
  have erased := (perm_cons_erase loading).count_eq other
  rw [count_cons_eq] at erased
  simp only [held, idle, elim_none, count_nil] at added fresh apart told accounted
  refine ⟨?_, ?_, apart, kept, once, told, accounted⟩ <;>
    simp only [held, ExtensionRecordManager.hold, elim_some, Holder.loaded] <;> omega

theorem Coherent.clearAll (idle : mgr.serial = none) (callingPid : Int) :
    (mgr.begin records (.clearAllPreloadUIExtensionAbility callingPid)).Coherent := by
  refine ⟨fun other => ?_, sound.full.without _, nofun⟩
  obtain ⟨added, fresh, apart, kept, once, told, accounted⟩ := sound.balanced other
  have split := (members_taken mgr.preloadUIExtensionMap
    fun key => decide (key.hostPid = callingPid)).count_eq other
  rw [count_append] at split
  simp only [held, idle, elim_none, count_nil, preloaded, toldOf]
    at added fresh apart kept told accounted
  constructor <;>
    simp only [held, begin, preloaded, toldOf, elim_some, loaded, victims, untold, count_nil]
  all_goals omega

theorem Coherent.begin (idle : mgr.serial = none)
    (step : PreloadStep) : (mgr.begin records step).Coherent := by
  cases step
  case preloadUIExtensionAbility => exact sound.preload
  case abilityTransitionDone id =>
    dsimp only [ExtensionRecordManager.begin]
    split
    next known =>
      rw [Bool.and_eq_true, contains_iff_mem] at known
      exact sound.transitionDone idle known.1
    · exact sound
  case startAbility key =>
    dsimp only [ExtensionRecordManager.begin]
    split
    · exact sound
    · refine sound.hold ?_ ?_ ?_ nofun <;> rw [held, idle] <;> rfl
  case unPreloadUIExtensionAbility id callingPid =>
    dsimp only [ExtensionRecordManager.begin]
    split
    · refine sound.hold ?_ ?_ ?_ nofun <;> rw [held, idle] <;> rfl
    · exact sound
  case clearAllPreloadUIExtensionAbility callingPid => exact sound.clearAll idle callingPid
  case terminateDone id isPreload =>
    dsimp only [ExtensionRecordManager.begin]
    split
    next known =>
      rw [Bool.and_eq_true, contains_iff_mem] at known
      cases isPreload
      case false => refine sound.hold ?_ ?_ ?_ nofun <;> rw [held, idle] <;> rfl
      case true =>
        refine sound.hold ?_ ?_ ?_ ?_
        case refine_4 =>
          rintro _ ⟨⟩
          exact known.1
        all_goals
          rw [held, idle]
          rfl
    · exact sound
  case registerHostClient | unRegisterHostClient | proceed | onProcessDied | unload => exact sound

theorem Coherent.onProcessDied (id : Nat) :
    { mgr with unloads := mgr.unloads ++ [(id, UnloadStage.remove)] }.Coherent := by
  refine { sound with balanced := fun other => ?_ }
  obtain ⟨added, fresh, apart, kept, once, told, accounted⟩ := sound.balanced other
  refine ⟨added, fresh, apart, kept, once, told, le_trans accounted ?_⟩
  rw [count_append]
  simp only [held, preloaded]
  omega

theorem Coherent.step (step : PreloadStep)
    (keeps : mgr.Keeps step) : (mgr.step records step).Coherent := by
  have locked : (if mgr.serial.isSome then mgr else mgr.begin records step).Coherent := by
    cases serial : mgr.serial with
    | none => exact sound.begin serial step
    | some holder => exact sound
  cases step
  case registerHostClient pid => exact sound.around _ _
  case unRegisterHostClient pid => exact sound.around _ _
  case proceed =>
    dsimp only [ExtensionRecordManager.step]
    split
    · exact sound
    next holder serial => exact sound.proceed serial keeps
  case onProcessDied id =>
    dsimp only [ExtensionRecordManager.step]
    split
    · exact sound.onProcessDied id
    · exact sound
  case unload index =>
    dsimp only [ExtensionRecordManager.step]
    split
    · exact sound
    next id stage found => exact sound.unload found keeps
  case preloadUIExtensionAbility | abilityTransitionDone | startAbility
    | unPreloadUIExtensionAbility | clearAllPreloadUIExtensionAbility | terminateDone => exact locked

end

theorem Coherent.start : (extensionRecordManager records).start.Coherent where
  balanced _ := ⟨zero_le _, fun _ => rfl, le_refl _, zero_le _, zero_le _, le_refl _, zero_le _⟩
  full _ := by nofun
  cleared := nofun

instance : ∀ holder, Decidable (mgr.StillHolds holder)
  | .addPreload _ => inferInstanceAs (Decidable (_ ∉ _))
  | .consume _ _ => inferInstanceAs (Decidable (_ = _))
  | .tellLoaded _ | .clear _ | .destroy _ | .remove _ _ | .terminate _ _ | .clearPreload _
  | .removeRecord _ => .isTrue trivial

instance decidableKeeps : ∀ step, Decidable (mgr.Keeps step)
  | .proceed => inferInstanceAs (Decidable (∀ holder ∈ mgr.serial, mgr.StillHolds holder))
  | .unload index =>
    inferInstanceAs (Decidable (∀ unload ∈ mgr.unloads[index]?, _ = _ → _ ∉ _ → _ ∉ _ ∧ _ ∉ _))
  | .registerHostClient _ | .unRegisterHostClient _ | .preloadUIExtensionAbility
  | .abilityTransitionDone _ | .startAbility _ | .unPreloadUIExtensionAbility _ _
  | .clearAllPreloadUIExtensionAbility _ | .terminateDone _ _ | .onProcessDied _ => .isTrue trivial

end ExtensionRecordManager

end AbilityRuntime.UIExtension
