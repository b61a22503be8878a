import AbilityRuntime.UIExtension.ExtensionRecordIds

set_option autoImplicit false

namespace AbilityRuntime.UIExtension.RecordIdManagers

open Library Finset

variable {managers after : RecordIdManagers} {userId requested id : Int}

theorem manager_update (managers : RecordIdManagers) (userId user : Int)
    (change : RecordIdManager -> RecordIdManager) :
    (managers.update userId change).mgr user =
      if user = userId then change (managers.mgr user) else managers.mgr user := rfl

def Granted (managers : RecordIdManagers) (userId requested : Int) : Prop :=
  requested ≠ INVALID_EXTENSION_RECORD_ID ∧ requested ∉ (managers.mgr userId).extensionRecordIdSet

structure HandsOut (managers after : RecordIdManagers) (userId id : Int) : Prop where
  counter : after.extensionRecordId = id
  handedOut : ∀ user other, other ∈ (after.mgr user).handedOut ↔
    user = userId ∧ other = id ∨ other ∈ (managers.mgr user).handedOut
  records : ∀ user other, other ∈ (after.mgr user).extensionRecords ->
    user = userId ∧ other = id ∨ other ∈ (managers.mgr user).extensionRecords
  sets : ∀ user, (managers.mgr user).extensionRecordIdSet ⊆ (after.mgr user).extensionRecordIdSet

theorem handsOut_update {generated : RecordIdManagers} {creation : Creation}
    (counter : generated.extensionRecordId = id)
    (handedOut : ∀ user, (generated.mgr user).handedOut = (managers.mgr user).handedOut)
    (records : ∀ user, (generated.mgr user).extensionRecords = (managers.mgr user).extensionRecords)
    (sets : ∀ user, (managers.mgr user).extensionRecordIdSet ⊆
      (generated.mgr user).extensionRecordIdSet) :
    HandsOut managers
      (generated.update userId fun mgr =>
        { mgr with
          handedOut := insert id mgr.handedOut
          extensionRecords :=
            if creation = .stored then insert id mgr.extensionRecords
            else mgr.extensionRecords })
      userId id where
  counter := counter
  handedOut := fun user other => by
    rw [manager_update]
    split
    next own => simp [own, <- handedOut]
    next ne => simp [ne, <- handedOut]
  records := fun user other mem => by
    rw [manager_update] at mem
    split at mem
    next own =>
      rw [records] at mem
      split at mem
      · exact (mem_insert.mp mem).imp (⟨own, ·⟩) fun before => before
      · exact .inr mem
    · exact .inr (records user ▸ mem)
  sets := fun user => by
    rw [manager_update]
    split
    · exact sets user
    · exact sets user

theorem create_handsOut {creation : Creation} (generates : creation ≠ .refused) :
    HandsOut managers (managers.createExtensionRecord userId requested creation) userId
      (managers.generateExtensionRecordId userId requested).1 := by
  rw [createExtensionRecord, if_neg generates]
  by_cases granted : managers.Granted userId requested
  · have branch : managers.generateExtensionRecordId userId requested = _ := if_pos granted
    rw [branch]
    refine handsOut_update rfl (fun user => ?_) (fun user => ?_) fun user => ?_
    all_goals rw [manager_update]
    all_goals split
    case refine_3.isTrue => exact subset_insert _ _
    all_goals rfl
  · have branch : managers.generateExtensionRecordId userId requested = _ := if_neg granted
    rw [branch]
    exact handsOut_update rfl (fun _ => rfl) (fun _ => rfl) fun _ => Subset.refl _

theorem generate_granted (granted : managers.Granted userId requested) :
    (managers.generateExtensionRecordId userId requested).1 = requested := by
  have branch : managers.generateExtensionRecordId userId requested = _ := if_pos granted
  rw [branch]

theorem generate_searched (searched : ¬ managers.Granted userId requested)
    (room : managers.HasRoom userId requested) :
    (managers.generateExtensionRecordId userId requested).1 ∉
        (managers.mgr userId).extensionRecordIdSet ∧
      managers.extensionRecordId ≤ (managers.generateExtensionRecordId userId requested).1 ∧
      (requested = INVALID_EXTENSION_RECORD_ID ->
        managers.extensionRecordId < (managers.generateExtensionRecordId userId requested).1) := by
  obtain ⟨free, unused, above, inside, beyond⟩ := room
  have branch : managers.generateExtensionRecordId userId requested = _ := if_neg searched
  have enough : ∀ start, ((managers.mgr userId).extensionRecordIdSet.filter (start ≤ ·)).card <
      (managers.mgr userId).extensionRecordIdSet.card + 1 :=
    fun start => Nat.lt_succ_of_le (card_filter_le _ _)
  rw [branch]
  split
  next invalid =>
    have past := beyond invalid
    have next : nextRecordId managers.extensionRecordId = managers.extensionRecordId + 1 :=
      if_neg (by omega)
    rw [next]
    obtain ⟨skipped, after⟩ := skipUsed_spec unused inside _ _
      (enough (managers.extensionRecordId + 1)) past
    exact ⟨skipped, by omega, fun _ => by omega⟩
  next valid =>
    obtain ⟨skipped, after⟩ := skipUsed_spec unused inside _ _
      (enough managers.extensionRecordId) above
    exact ⟨skipped, after, fun invalid => absurd invalid valid⟩

def Live (managers : RecordIdManagers) : Prop :=
  ∀ user, (managers.mgr user).extensionRecords ⊆ (managers.mgr user).handedOut

def Ordered (managers : RecordIdManagers) : Prop :=
  ∀ user, ∀ id ∈ (managers.mgr user).handedOut, managers.extensionRecordId < id ->
    id ∈ (managers.mgr user).extensionRecordIdSet

def Ascending (managers : RecordIdManagers) : Prop :=
  ∀ user, ∀ id ∈ (managers.mgr user).handedOut, id ≤ managers.extensionRecordId

theorem Live.unused {user : Int} (live : managers.Live)
    (absent : id ∉ (managers.mgr user).handedOut) : managers.Unused user id :=
  ⟨fun mem => absent (live user mem), absent⟩

section

variable (hands : HandsOut managers after userId id)
include hands

theorem HandsOut.live (live : managers.Live) :
    after.Live := by
  intro user other mem
  exact (hands.handedOut user other).mpr
    ((hands.records user other mem).imp_right fun before => live user before)

theorem HandsOut.ordered (above : ∀ user, ∀ other ∈ (managers.mgr user).handedOut, id < other ->
      other ∈ (managers.mgr user).extensionRecordIdSet) : after.Ordered := by
  intro user other mem later
  rw [hands.counter] at later
  rcases (hands.handedOut user other).mp mem with ⟨-, rfl⟩ | before
  · exact absurd later (lt_irrefl _)
  · exact hands.sets user (above user other before later)

theorem HandsOut.ascending (below : ∀ user, ∀ other ∈ (managers.mgr user).handedOut, other ≤ id)
    :
    after.Ascending := by
  intro user other mem
  rw [hands.counter]
  rcases (hands.handedOut user other).mp mem with ⟨-, rfl⟩ | before
  · exact le_refl _
  · exact below user other before

end

theorem removeExtensionRecord_mem {user other : Int}
    (mem : other ∈ ((managers.removeExtensionRecord userId id).mgr user).handedOut) :
    other ∈ (managers.mgr user).handedOut ∧
      ((managers.removeExtensionRecord userId id).mgr user).extensionRecordIdSet =
        (managers.mgr user).extensionRecordIdSet := by
  rw [removeExtensionRecord, manager_update] at mem ⊢
  split at mem
  next own =>
    rw [if_pos own]
    exact ⟨mem_of_mem_erase mem, rfl⟩
  next ne =>
    rw [if_neg ne]
    exact ⟨mem, rfl⟩

theorem removeExtensionRecord_live (live : managers.Live) :
    (managers.removeExtensionRecord userId id).Live := by
  intro user
  rw [removeExtensionRecord, manager_update]
  split
  · exact erase_subset_erase _ (live user)
  · exact live user

theorem step_cases (managers : RecordIdManagers) (call : RecordIdCall) :
    (∃ userId requested, call.generates = some (userId, requested) ∧
      HandsOut managers (managers.step call) userId
        (managers.generateExtensionRecordId userId requested).1) ∨
    (∃ userId id, managers.step call = managers.removeExtensionRecord userId id) ∨
    managers.step call = managers := by
  have create : ∀ userId requested creation,
      HandsOut managers (managers.createExtensionRecord userId requested creation) userId
          (managers.generateExtensionRecordId userId requested).1 ∧ creation ≠ .refused ∨
        managers.createExtensionRecord userId requested creation = managers := by
    intro userId requested creation
    by_cases refused : creation = .refused
    · exact .inr (if_pos refused)
    · exact .inl ⟨create_handsOut refused, refused⟩
  cases call with
  | createExtensionRecord userId requested creation =>
    rcases create userId requested creation with ⟨hands, generates⟩ | unchanged
    · exact .inl ⟨userId, requested, if_neg generates, hands⟩
    · exact .inr (.inr unchanged)
  | getOrCreateExtensionRecord userId creation =>
    rcases create userId INVALID_EXTENSION_RECORD_ID creation with ⟨hands, generates⟩ | unchanged
    · exact .inl ⟨userId, _, if_neg generates, hands⟩
    · exact .inr (.inr unchanged)
  | removeExtensionRecord userId id => exact .inr (.inl ⟨userId, id, rfl⟩)

theorem Ordered.fresh (ordered : managers.Ordered) (live : managers.Live) {call : RecordIdCall}
    (meets : managers.Meets call) : managers.Fresh call := by
  intro userId requested generates
  have condition := meets userId requested generates
  dsimp only at condition
  split at condition
  next granted =>
    rw [generate_granted granted]
    exact condition.1
  next searched =>
    obtain ⟨room, still⟩ := condition
    obtain ⟨skipped, reached, beyond⟩ := generate_searched searched room
    generalize (managers.generateExtensionRecordId userId requested).1 = id at *
    rcases lt_or_eq_of_le reached with later | same
    · exact live.unused fun used => skipped (ordered userId id used later)
    · -- The search stopped at the counter itself, so an id was requested.
      have valid : requested ≠ INVALID_EXTENSION_RECORD_ID := by
        intro invalid
        omega
      rcases still valid with passed | free
      · exact absurd (same ▸ passed) skipped
      · exact same ▸ free

theorem Ascending.fresh (ascending : managers.Ascending) (live : managers.Live)
    {call : RecordIdCall} (meets : managers.MeetsEverywhere call) :
    managers.FreshEverywhere call := by
  intro userId requested generates user
  have condition := meets userId requested generates
  dsimp only at condition
  split at condition
  next granted =>
    rw [generate_granted granted]
    exact live.unused fun used => lt_irrefl _ (condition user requested used)
  next searched =>
    obtain ⟨room, still⟩ := condition
    obtain ⟨skipped, reached, beyond⟩ := generate_searched searched room
    generalize (managers.generateExtensionRecordId userId requested).1 = id at *
    rcases lt_or_eq_of_le reached with later | same
    · refine live.unused fun used => ?_
      have := ascending user id used
      omega
    · have valid : requested ≠ INVALID_EXTENSION_RECORD_ID := by
        intro invalid
        omega
      rcases still valid with passed | free
      · exact absurd (same ▸ passed) skipped
      · exact same ▸ free user

theorem Ordered.step (ordered : managers.Ordered) {call : RecordIdCall}
    (meets : managers.Meets call) : (managers.step call).Ordered := by
  rcases step_cases managers call with
    ⟨userId, requested, generates, hands⟩ | ⟨userId, id, removed⟩ | unchanged
  · refine hands.ordered ?_
    have condition := meets userId requested generates
    dsimp only at condition
    split at condition
    next granted =>
      rw [generate_granted granted]
      exact condition.2
    next searched =>
      have reached := (generate_searched searched condition.1).2.1
      exact fun user other used later => ordered user other used (by omega)
  · rw [removed]
    intro user other mem later
    obtain ⟨used, set⟩ := removeExtensionRecord_mem mem
    rw [set]
    exact ordered user other used later
  · rwa [unchanged]

theorem Ascending.step (ascending : managers.Ascending) {call : RecordIdCall}
    (meets : managers.MeetsEverywhere call) : (managers.step call).Ascending := by
  rcases step_cases managers call with
    ⟨userId, requested, generates, hands⟩ | ⟨userId, id, removed⟩ | unchanged
  · refine hands.ascending ?_
    have condition := meets userId requested generates
    dsimp only at condition
    split at condition
    next granted =>
      rw [generate_granted granted]
      exact fun user other used => (condition user other used).le
    next searched =>
      have reached := (generate_searched searched condition.1).2.1
      exact fun user other used => (ascending user other used).trans reached
  · rw [removed]
    exact fun user other mem => ascending user other (removeExtensionRecord_mem mem).1
  · rwa [unchanged]

theorem Live.step (live : managers.Live) (call : RecordIdCall) : (managers.step call).Live := by
  rcases step_cases managers call with
    ⟨userId, requested, -, hands⟩ | ⟨userId, id, removed⟩ | unchanged
  · exact hands.live live
  · rw [removed]
    exact removeExtensionRecord_live live
  · rwa [unchanged]

theorem recordIds_fresh (calls : List RecordIdCall) :
    (recordIdManagers.EveryStep calls Meets -> recordIdManagers.EveryStep calls Fresh) ∧
    (recordIdManagers.EveryStep calls MeetsEverywhere ->
      recordIdManagers.EveryStep calls FreshEverywhere) := by
  have start : ∀ user, (recordIdManagers.start.mgr user).handedOut = ∅ := fun _ => rfl
  have live : recordIdManagers.start.Live := fun _ => Subset.refl _
  constructor
  · intro every
    have kept : recordIdManagers.Throughout calls fun managers =>
        managers.Ordered ∧ managers.Live :=
      every.throughout ⟨fun user id used => absurd used (by simp [start]), live⟩
        fun _ call before meets => ⟨before.1.step meets, before.2.step call⟩
    intro done call rest split
    obtain ⟨ordered, live⟩ := kept done (call :: rest) split
    exact ordered.fresh live (every done call rest split)
  · intro every
    have kept : recordIdManagers.Throughout calls fun managers =>
        managers.Ascending ∧ managers.Live :=
      every.throughout ⟨fun user id used => absurd used (by simp [start]), live⟩
        fun _ call before meets => ⟨before.1.step meets, before.2.step call⟩
    intro done call rest split
    obtain ⟨ascending, live⟩ := kept done (call :: rest) split
    exact ascending.fresh live (every done call rest split)

def requestedInUse : List RecordIdCall :=
  [.getOrCreateExtensionRecord 100 .stored, .createExtensionRecord 100 1 .stored]

theorem requestedInUse_clash : ¬ recordIdManagers.EveryStep requestedInUse Fresh := by
  intro fresh
  have second := fresh [.getOrCreateExtensionRecord 100 .stored] _ [] rfl 100 1 rfl
  exact second.1 (by decide)

def requestedAbove : List RecordIdCall :=
  [.getOrCreateExtensionRecord 100 .stored, .createExtensionRecord 100 7 .stored]

theorem requestedAbove_fresh :
    recordIdManagers.EveryStep requestedAbove Fresh ∧
      recordIdManagers.EveryStep requestedAbove FreshEverywhere := by
  have room : recordIdManagers.start.HasRoom 100 INVALID_EXTENSION_RECORD_ID :=
    ⟨1, by decide, by decide, by decide, by decide⟩
  have used : ∀ user, ∀ id ∈ ((recordIdManagers.start.createExtensionRecord 100
      INVALID_EXTENSION_RECORD_ID .stored).mgr user).handedOut, id < 7 := by
    intro user id mem
    rcases ((create_handsOut (by decide)).handedOut user id).mp mem with ⟨-, rfl⟩ | before
    · decide
    · exact absurd before (notMem_empty id)
  refine ⟨(recordIds_fresh requestedAbove).1 (Machine.StepsFrom.everyStep ⟨?_, ?_, trivial⟩),
    (recordIds_fresh requestedAbove).2 (Machine.StepsFrom.everyStep ⟨?_, ?_, trivial⟩)⟩
  · rintro _ _ ⟨⟩
    exact ⟨room, fun valid => absurd rfl valid⟩
  · rintro _ _ ⟨⟩
    refine ⟨⟨by decide, by decide⟩, fun user id mem later => ?_⟩
    have := used user id mem
    omega
  · rintro _ _ ⟨⟩
    exact ⟨room, fun valid => absurd rfl valid⟩
  · rintro _ _ ⟨⟩
    exact used

end AbilityRuntime.UIExtension.RecordIdManagers
