import AbilityRuntime.AutoStartup.AbilityAutoStartupService

set_option autoImplicit false

namespace AbilityRuntime.AutoStartup

open Mission Mission.SavedMissionInfo AbilityAutoStartupDataManager List AutoStartupInfo

def applicationOf (env : Environment) (key : String) : Application :=
  (convertAutoStartupInfoFromKey env key
    { bundleName := "", abilityName := "" }).application

structure Entry.Holds (env : Environment) (entry : Entry) (info : AutoStartupInfo)
    (isAutoStartup isEdmForce : Bool) : Prop where
  key : entry.key = convertAutoStartupDataToKey env info
  value : entry.value = convertAutoStartupStatusToValue env info isAutoStartup isEdmForce
  keyReads : env.json.Reads (.ofList (keyMembers info))
  valueReads : env.json.Reads (.ofList (valueMembers info isAutoStartup isEdmForce))

variable {env : Environment} {info : AutoStartupInfo}

section

variable (reads : env.json.Reads (.ofList (keyMembers info)))
include reads

theorem parse_key :
    ∃ jsonObject, env.json.parse (convertAutoStartupDataToKey env info) =
        some jsonObject ∧
      getString jsonObject jsonKeyBundleName = some info.bundleName ∧
      getString jsonObject jsonKeyModuleName = some info.moduleName ∧
      getString jsonObject jsonKeyAbilityName = some info.abilityName ∧
      getInt32 jsonObject jsonKeyAppCloneIndex = some info.appCloneIndex ∧
      getString jsonObject jsonKeyAccessTokenid = some info.accessTokenId ∧
      getInt32 jsonObject jsonKeyUserid = some info.userId := by
  have distinct : ((keyMembers info).map Prod.fst).Nodup := by
    simp only [keyMembers, map_cons, map_nil]
    decide
  have written : ∀ entry ∈ keyMembers info,
      (Std.ExtTreeMap.ofList (keyMembers info) : JsonObject)[entry.1]? = some entry.2 :=
    fun entry mem => jsonObject_member distinct mem
  refine ⟨_, reads.parsed, ?_⟩
  simp only [keyMembers, forall_mem_cons, not_mem_nil, false_implies, implies_true,
    and_true] at written
  obtain ⟨bundleName, moduleName, abilityName, appCloneIndex, accessTokenId, userId⟩ := written
  exact ⟨getString_eq bundleName, getString_eq moduleName, getString_eq abilityName,
    getInt32_eq appCloneIndex, getString_eq accessTokenId, getInt32_eq userId⟩

theorem applicationOf_key :
    applicationOf env (convertAutoStartupDataToKey env info) =
      info.application := by
  obtain ⟨jsonObject, parsed, bundleName, -, abilityName, appCloneIndex, accessTokenId, userId⟩ :=
    parse_key reads
  rw [applicationOf, convertAutoStartupInfoFromKey, parsed]
  simp only [application, bundleName, abilityName, appCloneIndex, accessTokenId,
    userId, Option.getD_some]

theorem isEqual_key (other : AutoStartupInfo) :
    isEqual env (convertAutoStartupDataToKey env info) other = true ↔
      info.application = other.application := by
  obtain ⟨jsonObject, parsed, bundleName, -, abilityName, appCloneIndex, accessTokenId, userId⟩ :=
    parse_key reads
  rw [isEqual, parsed]
  simp [isEqualString, isEqualInt32, bundleName, abilityName, appCloneIndex, accessTokenId, userId,
    application, and_assoc]

theorem isEqualToken_key (accessTokenId : String) :
    isEqualToken env (convertAutoStartupDataToKey env info) accessTokenId = true ↔
      info.accessTokenId = accessTokenId := by
  obtain ⟨jsonObject, parsed, -, -, -, -, token, -⟩ := parse_key reads
  rw [isEqualToken, parsed]
  simp [token]

end

@[simp] theorem ofInt32_toInt32 (setterType : AutoStartupSetterType) :
    AutoStartupSetterType.ofInt32 setterType.toInt32 = setterType := by
  cases setterType <;> decide

theorem convertAutoStartupStatusFromValue_toValue {isAutoStartup isEdmForce : Bool}
    (reads : env.json.Reads (.ofList (valueMembers info isAutoStartup isEdmForce)))
    (startupStatus : AutoStartupStatus) :
    convertAutoStartupStatusFromValue env
        (convertAutoStartupStatusToValue env info isAutoStartup isEdmForce) startupStatus =
      info.status isAutoStartup isEdmForce := by
  have distinct : ((valueMembers info isAutoStartup isEdmForce).map Prod.fst).Nodup := by
    simp only [valueMembers, map_cons, map_nil]
    decide
  have written : ∀ entry ∈ valueMembers info isAutoStartup isEdmForce,
      (Std.ExtTreeMap.ofList (valueMembers info isAutoStartup isEdmForce) : JsonObject)[entry.1]? =
        some entry.2 := fun entry mem => jsonObject_member distinct mem
  rw [convertAutoStartupStatusFromValue, convertAutoStartupStatusToValue, reads.parsed]
  simp only [valueMembers, forall_mem_cons, not_mem_nil, false_implies, implies_true,
    and_true] at written
  obtain ⟨isSet, isForced, -, setterUserId, setterType, isHidden⟩ := written
  simp only [valueMembers, getBool_eq isSet, getBool_eq isForced, getInt32_eq setterUserId,
    getInt32_eq setterType, getBool_eq isHidden, Option.getD_some, Option.map_some,
    ofInt32_toInt32, status]

namespace Entry.Holds

variable {entry : Entry} {isAutoStartup isEdmForce : Bool}

theorem written (keyReads : env.json.Reads (.ofList (keyMembers info)))
    (valueReads : env.json.Reads (.ofList (valueMembers info isAutoStartup isEdmForce))) :
    Entry.Holds env ⟨convertAutoStartupDataToKey env info,
      convertAutoStartupStatusToValue env info isAutoStartup isEdmForce⟩ info isAutoStartup
        isEdmForce :=
  ⟨rfl, rfl, keyReads, valueReads⟩

section

variable (holds : entry.Holds env info isAutoStartup isEdmForce)
include holds

theorem applicationOf : AutoStartup.applicationOf env entry.key = info.application := by
  rw [holds.key, applicationOf_key holds.keyReads]

theorem isEqual_iff (other : AutoStartupInfo) :
    isEqual env entry.key other = true ↔
      AutoStartup.applicationOf env entry.key = other.application := by
  rw [holds.applicationOf, holds.key, isEqual_key holds.keyReads]

theorem isEqualToken_iff (accessTokenId : String) :
    isEqualToken env entry.key accessTokenId = true ↔
      (AutoStartup.applicationOf env entry.key).accessTokenId = accessTokenId := by
  rw [holds.applicationOf, holds.key, isEqualToken_key holds.keyReads]
  rfl

theorem status (startupStatus : AutoStartupStatus) :
    convertAutoStartupStatusFromValue env entry.value startupStatus =
      info.status isAutoStartup isEdmForce := by
  rw [holds.value, convertAutoStartupStatusFromValue_toValue holds.valueReads]

end

end Entry.Holds

open Function

/-- The store holds one entry for each application that was written last, and nothing else. -/
structure Coherent (env : Environment) (service : AutoStartupService) : Prop where
  holds : ∀ entry ∈ service.store, ∃ info isAutoStartup isEdmForce,
    entry.Holds env info isAutoStartup isEdmForce ∧
      service.lastWritten info.application = some (info.status isAutoStartup isEdmForce)
  once : (service.store.map fun entry => applicationOf env entry.key).Nodup
  stored : ∀ application status, service.lastWritten application = some status ->
    ∃ entry ∈ service.store, applicationOf env entry.key = application

def Intact (store : KvStore) (calls : KvCalls) : Prop :=
  store = [] ∨ calls.getEntries ≠ .dataCorrupted ∧ calls.delete 0 ≠ .dataCorrupted ∧
    calls.put ≠ .dataCorrupted

theorem restoreKvStore_of {store : KvStore} {status : Status}
    (intact : store = [] ∨ status ≠ .dataCorrupted) : restoreKvStore store status = store := by
  cases status with
  | success | error => rfl
  | dataCorrupted =>
    rcases intact with empty | other
    · exact empty.symm
    · exact absurd rfl other

section Intact

variable {store : KvStore} {calls : KvCalls} (intact : Intact store calls)

include intact

theorem Intact.getEntries : restoreKvStore store calls.getEntries = store :=
  restoreKvStore_of (intact.imp_right fun sound => sound.1)

theorem Intact.delete : restoreKvStore store (calls.delete 0) = store :=
  restoreKvStore_of (intact.imp_right fun sound => sound.2.1)

theorem Intact.put : restoreKvStore store calls.put = store :=
  restoreKvStore_of (intact.imp_right fun sound => sound.2.2)

end Intact

variable {env : Environment} {service : AutoStartupService} {info : AutoStartupInfo}

namespace Coherent

variable (coherent : Coherent env service)

include coherent

theorem eq_of_application {one other : Entry} (left : one ∈ service.store)
    (right : other ∈ service.store)
    (same : applicationOf env one.key = applicationOf env other.key) :
    one = other :=
  inj_on_of_nodup_map coherent.once left right same

variable {entry : Entry}

theorem isEqual_iff (present : entry ∈ service.store) (other : AutoStartupInfo) :
    isEqual env entry.key other = true ↔ applicationOf env entry.key = other.application := by
  obtain ⟨_, _, _, holds, -⟩ := coherent.holds entry present
  exact holds.isEqual_iff other

theorem isEqualToken_iff (present : entry ∈ service.store) (accessTokenId : String) :
    isEqualToken env entry.key accessTokenId = true ↔
      (applicationOf env entry.key).accessTokenId = accessTokenId := by
  obtain ⟨_, _, _, holds, -⟩ := coherent.holds entry present
  exact holds.isEqualToken_iff accessTokenId

theorem status (present : entry ∈ service.store) :
    service.lastWritten (applicationOf env entry.key) =
      some (convertAutoStartupStatusFromValue env entry.value {}) := by
  obtain ⟨info, _, _, holds, written⟩ := coherent.holds entry present
  rw [holds.applicationOf, written, holds.status]

theorem unwritten_iff (application : Application) :
    service.lastWritten application = none ↔
      ∀ entry ∈ service.store, applicationOf env entry.key ≠ application := by
  constructor
  · rintro unwritten entry present rfl
    rw [coherent.status present] at unwritten
    cases unwritten
  · intro absent
    by_contra written
    obtain ⟨status, written⟩ := Option.ne_none_iff_exists'.1 written
    obtain ⟨entry, present, same⟩ := coherent.stored application status written
    exact absent entry present same

theorem remove (gone : Application -> Prop) [DecidablePred gone] :
    Coherent env {
      store := service.store.filter fun entry => ¬gone (applicationOf env entry.key)
      lastWritten := fun application =>
        if gone application then none else service.lastWritten application } where
  holds entry present := by
    rw [mem_filter, decide_eq_true_eq] at present
    obtain ⟨info, isAutoStartup, isEdmForce, holds, written⟩ := coherent.holds entry present.1
    refine ⟨info, isAutoStartup, isEdmForce, holds, ?_⟩
    dsimp only
    rw [if_neg (holds.applicationOf ▸ present.2), written]
  once := (filter_sublist.map _).nodup coherent.once
  stored application status written := by
    dsimp only at written
    split at written
    · cases written
    next stays =>
      obtain ⟨entry, present, same⟩ := coherent.stored application status written
      exact ⟨entry, mem_filter.2 ⟨present, by simpa [same] using stays⟩, same⟩

theorem add {isAutoStartup isEdmForce : Bool}
    (unwritten : service.lastWritten info.application = none)
    (added : entry.Holds env info isAutoStartup isEdmForce) :
    Coherent env {
      store := service.store ++ [entry]
      lastWritten := update service.lastWritten info.application
        (some (info.status isAutoStartup isEdmForce)) } where
  holds other present := by
    rw [mem_append, mem_singleton] at present
    rcases present with earlier | rfl
    · obtain ⟨found, isSet, isForced, holds, written⟩ := coherent.holds other earlier
      have apart : found.application ≠ info.application := fun same => by
        rw [same, unwritten] at written
        cases written
      exact ⟨found, isSet, isForced, holds, (update_of_ne apart ..).trans written⟩
    · exact ⟨info, isAutoStartup, isEdmForce, added, update_self ..⟩
  once := by
    rw [map_append, map_singleton, nodup_append_comm, singleton_append,
      nodup_cons, added.applicationOf]
    refine ⟨fun present => ?_, coherent.once⟩
    obtain ⟨other, earlier, same⟩ := mem_map.1 present
    exact (coherent.unwritten_iff _).1 unwritten other earlier same
  stored application status written := by
    dsimp only at written
    by_cases same : application = info.application
    · exact ⟨entry, mem_append_right _ (mem_singleton_self _), added.applicationOf.trans same.symm⟩
    · rw [update_of_ne same] at written
      obtain ⟨other, present, found⟩ := coherent.stored application status written
      exact ⟨other, mem_append_left _ present, found⟩

theorem delete_of (present : entry ∈ service.store) :
    service.store.delete entry.key =
      service.store.filter fun other =>
        ¬applicationOf env other.key = applicationOf env entry.key := by
  refine filter_congr fun other mem => decide_eq_decide.2 (not_congr ⟨?_, fun same => ?_⟩)
  · exact fun same => by rw [same]
  · rw [coherent.eq_of_application mem present same]

theorem put_of {isAutoStartup isEdmForce : Bool}
    (added : entry.Holds env info isAutoStartup isEdmForce)
    (unwritten : service.lastWritten info.application = none) :
    service.store.put entry.key entry.value = service.store ++ [entry] := by
  rw [KvStore.put, filter_eq_self.2]
  intro other present
  rw [decide_eq_true_eq]
  intro same
  exact (coherent.unwritten_iff _).1 unwritten other present (by rw [same, added.applicationOf])

end Coherent

end AbilityRuntime.AutoStartup
