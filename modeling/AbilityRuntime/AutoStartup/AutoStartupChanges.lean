import AbilityRuntime.AutoStartup.AutoStartupStore

set_option autoImplicit false

namespace AbilityRuntime.AutoStartup

open Library Mission AbilityAutoStartupDataManager AbilityAutoStartupService Function List

variable {env : Environment} {service : AutoStartupService} {calls : KvCalls}
  {info : AutoStartupInfo}

/-- An error leaves the store as it was, a success writes what is expected, the others stay. -/
structure Performed (env : Environment) (service : AutoStartupService)
    (isConcerned : Application -> Prop) (written : Application -> Option AutoStartupStatus)
    (result : KvStore × ErrCode) : Prop where
  failed : result.2 ≠ .errOk -> result.1 = service.store
  sound : result.2 = .errOk -> Coherent env ⟨result.1, written⟩
  others : ∀ entry ∈ service.store, ¬isConcerned (applicationOf env entry.key) ->
    entry ∈ result.1

section

variable {isConcerned : Application -> Prop} {written : Application -> Option AutoStartupStatus}

theorem performed_refused {code : ErrCode} (refused : code ≠ .errOk) :
    Performed env service isConcerned written (service.store, code) where
  failed _ := rfl
  sound isOk := absurd isOk refused
  others _ present _ := present

theorem performed_restored {store : KvStore} (same : store = service.store) {code : ErrCode}
    (refused : code ≠ .errOk) :
    Performed env service isConcerned written (store, code) :=
  same ▸ performed_refused refused

end

theorem without_eq (application : Application) :
    (fun other => if other = application then none else service.lastWritten other) =
      update service.lastWritten application none := by
  funext other
  rw [update_apply]

namespace Coherent

variable (sound : Coherent env service)

include sound

theorem query_found (perm : (env.getEntries service.store).Perm service.store)
    (valid : isInvalid info = false) (hasKvStore : calls.hasKvStore = true)
    (isRead : calls.getEntries = .success) :
    let query := queryAutoStartupData env service.store calls info
    (service.lastWritten info.application = none ∧
      query = (service.store, .errNameNotFound, {}, "")) ∨
    ∃ entry ∈ service.store, applicationOf env entry.key = info.application ∧
      query = (service.store, .errOk,
        convertAutoStartupStatusFromValue env entry.value {}, entry.key) := by
  intro query
  have isValid : ¬isInvalid info = true := by simp [valid]
  have isThere : ¬(!calls.hasKvStore) = true := by simp [hasKvStore]
  have found : query = _ :=
    (if_neg isValid).trans ((if_neg isThere).trans (if_neg (not_not.2 isRead)))
  cases search : (env.getEntries service.store).find? fun item =>
      isEqual env item.key info with
  | none =>
    rw [search] at found
    refine .inl ⟨(sound.unwritten_iff _).2 fun entry present same => ?_, found⟩
    exact find?_eq_none.1 search entry (perm.mem_iff.2 present)
      ((sound.isEqual_iff present info).2 same)
  | some entry =>
    rw [search] at found
    have present := perm.mem_iff.1 (mem_of_find?_eq_some search)
    have matched := find?_some search
    exact .inr ⟨entry, present, (sound.isEqual_iff present info).1 matched, found⟩

theorem query_cases (perm : (env.getEntries service.store).Perm service.store)
    (intact : Intact service.store calls) (info : AutoStartupInfo) :
    let query := queryAutoStartupData env service.store calls info
    (∃ code, code ≠ .errOk ∧ code ≠ .errNameNotFound ∧ query = (service.store, code, {}, "")) ∨
    (service.lastWritten info.application = none ∧
      query = (service.store, .errNameNotFound, {}, "")) ∨
    ∃ entry ∈ service.store, applicationOf env entry.key = info.application ∧
      query = (service.store, .errOk,
        convertAutoStartupStatusFromValue env entry.value {}, entry.key) := by
  intro query
  by_cases invalid : isInvalid info = true
  · exact .inl ⟨.errInvalidValue, nofun, nofun, if_pos invalid⟩
  by_cases noStore : (!calls.hasKvStore) = true
  · exact .inl ⟨.errNoInit, nofun, nofun, (if_neg invalid).trans (if_pos noStore)⟩
  by_cases unread : calls.getEntries ≠ .success
  · have failed : query =
        (restoreKvStore service.store calls.getEntries, .errInvalidOperation, {}, "") :=
      (if_neg invalid).trans ((if_neg noStore).trans (if_pos unread))
    rw [intact.getEntries] at failed
    exact .inl ⟨.errInvalidOperation, nofun, nofun, failed⟩
  exact .inr (sound.query_found perm (by simpa using invalid) (by simpa using noStore)
    (not_not.1 unread))

theorem deleted {entry : Entry} (present : entry ∈ service.store) :
    Coherent env ⟨service.store.delete entry.key,
      update service.lastWritten (applicationOf env entry.key) none⟩ := by
  rw [sound.delete_of present, <- without_eq]
  exact sound.remove (· = applicationOf env entry.key)

theorem mem_delete {entry other : Entry} (present : entry ∈ service.store)
    (kept : other ∈ service.store)
    (apart : applicationOf env other.key ≠ applicationOf env entry.key) :
    other ∈ service.store.delete entry.key := by
  rw [sound.delete_of present]
  exact mem_filter.2 ⟨kept, by simpa using apart⟩

theorem insert (intact : Intact service.store calls) {isAutoStartup isEdmForce : Bool}
    (keyReads : env.json.Reads (.ofList (keyMembers info)))
    (valueReads : env.json.Reads (.ofList (valueMembers info isAutoStartup isEdmForce)))
    (unwritten : service.lastWritten info.application = none) :
    Performed env service (· = info.application)
      (update service.lastWritten info.application (some (info.status isAutoStartup isEdmForce)))
      (insertAutoStartupData env service.store calls info isAutoStartup isEdmForce) := by
  have added := Entry.Holds.written keyReads valueReads
  rw [insertAutoStartupData]
  split
  · exact performed_refused nofun
  · split
    · exact performed_refused nofun
    · split
      · exact performed_restored intact.put nofun
      · have put := sound.put_of added unwritten
        rw [put]
        exact ⟨fun refused => absurd rfl refused, fun _ => sound.add unwritten added,
          fun entry present _ => mem_append_left _ present⟩

theorem update (intact : Intact service.store calls) {isAutoStartup isEdmForce : Bool}
    (keyReads : env.json.Reads (.ofList (keyMembers info)))
    (valueReads : env.json.Reads (.ofList (valueMembers info isAutoStartup isEdmForce)))
    {entry : Entry} (present : entry ∈ service.store)
    (same : applicationOf env entry.key = info.application)
    (safe : calls.delete 0 = .success -> calls.put = .success) :
    Performed env service (· = info.application)
      (update service.lastWritten info.application (some (info.status isAutoStartup isEdmForce)))
      (updateAutoStartupData env service.store calls info entry.key isAutoStartup isEdmForce) := by
  have added := Entry.Holds.written keyReads valueReads
  have deleted := sound.deleted present
  rw [same] at deleted
  rw [updateAutoStartupData]
  split
  · exact performed_refused nofun
  · split
    · exact performed_refused nofun
    · split
      · exact performed_restored intact.delete nofun
      next isDeleted =>
        have unwritten : Function.update service.lastWritten info.application none
            info.application = none := Function.update_self ..
        have put := deleted.put_of added unwritten
        have coherent' := deleted.add unwritten added
        rw [if_neg (not_not.2 (safe (not_not.1 isDeleted))), put]
        rw [update_idem] at coherent'
        exact ⟨fun refused => absurd rfl refused, fun _ => coherent', fun other kept apart =>
          mem_append_left _ (sound.mem_delete present kept (same ▸ apart))⟩

theorem delete (intact : Intact service.store calls) {entry : Entry}
    (present : entry ∈ service.store)
    (same : applicationOf env entry.key = info.application) :
    Performed env service (· = info.application)
      (Function.update service.lastWritten info.application none)
      (AbilityAutoStartupDataManager.deleteAutoStartupData service.store calls info entry.key) := by
  have deleted := sound.deleted present
  rw [same] at deleted
  rw [AbilityAutoStartupDataManager.deleteAutoStartupData]
  split
  · exact performed_refused nofun
  · split
    · exact performed_refused nofun
    · split
      · exact performed_restored intact.delete nofun
      · exact ⟨fun refused => absurd rfl refused, fun _ => deleted, fun other kept apart =>
          sound.mem_delete present kept (same ▸ apart)⟩

end Coherent

end AbilityRuntime.AutoStartup
