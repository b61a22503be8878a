import AbilityRuntime.AppRunning.ConfigurationUpdate

set_option autoImplicit false

namespace AbilityRuntime.AppRunning.ConfigurationUpdate

open Library AppRunning.Configuration KeyedMap

namespace AppRunningRecord

structure Coherent (record : AppRunningRecord) : Prop where
  owed : ∀ key, (record.delayConfiguration.lookup key).or ((received record.sent).lookup key) =
    (received record.updates).lookup key
  stored : record.isDelayed = false ∨ record.state ≠ .background ->
    Within record.delayConfiguration (received record.sent)

variable {record : AppRunningRecord}

section

variable (sound : record.Coherent)
include sound

theorem Coherent.delivered (state : record.state = .foreground)
    (key : String) : (received record.sent).lookup key = (received record.updates).lookup key := by
  have within := sound.stored (.inr (by simp [state]))
  rw [<- sound.owed key, within.or_lookup key]

theorem Coherent.updateConfiguration (config : Configuration) (userId : Int)
    (keeps : record.isConcerned userId = true -> record.isUpdatedDirectly = true ->
      Within record.delayConfiguration (received (record.sent ++ [config]))) :
    (record.updateConfiguration config userId).Coherent := by
  unfold AppRunningRecord.updateConfiguration
  split
  · exact sound
  next concerned =>
    rw [Bool.not_eq_true', Bool.not_eq_false] at concerned
    dsimp only
    split
    next direct =>
      have within := keeps concerned direct
      refine ⟨fun key => ?_, fun _ => within⟩
      change (record.delayConfiguration.lookup key).or
        ((received (record.sent ++ [config])).lookup key) =
          (received (record.updates ++ [config])).lookup key
      have sent := within.or_lookup key
      rw [received_concat, updated_lookup] at sent
      rw [received_concat, received_concat, updated_lookup, updated_lookup, <- sound.owed key, sent]
      cases found : config.lookup key with
      | some value => rfl
      | none =>
        rw [found] at sent
        exact sent.symm
    next background =>
      refine ⟨fun key => ?_, fun reached => absurd reached ?_⟩
      · rw [received_concat, updated_lookup, updated_lookup, <- sound.owed key, Option.or_assoc]
      · rw [isUpdatedDirectly, Bool.or_eq_true, not_or] at background
        simpa using background.2

theorem Coherent.executeConfigurationTask (info : BackgroundAppInfo) (userId : Int)
    (keeps : record.isOfTask info userId = true ->
      record.delayedColorMode.isSome = true ->
        Within (record.delayConfiguration.erase systemColorMode) (received record.sent)) :
    (record.executeConfigurationTask info userId).Coherent := by
  unfold AppRunningRecord.executeConfigurationTask
  split
  · exact sound
  next task =>
    rw [Bool.not_eq_true', Bool.not_eq_false] at task
    split
    · exact sound
    next value found =>
      have within := keeps task (by rw [found]; rfl)
      have stored : record.delayConfiguration.lookup systemColorMode = some value :=
        (Option.filter_eq_some_iff.mp found).1
      refine ⟨fun key => ?_, fun _ key present => ?_⟩
      · change ((record.delayConfiguration.erase systemColorMode).lookup key).or
          ((received (record.sent ++ [_])).lookup key) = (received record.updates).lookup key
        rw [received_concat, updated_lookup, lookup_insert_eq, lookup_erase_eq, <- sound.owed key]
        split
        next same =>
          rw [same, stored]
          rfl
        · rfl
      · change (record.delayConfiguration.erase systemColorMode).lookup key =
          (received (record.sent ++ [_])).lookup key
        have ne : key ≠ systemColorMode := (AList.mem_erase.mp (AList.mem_keys.mpr present)).1
        rw [received_concat, updated_lookup, AList.lookup_insert_ne ne, AList.lookup_empty,
          within key present]
        rfl

theorem Coherent.updateConfigurationDelayed :
    record.updateConfigurationDelayed.Coherent := by
  unfold AppRunningRecord.updateConfigurationDelayed
  split
  · exact sound
  · refine ⟨fun key => ?_, fun _ key present => ?_⟩
    · change ((∅ : Configuration).lookup key).or
        ((received (record.sent ++ [record.delayConfiguration])).lookup key) = _
      rw [received_concat, updated_lookup, AList.lookup_empty]
      exact sound.owed key
    · cases present

theorem Coherent.applicationForegrounded : record.applicationForegrounded.Coherent := by
  unfold AppRunningRecord.applicationForegrounded
  split
  · exact { sound with }
  · exact { sound.updateConfigurationDelayed with }
  · exact sound
  · exact sound

theorem Coherent.setState (keeps : record.foregrounding = true ->
    Within record.delayConfiguration (received record.sent)) : record.setState.Coherent := by
  unfold AppRunningRecord.setState
  split
  next underWay => exact { sound with stored := fun _ => keeps underWay }
  · exact sound

theorem Coherent.applicationBackgrounded : record.applicationBackgrounded.Coherent := by
  unfold AppRunningRecord.applicationBackgrounded
  split
  next shown =>
    have present : record.state ≠ .background := fun background => by simp [background] at shown
    exact { sound with stored := fun _ => sound.stored (.inr present) }
  · exact sound

theorem Coherent.launchApplication : record.launchApplication.Coherent := by
  unfold AppRunningRecord.launchApplication
  split
  next create =>
    exact { sound with stored := fun _ => sound.stored (.inr (by simp [create])) }
  · exact sound

end

end AppRunningRecord

namespace AppRunningRecordMap

def Coherent (records : AppRunningRecordMap) : Prop :=
  ∀ recordId record, records.lookup recordId = some record -> record.Coherent

/-- What stays stored has been sent to the application before, or is sent now. -/
def KeepsStored (records : AppRunningRecordMap) : ConfigurationCall -> Prop
  | .updateConfiguration config userId => ∀ record ∈ values records,
      record.isConcerned userId = true -> record.isUpdatedDirectly = true ->
        Within record.delayConfiguration (received (record.sent ++ [config]))
  | .executeConfigurationTask info userId => ∀ record ∈ values records,
      record.isOfTask info userId = true -> record.delayedColorMode.isSome = true ->
        Within (record.delayConfiguration.erase systemColorMode) (received record.sent)
  | .setState recordId => ∀ record ∈ records.lookup recordId, record.foregrounding = true ->
      Within record.delayConfiguration (received record.sent)
  | _ => True

variable {records : AppRunningRecordMap}

theorem Coherent.modify (sound : Coherent records) (recordId : Nat)
    {change : AppRunningRecord -> AppRunningRecord}
    (kept : ∀ record ∈ records.lookup recordId, record.Coherent -> (change record).Coherent) :
    Coherent (modify records recordId change) := by
  intro other record found
  rw [lookup_modify] at found
  split at found
  · obtain ⟨before, held, rfl⟩ := Option.map_eq_some_iff.mp found
    exact kept before held (sound recordId before held)
  · exact sound other record found

theorem Coherent.mapValues (sound : Coherent records) {change : AppRunningRecord -> AppRunningRecord}
    (kept : ∀ record ∈ values records, record.Coherent -> (change record).Coherent) :
    Coherent (mapValues change records) := by
  intro recordId record found
  rw [lookup_mapValues] at found
  obtain ⟨before, held, rfl⟩ := Option.map_eq_some_iff.mp found
  exact kept before (mem_values.mpr ⟨recordId, held⟩) (sound recordId before held)

theorem Coherent.step (sound : Coherent records) (call : ConfigurationCall)
    (keeps : KeepsStored records call) : Coherent (step records call) := by
  cases call with
  | createAppRunningRecord recordId uid bundleName appIndex =>
    change Coherent (if recordId ∈ records then records
      else records.insert recordId { uid, bundleName, appIndex })
    split
    · exact sound
    · intro other record found
      rw [lookup_insert_eq] at found
      split at found
      · cases found
        exact ⟨fun _ => rfl, fun _ _ present => absurd present List.not_mem_nil⟩
      · exact sound other record found
  | removeAppRunningRecord recordId =>
    exact fun other record found => sound other record (lookup_of_erase found)
  | launchApplication recordId =>
    exact sound.modify recordId fun _ _ sound => sound.launchApplication
  | applicationForegrounded recordId =>
    exact sound.modify recordId fun _ _ sound => sound.applicationForegrounded
  | setState recordId =>
    exact sound.modify recordId fun record held sound =>
      sound.setState (keeps record held)
  | applicationBackgrounded recordId =>
    exact sound.modify recordId fun _ _ sound => sound.applicationBackgrounded
  | addAbility recordId _ _ | removeAbility recordId _ =>
    exact sound.modify recordId fun _ _ sound =>
      { sound with }
  | updateConfiguration config userId =>
    exact sound.mapValues fun record present sound =>
      sound.updateConfiguration config userId (keeps record present)
  | executeConfigurationTask info userId =>
    exact sound.mapValues fun record present sound =>
      sound.executeConfigurationTask info userId (keeps record present)
  | updateConfigurationDelayed recordId =>
    exact sound.modify recordId fun _ _ sound => sound.updateConfigurationDelayed

instance decidableKeepsStored (records : AppRunningRecordMap) :
    ∀ call, Decidable (KeepsStored records call)
  | .updateConfiguration _ _ => inferInstanceAs
      (Decidable (∀ record ∈ values records, _ = true -> _ = true -> Within _ _))
  | .executeConfigurationTask _ _ => inferInstanceAs
      (Decidable (∀ record ∈ values records, _ = true -> _ = true -> Within _ _))
  | .setState _ => inferInstanceAs
      (Decidable (∀ record ∈ AList.lookup _ records, _ = true -> Within _ _))
  | .createAppRunningRecord _ _ _ _ | .removeAppRunningRecord _ | .launchApplication _
  | .applicationForegrounded _ | .applicationBackgrounded _ | .addAbility _ _ _
  | .removeAbility _ _ | .updateConfigurationDelayed _ => isTrue trivial

end AppRunningRecordMap

open AppRunningRecordMap

def item (key value : String) : Configuration := (∅ : Configuration).insert key value

end AbilityRuntime.AppRunning.ConfigurationUpdate
