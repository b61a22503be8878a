import AbilityRuntime.AppRunning.AppRunningRecord

set_option autoImplicit false

namespace AbilityRuntime.AppRunning

open Library KeyedMap Option List AppRunningRecord

namespace AppRunningRecord

def NoForeground (abilities : KeyedMap Nat AbilityRunningRecord) : Prop :=
  ∀ token ability, abilities.lookup token = some ability -> ability.isUIAbility = true ->
    ability.state ≠ .foreground

/-- A pending transition is owed a report; settled in the background, no ability is in the
foreground. -/
structure Steady (record : AppRunningRecord) : Prop where
  owed : record.pendingState = .ready ↔ record.scheduleState = .scheduleReady
  settled : record.pendingState = .ready -> record.state = .background ->
    NoForeground record.abilities

structure Coherent (record : AppRunningRecord) : Prop extends Steady record where
  leaving : record.pendingState = .backgrounding -> NoForeground record.abilities

/-- A background request has overtaken the foreground report that is taken. -/
def PopsInOrder (record : AppRunningRecord) : AppCall -> Prop
  | .applicationForegrounded => record.scheduleState = .scheduleForegrounding ->
      record.pendingState = .backgrounding -> ∀ token ∈ record.foregroundingAbilityTokens,
        ∀ ability ∈ record.abilities.lookup token, ability.isUIAbility = false
  | _ => True

variable {record : AppRunningRecord}

def changedAbilities (abilities : KeyedMap Nat AbilityRunningRecord) (token : Nat)
    (state : AbilityState) : KeyedMap Nat AbilityRunningRecord :=
  match abilities.lookup token with
  | none => abilities
  | some ability => abilities.insert token { ability with state }

theorem onAbilityStateChanged_eq (token : Nat) (state : AbilityState) :
    record.onAbilityStateChanged token state =
      { record with abilities := changedAbilities record.abilities token state } := by
  unfold onAbilityStateChanged changedAbilities
  cases record.abilities.lookup token with
  | none => rfl
  | some ability => rfl

theorem changedAbilities_lookup (abilities : KeyedMap Nat AbilityRunningRecord) (token other : Nat)
    (state : AbilityState) :
    (changedAbilities abilities token state).lookup other =
      if other = token then (abilities.lookup token).map ({ · with state })
      else abilities.lookup other := by
  unfold changedAbilities
  split
  next missing =>
    split
    next same => rw [same, missing]; rfl
    · rfl
  next ability found =>
    rw [lookup_insert_eq, found]
    rfl

theorem NoForeground.changed {abilities : KeyedMap Nat AbilityRunningRecord}
    (none : NoForeground abilities) (token : Nat) {state : AbilityState}
    (away : state ≠ .foreground) : NoForeground (changedAbilities abilities token state) := by
  intro other ability found isUIAbility
  rw [changedAbilities_lookup] at found
  split at found
  · obtain ⟨before, -, rfl⟩ := map_eq_some_iff.mp found
    exact away
  · exact none other ability found isUIAbility

theorem noForeground_of_hasForegroundAbility (missing : record.hasForegroundAbility = false) :
    NoForeground record.abilities := by
  intro token ability found isUIAbility foreground
  have mem := mem_values.mpr ⟨token, found⟩
  have absent := any_eq_false.mp missing ability mem
  simp [isUIAbility, foreground] at absent

theorem noForeground_of_isAbilitiesBackground (background : record.isAbilitiesBackground = true) :
    NoForeground record.abilities := by
  intro token ability found isUIAbility foreground
  have mem := mem_values.mpr ⟨token, found⟩
  have away := all_eq_true.mp background ability mem
  simp [isUIAbility, foreground] at away

theorem Coherent.launchAbility (sound : record.Coherent) (token : Nat) (isUIAbility : Bool) :
    (record.launchAbility token isUIAbility).Coherent := by
  unfold AppRunningRecord.launchAbility
  split
  next missing =>
    have launched (none : NoForeground record.abilities) :
        NoForeground (record.abilities.insert token { isUIAbility }) := by
      intro other ability found lifecycle
      rw [lookup_insert_eq] at found
      split at found
      · cases found
        nofun
      · exact none other ability found lifecycle
    exact {
      owed := sound.owed
      settled := fun ready background => launched (sound.settled ready background)
      leaving := fun backgrounding => launched (sound.leaving backgrounding) }
  · rw [onAbilityStateChanged_eq]
    exact {
      owed := sound.owed
      settled := fun ready background => (sound.settled ready background).changed token nofun
      leaving := fun backgrounding => (sound.leaving backgrounding).changed token nofun }

theorem Coherent.abilityForeground (sound : record.Coherent) (token : Nat)
    (ability : AbilityRunningRecord) : (record.abilityForeground token ability).Coherent := by
  unfold AppRunningRecord.abilityForeground
  split
  · exact sound
  · split
    next direct =>
      rw [Bool.and_eq_true, decide_eq_true_eq, decide_eq_true_eq] at direct
      rw [onAbilityStateChanged_eq]
      exact {
        owed := sound.owed
        settled := fun _ background => by
          rw [show record.state = .background from background] at direct
          cases direct.1
        leaving := fun backgrounding => absurd backgrounding direct.2 }
    · split
      · dsimp only
        split
        · exact { owed := ⟨nofun, nofun⟩, settled := nofun, leaving := nofun }
        next unsettled =>
          exact {
            owed := ⟨nofun, fun scheduled => absurd (sound.owed.mpr scheduled) unsettled⟩
            settled := nofun
            leaving := nofun }
      · exact sound

theorem Coherent.abilityBackground (sound : record.Coherent) (token : Nat)
    (ability : AbilityRunningRecord) : (record.abilityBackground token ability).Coherent := by
  unfold AppRunningRecord.abilityBackground
  split
  · exact sound
  · have changed : (record.onAbilityStateChanged token .background).Coherent := by
      rw [onAbilityStateChanged_eq]
      exact {
        owed := sound.owed
        settled := fun ready background => (sound.settled ready background).changed token nofun
        leaving := fun backgrounding => (sound.leaving backgrounding).changed token nofun }
    dsimp only
    split
    · exact changed
    · split
      next leaves =>
        rw [Bool.and_eq_true, Bool.and_eq_true, Bool.not_eq_true'] at leaves
        have none := noForeground_of_hasForegroundAbility leaves.1.1
        split
        · exact { owed := ⟨nofun, nofun⟩, settled := nofun, leaving := fun _ => none }
        next unsettled =>
          exact {
            owed := ⟨nofun, fun scheduled => absurd (changed.owed.mpr scheduled) unsettled⟩
            settled := nofun
            leaving := fun _ => none }
      · exact changed

theorem changeWindowVisibility_eq (info : WindowVisibilityInfo) :
    ∃ windowIds, record.changeWindowVisibility info = { record with windowIds := windowIds } := by
  unfold changeWindowVisibility
  split
  · exact ⟨_, rfl⟩
  · split
    · split
      · exact ⟨_, rfl⟩
      · exact ⟨_, rfl⟩
    · split
      · exact ⟨_, rfl⟩
      · exact ⟨_, rfl⟩

theorem Coherent.changeWindowVisibility (sound : record.Coherent) (info : WindowVisibilityInfo) :
    (record.changeWindowVisibility info).Coherent := by
  obtain ⟨windowIds, same⟩ := @changeWindowVisibility_eq record info
  rw [same]
  exact { sound with }

theorem Coherent.changeWindows (infos : List WindowVisibilityInfo) :
    ∀ {record : AppRunningRecord}, record.Coherent ->
      (infos.foldl AppRunningRecord.changeWindowVisibility record).Coherent := by
  induction infos with
  | nil => exact fun sound => sound
  | cons info rest ih => exact fun sound => ih (sound.changeWindowVisibility info)

theorem Coherent.windowsHidden (sound : record.Coherent)
    (scheduled : record.scheduleState ≠ .scheduleReady) :
    Coherent (if record.windowIds.isEmpty && record.isAbilitiesBackground &&
        record.foregroundingAbilityTokens.isEmpty then
      { record with pendingState := .backgrounding }
    else record) := by
  split
  next leaves =>
    rw [Bool.and_eq_true, Bool.and_eq_true] at leaves
    exact {
      owed := ⟨nofun, fun ready => absurd ready scheduled⟩
      settled := nofun
      leaving := fun _ => noForeground_of_isAbilitiesBackground leaves.1.2 }
  · exact sound

theorem Coherent.windowPending (sound : record.Coherent) :
    record.onWindowVisibilityChangedWithPendingState.Coherent := by
  unfold onWindowVisibilityChangedWithPendingState
  split
  · split
    · split
      · exact { owed := ⟨nofun, nofun⟩, settled := nofun, leaving := nofun }
      · exact sound
    · split
      next leaves =>
        rw [Bool.and_eq_true] at leaves
        exact {
          owed := ⟨nofun, nofun⟩
          settled := nofun
          leaving := fun _ => noForeground_of_isAbilitiesBackground leaves.1 }
      · exact sound
  next unsettled =>
    have scheduled : record.scheduleState ≠ .scheduleReady := mt sound.owed.mpr unsettled
    split
    · have returned : Coherent { record with pendingState := .foregrounding } := {
        owed := ⟨nofun, fun ready => absurd ready scheduled⟩
        settled := nofun
        leaving := nofun }
      exact returned.windowsHidden scheduled
    · exact sound.windowsHidden scheduled

theorem Coherent.onWindowVisibilityChanged (sound : record.Coherent)
    (infos : List WindowVisibilityInfo) : (record.onWindowVisibilityChanged infos).Coherent := by
  unfold AppRunningRecord.onWindowVisibilityChanged
  split
  · exact sound
  · exact (Coherent.changeWindows infos sound).windowPending

def poppedAbilities (abilities : KeyedMap Nat AbilityRunningRecord) (tokens : List Nat) :
    KeyedMap Nat AbilityRunningRecord :=
  tokens.foldl (fun abilities token => changedAbilities abilities token .foreground) abilities

theorem popForegroundingAbilityTokens_eq :
    record.popForegroundingAbilityTokens =
      { record with
        abilities := poppedAbilities record.abilities record.foregroundingAbilityTokens
        foregroundingAbilityTokens := [] } := by
  have general (tokens : List Nat) : ∀ record : AppRunningRecord,
      tokens.foldl (fun record token => record.onAbilityStateChanged token .foreground) record =
        { record with abilities := poppedAbilities record.abilities tokens } := by
    induction tokens with
    | nil => exact fun _ => rfl
    | cons token rest ih =>
      intro record
      rw [foldl_cons, onAbilityStateChanged_eq, ih]
      rfl
  unfold popForegroundingAbilityTokens
  rw [general]

theorem NoForeground.popped {tokens : List Nat} :
    ∀ {abilities : KeyedMap Nat AbilityRunningRecord}, NoForeground abilities ->
      (∀ token ∈ tokens, ∀ ability ∈ abilities.lookup token, ability.isUIAbility = false) ->
        NoForeground (poppedAbilities abilities tokens) := by
  induction tokens with
  | nil => exact fun none _ => none
  | cons token rest ih =>
    intro abilities none others
    refine @ih (changedAbilities abilities token .foreground) ?_ ?_
    · intro other ability found isUIAbility
      rw [changedAbilities_lookup] at found
      split at found
      · obtain ⟨before, held, rfl⟩ := map_eq_some_iff.mp found
        have plain := others token mem_cons_self before held
        rw [show before.isUIAbility = true from isUIAbility] at plain
        cases plain
      · exact none other ability found isUIAbility
    · intro other waiting ability found
      rw [mem_def, changedAbilities_lookup] at found
      split at found
      · obtain ⟨before, held, rfl⟩ := map_eq_some_iff.mp found
        exact others token mem_cons_self before held
      · exact others other (mem_cons_of_mem _ waiting) ability found

theorem foregrounded_eq (record : AppRunningRecord) :
    ∃ state, state ≠ .background ∧ (record.state ≠ .cached -> state = .foreground) ∧
      (if record.state = .ready || record.state = .background then
        { record with state := .foreground }
      else record) = { record with state } := by
  split
  · exact ⟨.foreground, nofun, fun _ => rfl, rfl⟩
  next other =>
    rw [Bool.or_eq_true, decide_eq_true_eq, decide_eq_true_eq, not_or] at other
    refine ⟨record.state, other.2, fun uncached => ?_, rfl⟩
    cases state : record.state with
    | foreground => rfl
    | ready => exact absurd state other.1
    | background => exact absurd state other.2
    | cached => exact absurd state uncached

theorem poppedAbilities_lookup {tokens : List Nat} :
    ∀ {abilities : KeyedMap Nat AbilityRunningRecord} (token : Nat),
      (poppedAbilities abilities tokens).lookup token =
        if token ∈ tokens then (abilities.lookup token).map ({ · with state := .foreground })
        else abilities.lookup token := by
  induction tokens with
  | nil => exact fun _ => rfl
  | cons first rest ih =>
    intro abilities token
    change (poppedAbilities (changedAbilities abilities first .foreground) rest).lookup token = _
    rw [ih, changedAbilities_lookup]
    by_cases same : token = first
    · subst same
      cases abilities.lookup token <;> simp
    · simp [same]

theorem Coherent.applicationForegrounded (sound : record.Coherent)
    (inOrder : record.PopsInOrder .applicationForegrounded) :
    record.applicationForegrounded.Coherent := by
  unfold AppRunningRecord.applicationForegrounded
  split
  · exact sound
  next scheduled =>
    rw [not_not] at scheduled
    obtain ⟨state, away, -, same⟩ := foregrounded_eq { record with scheduleState := .scheduleReady }
    dsimp only at same ⊢
    rw [same, popForegroundingAbilityTokens_eq]
    split
    next backgrounding =>
      have none := (sound.leaving backgrounding).popped (inOrder scheduled backgrounding)
      exact {
        owed := ⟨fun ready => absurd (backgrounding.symm.trans ready) nofun, nofun⟩
        settled := fun _ _ => none
        leaving := fun _ => none }
    · exact {
        owed := ⟨fun _ => rfl, fun _ => rfl⟩
        settled := fun _ background => absurd background away
        leaving := nofun }
    next ready =>
      have := sound.owed.mp ready
      rw [scheduled] at this
      cases this

theorem backgrounded_eq (record : AppRunningRecord) :
    ∃ state, (record.state = .foreground -> state = .background) ∧
      (if record.state = .foreground || record.state = .ready then
        { record with state := .background }
      else record) = { record with state } := by
  split
  · exact ⟨.background, fun _ => rfl, rfl⟩
  next other =>
    rw [Bool.or_eq_true, decide_eq_true_eq, decide_eq_true_eq, not_or] at other
    exact ⟨record.state, fun foreground => absurd foreground other.1, rfl⟩

theorem Coherent.applicationBackgrounded (sound : record.Coherent) :
    record.applicationBackgrounded.Coherent := by
  unfold AppRunningRecord.applicationBackgrounded
  split
  · exact sound
  next scheduled =>
    rw [not_not] at scheduled
    obtain ⟨state, -, same⟩ := backgrounded_eq { record with scheduleState := .scheduleReady }
    dsimp only at same ⊢
    rw [same]
    split
    next foregrounding =>
      exact {
        owed := ⟨fun ready => absurd (foregrounding.symm.trans ready) nofun, nofun⟩
        settled := fun ready => absurd (foregrounding.symm.trans ready) nofun
        leaving := fun backgrounding => absurd (foregrounding.symm.trans backgrounding) nofun }
    next backgrounding =>
      exact {
        owed := ⟨fun _ => rfl, fun _ => rfl⟩
        settled := fun _ _ => sound.leaving backgrounding
        leaving := nofun }
    next ready =>
      have := sound.owed.mp ready
      rw [scheduled] at this
      cases this

theorem Coherent.step (sound : record.Coherent) (call : AppCall)
    (inOrder : record.PopsInOrder call) : (record.step call).Coherent := by
  cases call with
  | launchAbility token isUIAbility => exact sound.launchAbility token isUIAbility
  | updateAbilityState token state =>
    change (record.updateAbilityState token state).Coherent
    unfold updateAbilityState
    split
    · exact sound
    next ability _ =>
      split
      · exact sound
      · split
        · exact sound.abilityForeground token ability
        · exact sound.abilityBackground token ability
        · exact sound
  | changeWindowVisibility info => exact sound.changeWindowVisibility info
  | onWindowVisibilityChanged infos => exact sound.onWindowVisibilityChanged infos
  | applicationForegrounded => exact sound.applicationForegrounded inOrder
  | applicationBackgrounded => exact sound.applicationBackgrounded

theorem updateAbilityState_state (token : Nat) (state : AbilityState) :
    (record.updateAbilityState token state).state = record.state := by
  unfold updateAbilityState
  split
  · rfl
  · split
    · rfl
    · split
      · unfold abilityForeground
        simp only [onAbilityStateChanged_eq, scheduleForegroundRunning]
        split_ifs <;> rfl
      · unfold abilityBackground
        simp only [onAbilityStateChanged_eq, scheduleBackgroundRunning]
        split_ifs <;> rfl
      · rfl

theorem onWindowVisibilityChanged_state (infos : List WindowVisibilityInfo) :
    (record.onWindowVisibilityChanged infos).state = record.state := by
  have windows (infos : List WindowVisibilityInfo) : ∀ record : AppRunningRecord,
      (infos.foldl changeWindowVisibility record).state = record.state := by
    induction infos with
    | nil => exact fun _ => rfl
    | cons info rest ih =>
      intro record
      obtain ⟨windowIds, same⟩ := @changeWindowVisibility_eq record info
      rw [foldl_cons, ih, same]
  unfold onWindowVisibilityChanged onWindowVisibilityChangedWithPendingState
  simp only [scheduleForegroundRunning, scheduleBackgroundRunning]
  split_ifs <;> first | rfl | exact windows infos record

theorem step_uncached (uncached : record.state ≠ .cached) (call : AppCall) :
    (record.step call).state ≠ .cached := by
  cases call with
  | launchAbility token isUIAbility =>
    change (record.launchAbility token isUIAbility).state ≠ .cached
    unfold launchAbility
    split
    · exact uncached
    · rw [onAbilityStateChanged_eq]
      exact uncached
  | updateAbilityState token state =>
    exact (updateAbilityState_state token state).trans_ne uncached
  | changeWindowVisibility info =>
    obtain ⟨windowIds, same⟩ := @changeWindowVisibility_eq record info
    exact (congrArg state same).trans_ne uncached
  | onWindowVisibilityChanged infos =>
    exact (onWindowVisibilityChanged_state infos).trans_ne uncached
  | applicationForegrounded =>
    change record.applicationForegrounded.state ≠ .cached
    unfold applicationForegrounded
    simp only [popForegroundingAbilityTokens_eq, scheduleBackgroundRunning]
    split_ifs <;> cases record.pendingState <;> first | exact uncached | nofun
  | applicationBackgrounded =>
    change record.applicationBackgrounded.state ≠ .cached
    unfold applicationBackgrounded
    simp only [scheduleForegroundRunning]
    split_ifs <;> cases record.pendingState <;> first | exact uncached | nofun

theorem not_steady_of_overtaken (uncached : record.state ≠ .cached)
    (overtaken : ¬record.PopsInOrder .applicationForegrounded) :
    ¬record.applicationForegrounded.applicationBackgrounded.Steady := by
  intro steady
  simp only [PopsInOrder, not_forall, Bool.not_eq_false] at overtaken
  obtain ⟨scheduled, backgrounding, token, waiting, ability, found, isUIAbility⟩ := overtaken
  obtain ⟨state, -, raised, same⟩ := foregrounded_eq { record with scheduleState := .scheduleReady }
  have foreground := raised uncached
  have after : record.applicationForegrounded =
      { record with
        state := .foreground, scheduleState := .scheduleBackgrounding
        abilities := poppedAbilities record.abilities record.foregroundingAbilityTokens
        foregroundingAbilityTokens := [] } := by
    unfold applicationForegrounded
    rw [if_neg (not_not.mpr scheduled)]
    dsimp only
    rw [same, popForegroundingAbilityTokens_eq, foreground]
    simp only [backgrounding]
    rfl
  rw [after] at steady
  have popped : (poppedAbilities record.abilities record.foregroundingAbilityTokens).lookup token =
      some { ability with state := .foreground } := by
    rw [poppedAbilities_lookup, if_pos waiting, show record.abilities.lookup token = _ from found]
    rfl
  refine steady.settled ?_ ?_ token { ability with state := .foreground } ?_ isUIAbility rfl
  all_goals simp [applicationBackgrounded, backgrounding, popped]

instance decidablePopsInOrder (record : AppRunningRecord) :
    ∀ call, Decidable (record.PopsInOrder call)
  | .applicationForegrounded => inferInstanceAs (Decidable (_ -> _ -> ∀ token ∈ _,
      ∀ ability ∈ record.abilities.lookup token, _ = _))
  | .launchAbility _ _ | .updateAbilityState _ _ | .changeWindowVisibility _
  | .onWindowVisibilityChanged _ | .applicationBackgrounded => isTrue trivial

end AppRunningRecord

open AppRunningRecord

/-- An application that settles has no ability ahead of it, as long as no report is overtaken. -/
theorem appRunning_steady (record : AppRunningRecord) (ready : record.state = .ready)
    (pending : record.pendingState = .ready) (scheduled : record.scheduleState = .scheduleReady)
    (calls : List AppCall) (inOrder : (appRunning record).EveryStep calls PopsInOrder) :
    (appRunning record).Throughout calls Steady := by
  have initial : record.Coherent := {
    owed := ⟨fun _ => scheduled, fun _ => pending⟩
    settled := fun _ background => absurd (ready.symm.trans background) nofun
    leaving := fun backgrounding => absurd (pending.symm.trans backgrounding) nofun }
  have kept := inOrder.throughout (show Coherent (appRunning record).start from initial)
    fun _ call sound inOrder => sound.step call inOrder
  exact fun done rest split => (kept done rest split).toSteady

theorem appRunning_not_steady (record : AppRunningRecord) (ready : record.state = .ready)
    (done : List AppCall)
    (overtaken : ¬((appRunning record).run done).PopsInOrder .applicationForegrounded) :
    ¬((appRunning record).run
      (done ++ [.applicationForegrounded] ++ [.applicationBackgrounded])).Steady := by
  have uncached := (appRunning record).run_invariant (fun state => state.state ≠ .cached)
    (show record.state ≠ .cached from fun cached => absurd (ready.symm.trans cached) nofun)
    (fun _ call uncached => step_uncached uncached call) done
  rw [Machine.run_concat, Machine.run_concat]
  exact not_steady_of_overtaken uncached overtaken

theorem appRunning_not_steady_one :
    ¬((appRunning { abilities := (∅ : KeyedMap Nat AbilityRunningRecord).insert 1 {} }).run
      [.updateAbilityState 1 .foreground, .updateAbilityState 1 .background,
        .applicationForegrounded, .applicationBackgrounded]).Steady :=
  appRunning_not_steady _ rfl [.updateAbilityState 1 .foreground, .updateAbilityState 1 .background]
    (by decide)

theorem appRunning_steady_visit :
    (appRunning { abilities := (∅ : KeyedMap Nat AbilityRunningRecord).insert 1 {} }).Throughout
      [.updateAbilityState 1 .foreground, .applicationForegrounded,
        .updateAbilityState 1 .background, .updateAbilityState 1 .foreground,
        .applicationBackgrounded, .applicationForegrounded] Steady :=
  appRunning_steady _ rfl rfl rfl _ (Machine.StepsFrom.everyStep (by decide))

theorem overtaken_strands_ability :
    ¬(appRunning { abilities := (∅ : KeyedMap Nat AbilityRunningRecord).insert 1 {} }).Throughout
      [.updateAbilityState 1 .foreground, .updateAbilityState 1 .background,
        .applicationForegrounded, .applicationBackgrounded] Steady := by
  intro throughout
  have steady := throughout _ [] (append_nil _).symm
  exact steady.settled (by decide) (by decide) 1 { state := .foreground } (by decide) rfl rfl

end AbilityRuntime.AppRunning
