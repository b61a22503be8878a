import AbilityRuntime.SceneBoard.UIAbilityRecord

set_option autoImplicit false

namespace AbilityRuntime.SceneBoard

open Library List

namespace UIAbilityRecord

/-- With nothing under way the ability stands where the last accepted request wants it. -/
def Settled (record : UIAbilityRecord) : Prop :=
  record.isReady = true -> record.inFlight = [] ->
    record.pendingState = .initial ∧
      (record.isTerminating = false -> record.accepted = some record.currentState)

structure Pends (record : UIAbilityRecord) : Prop where
  accepted : record.accepted = some record.pendingState
  direction : record.pendingState = .foreground ∨ record.pendingState = .background

structure Loading (record : UIAbilityRecord) : Prop where
  unready : record.isReady = false
  state : record.currentState = .initial
  idle : record.inFlight = []
  pends : record.Pends
  alive : record.isTerminating = false

inductive Phase (record : UIAbilityRecord) : Prop where
  | loading (loading : record.Loading)
  | foregrounding (transaction : Transaction)
      (which : transaction = .moveToForeground ∨ transaction = .foregroundNew)
      (flight : record.inFlight = [transaction]) (ready : record.isReady = true)
      (state : record.currentState = .foregrounding) (pends : record.Pends)
      (alive : record.isTerminating = false)
  | backgrounding (transaction : Transaction)
      (which : transaction = .backgroundNew ∨ transaction = .completeBackground)
      (flight : record.inFlight = [transaction]) (ready : record.isReady = true)
      (state : record.currentState = .backgrounding) (pends : record.Pends)
      (alive : record.isTerminating = false)
  | delayed (flight : record.inFlight = [.delayedBackground]) (ready : record.isReady = true)
      (state : record.currentState = .foreground) (pends : record.Pends)
      (alive : record.isTerminating = false)
  | settled (idle : record.inFlight = []) (ready : record.isReady = true)
      (pending : record.pendingState = .initial) (accepted : record.accepted = some record.currentState)
      (state : record.currentState = .foreground ∨ record.currentState = .background)
      (alive : record.isTerminating = false)
  | closing (transaction : Transaction)
      (which : transaction = .backgroundNew ∨ transaction = .completeBackground)
      (flight : record.inFlight = [transaction]) (ready : record.isReady = true)
      (state : record.currentState = .backgrounding) (pending : record.pendingState = .background)
      (closed : record.isTerminating = true) (away : record.inSessionMap = false)
  | terminating (idle : record.inFlight = []) (ready : record.isReady = true)
      (state : record.currentState = .terminating) (pending : record.pendingState = .initial)
      (closed : record.isTerminating = true) (away : record.inSessionMap = false)

structure Coherent (record : UIAbilityRecord) : Prop where
  native : record.nativeState ≠ .onForeground
  phase : record.Phase

def KeepsPending (record : UIAbilityRecord) : LifecycleCall -> Prop
  | .foregroundDone answer => .foregroundNew ∈ record.inFlight ->
      answer ≠ .foregroundWindowFreezed ∧ record.nativeState ≠ .attached
  | .startUIAbility request =>
    record.inSessionMap = true -> request.valid = true -> request.preloadStart = false ->
      request.reuseDelegatorWindow = false -> request.specifiedCold = true ->
        record.pendingState ≠ .initial
  | _ => True

variable {record : UIAbilityRecord}

theorem Phase.settles (phase : record.Phase) : record.Settled := by
  intro ready idle
  cases phase with
  | loading loading =>
    rw [loading.unready] at ready
    cases ready
  | foregrounding _ _ flight | backgrounding _ _ flight | closing _ _ flight =>
    rw [flight] at idle
    cases idle
  | delayed flight =>
    rw [flight] at idle
    cases idle
  | settled _ _ pending accepted => exact ⟨pending, fun _ => accepted⟩
  | terminating _ _ _ pending closed =>
    refine ⟨pending, fun alive => ?_⟩
    rw [closed] at alive
    cases alive

theorem Phase.redirect (phase : record.Phase) (unsettled : record.pendingState ≠ .initial)
    (alive : record.isTerminating = false) {direction : AbilityState}
    (known : direction = .foreground ∨ direction = .background) (hasLastWant : Bool) :
    Phase { record with
      accepted := some direction, pendingState := direction, hasLastWant := hasLastWant } := by
  have pends : Pends { record with
      accepted := some direction, pendingState := direction, hasLastWant := hasLastWant } :=
    ⟨rfl, known⟩
  cases phase with
  | loading loading => exact .loading { loading with pends }
  | foregrounding transaction which flight ready state =>
    exact .foregrounding transaction which flight ready state pends alive
  | backgrounding transaction which flight ready state =>
    exact .backgrounding transaction which flight ready state pends alive
  | delayed flight ready state => exact .delayed flight ready state pends alive
  | settled _ _ pending => exact absurd pending unsettled
  | closing _ _ _ _ _ _ closed | terminating _ _ _ _ closed =>
    rw [closed] at alive
    cases alive

theorem Phase.alive_of_inSessionMap (phase : record.Phase) (present : record.inSessionMap = true) :
    record.isTerminating = false := by
  cases phase with
  | loading loading => exact loading.alive
  | foregrounding _ _ _ _ _ _ alive | backgrounding _ _ _ _ _ _ alive => exact alive
  | delayed _ _ _ _ alive => exact alive
  | settled _ _ _ _ _ alive => exact alive
  | closing _ _ _ _ _ _ _ away | terminating _ _ _ _ _ away =>
    rw [away] at present
    cases present

theorem Pends.unsettled (pends : record.Pends) : record.pendingState ≠ .initial := by
  rcases pends.direction with foreground | background
  · simp [foreground]
  · simp [background]

theorem Phase.settled_of_initial (phase : record.Phase) (pending : record.pendingState = .initial)
    (alive : record.isTerminating = false) :
    record.inFlight = [] ∧ record.isReady = true ∧
      (record.currentState = .foreground ∨ record.currentState = .background) ∧
        record.accepted = some record.currentState := by
  cases phase with
  | loading loading => exact absurd pending loading.pends.unsettled
  | foregrounding _ _ _ _ _ pends | backgrounding _ _ _ _ _ pends =>
    exact absurd pending pends.unsettled
  | delayed _ _ _ pends => exact absurd pending pends.unsettled
  | settled idle ready _ accepted state => exact ⟨idle, ready, state, accepted⟩
  | closing _ _ _ _ _ _ closed | terminating _ _ _ _ closed =>
    rw [closed] at alive
    cases alive

theorem Phase.toForegrounding (pends : record.Pends) (ready : record.isReady = true)
    (idle : record.inFlight = []) (alive : record.isTerminating = false) :
    record.foregroundAbility.Phase ∧ record.moveToForeground.Phase :=
  ⟨.foregrounding .foregroundNew (.inr rfl) (by simp [foregroundAbility, post, idle]) ready rfl
      ⟨pends.accepted, pends.direction⟩ alive,
    .foregrounding .moveToForeground (.inl rfl) (by simp [moveToForeground, post, idle]) ready rfl
      ⟨pends.accepted, pends.direction⟩ alive⟩

theorem Phase.toBackgrounding (pends : record.Pends) (ready : record.isReady = true)
    (idle : record.inFlight = []) (alive : record.isTerminating = false) :
    record.moveToBackground.Phase :=
  .backgrounding .backgroundNew (.inl rfl) (by simp [moveToBackground, post, idle]) ready rfl
    ⟨pends.accepted, pends.direction⟩ alive

theorem Phase.processForegroundAbility (pends : record.Pends) (ready : record.isReady = true)
    (idle : record.inFlight = []) (alive : record.isTerminating = false) :
    record.processForegroundAbility.Phase := by
  unfold UIAbilityRecord.processForegroundAbility
  rw [if_neg (by simp [ready])]
  split
  · exact (Phase.toForegrounding pends ready idle alive).1
  · have unmarked : Pends { record with isPrelaunch := false } := ⟨pends.accepted, pends.direction⟩
    exact (Phase.toForegrounding unmarked ready idle alive).2

theorem processForegroundAbility_nativeState :
    record.processForegroundAbility.nativeState = record.nativeState := by
  unfold UIAbilityRecord.processForegroundAbility
  split
  · rfl
  · split
    · rfl
    · rfl

theorem Coherent.start (sound : record.Coherent) (request : StartRequest)
    (keeps : record.KeepsPending (.startUIAbility request)) :
    (record.startUIAbility request).Coherent := by
  unfold startUIAbility
  split
  · exact sound
  next present =>
    rw [Bool.or_eq_true, Bool.not_eq_true', Bool.not_eq_true', not_or, Bool.not_eq_false,
      Bool.not_eq_false] at present
    have alive := sound.phase.alive_of_inSessionMap present.1
    split
    · exact sound
    next effective =>
      rw [Bool.or_eq_true, not_or, Bool.not_eq_true, Bool.not_eq_true] at effective
      split
      next cold =>
        have unsettled := keeps present.1 present.2 effective.1 effective.2 cold
        exact ⟨sound.native, sound.phase.redirect unsettled alive (.inl rfl) record.hasLastWant⟩
      · by_cases pending : record.pendingState = .initial
        · obtain ⟨idle, ready, -⟩ := sound.phase.settled_of_initial pending alive
          have admitted : record.checkStartPendingState request.requestId = true := by
            simp [checkStartPendingState, pending]
          rw [admitted]
          exact ⟨processForegroundAbility_nativeState.trans_ne sound.native,
            .processForegroundAbility ⟨rfl, .inl rfl⟩ ready idle alive⟩
        · have dropped : record.checkStartPendingState request.requestId = false := by
            simp [checkStartPendingState, pending, sound.native]
          rw [dropped]
          exact ⟨sound.native, sound.phase.redirect pending alive (.inl rfl) _⟩

theorem Coherent.changeVisibility (sound : record.Coherent) (isShow : Bool) :
    (record.changeUIAbilityVisibilityBySCB isShow).Coherent := by
  unfold changeUIAbilityVisibilityBySCB
  split
  · exact sound
  next shown =>
    rw [Bool.or_eq_true, Bool.not_eq_true', not_or, Bool.not_eq_false] at shown
    have alive := sound.phase.alive_of_inSessionMap shown.1
    dsimp only
    split
    next pending =>
      exact ⟨sound.native, sound.phase.redirect pending alive (.inl rfl) record.hasLastWant⟩
    next pending =>
      obtain ⟨idle, ready, -⟩ := sound.phase.settled_of_initial (not_not.mp pending) alive
      exact ⟨processForegroundAbility_nativeState.trans_ne sound.native,
        .processForegroundAbility ⟨rfl, .inl rfl⟩ ready idle alive⟩

theorem minimizeUIAbility_of_unsettled (pending : record.pendingState ≠ .initial) :
    record.minimizeUIAbility =
      { record with accepted := some .background, pendingState := .background } := by
  simp [minimizeUIAbility, pending]

theorem Phase.minimize (phase : record.Phase) : record.minimizeUIAbility.Phase := by
  have unsettled (pends : record.Pends) (alive : record.isTerminating = false) :
      record.minimizeUIAbility.Phase := by
    rw [minimizeUIAbility_of_unsettled pends.unsettled]
    exact phase.redirect pends.unsettled alive (.inr rfl) record.hasLastWant
  cases phase with
  | loading loading => exact unsettled loading.pends loading.alive
  | foregrounding _ _ _ _ _ pends alive | backgrounding _ _ _ _ _ pends alive =>
    exact unsettled pends alive
  | delayed _ _ _ pends alive => exact unsettled pends alive
  | settled idle ready pending accepted state alive =>
    rcases state with foreground | background
    · have moved : record.minimizeUIAbility =
          { record with
            accepted := some .background, pendingState := .background }.moveToBackground := by
        simp [minimizeUIAbility, pending, foreground]
      rw [moved]
      exact .toBackgrounding ⟨rfl, .inr rfl⟩ ready idle alive
    · have stays : record.minimizeUIAbility = { record with accepted := some .background } := by
        simp [minimizeUIAbility, pending, background]
      rw [stays]
      exact .settled idle ready pending (congrArg some background.symm) (.inr background) alive
  | closing transaction which flight ready state pending closed away =>
    rw [minimizeUIAbility_of_unsettled (by simp [pending])]
    exact .closing transaction which flight ready state rfl closed away
  | terminating idle ready state pending closed away =>
    have stays : record.minimizeUIAbility = { record with accepted := some .background } := by
      simp [minimizeUIAbility, pending, state]
    rw [stays]
    exact .terminating idle ready state pending closed away

theorem Coherent.minimize (sound : record.Coherent) : record.minimizeUIAbility.Coherent := by
  refine ⟨?_, sound.phase.minimize⟩
  unfold minimizeUIAbility
  dsimp only
  split
  · exact sound.native
  · split
    · exact sound.native
    · exact sound.native

theorem Coherent.attach (sound : record.Coherent) (toBackground : Bool) :
    (record.attachAbilityThread toBackground).Coherent := by
  unfold attachAbilityThread
  split
  · exact sound
  next unready =>
    rw [Bool.or_eq_true, not_or, Bool.not_eq_true, Bool.not_eq_true] at unready
    have native : { record with isReady := true }.attachNative.nativeState ≠ .onForeground := by
      unfold attachNative
      split
      · nofun
      · exact sound.native
    have loading : record.Loading := by
      cases sound.phase with
      | loading loading => exact loading
      | foregrounding _ _ _ ready | backgrounding _ _ _ ready | closing _ _ _ ready
      | delayed _ ready | settled _ ready | terminating _ ready =>
        rw [ready] at unready
        cases unready.2
    have fields : { record with isReady := true }.attachNative.Pends ∧
        { record with isReady := true }.attachNative.isReady = true ∧
        { record with isReady := true }.attachNative.inFlight = [] ∧
        { record with isReady := true }.attachNative.isTerminating = false := by
      have pends : Pends { record with isReady := true } :=
        ⟨loading.pends.accepted, loading.pends.direction⟩
      unfold attachNative
      split
      · exact ⟨⟨pends.accepted, pends.direction⟩, rfl, loading.idle, loading.alive⟩
      · exact ⟨pends, rfl, loading.idle, loading.alive⟩
    obtain ⟨pends, ready, idle, alive⟩ := fields
    split
    · exact ⟨native, .toBackgrounding pends ready idle alive⟩
    · exact ⟨native, (Phase.toForegrounding pends ready idle alive).2⟩

variable {transaction : Transaction}

theorem Phase.of_foreground (phase : record.Phase)
    (which : transaction = .moveToForeground ∨ transaction = .foregroundNew)
    (flight : transaction ∈ record.inFlight) :
    record.inFlight = [transaction] ∧ record.isReady = true ∧ record.currentState = .foregrounding ∧
      record.Pends ∧ record.isTerminating = false := by
  cases phase with
  | loading loading => simp [loading.idle] at flight
  | settled idle | terminating idle => simp [idle] at flight
  | foregrounding other _ flight' ready state pends alive =>
    rw [flight', mem_singleton] at flight
    rw [flight]
    exact ⟨flight', ready, state, pends, alive⟩
  | backgrounding other other_which flight' | closing other other_which flight' =>
    rw [flight', mem_singleton] at flight
    rcases which with rfl | rfl <;> rcases other_which with rfl | rfl <;> cases flight
  | delayed flight' =>
    rw [flight', mem_singleton] at flight
    rcases which with rfl | rfl <;> cases flight

theorem Phase.of_background (phase : record.Phase)
    (which : transaction = .backgroundNew ∨ transaction = .completeBackground)
    (flight : transaction ∈ record.inFlight) :
    record.inFlight = [transaction] ∧ record.isReady = true ∧ record.currentState = .backgrounding ∧
      (record.isTerminating = false ∧ record.Pends ∨
        record.isTerminating = true ∧ record.inSessionMap = false ∧
          record.pendingState = .background) := by
  cases phase with
  | loading loading => simp [loading.idle] at flight
  | settled idle | terminating idle => simp [idle] at flight
  | foregrounding other other_which flight' =>
    rw [flight', mem_singleton] at flight
    rcases which with rfl | rfl <;> rcases other_which with rfl | rfl <;> cases flight
  | backgrounding other _ flight' ready state pends alive =>
    rw [flight', mem_singleton] at flight
    rw [flight]
    exact ⟨flight', ready, state, .inl ⟨alive, pends⟩⟩
  | closing other _ flight' ready state pending closed away =>
    rw [flight', mem_singleton] at flight
    rw [flight]
    exact ⟨flight', ready, state, .inr ⟨closed, away, pending⟩⟩
  | delayed flight' =>
    rw [flight', mem_singleton] at flight
    rcases which with rfl | rfl <;> cases flight

theorem Phase.of_delayed (phase : record.Phase) (flight : .delayedBackground ∈ record.inFlight) :
    record.inFlight = [.delayedBackground] ∧ record.isReady = true ∧ record.Pends ∧
      record.isTerminating = false := by
  cases phase with
  | loading loading => simp [loading.idle] at flight
  | settled idle | terminating idle => simp [idle] at flight
  | foregrounding other other_which flight' | backgrounding other other_which flight'
  | closing other other_which flight' =>
    rw [flight', mem_singleton] at flight
    rcases other_which with rfl | rfl <;> cases flight
  | delayed flight' ready _ pends alive => exact ⟨flight', ready, pends, alive⟩

def ended (record : UIAbilityRecord) (transaction : Transaction) : UIAbilityRecord :=
  { record with inFlight := record.inFlight.erase transaction }

theorem finish_of_flight (flight : transaction ∈ record.inFlight)
    (handle : UIAbilityRecord -> UIAbilityRecord) :
    record.finish transaction handle = handle (record.ended transaction) := if_pos flight

theorem Coherent.finish (sound : record.Coherent) {handle : UIAbilityRecord -> UIAbilityRecord}
    (handled : transaction ∈ record.inFlight -> (handle (record.ended transaction)).Coherent) :
    (record.finish transaction handle).Coherent := by
  by_cases flight : transaction ∈ record.inFlight
  · rw [finish_of_flight flight]
    exact handled flight
  · unfold UIAbilityRecord.finish
    rw [if_neg flight]
    exact sound

theorem updateWantByLastWant_fst : ∃ hasLastWant shouldUpdateWant,
    record.updateWantByLastWant.1 =
      { record with hasLastWant := hasLastWant, shouldUpdateWant := shouldUpdateWant } := by
  unfold updateWantByLastWant
  split
  · exact ⟨record.hasLastWant, record.shouldUpdateWant, rfl⟩
  · split
    · exact ⟨record.hasLastWant, false, rfl⟩
    · exact ⟨false, false, rfl⟩

section

variable (native : record.nativeState ≠ .onForeground)
include native

theorem Coherent.onAbilityRequestDone (pends : record.Pends) (ready : record.isReady = true)
    (idle : record.inFlight = [])
    (alive : record.isTerminating = false) : record.onAbilityRequestDone.Coherent := by
  obtain ⟨hasLastWant, shouldUpdateWant, same⟩ := @updateWantByLastWant_fst record
  unfold UIAbilityRecord.onAbilityRequestDone
  rw [same]
  have moved : Pends { record with
      hasLastWant := hasLastWant, shouldUpdateWant := shouldUpdateWant } :=
    ⟨pends.accepted, pends.direction⟩
  exact ⟨native, (Phase.toForegrounding moved ready idle alive).1⟩

theorem Coherent.completeForegroundSuccess (pends : record.Pends) (ready : record.isReady = true)
    (idle : record.inFlight = [])
    (alive : record.isTerminating = false) : record.completeForegroundSuccess.Coherent := by
  unfold UIAbilityRecord.completeForegroundSuccess
  obtain ⟨hasLastWant, shouldUpdateWant, same⟩ :=
    @updateWantByLastWant_fst { record with currentState := .foreground, shouldUpdateWant := true }
  have moved : Pends { record with
      currentState := .foreground, hasLastWant := hasLastWant
      shouldUpdateWant := shouldUpdateWant } := ⟨pends.accepted, pends.direction⟩
  split
  next updated found =>
    rw [show updated = _ from (congrArg Prod.fst found).symm.trans same]
    exact ⟨native, (Phase.toForegrounding moved ready idle alive).1⟩
  next updated found =>
    rw [show updated = _ from (congrArg Prod.fst found).symm.trans same]
    split
    next background =>
      split
      · exact ⟨native, .delayed (by simp [post, idle]) ready rfl ⟨pends.accepted, pends.direction⟩
          alive⟩
      · exact ⟨native, .toBackgrounding moved ready idle alive⟩
    next notBackground =>
      have foreground : record.pendingState = .foreground :=
        pends.direction.resolve_right notBackground
      rw [if_pos foreground]
      exact ⟨native,
        .settled idle ready rfl (pends.accepted.trans (congrArg some foreground)) (.inl rfl) alive⟩

theorem Coherent.handleForegroundFailed (ready : record.isReady = true)
    (idle : record.inFlight = []) :
    record.handleForegroundFailed.Coherent :=
  ⟨native, .closing .backgroundNew (.inl rfl) (by simp [UIAbilityRecord.handleForegroundFailed,
    moveToBackground, post, idle]) ready rfl rfl rfl rfl⟩

theorem Coherent.dispatchForeground (pends : record.Pends) (ready : record.isReady = true)
    (idle : record.inFlight = []) (alive : record.isTerminating = false)
    (state : record.currentState = .foregrounding) {answer : ForegroundAnswer}
    (unfrozen : answer ≠ .foregroundWindowFreezed)
    (unattached : record.nativeState ≠ .attached) : (record.dispatchForeground answer).Coherent := by
  unfold UIAbilityRecord.dispatchForeground
  rw [if_neg (not_not.mpr state), if_neg unattached, if_neg native]
  cases answer with
  | foreground => exact .completeForegroundSuccess native pends ready idle alive
  | foregroundWindowFreezed => exact absurd rfl unfrozen
  | foregroundFailed => exact .handleForegroundFailed native ready idle
  | foregroundInvalidMode => exact .handleForegroundFailed native ready idle

end

theorem step_foregroundDone (answer : ForegroundAnswer) :
    record.step (.foregroundDone answer) =
      record.finish .foregroundNew fun record => record.dispatchForeground answer := rfl

theorem Coherent.foregroundDone (sound : record.Coherent) (answer : ForegroundAnswer)
    (keeps : record.KeepsPending (.foregroundDone answer)) :
    (record.step (.foregroundDone answer)).Coherent := by
  rw [step_foregroundDone]
  refine Coherent.finish sound fun flight => ?_
  obtain ⟨alone, ready, state, pends, alive⟩ := sound.phase.of_foreground (.inr rfl) flight
  obtain ⟨unfrozen, unattached⟩ := keeps flight
  have idle : (record.ended .foregroundNew).inFlight = [] := by simp [ended, alone]
  have kept : (record.ended .foregroundNew).Pends := ⟨pends.accepted, pends.direction⟩
  have native : (record.ended .foregroundNew).nativeState ≠ .onForeground := sound.native
  exact Coherent.dispatchForeground native kept ready idle alive state unfrozen unattached

theorem dispatchBackground_of_backgrounding (state : record.currentState = .backgrounding) :
    record.dispatchBackground = record.post .completeBackground := by
  simp [dispatchBackground, state]

theorem Coherent.backgroundDone (sound : record.Coherent) :
    (record.step .backgroundDone).Coherent := by
  refine Coherent.finish sound fun flight => ?_
  obtain ⟨alone, ready, state, rest⟩ := sound.phase.of_background (.inl rfl) flight
  have posted : ((record.ended .backgroundNew).post .completeBackground).inFlight =
      [.completeBackground] := by simp [ended, post, alone]
  rw [dispatchBackground_of_backgrounding (show (record.ended _).currentState = _ from state)]
  rcases rest with ⟨alive, pends⟩ | ⟨closed, away, pending⟩
  · exact ⟨sound.native, .backgrounding .completeBackground (.inr rfl) posted ready state
      ⟨pends.accepted, pends.direction⟩ alive⟩
  · exact ⟨sound.native,
      .closing .completeBackground (.inr rfl) posted ready state pending closed away⟩

theorem completeBackground_of_foreground (state : record.currentState = .backgrounding)
    (pending : record.pendingState = .foreground) (alive : record.isTerminating = false) :
    record.completeBackground =
      { record with
        currentState := .background, shouldUpdateWant := record.hasLastWant }.moveToForeground := by
  simp [completeBackground, state, pending, alive, moveToForeground, post]

theorem completeBackground_of_background (state : record.currentState = .backgrounding)
    (pending : record.pendingState = .background) :
    record.completeBackground =
      { record with
        currentState := if record.isTerminating then .terminating else .background
        pendingState := .initial, hasLastWant := false } := by
  cases closed : record.isTerminating with
  | false => simp [completeBackground, state, pending, closed]
  | true => simp [completeBackground, state, pending, closed]

theorem Coherent.completeBackground_of_pends (native : record.nativeState ≠ .onForeground)
    (pends : record.Pends) (ready : record.isReady = true) (idle : record.inFlight = [])
    (alive : record.isTerminating = false) (state : record.currentState = .backgrounding) :
    record.completeBackground.Coherent := by
  rcases pends.direction with foreground | background
  · rw [completeBackground_of_foreground state foreground alive]
    have moved : Pends { record with
        currentState := .background, shouldUpdateWant := record.hasLastWant } :=
      ⟨pends.accepted, pends.direction⟩
    exact ⟨native, (Phase.toForegrounding moved ready idle alive).2⟩
  · rw [completeBackground_of_background state background, if_neg (by simp [alive])]
    exact ⟨native, .settled idle ready rfl (pends.accepted.trans (congrArg some background))
      (.inr rfl) alive⟩

section

variable (sound : record.Coherent)
include sound

theorem Coherent.completeBackground : (record.step .completeBackground).Coherent := by
  refine Coherent.finish sound fun flight => ?_
  obtain ⟨alone, ready, state, rest⟩ := sound.phase.of_background (.inr rfl) flight
  have idle : (record.ended .completeBackground).inFlight = [] := by simp [ended, alone]
  rcases rest with ⟨alive, pends⟩ | ⟨closed, away, pending⟩
  · exact .completeBackground_of_pends sound.native ⟨pends.accepted, pends.direction⟩ ready idle
      alive state
  · rw [completeBackground_of_background (show (record.ended _).currentState = _ from state)
      (show (record.ended _).pendingState = _ from pending)]
    exact ⟨sound.native, .terminating idle ready (if_pos closed) rfl closed away⟩

theorem Coherent.delayedBackground : (record.step .delayedBackground).Coherent := by
  refine Coherent.finish sound fun flight => ?_
  obtain ⟨alone, ready, pends, alive⟩ := sound.phase.of_delayed flight
  have idle : (record.ended .delayedBackground).inFlight = [] := by simp [ended, alone]
  exact ⟨sound.native, .toBackgrounding ⟨pends.accepted, pends.direction⟩ ready idle alive⟩

theorem Coherent.step (call : LifecycleCall)
    (keeps : record.KeepsPending call) : (record.step call).Coherent := by
  cases call with
  | attachAbilityThread toBackground => exact sound.attach toBackground
  | startUIAbility request => exact sound.start request keeps
  | minimizeUIAbility => exact sound.minimize
  | changeUIAbilityVisibilityBySCB isShow => exact sound.changeVisibility isShow
  | onAbilityRequestDone =>
    refine Coherent.finish sound fun flight => ?_
    obtain ⟨alone, ready, -, pends, alive⟩ := sound.phase.of_foreground (.inl rfl) flight
    have idle : (record.ended .moveToForeground).inFlight = [] := by simp [ended, alone]
    exact .onAbilityRequestDone sound.native ⟨pends.accepted, pends.direction⟩ ready idle alive
  | foregroundDone answer => exact sound.foregroundDone answer keeps
  | backgroundDone => exact sound.backgroundDone
  | completeBackground => exact sound.completeBackground
  | delayedBackground => exact sound.delayedBackground

theorem Coherent.keeps_foregroundDone {answer : ForegroundAnswer}
    (settled : (record.step (.foregroundDone answer)).Settled) :
    record.KeepsPending (.foregroundDone answer) := by
  intro flight
  obtain ⟨alone, ready, state, pends, -⟩ := sound.phase.of_foreground (.inr rfl) flight
  have idle : (record.ended .foregroundNew).inFlight = [] := by simp [ended, alone]
  have foregrounding : (record.ended .foregroundNew).currentState = .foregrounding := state
  rw [step_foregroundDone, finish_of_flight flight] at settled
  unfold UIAbilityRecord.dispatchForeground at settled
  rw [if_neg (not_not.mpr foregrounding)] at settled
  have unattached : record.nativeState ≠ .attached := by
    intro attached
    rw [if_pos (show (record.ended _).nativeState = _ from attached)] at settled
    exact pends.unsettled (settled ready idle).1
  rw [if_neg (show (record.ended _).nativeState ≠ _ from unattached),
    if_neg (show (record.ended _).nativeState ≠ _ from sound.native)] at settled
  refine ⟨fun freezed => ?_, unattached⟩
  rw [freezed] at settled
  exact pends.unsettled (settled ready idle).1

theorem Coherent.keeps_start {request : StartRequest}
    (settled : (record.step (.startUIAbility request)).Settled) :
    record.KeepsPending (.startUIAbility request) := by
  intro present valid ordinary fresh cold pending
  have alive := sound.phase.alive_of_inSessionMap present
  obtain ⟨idle, ready, -⟩ := sound.phase.settled_of_initial pending alive
  have left : record.step (.startUIAbility request) =
      { record with accepted := some .foreground, pendingState := .foreground } := by
    simp [UIAbilityRecord.step, startUIAbility, present, valid, ordinary, fresh, cold]
  rw [left] at settled
  cases (settled ready idle).1

theorem Coherent.keeps {call : LifecycleCall}
    (settled : (record.step call).Settled) : record.KeepsPending call := by
  cases call with
  | foregroundDone answer => exact sound.keeps_foregroundDone settled
  | startUIAbility request => exact sound.keeps_start settled
  | attachAbilityThread _ | minimizeUIAbility | changeUIAbilityVisibilityBySCB _
  | onAbilityRequestDone | backgroundDone | completeBackground | delayedBackground => trivial

end

instance decidableKeepsPending (record : UIAbilityRecord) :
    ∀ call, Decidable (record.KeepsPending call)
  | .foregroundDone _ => inferInstanceAs (Decidable (_ ∈ _ -> _ ∧ _))
  | .startUIAbility _ => inferInstanceAs (Decidable (_ -> _ -> _ -> _ -> _ -> _ ≠ _))
  | .attachAbilityThread _ | .minimizeUIAbility | .changeUIAbilityVisibilityBySCB _
  | .onAbilityRequestDone | .backgroundDone | .completeBackground | .delayedBackground =>
    isTrue trivial

end UIAbilityRecord

open UIAbilityRecord

/-- Abilities follow their last request exactly when no branch forgets the pending state. -/
theorem uiAbility_settled_iff (record : UIAbilityRecord) (loading : record.Loading)
    (native : record.nativeState ≠ .onForeground) (calls : List LifecycleCall) :
    (uiAbility record).Throughout calls Settled ↔ (uiAbility record).EveryStep calls KeepsPending :=
  @Machine.throughout_iff_everyStep _ _ (uiAbility record) (fun _ _ => True) KeepsPending Coherent
    Settled ⟨native, .loading loading⟩ (fun _ call sound _ keeps => sound.step call keeps)
    (fun _ sound => sound.phase.settles) (fun _ _ sound _ settled => sound.keeps settled)
    calls fun _ _ _ _ => trivial

theorem uiAbility_settled_iff_minimized :
    (uiAbility {}).Throughout
      [.attachAbilityThread false, .onAbilityRequestDone, .minimizeUIAbility,
        .foregroundDone .foreground, .backgroundDone, .completeBackground, .startUIAbility {},
        .onAbilityRequestDone, .foregroundDone .foreground] Settled :=
  (uiAbility_settled_iff {}
    ⟨rfl, rfl, rfl, ⟨rfl, .inl rfl⟩, rfl⟩ nofun _).mpr (Machine.StepsFrom.everyStep (by decide))

theorem windowFreezed_drops_start :
    ¬(uiAbility {}).Throughout
        [.attachAbilityThread false, .onAbilityRequestDone,
          .foregroundDone .foregroundWindowFreezed, .startUIAbility {}] Settled ∧
      ((uiAbility {}).run [.attachAbilityThread false, .onAbilityRequestDone,
        .foregroundDone .foregroundWindowFreezed, .startUIAbility {}]).inFlight = [] := by
  refine ⟨fun throughout => ?_, by decide⟩
  have settled := throughout _ [] (by simp; rfl)
  exact absurd (settled rfl rfl).1 (by decide)

end AbilityRuntime.SceneBoard
