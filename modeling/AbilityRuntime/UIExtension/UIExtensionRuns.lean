import AbilityRuntime.UIExtension.UIExtensionAbilityManager

set_option autoImplicit false

namespace AbilityRuntime.UIExtension

open Library UIExtensionRecord AList Nat List

def RequestKind.target : RequestKind -> AbilityState
  | .start => .foreground
  | .background => .background

namespace UIExtensionRecord

variable {Want : Type} (record : UIExtensionRecord Want)

structure Quiet : Prop where
  isLoading : record.isLoading = false
  movesToForeground : record.movesToForeground = 0
  foregrounds : record.foregrounds = 0
  backgrounds : record.backgrounds = 0
  windowCommands : record.windowCommands = []
  startServiceReqList : record.startServiceReqList = []

/-- With nothing left to do the last request is answered. -/
structure Good : Prop where
  pendingState : record.Quiet -> record.pendingState = .initial
  abilityState : record.Quiet -> ∀ last ∈ record.lastRequest, record.abilityState = last.target
  deferred : record.startServiceReqList ≠ [] -> record.lastRequest = some .start

/-- A request to go to the background finds no start that it could drop. -/
def Keeps : UIExtensionStep Want -> Prop
  | .startAbility _ _ | .attachAbilityThread => True
  | .minimizeUIExtensionAbility sessionToken =>
    sessionToken ∈ record.uiExtensionMap ->
      record.startServiceReqList = [] ∧
        (record.abilityState = .background -> record.movesToForeground ≠ 0)
  | .onAbilityRequestDone =>
    record.movesToForeground ≠ 0 -> record.abilityState = .background ->
      record.pendingState ≠ .initial
  | .completeForeground allows | .completeBackground allows
  | .scheduleCommandAbilityWindowDone _ allows =>
    ∀ request ∈ record.startServiceReqList, allows request = true

def Aimed (isLeft : Bool) : Prop :=
  record.pendingState = .foreground ∧ record.lastRequest = some .start ∨
    record.pendingState = .background ∧
      (record.lastRequest = some .background ∨ record.startServiceReqList ≠ [] ∨ isLeft = true)

def Leads (isLeft : Bool) : Prop :=
  match record.abilityState with
  | .initial =>
    (record.isLoading = true ∨ 0 < record.movesToForeground) ∧ record.Aimed isLeft ∧
      (record.backgroundAbilityWindowDelayed = true -> record.pendingState = .background)
  | .inactive =>
    record.startServiceReqList = [] ∧ record.backgroundAbilityWindowDelayed = false ∧
      (record.pendingState = .initial ∧
          (record.lastRequest = none ∧ record.uiExtensionMap = [] ∧ record.movesToForeground = 0 ∨
            isLeft = true) ∨
        0 < record.movesToForeground ∧ record.Aimed isLeft)
  | .foregrounding =>
    0 < record.foregrounds ∧
      (record.backgroundAbilityWindowDelayed = true -> record.pendingState = .background) ∧
      (record.pendingState = .initial ∧ record.lastRequest = some .start ∨ record.Aimed isLeft)
  | .foreground =>
    record.startServiceReqList = [] ∧ record.backgroundAbilityWindowDelayed = false ∧
      record.pendingState = .initial ∧ record.lastRequest = some .start
  | .backgrounding =>
    0 < record.backgrounds ∧ record.backgroundAbilityWindowDelayed = false ∧
      record.pendingState = .background ∧
      (record.lastRequest = some .background ∨ record.startServiceReqList ≠ [] ∨ isLeft = true)
  | .background =>
    record.startServiceReqList = [] ∧ record.backgroundAbilityWindowDelayed = false ∧
      (record.pendingState = .initial ∧ (record.lastRequest = some .background ∨ isLeft = true) ∨
        0 < record.movesToForeground ∧ record.Aimed isLeft)
  | .inactivating => False

structure Coherent (isLeft : Bool) : Prop where
  ready : record.isReady = !record.isLoading
  loads : record.isLoading = true -> record.abilityState = .initial ∧ record.movesToForeground = 0
  windows : ∀ item ∈ record.abilityWindowStateMap.entries,
    item.2 ≠ .backgrounding ∧ item.2 ≠ .terminating
  commands : ∀ command ∈ record.windowCommands, command.2 = .foreground
  session : record.sessionInfo = none -> record.lastRequest = none ∧ record.uiExtensionMap = []
  deferred : record.startServiceReqList ≠ [] ∨ isLeft = true -> record.lastRequest = some .start
  leads : record.Leads isLeft

variable {record} {isLeft : Bool}

theorem Coherent.windowReady (sound : record.Coherent isLeft) :
    record.isAbilityWindowReady = true := by
  unfold isAbilityWindowReady
  rw [all_eq_true]
  intro item present
  have open' := sound.windows item present
  simp [open'.1, open'.2]

theorem Aimed.left (aimed : record.Aimed false) : record.Aimed true :=
  aimed.imp id (fun pending => ⟨pending.1, .inr (.inr rfl)⟩)

theorem Leads.left (leads : record.Leads false) : record.Leads true := by
  unfold Leads at leads ⊢
  split
  next state =>
    rw [state] at leads
    exact ⟨leads.1, leads.2.1.left, leads.2.2⟩
  next state =>
    rw [state] at leads
    refine ⟨leads.1, leads.2.1, leads.2.2.imp ?_ ?_⟩
    · exact fun idle => ⟨idle.1, .inr rfl⟩
    · exact fun moving => ⟨moving.1, moving.2.left⟩
  next state =>
    rw [state] at leads
    exact ⟨leads.1, leads.2.1, leads.2.2.imp id Aimed.left⟩
  next state =>
    rw [state] at leads
    exact leads
  next state =>
    rw [state] at leads
    exact ⟨leads.1, leads.2.1, leads.2.2.1, .inr (.inr rfl)⟩
  next state =>
    rw [state] at leads
    refine ⟨leads.1, leads.2.1, leads.2.2.imp ?_ ?_⟩
    · exact fun idle => ⟨idle.1, .inr rfl⟩
    · exact fun moving => ⟨moving.1, moving.2.left⟩
  next state =>
    rw [state] at leads
    exact leads

theorem Coherent.left (sound : record.Coherent false)
    (started : record.lastRequest = some .start) : record.Coherent true where
  __ := sound
  deferred _ := started
  leads := sound.leads.left

def starting (record : UIExtensionRecord Want) (session : SessionInfo) : UIExtensionRecord Want :=
  { record with
    backgroundAbilityWindowDelayed := false
    sessionInfo := some session
    uiExtensionMap := record.uiExtensionMap.insert session.sessionToken }

theorem Aimed.startRequest (aimed : record.Aimed isLeft) :
    { record with lastRequest := some .start }.Aimed true :=
  aimed.imp (fun pending => ⟨pending.1, rfl⟩) (fun pending => ⟨pending.1, .inr (.inr rfl)⟩)

theorem Coherent.startRequest (sound : record.Coherent isLeft) (session : SessionInfo) :
    ({ record with lastRequest := some .start }.starting session).Coherent true := by
  refine { sound with session := nofun, deferred := fun _ => rfl, leads := ?_ }
  have leads := sound.leads
  unfold Leads at leads ⊢
  obtain ⟨current, state⟩ : ∃ current, record.abilityState = current := ⟨_, rfl⟩
  cases current <;> simp only [starting, state] at leads ⊢
  case initial => exact ⟨leads.1, leads.2.1.startRequest, nofun⟩
  case inactive =>
    refine ⟨leads.1, trivial, leads.2.2.imp ?_ ?_⟩
    · exact fun idle => ⟨idle.1, .inr trivial⟩
    · exact fun moving => ⟨moving.1, moving.2.startRequest⟩
  case foregrounding =>
    exact ⟨leads.1, nofun, leads.2.2.imp (fun idle => ⟨idle.1, trivial⟩) Aimed.startRequest⟩
  case foreground => exact ⟨leads.1, trivial, leads.2.2.1, trivial⟩
  case backgrounding => exact ⟨leads.1, trivial, leads.2.2.1, .inr (.inr trivial)⟩
  case background =>
    refine ⟨leads.1, trivial, leads.2.2.imp ?_ ?_⟩
    · exact fun idle => ⟨idle.1, .inr trivial⟩
    · exact fun moving => ⟨moving.1, moving.2.startRequest⟩

theorem Aimed.enqueue (aimed : record.Aimed true) (request : AbilityRequest Want) :
    (record.enqueueStartServiceReq request).Aimed false :=
  aimed.imp id (fun pending =>
    ⟨pending.1, .inr (.inl (append_ne_nil_of_right_ne_nil _ (cons_ne_nil _ _)))⟩)

theorem Coherent.enqueue (sound : record.Coherent true) (request : AbilityRequest Want)
    (busy : record.abilityState = .initial ∨ record.abilityState = .foregrounding ∨
      record.abilityState = .backgrounding) :
    (record.enqueueStartServiceReq request).Coherent false := by
  refine { sound with deferred := fun _ => sound.deferred (.inr rfl), leads := ?_ }
  have leads := sound.leads
  unfold Leads at leads ⊢
  rcases busy with state | state | state
  · simp only [enqueueStartServiceReq, state] at leads ⊢
    exact ⟨leads.1, leads.2.1.enqueue request, leads.2.2⟩
  · simp only [enqueueStartServiceReq, state] at leads ⊢
    exact ⟨leads.1, leads.2.1, leads.2.2.imp id (fun aimed => aimed.enqueue request)⟩
  · simp only [enqueueStartServiceReq, state] at leads ⊢
    exact ⟨leads.1, leads.2.1, leads.2.2.1,
      .inr (.inl (append_ne_nil_of_right_ne_nil _ (cons_ne_nil _ _)))⟩

theorem Coherent.command (sound : record.Coherent true) (request : AbilityRequest Want)
    (state : record.abilityState = .foreground) :
    ({ record with want := some request.want }.commandAbilityWindow request.sessionInfo
      .foreground).Coherent false := by
  refine ⟨sound.ready, sound.loads, ?windows, ?commands, sound.session,
    fun _ => sound.deferred (.inr rfl), ?leads⟩
  case windows =>
    intro item present
    change item ∈ (insert _ _ record.abilityWindowStateMap).entries at present
    rw [entries_insert, mem_cons] at present
    rcases present with rfl | kept
    · exact ⟨nofun, nofun⟩
    · exact sound.windows item ((kerase_sublist _ _).subset kept)
  case commands =>
    intro command present
    rcases mem_append.1 present with earlier | own
    · exact sound.commands command earlier
    · rw [mem_singleton.1 own]
  case leads =>
    have leads := sound.leads
    unfold Leads at leads ⊢
    simp only [commandAbilityWindow, setAbilityWindowState, state] at leads ⊢
    exact leads

theorem Coherent.aim (sound : record.Coherent true) {after : UIExtensionRecord Want}
    (started : after = { record with
      pendingState := .foreground, want := after.want,
      movesToForeground := after.movesToForeground })
    (moving : 0 < after.movesToForeground) (ready : record.isReady = true)
    (still : record.abilityState = .initial ∨ record.abilityState = .inactive ∨
      record.abilityState = .background)
    (prompt : record.backgroundAbilityWindowDelayed = false) : after.Coherent false := by
  have last := sound.deferred (.inr rfl)
  have aimed : after.Aimed false := by
    rw [started]
    exact .inl ⟨rfl, last⟩
  have leads := sound.leads
  have loaded : ¬record.isLoading = true := by
    have known := sound.ready
    rw [ready] at known
    simpa using known
  rw [started]
  refine { sound with
    loads := fun loading => absurd loading loaded, deferred := fun _ => last, leads := ?_ }
  unfold Leads at leads ⊢
  rw [started] at aimed
  rcases still with state | state | state
  · simp only [state] at leads ⊢
    exact ⟨.inr moving, aimed, fun delayed => by rw [prompt] at delayed; cases delayed⟩
  · simp only [state] at leads ⊢
    exact ⟨leads.1, leads.2.1, .inr ⟨moving, aimed⟩⟩
  · simp only [state] at leads ⊢
    exact ⟨leads.1, leads.2.1, .inr ⟨moving, aimed⟩⟩

theorem Coherent.loaded (sound : record.Coherent isLeft) (state : record.abilityState ≠ .initial) :
    record.isReady = true := by
  rw [sound.ready]
  cases loading : record.isLoading
  case false => rfl
  case true => exact absurd (sound.loads loading).1 state

theorem Coherent.doForegroundUIExtension (sound : record.Coherent true)
    (prompt : record.backgroundAbilityWindowDelayed = false) (request : AbilityRequest Want) :
    (record.doForegroundUIExtension request).Coherent false := by
  have open' := sound.windowReady
  cases state : record.abilityState
  case initial =>
    cases ready : record.isReady
    case false =>
      rw [UIExtensionRecord.doForegroundUIExtension, if_neg (by simp [ready])]
      exact sound.enqueue request (.inl state)
    case true =>
      rw [UIExtensionRecord.doForegroundUIExtension, if_pos (by simp [open', ready, state]),
        if_neg (by simp [state]), if_neg (by simp [state])]
      exact sound.aim rfl (succ_pos _) ready (.inl state) prompt
  case inactive =>
    have ready := sound.loaded (by simp [state])
    rw [UIExtensionRecord.doForegroundUIExtension, if_pos (by simp [open', ready, state]),
      if_neg (by simp [state]), if_neg (by simp [state])]
    exact sound.aim rfl (succ_pos _) ready (.inr (.inl state)) prompt
  case inactivating =>
    have leads := sound.leads
    simp only [Leads, state] at leads
  case foreground =>
    have ready := sound.loaded (by simp [state])
    rw [UIExtensionRecord.doForegroundUIExtension, if_pos (by simp [open', ready, state]),
      if_pos state]
    exact sound.command request state
  case background =>
    have ready := sound.loaded (by simp [state])
    rw [UIExtensionRecord.doForegroundUIExtension, if_pos (by simp [open', ready, state]),
      if_neg (by simp [state])]
    by_cases pending : record.pendingState = .background
    · -- The background request that the start takes back came with a move in flight.
      have leads := sound.leads
      simp only [Leads, state, pending] at leads
      rw [if_pos (by simp [pending, state])]
      rcases leads.2.2 with ⟨idle, -⟩ | ⟨moving, -⟩
      · cases idle
      · exact sound.aim rfl moving ready (.inr (.inr state)) prompt
    · rw [if_neg (by simp [pending])]
      exact sound.aim rfl (succ_pos _) ready (.inr (.inr state)) prompt
  case foregrounding =>
    rw [UIExtensionRecord.doForegroundUIExtension, if_neg (by simp [state])]
    exact sound.enqueue request (.inr (.inl state))
  case backgrounding =>
    rw [UIExtensionRecord.doForegroundUIExtension, if_neg (by simp [state])]
    exact sound.enqueue request (.inr (.inr state))

theorem Coherent.startAbilityLocked (sound : record.Coherent isLeft)
    (request : AbilityRequest Want) :
    ({ record with lastRequest := some .start }.startAbilityLocked request true).Coherent false :=
  (sound.startRequest request.sessionInfo).doForegroundUIExtension rfl request

@[simp] theorem doForegroundUIExtension_lastRequest (request : AbilityRequest Want) :
    (record.doForegroundUIExtension request).lastRequest = record.lastRequest := by
  unfold doForegroundUIExtension
  split
  · split
    · rfl
    · split <;> rfl
  · rfl

@[simp] theorem startAbilityLocked_lastRequest (request : AbilityRequest Want) (isAllowed : Bool) :
    (record.startAbilityLocked request isAllowed).lastRequest = record.lastRequest := by
  cases isAllowed
  case false => rfl
  case true => exact doForegroundUIExtension_lastRequest request

variable {allows : AbilityRequest Want -> Bool}

theorem Coherent.issue (requests : List (AbilityRequest Want))
    (allowed : ∀ request ∈ requests, allows request = true)
    (sound : record.Coherent !requests.isEmpty) :
    (requests.foldl (fun record request => record.startAbilityLocked request (allows request))
      record).Coherent false := by
  induction requests generalizing record with
  | nil => exact sound
  | cons request rest ih =>
    rw [foldl_cons, allowed request (mem_cons_self ..)]
    refine ih (fun later present => allowed later (mem_cons_of_mem _ present)) ?_
    have last := sound.deferred (.inr rfl)
    have issued := sound.startAbilityLocked request
    rw [<- last] at issued
    cases rest with
    | nil => exact issued
    | cons _ _ => exact issued.left ((startAbilityLocked_lastRequest request true).trans last)

def taken (record : UIExtensionRecord Want) : UIExtensionRecord Want :=
  { record with startServiceReqList := [] }

theorem Coherent.completeStartServiceReq
    (allowed : ∀ request ∈ record.startServiceReqList, allows request = true)
    (sound : record.taken.Coherent !record.startServiceReqList.isEmpty) :
    (record.completeStartServiceReq allows).Coherent false :=
  sound.issue record.startServiceReqList allowed

theorem isLeft_iff : (!record.startServiceReqList.isEmpty) = true ↔
    record.startServiceReqList ≠ [] := by
  simp

theorem Aimed.taken (aimed : record.Aimed false) :
    record.taken.Aimed !record.startServiceReqList.isEmpty := by
  refine aimed.imp id (fun pending => ⟨pending.1, ?_⟩)
  rcases pending.2 with last | deferred | none
  · exact .inl last
  · exact .inr (.inr (isLeft_iff.2 deferred))
  · cases none

theorem Coherent.taken (sound : record.Coherent false) :
    record.taken.Coherent !record.startServiceReqList.isEmpty := by
  refine { sound with deferred := ?deferred, leads := ?leads }
  case deferred =>
    rintro (none | left)
    · exact absurd rfl none
    · exact sound.deferred (.inl (isLeft_iff.1 left))
  case leads =>
    have leads := sound.leads
    unfold Leads at leads ⊢
    change match record.abilityState with
      | .initial => _ | .inactive => _ | .foregrounding => _ | .foreground => _
      | .backgrounding => _ | .background => _ | .inactivating => _
    cases state : record.abilityState <;> simp only [state] at leads ⊢
    case initial => exact ⟨leads.1, leads.2.1.taken, leads.2.2⟩
    case inactive =>
      refine ⟨rfl, leads.2.1, leads.2.2.imp ?_ ?_⟩
      · exact fun idle => ⟨idle.1, .inl (idle.2.resolve_right nofun)⟩
      · exact fun moving => ⟨moving.1, moving.2.taken⟩
    case foregrounding => exact ⟨leads.1, leads.2.1, leads.2.2.imp id Aimed.taken⟩
    case foreground => exact ⟨rfl, leads.2⟩
    case backgrounding =>
      refine ⟨leads.1, leads.2.1, leads.2.2.1, ?_⟩
      rcases leads.2.2.2 with last | deferred | none
      · exact .inl last
      · exact .inr (.inr (isLeft_iff.2 deferred))
      · cases none
    case background =>
      refine ⟨rfl, leads.2.1, leads.2.2.imp ?_ ?_⟩
      · exact fun idle => ⟨idle.1, .inl (idle.2.resolve_right nofun)⟩
      · exact fun moving => ⟨moving.1, moving.2.taken⟩

theorem Coherent.requested (sound : record.Coherent false) {kind : RequestKind}
    (last : record.lastRequest = some kind) : record.sessionInfo.isNone = false := by
  cases known : record.sessionInfo
  case some => rfl
  case none =>
    have none := (sound.session known).1
    rw [last] at none
    cases none

theorem respond_background (state : record.abilityState = .foreground)
    (pending : record.pendingState = .background) :
    record.respondPending.respondBackground =
      { record with
        abilityState := .backgrounding
        backgroundAbilityWindowDelayed := false
        backgrounds := record.backgrounds + 1 } := by
  obtain ⟨_, _, _, delayed⟩ := record
  cases state
  cases pending
  cases delayed <;> rfl

theorem respond_initial (prompt : record.backgroundAbilityWindowDelayed = false)
    (pending : record.pendingState = .initial ∨ record.pendingState = .foreground) :
    record.respondPending.respondBackground = { record with pendingState := .initial } := by
  obtain ⟨_, _, _, delayed⟩ := record
  cases prompt
  rcases pending with initial | start
  · cases initial
    rfl
  · cases start
    rfl

theorem Coherent.deferred_taken (sound : record.Coherent false) :
    ([] : List (AbilityRequest Want)) ≠ [] ∨ (!record.startServiceReqList.isEmpty) = true ->
      record.lastRequest = some .start := by
  rintro (none | left)
  · exact absurd rfl none
  · exact sound.deferred (.inl (isLeft_iff.1 left))

theorem Coherent.not_loading (sound : record.Coherent isLeft)
    (state : record.abilityState ≠ .initial) : ¬record.isLoading = true :=
  fun loading => state (sound.loads loading).1

section

variable (sound : record.Coherent false)
include sound

theorem Coherent.stays {foregrounds : Nat} (loaded : ¬record.isLoading = true)
    (allowed : ∀ request ∈ record.startServiceReqList, allows request = true)
    (pending : record.pendingState = .initial ∨ record.pendingState = .foreground)
    (prompt : record.backgroundAbilityWindowDelayed = false)
    (last : record.lastRequest = some .start) :
    ({ record with foregrounds, abilityState := .foreground }.respondPending.respondBackground
      |>.completeStartServiceReq allows).Coherent false := by
  rw [@respond_initial _ { record with foregrounds, abilityState := .foreground } prompt pending]
  exact completeStartServiceReq allowed
    ⟨sound.ready, fun loading => absurd loading loaded, sound.windows, sound.commands,
      sound.session, sound.deferred_taken, rfl, prompt, rfl, last⟩

theorem Coherent.leaves {foregrounds : Nat} (loaded : ¬record.isLoading = true)
    (allowed : ∀ request ∈ record.startServiceReqList, allows request = true)
    (pending : record.pendingState = .background)
    (last : record.lastRequest = some .background ∨ record.startServiceReqList ≠ []) :
    ({ record with foregrounds, abilityState := .foreground }.respondPending.respondBackground
      |>.completeStartServiceReq allows).Coherent false := by
  rw [@respond_background _ { record with foregrounds, abilityState := .foreground } rfl pending]
  exact completeStartServiceReq allowed
    ⟨sound.ready, fun loading => absurd loading loaded, sound.windows, sound.commands,
      sound.session, sound.deferred_taken, succ_pos _, rfl, pending,
      last.imp id (fun waiting => .inr (isLeft_iff.2 waiting))⟩

theorem Coherent.foregrounded (state : record.abilityState = .foregrounding) (foregrounds : Nat)
    (allowed : ∀ request ∈ record.startServiceReqList, allows request = true) :
    ({ record with foregrounds }.completeForeground allows).Coherent false := by
  have leads := sound.leads
  simp only [Leads, state] at leads
  obtain ⟨-, delays, aimed⟩ := leads
  have loaded := sound.not_loading (by simp [state])
  have prompt (pending : record.pendingState ≠ .background) :
      record.backgroundAbilityWindowDelayed = false := by
    cases delayed : record.backgroundAbilityWindowDelayed
    case false => rfl
    case true => exact absurd (delays delayed) pending
  have go {kind : RequestKind} (last : record.lastRequest = some kind) :
      { record with foregrounds }.completeForeground allows =
        ({ record with foregrounds, abilityState := .foreground }.respondPending.respondBackground
          |>.completeStartServiceReq allows) := by
    have requested := sound.requested last
    rw [completeForeground, if_neg (by simp [state]),
      completeForegroundInner, if_neg (by simp [requested])]
  rcases aimed with ⟨initial, last⟩ | ⟨start, last⟩ | ⟨pending, last | waiting | none⟩
  · rw [go last]
    exact sound.stays loaded allowed (.inl initial) (prompt (by simp [initial])) last
  · rw [go last]
    exact sound.stays loaded allowed (.inr start) (prompt (by simp [start])) last
  · rw [go last]
    exact sound.leaves loaded allowed pending (.inl last)
  · rw [go (sound.deferred (.inl waiting))]
    exact sound.leaves loaded allowed pending (.inr waiting)
  · cases none

theorem Coherent.backgrounded (state : record.abilityState = .backgrounding) (backgrounds : Nat)
    (allowed : ∀ request ∈ record.startServiceReqList, allows request = true) :
    ({ record with backgrounds }.completeBackground allows).Coherent false := by
  have leads := sound.leads
  simp only [Leads, state] at leads
  obtain ⟨-, prompt, pending, last⟩ := leads
  have loaded := sound.not_loading (by simp [state])
  have requested : record.sessionInfo.isNone = false := by
    rcases last with last | waiting | none
    · exact sound.requested last
    · exact sound.requested (sound.deferred (.inl waiting))
    · cases none
  rw [completeBackground, if_neg (by simp [state])]
  dsimp only
  rw [if_neg (by simp [requested]), completeBackgroundInner]
  rw [if_neg (by simp [pending]), if_pos pending]
  refine completeStartServiceReq allowed
    ⟨sound.ready, fun loading => absurd loading loaded, sound.windows, sound.commands,
      sound.session, sound.deferred_taken, rfl, prompt, .inl ⟨rfl, ?_⟩⟩
  rcases last with last | waiting | none
  · exact .inl last
  · exact .inr (isLeft_iff.2 waiting)
  · cases none

theorem Coherent.late (foregrounds backgrounds : Nat)
    (foreground : record.abilityState ≠ .foregrounding ∨ foregrounds = record.foregrounds)
    (background : record.abilityState ≠ .backgrounding ∨ backgrounds = record.backgrounds) :
    { record with foregrounds, backgrounds }.Coherent false := by
  refine { sound with leads := ?_ }
  have leads := sound.leads
  unfold Leads at leads ⊢
  cases state : record.abilityState <;> simp only [state] at leads ⊢
  case foregrounding =>
    rw [foreground.resolve_left (absurd state)]
    exact leads
  case backgrounding =>
    rw [background.resolve_left (absurd state)]
    exact leads
  all_goals exact leads

theorem Coherent.completeForeground
    (allowed : ∀ request ∈ record.startServiceReqList, allows request = true) (foregrounds : Nat) :
    ({ record with foregrounds }.completeForeground allows).Coherent false := by
  by_cases state : record.abilityState = .foregrounding
  · exact sound.foregrounded state foregrounds allowed
  · rw [UIExtensionRecord.completeForeground, if_pos state]
    exact sound.late foregrounds _ (.inl state) (.inr rfl)

theorem Coherent.completeBackground
    (allowed : ∀ request ∈ record.startServiceReqList, allows request = true) (backgrounds : Nat) :
    ({ record with backgrounds }.completeBackground allows).Coherent false := by
  by_cases state : record.abilityState = .backgrounding
  · exact sound.backgrounded state backgrounds allowed
  · rw [UIExtensionRecord.completeBackground, if_pos state]
    exact sound.late _ backgrounds (.inr rfl) (.inl state)

theorem Coherent.onAbilityRequestDone (moving : record.movesToForeground ≠ 0)
    (current : record.abilityState = .background -> record.pendingState ≠ .initial) (moves : Nat) :
    ({ record with movesToForeground := moves }.onAbilityRequestDone).Coherent false := by
  have loaded : ¬record.isLoading = true := fun loading => moving (sound.loads loading).2
  have leads := sound.leads
  unfold Leads at leads
  by_cases state : record.abilityState = .foregrounding
  · rw [UIExtensionRecord.onAbilityRequestDone, if_pos state]
    refine { sound with loads := fun loading => absurd loading loaded, leads := ?_ }
    simp only [state] at leads ⊢
    exact leads
  · rw [UIExtensionRecord.onAbilityRequestDone, if_neg state]
    refine { sound with
      loads := fun loading => absurd loading loaded, leads := ⟨succ_pos _, ?_⟩ }
    change (record.backgroundAbilityWindowDelayed = true -> record.pendingState = .background) ∧
      (record.pendingState = .initial ∧ record.lastRequest = some .start ∨ record.Aimed false)
    cases known : record.abilityState <;> simp only [known] at leads
    case initial => exact ⟨leads.2.2, .inr leads.2.1⟩
    case inactive =>
      obtain ⟨-, prompt, ⟨-, ⟨-, -, none⟩ | none⟩ | ⟨-, aimed⟩⟩ := leads
      · exact absurd none moving
      · cases none
      · exact ⟨by simp [prompt], .inr aimed⟩
    case foreground => exact ⟨by simp [leads.2.1], .inl leads.2.2⟩
    case backgrounding => exact ⟨by simp [leads.2.1], .inr (.inr leads.2.2)⟩
    case background =>
      obtain ⟨-, prompt, ⟨idle, -⟩ | ⟨-, aimed⟩⟩ := leads
      · exact absurd idle (current known)
      · exact ⟨by simp [prompt], .inr aimed⟩
    case foregrounding => exact absurd known state

theorem Coherent.ask {after : UIExtensionRecord Want} (known : record.uiExtensionMap ≠ [])
    (none : record.startServiceReqList = []) (asked : after = { record with
      lastRequest := some .background, pendingState := .background
      backgroundAbilityWindowDelayed := after.backgroundAbilityWindowDelayed })
    (leads : after.Leads false) : after.Coherent false := by
  rw [asked] at leads ⊢
  exact { sound with
    session := fun unknown => absurd (sound.session unknown).2 known
    deferred := fun waits => absurd none (waits.resolve_right nofun)
    leads := leads }

theorem Coherent.doBackgroundAbilityWindow (known : record.uiExtensionMap ≠ [])
    (none : record.startServiceReqList = [])
    (moving : record.abilityState = .background -> record.movesToForeground ≠ 0) :
    ({ record with lastRequest := some .background }.doBackgroundAbilityWindow).Coherent false := by
  have leads := sound.leads
  unfold Leads at leads
  obtain ⟨current, state⟩ : ∃ current, record.abilityState = current := ⟨_, rfl⟩
  rw [UIExtensionRecord.doBackgroundAbilityWindow]
  cases current <;> simp only [state] at leads
  case initial =>
    rw [if_neg (by simp [state]), if_pos (by simp [state])]
    refine sound.ask known none rfl ?_
    simp only [Leads, state]
    exact ⟨leads.1, .inr ⟨rfl, .inl rfl⟩, fun _ => trivial⟩
  case foregrounding =>
    rw [if_neg (by simp [state]), if_pos (by simp [state])]
    refine sound.ask known none rfl ?_
    simp only [Leads, state]
    exact ⟨leads.1, fun _ => trivial, .inr (.inr ⟨rfl, .inl rfl⟩)⟩
  case foreground =>
    have loaded := sound.not_loading (by simp [state])
    rw [if_pos state]
    exact ⟨sound.ready, fun loading => absurd loading loaded, sound.windows,
      sound.commands, fun unknown => absurd (sound.session unknown).2 known,
      fun waits => absurd none (waits.resolve_right nofun), succ_pos _, leads.2.1, rfl, .inl rfl⟩
  case inactive =>
    rw [if_neg (by simp [state]), if_neg (by simp [state])]
    refine sound.ask known none rfl ?_
    simp only [Leads, state]
    obtain ⟨-, prompt, ⟨-, ⟨-, unknown, -⟩ | none⟩ | ⟨moves, -⟩⟩ := leads
    · exact absurd unknown known
    · cases none
    · exact ⟨none, prompt, .inr ⟨moves, .inr ⟨rfl, .inl rfl⟩⟩⟩
  case backgrounding =>
    rw [if_neg (by simp [state]), if_neg (by simp [state])]
    refine sound.ask known none rfl ?_
    simp only [Leads, state]
    exact ⟨leads.1, leads.2.1, trivial, .inl trivial⟩
  case background =>
    rw [if_neg (by simp [state]), if_neg (by simp [state])]
    refine sound.ask known none rfl ?_
    simp only [Leads, state]
    exact ⟨none, leads.2.1, .inr ⟨Nat.pos_of_ne_zero (moving state), .inr ⟨rfl, .inl rfl⟩⟩⟩

theorem Coherent.attachAbilityThread (loading : record.isLoading = true) :
    ({ record with isLoading := false }.attachAbilityThread).Coherent false := by
  have state := (sound.loads loading).1
  have leads := sound.leads
  simp only [Leads, state] at leads
  refine { sound with ready := rfl, loads := nofun, leads := ?_ }
  simp only [UIExtensionRecord.attachAbilityThread, moveToForeground, state]
  exact ⟨.inr (succ_pos _), leads.2⟩

theorem Coherent.commandDone {session : SessionInfo} {winCmd : WindowCommand}
    (sent : (session, winCmd) ∈ record.windowCommands) (index : Nat)
    (allowed : ∀ request ∈ record.startServiceReqList, allows request = true) :
    ({ record with windowCommands := record.windowCommands.eraseIdx index }
      |>.scheduleCommandAbilityWindowDone session winCmd allows).Coherent false := by
  obtain rfl : winCmd = .foreground := sound.commands _ sent
  refine completeStartServiceReq allowed (Coherent.taken ?_)
  refine { sound with windows := ?windows, commands := ?commands }
  case windows =>
    intro item present
    change item ∈ (insert _ _ record.abilityWindowStateMap).entries at present
    rw [entries_insert, mem_cons] at present
    rcases present with rfl | kept
    · exact ⟨nofun, nofun⟩
    · exact sound.windows item ((kerase_sublist _ _).subset kept)
  case commands =>
    exact fun command present => sound.commands command (mem_of_mem_eraseIdx present)

theorem Coherent.step (next : UIExtensionStep Want)
    (keeps : record.Keeps next) : (record.step next).Coherent false := by
  unfold UIExtensionRecord.step
  cases next
  case startAbility request isAllowed =>
    cases isAllowed
    case false => exact sound
    case true => exact sound.startAbilityLocked request
  case minimizeUIExtensionAbility sessionToken =>
    dsimp only
    split
    next known =>
      have present := contains_iff_mem.1 known
      obtain ⟨none, moving⟩ := keeps present
      exact sound.doBackgroundAbilityWindow (ne_nil_of_mem present) none moving
    · exact sound
  case attachAbilityThread =>
    dsimp only
    split
    next loading => exact sound.attachAbilityThread loading
    · exact sound
  case onAbilityRequestDone =>
    dsimp only
    split
    · exact sound
    next moving => exact sound.onAbilityRequestDone moving (keeps moving) _
  case completeForeground allows =>
    dsimp only
    split
    · exact sound
    · exact sound.completeForeground keeps _
  case completeBackground allows =>
    dsimp only
    split
    · exact sound
    · exact sound.completeBackground keeps _
  case scheduleCommandAbilityWindowDone index allows =>
    dsimp only
    split
    · exact sound
    next session winCmd sent =>
      exact sound.commandDone (mem_of_getElem? sent) index keeps

end

theorem Coherent.start (created : Option (AbilityRequest Want)) :
    (uiExtensionRecord created).start.Coherent false := by
  cases created
  case none =>
    exact ⟨rfl, nofun, nofun, nofun, fun _ => ⟨rfl, rfl⟩, nofun, rfl, rfl,
      .inl ⟨rfl, .inl ⟨rfl, rfl, rfl⟩⟩⟩
  case some request =>
    exact ⟨rfl, fun _ => ⟨rfl, rfl⟩, nofun, nofun, nofun, nofun, .inl rfl, .inl ⟨rfl, rfl⟩, nofun⟩

theorem Coherent.quiet (sound : record.Coherent false) (quiet : record.Quiet) :
    record.pendingState = .initial ∧ ∀ last ∈ record.lastRequest, record.abilityState = last.target := by
  have still : ¬0 < record.movesToForeground := by simp [quiet.movesToForeground]
  have leads := sound.leads
  unfold Leads at leads
  cases state : record.abilityState <;> simp only [state] at leads
  case initial =>
    rcases leads.1 with loading | moving
    · rw [quiet.isLoading] at loading
      cases loading
    · exact absurd moving still
  case inactive =>
    obtain ⟨-, -, ⟨idle, ⟨last, -⟩ | none⟩ | ⟨moving, -⟩⟩ := leads
    · rw [last]
      exact ⟨idle, nofun⟩
    · cases none
    · exact absurd moving still
  case foregrounding => exact absurd leads.1 (by simp [quiet.foregrounds])
  case foreground =>
    rw [leads.2.2.2]
    refine ⟨leads.2.2.1, ?_⟩
    rintro last ⟨⟩
    rfl
  case backgrounding => exact absurd leads.1 (by simp [quiet.backgrounds])
  case background =>
    obtain ⟨-, -, ⟨idle, last | none⟩ | ⟨moving, -⟩⟩ := leads
    · rw [last]
      refine ⟨idle, ?_⟩
      rintro last ⟨⟩
      rfl
    · cases none
    · exact absurd moving still

theorem Coherent.good (sound : record.Coherent false) : record.Good where
  pendingState quiet := (sound.quiet quiet).1
  abilityState quiet := (sound.quiet quiet).2
  deferred waits := sound.deferred (.inl waits)

instance decidableKeeps : ∀ next, Decidable (record.Keeps next)
  | .startAbility _ _ | .attachAbilityThread => .isTrue trivial
  | .minimizeUIExtensionAbility sessionToken =>
    have : Decidable (record.startServiceReqList = []) := decidable_of_iff _ List.isEmpty_iff
    inferInstanceAs (Decidable (sessionToken ∈ _ -> _ ∧ (_ -> _ ≠ _)))
  | .onAbilityRequestDone => inferInstanceAs (Decidable (_ ≠ _ -> _ = _ -> _ ≠ _))
  | .completeForeground allows | .completeBackground allows
  | .scheduleCommandAbilityWindowDone _ allows =>
    inferInstanceAs (Decidable (∀ request ∈ record.startServiceReqList, allows request = true))

end UIExtensionRecord

theorem uiExtensionRecord_good {Want : Type} (created : Option (AbilityRequest Want))
    {steps : List (UIExtensionStep Want)}
    (keeps : (uiExtensionRecord created).EveryStep steps Keeps) :
    (uiExtensionRecord created).Throughout steps Good := by
  have sound : (uiExtensionRecord created).Throughout steps (Coherent · false) :=
    keeps.throughout (Coherent.start created) (fun _ step sound kept => sound.step step kept)
  exact fun done rest split => (sound done rest split).good

def picker : AbilityRequest String where
  want := "picker"
  sessionInfo := ⟨1, 1⟩

theorem uiExtensionRecord_good_picker :
    let steps : List (UIExtensionStep String) :=
      [.attachAbilityThread, .onAbilityRequestDone, .minimizeUIExtensionAbility 1,
        .startAbility picker true, .completeForeground fun _ => true,
        .completeBackground fun _ => true, .onAbilityRequestDone,
        .completeForeground fun _ => true]
    ((uiExtensionRecord (some picker)).run steps).abilityState = .foreground ∧
      (uiExtensionRecord (some picker)).Throughout steps Good := by
  exact ⟨by decide, uiExtensionRecord_good (some picker) (Machine.StepsFrom.everyStep (by decide))⟩

theorem repeatedBackground_drops_start :
    let steps : List (UIExtensionStep String) :=
      [.attachAbilityThread, .onAbilityRequestDone, .completeForeground fun _ => true,
        .minimizeUIExtensionAbility 1, .completeBackground fun _ => true,
        .minimizeUIExtensionAbility 1, .startAbility picker true]
    let record := (uiExtensionRecord (some picker)).run steps
    record.Quiet ∧ record.lastRequest = some .start ∧ record.abilityState = .background ∧
      record.pendingState = .foreground ∧
      ¬(uiExtensionRecord (some picker)).Throughout steps Good := by
  intro steps record
  have quiet : record.Quiet := ⟨by decide, by decide, by decide, by decide, by decide, rfl⟩
  refine ⟨quiet, by decide, by decide, by decide, fun good => ?_⟩
  have last : record.Good := good steps [] (List.append_nil steps).symm
  exact absurd (last.pendingState quiet) (by decide)

end AbilityRuntime.UIExtension
