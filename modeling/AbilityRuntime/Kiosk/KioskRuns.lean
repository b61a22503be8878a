import AbilityRuntime.Kiosk.KioskManager

set_option autoImplicit false

namespace AbilityRuntime.Kiosk

open Library Function KioskManager Option List

def Listener.rank : Listener -> Nat
  | .interceptor => 0
  | .commonEvent => 1
  | .sceneSession => 2

namespace KioskManager

variable (mgr : KioskManager)

def shows : Listener -> Bool
  | .interceptor => mgr.hasInterceptor
  | .commonEvent => mgr.lastEvent.any (·.1)
  | .sceneSession => mgr.lastSessionCall.any (·.1)

structure Good : Prop where
  agrees : (∀ op, mgr.operation op = none) ->
    ∀ listener, mgr.shows listener = mgr.kioskStatus.isKioskMode
  listed : mgr.kioskStatus.isKioskMode = true ->
    mgr.kioskStatus.kioskBundleName ∈ mgr.whitelist
  updated : ∀ appList ∈ mgr.updated, mgr.whitelist = appList

def StillHolds (isThere : Bool) : Stage -> Prop
  | .tell listener change _ => isThere = true ∧ mgr.told listener < change.number
  | .exitKioskModeInner bundleName _ _ _ origin =>
    origin ≠ .caller -> bundleName ∈ mgr.whitelist ->
      mgr.kioskStatus.isKioskMode = true -> mgr.kioskStatus.kioskBundleName = bundleName
  | .setWhitelist appList =>
    mgr.kioskStatus.isKioskMode = true -> mgr.kioskStatus.kioskBundleName ∈ appList
  | .onAppStop _ | .updateKioskApplicationList _ | .enterKioskMode _ _ _
  | .updateKioskAppList _ => True

def Keeps : KioskStep -> Prop
  | .proceed op isThere _ =>
    ∀ stage ∈ mgr.operation op, mgr.StillHolds isThere stage
  | .onAppStop _ _ | .updateKioskApplicationList _ | .enterKioskMode _ _ _
  | .exitKioskMode _ _ _ _ => True

/-- A listener that did not hear of the last change will: the operation is on its way. -/
structure Coherent : Prop where
  fresh : ∀ op, mgr.nextOperation ≤ op -> mgr.operation op = none
  numbered : ∀ op listener change origin,
    mgr.operation op = some (.tell listener change origin) ->
      change.number ≤ mgr.changes ∧
        (change.number = mgr.changes -> change.isEnter = mgr.kioskStatus.isKioskMode)
  late : ∀ listener, mgr.told listener ≠ mgr.changes ->
    ∃ op earlier change origin,
      mgr.operation op = some (.tell earlier change origin) ∧
        earlier.rank ≤ listener.rank ∧ change.number = mgr.changes
  bound : ∀ listener, mgr.told listener ≤ mgr.changes
  current : ∀ listener, mgr.told listener = mgr.changes ->
    mgr.shows listener = mgr.kioskStatus.isKioskMode
  listed : mgr.kioskStatus.isKioskMode = true ->
    mgr.kioskStatus.kioskBundleName ∈ mgr.whitelist
  updated : ∀ appList ∈ mgr.updated, mgr.whitelist = appList

structure SameMode (after : KioskManager) : Prop where
  fresh : ∀ op, after.nextOperation ≤ op -> after.operation op = none
  tells : ∀ op listener change origin,
    after.operation op = some (.tell listener change origin) ↔
      mgr.operation op = some (.tell listener change origin)
  kioskStatus : after.kioskStatus = mgr.kioskStatus
  changes : after.changes = mgr.changes
  told : after.told = mgr.told
  shows : after.shows = mgr.shows

variable {mgr} {after : KioskManager} {op : Nat}

theorem SameMode.sound (same : mgr.SameMode after) (sound : mgr.Coherent)
    (listed : after.kioskStatus.isKioskMode = true ->
      after.kioskStatus.kioskBundleName ∈ after.whitelist)
    (updated : ∀ appList ∈ after.updated, after.whitelist = appList) : after.Coherent where
  fresh := same.fresh
  numbered op listener change origin known := by
    rw [same.changes, same.kioskStatus]
    exact sound.numbered op listener change origin ((same.tells op listener change origin).1 known)
  late listener behind := by
    rw [same.told, same.changes] at behind
    obtain ⟨op, earlier, change, origin, known, before⟩ := sound.late listener behind
    rw [same.changes]
    exact ⟨op, earlier, change, origin, (same.tells ..).2 known, before⟩
  bound := by
    rw [same.told, same.changes]
    exact sound.bound
  current := by
    rw [same.told, same.changes, same.shows, same.kioskStatus]
    exact sound.current
  listed := listed
  updated := updated

variable {stage : Stage}

section

variable (sound : mgr.Coherent)
include sound

theorem Coherent.inside (known : mgr.operation op = some stage) :
    op < mgr.nextOperation := by
  by_contra later
  rw [sound.fresh op (Nat.not_lt.1 later)] at known
  cases known

theorem Coherent.moves {next : Option Stage} (known : mgr.operation op = some stage)
    (quiet : ∀ listener change origin, stage ≠ .tell listener change origin)
    (stillQuiet : ∀ listener change origin, next ≠ some (.tell listener change origin))
    (operations : after.operation = update mgr.operation op next)
    (nextOperation : after.nextOperation = mgr.nextOperation)
    (kioskStatus : after.kioskStatus = mgr.kioskStatus)
    (changes : after.changes = mgr.changes) (told : after.told = mgr.told)
    (shows : after.shows = mgr.shows) : mgr.SameMode after where
  fresh other later := by
    rw [nextOperation] at later
    have inside := sound.inside known
    rw [operations, update_of_ne (by omega), sound.fresh other later]
  tells other listener change origin := by
    rw [operations]
    by_cases same : other = op
    · subst same
      rw [update_self, known]
      constructor
      · exact fun found => absurd found (stillQuiet listener change origin)
      · exact fun found => absurd (some.inj found) (quiet listener change origin)
    · rw [update_of_ne same]
  kioskStatus := kioskStatus
  changes := changes
  told := told
  shows := shows

theorem Coherent.go {next : Stage} (known : mgr.operation op = some stage)
    (quiet : ∀ listener change origin, stage ≠ .tell listener change origin)
    (stillQuiet : ∀ listener change origin, next ≠ .tell listener change origin) :
    (mgr.go op next).Coherent := by
  have same : mgr.SameMode (mgr.go op next) :=
    sound.moves known quiet (fun listener change origin found =>
      stillQuiet listener change origin (some.inj found)) rfl rfl rfl rfl rfl rfl
  exact same.sound sound sound.listed sound.updated

theorem Coherent.finish (known : mgr.operation op = some stage)
    (quiet : ∀ listener change origin, stage ≠ .tell listener change origin) (code : ErrCode) :
    (mgr.finish op code).Coherent := by
  have same : mgr.SameMode (mgr.finish op code) :=
    @Coherent.moves _ _ _ _ sound none known quiet (by nofun) rfl rfl rfl rfl rfl rfl
  exact same.sound sound sound.listed sound.updated

theorem Coherent.startOperation
    (quiet : ∀ listener change origin, stage ≠ .tell listener change origin) :
    (mgr.startOperation stage).Coherent := by
  have same : mgr.SameMode (mgr.startOperation stage) := by
    constructor
    case fresh =>
      intro op later
      have apart : op ≠ mgr.nextOperation := Nat.ne_of_gt later
      exact (update_of_ne apart ..).trans (sound.fresh op (Nat.le_of_lt later))
    case tells =>
      intro op listener change origin
      change update mgr.operation mgr.nextOperation (some stage) op = _ ↔ _
      by_cases same : op = mgr.nextOperation
      · subst same
        rw [update_self, sound.fresh _ (Nat.le_refl _)]
        constructor
        · exact fun found => absurd (some.inj found) (quiet listener change origin)
        · nofun
      · rw [update_of_ne same]
    case kioskStatus => rfl
    case changes => rfl
    case told => rfl
    case shows => rfl
  exact same.sound sound sound.listed sound.updated

theorem Coherent.change (known : mgr.operation op = some stage) (status : KioskStatus)
    (change : KioskChange) (origin : Option ExitOrigin)
    (number : change.number = mgr.changes + 1) (isEnter : change.isEnter = status.isKioskMode)
    (listed : status.isKioskMode = true -> status.kioskBundleName ∈ mgr.whitelist) :
    (mgr.change op status change origin).Coherent where
  fresh other later := by
    have inside := sound.inside known
    have beyond : mgr.nextOperation ≤ other := later
    exact (update_of_ne (by omega) ..).trans (sound.fresh other beyond)
  numbered other listener found next present := by
    change update mgr.operation op _ other = _ at present
    change found.number ≤ change.number ∧ (found.number = change.number -> _)
    by_cases same : other = op
    · subst same
      rw [update_self] at present
      cases present
      exact ⟨Nat.le_refl _, fun _ => isEnter⟩
    · rw [update_of_ne same] at present
      have earlier := (sound.numbered other listener found next present).1
      exact ⟨by omega, fun last => by omega⟩
  late listener _ := ⟨op, .interceptor, change, origin, update_self .., Nat.zero_le _, rfl⟩
  bound listener := by
    have earlier := sound.bound listener
    change mgr.told listener ≤ change.number
    omega
  current listener last := by
    have earlier := sound.bound listener
    change mgr.told listener = change.number at last
    omega
  listed := listed
  updated := sound.updated

theorem Coherent.tells {listener : Listener} {change : KioskChange} {origin : Option ExitOrigin}
    {next : Option Stage}
    (known : mgr.operation op = some (.tell listener change origin))
    (inTurn : mgr.told listener < change.number)
    (same : ∀ later found from', next = some (.tell later found from') -> found = change)
    (goesOn : ∀ later : Listener, listener.rank < later.rank ->
      ∃ earlier from', next = some (.tell earlier change from') ∧ earlier.rank ≤ later.rank)
    (operations : after.operation = update mgr.operation op next)
    (nextOperation : after.nextOperation = mgr.nextOperation)
    (told : after.told = update mgr.told listener change.number)
    (kioskStatus : after.kioskStatus = mgr.kioskStatus)
    (changes : after.changes = mgr.changes) (whitelist : after.whitelist = mgr.whitelist)
    (updated : after.updated = mgr.updated) (heard : after.shows listener = change.isEnter)
    (others : ∀ other, other ≠ listener -> after.shows other = mgr.shows other) :
    after.Coherent := by
  have inside := sound.inside known
  obtain ⟨within, last⟩ := sound.numbered op listener change origin known
  constructor
  case fresh =>
    intro other later
    rw [nextOperation] at later
    rw [operations, update_of_ne (by omega), sound.fresh other later]
  case numbered =>
    intro other later found from' present
    rw [changes, kioskStatus]
    rw [operations] at present
    by_cases own : other = op
    · subst own
      rw [update_self] at present
      rw [same later found from' present]
      exact ⟨within, last⟩
    · rw [update_of_ne own] at present
      exact sound.numbered other later found from' present
  case late =>
    intro other behind
    rw [changes] at behind ⊢
    rw [told] at behind
    rw [operations]
    have stillBehind : mgr.told other ≠ mgr.changes := by
      by_cases own : other = listener
      · subst own
        omega
      · rwa [update_of_ne own] at behind
    obtain ⟨waited, earlier, found, from', present, before, number⟩ := sound.late other stillBehind
    by_cases own : waited = op
    · subst own
      rw [known] at present
      cases present
      have apart : other ≠ listener := by
        rintro rfl
        rw [update_self] at behind
        exact behind number
      have beyond : listener.rank < other.rank := by
        refine Nat.lt_of_le_of_ne before (fun equal => apart ?_)
        cases other <;> cases listener <;> first | rfl | cases equal
      obtain ⟨following, from'', goes, sooner⟩ := goesOn other beyond
      exact ⟨waited, following, change, from'', (update_self ..).trans goes, sooner, number⟩
    · exact ⟨waited, earlier, found, from', (update_of_ne own ..).trans present, before, number⟩
  case bound =>
    intro other
    rw [told, changes]
    by_cases own : other = listener
    · subst own
      rwa [update_self]
    · rw [update_of_ne own]
      exact sound.bound other
  case current =>
    intro other latest
    rw [told, changes] at latest
    rw [kioskStatus]
    by_cases own : other = listener
    · subst own
      rw [update_self] at latest
      rw [heard, last latest]
    · rw [update_of_ne own] at latest
      rw [others other own, sound.current other latest]
  case listed =>
    rw [kioskStatus, whitelist]
    exact sound.listed
  case updated =>
    rw [updated, whitelist]
    exact sound.updated

theorem Coherent.tell {listener : Listener} {change : KioskChange} {origin : Option ExitOrigin}
    (known : mgr.operation op = some (.tell listener change origin))
    (inTurn : mgr.told listener < change.number) :
    (mgr.tell op listener change origin true).Coherent := by
  cases listener
  case interceptor =>
    refine @Coherent.tells _ _ _ sound _ _ _ (some (.tell .commonEvent change origin)) known
      inTurn ?same ?goesOn rfl rfl rfl rfl rfl rfl rfl rfl ?others
    case same =>
      rintro _ _ _ ⟨⟩
      rfl
    case goesOn => exact fun later beyond => ⟨.commonEvent, origin, rfl, beyond⟩
    case others =>
      intro other apart
      cases other
      case interceptor => exact absurd rfl apart
      case commonEvent | sceneSession => rfl
  case commonEvent =>
    refine @Coherent.tells _ _ _ sound _ _ _ (some (.tell .sceneSession change origin)) known
      inTurn ?same ?goesOn rfl rfl rfl rfl rfl rfl rfl rfl ?others
    case same =>
      rintro _ _ _ ⟨⟩
      rfl
    case goesOn => exact fun later beyond => ⟨.sceneSession, origin, rfl, beyond⟩
    case others =>
      intro other apart
      cases other
      case commonEvent => exact absurd rfl apart
      case interceptor | sceneSession => rfl
  case sceneSession =>
    have nobodyElse (later : Listener) : ¬ Listener.sceneSession.rank < later.rank := by
      cases later <;> decide
    have goesOn (next : Option Stage) (later : Listener)
        (beyond : Listener.sceneSession.rank < later.rank) :
        ∃ earlier from', next = some (.tell earlier change from') ∧ earlier.rank ≤ later.rank :=
      absurd beyond (nobodyElse later)
    have others (other : Listener) (apart : other ≠ .sceneSession) :
        (mgr.tell op .sceneSession change origin true).shows other =
          mgr.shows other := by
      cases other
      case sceneSession => exact absurd rfl apart
      case interceptor | commonEvent => rcases origin with _ | _ | _ | appList <;> rfl
    rcases origin with _ | _ | _ | appList
    case some.update =>
      exact @Coherent.tells _ _ _ sound _ _ _ (some (.updateKioskAppList appList)) known inTurn
        (by nofun) (goesOn _) rfl rfl rfl rfl rfl rfl rfl rfl others
    case none | some.caller | some.stop =>
      exact @Coherent.tells _ _ _ sound _ _ _ none known inTurn (by nofun) (goesOn _)
        rfl rfl rfl rfl rfl rfl rfl rfl others

theorem Coherent.setWhitelist {appList : List String}
    (known : mgr.operation op = some (.setWhitelist appList))
    (keeps : mgr.kioskStatus.isKioskMode = true ->
      mgr.kioskStatus.kioskBundleName ∈ appList) :
    (mgr.setWhitelist op appList).Coherent := by
  have same : mgr.SameMode (mgr.setWhitelist op appList) :=
    @Coherent.moves _ _ _ _ sound none known (by nofun) (by nofun) rfl rfl rfl rfl rfl rfl
  refine same.sound sound keeps ?_
  rintro _ ⟨⟩
  rfl

end

variable {bundleName : String} {callerToken : Option Nat}

theorem Coherent.enterKioskMode (sound : mgr.Coherent) {uid : Int}
    (known : mgr.operation op = some (.enterKioskMode bundleName uid callerToken)) :
    (mgr.enterKioskMode op bundleName uid callerToken).Coherent := by
  unfold KioskManager.enterKioskMode
  cases allowed : mgr.whitelist.contains bundleName
  case false => exact sound.finish known (by nofun) _
  case true =>
    cases mgr.kioskStatus.isKioskMode
    case true => exact sound.finish known (by nofun) _
    case false =>
      exact sound.change known _ _ _ rfl rfl (fun _ => contains_iff_mem.1 allowed)

theorem Coherent.exitKioskModeInner (sound : mgr.Coherent) {isFoundation : Bool}
    {callingUid : Int} {origin : ExitOrigin} (known : mgr.operation op =
      some (.exitKioskModeInner bundleName callerToken isFoundation callingUid origin)) :
    (mgr.exitKioskModeInner op bundleName callerToken isFoundation callingUid origin).Coherent := by
  unfold KioskManager.exitKioskModeInner
  split
  · exact sound.finish known (by nofun) _
  · split
    · exact sound.finish known (by nofun) _
    · split
      · exact sound.finish known (by nofun) _
      · exact sound.change known _ _ _ rfl rfl (by nofun)

theorem Coherent.proceed (sound : mgr.Coherent) {isThere : Bool} {result : ErrCode}
    (keeps : mgr.Keeps (.proceed op isThere result)) :
    (mgr.proceed op isThere result).Coherent := by
  unfold KioskManager.proceed
  rcases known : mgr.operation op with _ | stage
  case none => exact sound
  case some =>
    have keeps := keeps stage known
    cases stage
    case onAppStop =>
      dsimp only [onAppStop]
      split
      · exact sound.go known (by nofun) (by nofun)
      · exact sound.finish known (by nofun) _
    case updateKioskApplicationList =>
      dsimp only [updateKioskApplicationList]
      split
      · exact sound.go known (by nofun) (by nofun)
      · exact sound.go known (by nofun) (by nofun)
    case enterKioskMode => exact sound.enterKioskMode known
    case exitKioskModeInner => exact sound.exitKioskModeInner known
    case tell =>
      obtain ⟨rfl, inTurn⟩ := keeps
      exact sound.tell known inTurn
    case updateKioskAppList =>
      dsimp only [updateKioskAppList]
      split
      · exact sound.finish known (by nofun) _
      · split
        · exact sound.finish known (by nofun) _
        · exact sound.go known (by nofun) (by nofun)
    case setWhitelist => exact sound.setWhitelist known keeps

theorem Coherent.step (sound : mgr.Coherent) (next : KioskStep) (keeps : mgr.Keeps next) :
    (mgr.step next).Coherent := by
  cases next
  case onAppStop bundleName isStopped =>
    cases isStopped
    case false => exact sound
    case true => exact sound.startOperation (by nofun)
  case updateKioskApplicationList | enterKioskMode | exitKioskMode =>
    exact sound.startOperation (by nofun)
  case proceed => exact sound.proceed keeps

theorem Coherent.start : kioskManager.start.Coherent where
  fresh _ _ := rfl
  numbered := by nofun
  late _ behind := absurd rfl behind
  bound _ := Nat.le_refl _
  current listener _ := by cases listener <;> rfl
  listed := by nofun
  updated := by nofun

theorem Coherent.good (sound : mgr.Coherent) : mgr.Good where
  agrees done listener := by
    refine sound.current listener ?_
    by_contra behind
    obtain ⟨op, earlier, change, origin, known, -⟩ := sound.late listener behind
    rw [done op] at known
    cases known
  __ := sound

instance (isThere : Bool) : ∀ stage, Decidable (mgr.StillHolds isThere stage)
  | .tell _ _ _ => inferInstanceAs (Decidable (_ ∧ _ < _))
  | .exitKioskModeInner _ _ _ _ _ => inferInstanceAs (Decidable (_ ≠ _ -> _ ∈ _ -> _ -> _ = _))
  | .setWhitelist _ => inferInstanceAs (Decidable (_ -> _ ∈ _))
  | .onAppStop _ | .updateKioskApplicationList _ | .enterKioskMode _ _ _
  | .updateKioskAppList _ => .isTrue trivial

instance decidableKeeps : ∀ next, Decidable (mgr.Keeps next)
  | .proceed _ isThere _ =>
    inferInstanceAs (Decidable (∀ stage ∈ _, mgr.StillHolds isThere stage))
  | .onAppStop _ _ | .updateKioskApplicationList _ | .enterKioskMode _ _ _
  | .exitKioskMode _ _ _ _ => .isTrue trivial

end KioskManager

def proceeds (op count : Nat) : List KioskStep :=
  replicate count (.proceed op true .errOk)

end AbilityRuntime.Kiosk
