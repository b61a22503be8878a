import AbilityRuntime.FreeInstall.InstallResults

set_option autoImplicit false

namespace AbilityRuntime.FreeInstall

open Library Function List Option InstallRequest

namespace FreeInstallManager

variable (mgr : FreeInstallManager)

def ownCall : FreeInstallStep -> Option Nat
  | .startFreeInstall _ _ | .remoteFreeInstall _ _ _ _ => some mgr.nextCall
  | .queryAbilityInfo call _ _ | .startRemoteFreeInstall call _ | .waitTimesOut call
  | .removeFreeInstallInfo call | .getFuture call | .onInstallFinished call _ => some call
  | .setPreStartMissionCallStatus _ _ _ _ => none

structure Good : Prop where
  listedOnce : (mgr.freeInstallList.map FreeInstallInfo.call).Nodup
  toldOnce : (mgr.outcomes.map Outcome.call).Nodup
  ownInstall : ∀ outcome ∈ mgr.outcomes, ∀ source ∈ outcome.source, source = outcome.call
  removed : ∀ call, mgr.Told call -> ¬mgr.Listed call
  returned : ∀ call entered result, mgr.call call = some entered ->
    entered.stage = .returned result -> entered.request.isAsync = false ->
      ∃ source, ⟨call, source, .returned result⟩ ∈ mgr.outcomes
  finished : ∀ call entered result, mgr.call call = some entered ->
    entered.stage = .returned result -> entered.isAwaited = false -> mgr.Told call
  awaited : ∀ call entered result, mgr.call call = some entered ->
    entered.stage = .waiting ∨ entered.stage = .returned result ∧ entered.request.isAsync = true ->
      entered.isAwaited = true -> mgr.Listed call

def OnlyOwn (step : FreeInstallStep) : Prop :=
  match mgr.ownCall step with
  | some call => (mgr.step step).others call = mgr.others call ∧
    (call < mgr.nextCall -> (mgr.step step).Listed call -> mgr.Listed call)
  | none => (mgr.step step).freeInstallList.map FreeInstallInfo.call =
    mgr.freeInstallList.map FreeInstallInfo.call

def Keeps : FreeInstallStep -> Prop
  | .queryAbilityInfo call hasBundleMgrHelper setAppRunningState =>
    ∀ entered ∈ mgr.call call, entered.stage = .pushed -> entered.request.isRemote = false ->
      hasBundleMgrHelper = true ∧ setAppRunningState = errOk
  | .startRemoteFreeInstall call result =>
    ∀ entered ∈ mgr.call call, entered.stage = .pushed -> entered.request.isRemote = true ->
      result = errOk
  | .waitTimesOut call =>
    ∀ entered ∈ mgr.call call, entered.stage = .waiting -> entered.request.isRemote = true ->
      entered.promise = none -> ¬mgr.Listed call
  | .removeFreeInstallInfo call =>
    ∀ entered ∈ mgr.call call, entered.stage = .timedOut ->
      ∀ info ∈ mgr.freeInstallList, info.isTaskOf entered.request.want = true → info.call = call
  | .onInstallFinished call result =>
    ∀ entered ∈ mgr.call call, entered.isAwaited = true ->
      mgr.FinishesOwn call entered.request result
  | .startFreeInstall _ _ | .remoteFreeInstall _ _ _ _ | .getFuture _
  | .setPreStartMissionCallStatus _ _ _ _ => True

instance (call : Nat) : Decidable (mgr.Listed call) := inferInstanceAs (Decidable (_ ∈ _))

instance (call : Nat) : Decidable (mgr.Told call) := inferInstanceAs (Decidable (_ ∈ _))

instance (call : Nat) (request : InstallRequest) (result : InstallResult) :
    Decidable (mgr.NotifiesOwn call request result) :=
  inferInstanceAs (Decidable ((∀ info ∈ mgr.freeInstallList.find? _, _ = _) ∧
    (_ -> _ -> _ -> _ = _)))

instance (call : Nat) (request : InstallRequest) (result : InstallResult) :
    Decidable (mgr.IntentFinishesOwn call request result) :=
  inferInstanceAs (Decidable (ite _ (∀ info ∈ mgr.freeInstallList, _ -> _ = _)
    (_ = _ ∧ ∀ info ∈ mgr.freeInstallList, _ = _)))

instance (call : Nat) (request : InstallRequest) (result : InstallResult) :
    Decidable (mgr.FinishesOwn call request result) :=
  inferInstanceAs (Decidable (ite _ (mgr.IntentFinishesOwn call request result)
    (mgr.NotifiesOwn call request result)))

instance decidableKeeps : ∀ step, Decidable (mgr.Keeps step)
  | .queryAbilityInfo call _ _ =>
    inferInstanceAs (Decidable (∀ entered ∈ mgr.call call, _ -> _ -> _ ∧ _))
  | .startRemoteFreeInstall call _ =>
    inferInstanceAs (Decidable (∀ entered ∈ mgr.call call, _ -> _ -> _ = _))
  | .waitTimesOut call =>
    inferInstanceAs (Decidable (∀ entered ∈ mgr.call call, _ -> _ -> _ -> ¬mgr.Listed call))
  | .removeFreeInstallInfo call =>
    inferInstanceAs (Decidable (∀ entered ∈ mgr.call call, _ ->
      ∀ info ∈ mgr.freeInstallList, _ -> info.call = call))
  | .onInstallFinished call result =>
    inferInstanceAs (Decidable (∀ entered ∈ mgr.call call, _ ->
      mgr.FinishesOwn call entered.request result))
  | .startFreeInstall _ _ | .remoteFreeInstall _ _ _ _ | .getFuture _
  | .setPreStartMissionCallStatus _ _ _ _ => isTrue trivial

variable {mgr} {call : Nat}

section

variable (coherent : mgr.Coherent)
include coherent

theorem queryAbilityInfo_owns {hasBundleMgrHelper : Bool} {setAppRunningState : Int}
    (keeps : mgr.Keeps (.queryAbilityInfo call hasBundleMgrHelper setAppRunningState)) :
    mgr.Owns (mgr.queryAbilityInfo call hasBundleMgrHelper setAppRunningState) call := by
  rw [queryAbilityInfo]
  split
  next entered known =>
    have sound := coherent.sound call entered known
    by_cases isPushed : entered.stage = .pushed ∧ entered.request.isRemote = false
    · obtain ⟨pushed, isLocal⟩ := isPushed
      obtain ⟨listed, untold, -, noPromise⟩ := sound.pushed pushed
      obtain ⟨rfl, rfl⟩ := keeps entered known pushed isLocal
      rw [if_neg (by simp [pushed, isLocal]), if_neg (by simp), if_neg (by simp)]
      split
      next isAsync =>
        refine .inr ⟨entered, _, .setCall known rfl ?_ ?_ ?_⟩
        · exact { remote := sound.remote, pushed := nofun
                  waits := by rintro (⟨⟨⟩⟩ | ⟨⟨⟩⟩)
                  returned := by simp [isAsync, listed, untold] }
        · intro result returned isSync
          rw [isAsync] at isSync
          cases isSync
        · exact coherent.ownPromise call entered known
      next isSync =>
        refine .inr ⟨entered, _, .setCall known rfl ?_ nofun (coherent.ownPromise call entered known)⟩
        exact { remote := sound.remote, pushed := nofun, returned := nofun
                waits := by simp [isSync, untold, listed, noPromise] }
    · rw [if_pos (by simpa [imp_iff_not_or] using isPushed)]
      exact .inl rfl
  · exact .inl rfl

theorem startRemoteFreeInstall_owns {result : Int}
    (keeps : mgr.Keeps (.startRemoteFreeInstall call result)) :
    mgr.Owns (mgr.startRemoteFreeInstall call result) call := by
  rw [startRemoteFreeInstall]
  split
  next entered known =>
    have sound := coherent.sound call entered known
    by_cases isPushed : entered.stage = .pushed ∧ entered.request.isRemote = true
    · obtain ⟨pushed, isRemote⟩ := isPushed
      obtain ⟨listed, untold, -, noPromise⟩ := sound.pushed pushed
      obtain rfl := keeps entered known pushed isRemote
      have isSync := sound.remote isRemote
      rw [if_neg (by simp [pushed, isRemote]), if_neg (by simp)]
      refine .inr ⟨entered, _, .setCall known rfl ?_ nofun (coherent.ownPromise call entered known)⟩
      exact { remote := sound.remote, pushed := nofun, returned := nofun
              waits := by simp [isSync, untold, listed, noPromise] }
    · rw [if_pos (by simpa [imp_iff_not_or] using isPushed)]
      exact .inl rfl
  · exact .inl rfl

theorem waitTimesOut_owns (keeps : mgr.Keeps (.waitTimesOut call)) :
    mgr.Owns (mgr.waitTimesOut call) call := by
  rw [waitTimesOut]
  split
  next entered known =>
    have sound := coherent.sound call entered known
    have ownPromise := coherent.ownPromise call entered known
    by_cases isWaiting : entered.stage = .waiting ∧ entered.promise = none
    · obtain ⟨waiting, noPromise⟩ := isWaiting
      obtain ⟨isSync, untold, onList, -⟩ := sound.waits (.inl waiting)
      rw [if_neg (by simp [waiting, noPromise])]
      split
      next isRemote =>
        have removes := removes_of_unlisted (keeps entered known waiting isRemote noPromise)
        exact .inr ⟨_, _, removes.returnCall known sound.remote (.inl isSync) untold ownPromise _ nofun⟩
      · refine .inr ⟨entered, _, .setCall known rfl ?_ nofun ownPromise⟩
        exact { remote := sound.remote, pushed := nofun, returned := nofun
                waits := fun _ => ⟨isSync, untold, onList, by simp [noPromise]⟩ }
    · rw [if_pos (by simpa [imp_iff_not_or, <- isSome_iff_ne_none] using isWaiting)]
      exact .inl rfl
  · exact .inl rfl

theorem removeTimedOut_owns (keeps : mgr.Keeps (.removeFreeInstallInfo call)) :
    mgr.Owns (mgr.removeTimedOut call) call := by
  rw [removeTimedOut]
  split
  next entered known =>
    have sound := coherent.sound call entered known
    split
    · exact .inl rfl
    next timedOut =>
      have timedOut := not_not.1 timedOut
      obtain ⟨isSync, untold, -, -⟩ := sound.waits (.inr timedOut)
      have removes := removeFreeInstallInfo_removes coherent known (keeps entered known timedOut)
      exact .inr ⟨_, _, removes.returnCall known sound.remote (.inl isSync) untold
        (coherent.ownPromise call entered known) _ nofun⟩
  · exact .inl rfl

theorem getFuture_owns : mgr.Owns (mgr.getFuture call) call := by
  rw [getFuture]
  split
  next entered known =>
    have sound := coherent.sound call entered known
    have ownPromise := coherent.ownPromise call entered known
    split
    next result source waiting promise =>
      obtain ⟨isSync, untold, -, offList⟩ := sound.waits (.inl waiting)
      have removes := removes_of_unlisted (offList (by rw [promise, isSome_some]))
      have ownSource : ∀ install ∈ some source, install = call := by
        rintro install ⟨⟩
        exact ownPromise _ promise
      exact .inr ⟨_, _, removes.returnCall known sound.remote (.inl isSync) untold ownPromise _
        ownSource⟩
    · exact .inl rfl
  · exact .inl rfl

theorem onInstallFinished_owns {result : InstallResult}
    (keeps : mgr.Keeps (.onInstallFinished call result)) :
    mgr.Owns (mgr.onInstallFinished call result) call := by
  rw [onInstallFinished]
  split
  next entered known =>
    cases isAwaited : entered.isAwaited with
    | false => exact .inl rfl
    | true =>
      have finishesOwn := keeps entered known isAwaited
      rw [FinishesOwn] at finishesOwn
      rw [if_neg (by simp)]
      dsimp only
      split
      next isRemote =>
        rw [if_neg (by simp [isRemote])] at finishesOwn
        have own := notifyFreeInstallResult_owns coherent known isAwaited entered.request.recordId
          result finishesOwn
        rwa [(coherent.sound call entered known).remote isRemote] at own
      next isLocal =>
        split
        next isIntent =>
          rw [if_pos (by simp [isLocal, isIntent])] at finishesOwn
          exact notifyInsightIntentFreeInstallResult_owns coherent known isAwaited result finishesOwn
        next isNone =>
          rw [if_neg (by simp [isNone])] at finishesOwn
          exact notifyFreeInstallResult_owns coherent known isAwaited _ result finishesOwn
  · exact .inl rfl

theorem Coherent.fresh (later : mgr.nextCall ≤ call) :
    mgr.call call = none ∧ ¬mgr.Listed call ∧ ¬mgr.Told call := by
  have unknown : mgr.call call = none := by
    rw [<- not_isSome_iff_eq_none, coherent.known]
    exact Nat.not_lt.2 later
  refine ⟨unknown, fun listed => ?_, fun told => ?_⟩
  · obtain ⟨info, present, rfl⟩ := mem_map.1 listed
    obtain ⟨found, known, -⟩ := coherent.entries info present
    rw [unknown] at known
    cases known
  · have known := coherent.toldKnown call told
    rw [unknown] at known
    cases known

theorem Coherent.entered {request : InstallRequest}
    (remote : request.isRemote = true -> request.isAsync = false) :
    (mgr.enter request true).Coherent := by
  obtain ⟨unknown, unlisted, untold⟩ := coherent.fresh (Nat.le_refl mgr.nextCall)
  have apart : ∀ other found, mgr.call other = some found -> other ≠ mgr.nextCall := by
    rintro other found known rfl
    rw [unknown] at known
    cases known
  have calls : (mgr.enter request true).call =
      update mgr.call mgr.nextCall (some { request, stage := .pushed }) := rfl
  have list : (mgr.enter request true).freeInstallList =
      mgr.freeInstallList ++ [request.buildFreeInstallInfo mgr.nextCall] := rfl
  have listed : ∀ other, (mgr.enter request true).Listed other ↔
      mgr.Listed other ∨ other = mgr.nextCall := by
    simp [Listed, list, buildFreeInstallInfo]
  have cases_call : ∀ other found, (mgr.enter request true).call other = some found ->
      other = mgr.nextCall ∧ found = { request, stage := .pushed } ∨
        mgr.call other = some found := by
    intro other found known
    rw [calls] at known
    by_cases same : other = mgr.nextCall
    · subst same
      rw [update_self, some.injEq] at known
      exact .inl ⟨rfl, known.symm⟩
    · rw [update_of_ne same] at known
      exact .inr known
  constructor
  case known =>
    intro other
    rw [calls]
    by_cases same : other = mgr.nextCall
    · simp [same, enter, setCall]
    · rw [update_of_ne same, coherent.known]
      exact ⟨Nat.lt_succ_of_lt, fun before => Nat.lt_of_le_of_ne (Nat.le_of_lt_succ before) same⟩
  case entries =>
    intro info present
    rw [list, mem_append, mem_singleton] at present
    rw [calls]
    rcases present with earlier | rfl
    · obtain ⟨found, known, isOf⟩ := coherent.entries info earlier
      exact ⟨found, by rw [update_of_ne (apart _ found known), known], isOf⟩
    · exact ⟨_, update_self .., rfl, rfl, rfl⟩
  case listedOnce =>
    rw [list, map_append, map_singleton, nodup_append_comm]
    exact nodup_cons.2 ⟨unlisted, coherent.listedOnce⟩
  case toldOnce => exact coherent.toldOnce
  case toldKnown =>
    intro other told
    rw [calls]
    by_cases same : other = mgr.nextCall
    · rw [same, update_self, isSome_some]
    · rw [update_of_ne same, coherent.toldKnown other told]
  case sound =>
    intro other found present
    rcases cases_call other found present with ⟨rfl, rfl⟩ | known
    · exact { remote := remote, returned := by simp, waits := by rintro (⟨⟨⟩⟩ | ⟨⟨⟩⟩)
              pushed := fun _ => ⟨(listed _).2 (.inr rfl), untold, rfl, rfl⟩ }
    · have same : (mgr.enter request true).Listed other = mgr.Listed other :=
        propext ((listed other).trans (or_iff_left (apart other found known)))
      rw [same]
      exact coherent.sound other found known
  case answered =>
    intro other found result present returned isSync
    rcases cases_call other found present with ⟨rfl, rfl⟩ | known
    · cases returned
    · exact coherent.answered other found result known returned isSync
  case ownInstall => exact coherent.ownInstall
  case ownPromise =>
    intro other found present
    rcases cases_call other found present with ⟨rfl, rfl⟩ | known
    · simp
    · exact coherent.ownPromise other found known

theorem denied_removes (request : InstallRequest) :
    (mgr.enter request true).Removes
      { mgr.enter request true with freeInstallList := mgr.freeInstallList }
      mgr.nextCall where
  calls := rfl
  nextCall := rfl
  outcomes := rfl
  fewer := sublist_append_left ..
  others := by simp [others, enter, buildFreeInstallInfo]
  gone := (coherent.fresh (Nat.le_refl _)).2.1

theorem Coherent.enter {request : InstallRequest}
    (remote : request.isRemote = true -> request.isAsync = false) (isPermitted : Bool) :
    (mgr.enter request isPermitted).Coherent := by
  cases isPermitted with
  | true => exact coherent.entered remote
  | false =>
    have noInstall : ∀ install ∈ (none : Option Nat), install = mgr.nextCall := nofun
    have own := (denied_removes coherent request).returnCall (update_self ..) remote
      (.inr rfl) (coherent.fresh (Nat.le_refl _)).2.2 nofun notTopAbility noInstall
    have coherent := own.coherent (coherent.entered remote)
    have same : mgr.enter request false =
        { mgr.enter request true with freeInstallList := mgr.freeInstallList }.returnCall
          mgr.nextCall { request, stage := .pushed } notTopAbility none := by
      simp [FreeInstallManager.enter, returnCall, setCall]
    rwa [same]

end

theorem setFirst_map {Key : Type} (change : FreeInstallInfo -> FreeInstallInfo)
    (isThe : FreeInstallInfo -> Bool) (key : FreeInstallInfo -> Key)
    (same : ∀ info, key (change info) = key info) (list : List FreeInstallInfo) :
    (setFirst change isThe list).map key = list.map key := by
  induction list with
  | nil => rfl
  | cons info rest ih =>
    rw [setFirst]
    split
    · rw [map_cons, map_cons, same]
    · rw [map_cons, map_cons, ih]

theorem mem_setFirst {change : FreeInstallInfo -> FreeInstallInfo} {isThe : FreeInstallInfo -> Bool}
    {info : FreeInstallInfo} {list : List FreeInstallInfo} (present : info ∈ setFirst change isThe list) :
    info ∈ list ∨ ∃ old ∈ list, info = change old := by
  induction list with
  | nil => cases present
  | cons first rest ih =>
    rw [setFirst] at present
    split at present
    · rcases mem_cons.1 present with rfl | behind
      · exact .inr ⟨first, mem_cons_self, rfl⟩
      · exact .inl (mem_cons_of_mem _ behind)
    · rcases mem_cons.1 present with rfl | behind
      · exact .inl mem_cons_self
      · rcases ih behind with same | ⟨old, earlier, changed⟩
        · exact .inl (mem_cons_of_mem _ same)
        · exact .inr ⟨old, mem_cons_of_mem _ earlier, changed⟩

theorem setPreStartMissionCallStatus_calls (bundleName abilityName startTime : String)
    (status : Bool) :
    (mgr.setPreStartMissionCallStatus bundleName abilityName startTime
      status).freeInstallList.map FreeInstallInfo.call =
      mgr.freeInstallList.map FreeInstallInfo.call :=
  setFirst_map _ _ _ (by intro info; rfl) _

theorem Coherent.setPreStartMissionCallStatus (coherent : mgr.Coherent)
    (bundleName abilityName startTime : String) (status : Bool) :
    (mgr.setPreStartMissionCallStatus bundleName abilityName startTime status).Coherent where
  __ := coherent
  entries info present := by
    rcases mem_setFirst present with same | ⟨old, earlier, rfl⟩
    · exact coherent.entries info same
    · obtain ⟨found, known, isOf⟩ := coherent.entries old earlier
      exact ⟨found, known, isOf.want, isOf.hasPromise, isOf.requestId⟩
  listedOnce := by
    rw [setPreStartMissionCallStatus_calls]
    exact coherent.listedOnce
  sound call entered known := by
    rw [Listed, setPreStartMissionCallStatus_calls]
    exact coherent.sound call entered known

theorem Coherent.good (coherent : mgr.Coherent) : mgr.Good where
  __ := coherent
  removed call told := by
    obtain ⟨entered, known⟩ := isSome_iff_exists.1 (coherent.toldKnown call told)
    have sound := coherent.sound call entered known
    cases stage : entered.stage with
    | pushed => exact absurd told (sound.pushed stage).2.1
    | waiting => exact absurd told (sound.waits (.inl stage)).2.1
    | timedOut => exact absurd told (sound.waits (.inr stage)).2.1
    | returned result =>
      have ended := sound.returned result stage
      split at ended
      · exact absurd told ended.2
      · exact ended.2
  returned := coherent.answered
  finished call entered result known returned isDone := by
    have ended := (coherent.sound call entered known).returned result returned
    rw [isDone, Bool.and_false, if_neg Bool.false_ne_true] at ended
    exact ended.1
  awaited call entered result known goesOn isAwaited := by
    have sound := coherent.sound call entered known
    rcases goesOn with waiting | ⟨-, isAsync⟩
    · exact (sound.waits (.inl waiting)).2.2.1 isAwaited
    · exact (sound.untold isAwaited isAsync).1

theorem Owns.coherent {after : FreeInstallManager} (owns : mgr.Owns after call)
    (coherent : mgr.Coherent) : after.Coherent := by
  rcases owns with rfl | ⟨entered, changed, own⟩
  · exact coherent
  · exact own.coherent coherent

theorem Owns.onlyOwn {after : FreeInstallManager} (owns : mgr.Owns after call) :
    after.others call = mgr.others call ∧
      (call < mgr.nextCall -> after.Listed call -> mgr.Listed call) := by
  rcases owns with rfl | ⟨entered, changed, own⟩
  · exact ⟨rfl, fun _ listed => listed⟩
  · exact ⟨own.others, fun _ => own.listed⟩

theorem others_enter (request : InstallRequest) (isPermitted : Bool) :
    (mgr.enter request isPermitted).others mgr.nextCall = mgr.others mgr.nextCall := by
  cases isPermitted with
  | true => simp [others, enter, buildFreeInstallInfo]
  | false => rfl

theorem Coherent.step (coherent : mgr.Coherent) (step : FreeInstallStep)
    (keeps : mgr.Keeps step) : (mgr.step step).Coherent ∧ mgr.OnlyOwn step := by
  have ofOwn : ∀ {after : FreeInstallManager} {call : Nat}, mgr.Owns after call ->
      after.Coherent ∧ after.others call = mgr.others call ∧
        (call < mgr.nextCall -> after.Listed call -> mgr.Listed call) :=
    fun owns => ⟨owns.coherent coherent, owns.onlyOwn⟩
  cases step with
  | startFreeInstall request isPermitted =>
    exact ⟨coherent.enter (by nofun) isPermitted, others_enter _ isPermitted,
      fun later => absurd later (Nat.lt_irrefl _)⟩
  | remoteFreeInstall want userId recordId isPermitted =>
    exact ⟨coherent.enter (fun _ => rfl) isPermitted, others_enter _ isPermitted,
      fun later => absurd later (Nat.lt_irrefl _)⟩
  | queryAbilityInfo call hasBundleMgrHelper setAppRunningState =>
    exact ofOwn (queryAbilityInfo_owns coherent keeps)
  | startRemoteFreeInstall call result => exact ofOwn (startRemoteFreeInstall_owns coherent keeps)
  | waitTimesOut call => exact ofOwn (waitTimesOut_owns coherent keeps)
  | removeFreeInstallInfo call => exact ofOwn (removeTimedOut_owns coherent keeps)
  | getFuture call => exact ofOwn (getFuture_owns coherent)
  | onInstallFinished call result => exact ofOwn (onInstallFinished_owns coherent keeps)
  | setPreStartMissionCallStatus bundleName abilityName startTime status =>
    exact ⟨coherent.setPreStartMissionCallStatus bundleName abilityName startTime status,
      setPreStartMissionCallStatus_calls bundleName abilityName startTime status⟩

theorem Coherent.start : ({} : FreeInstallManager).Coherent where
  known := by simp
  entries := nofun
  listedOnce := nodup_nil
  toldOnce := nodup_nil
  toldKnown := nofun
  sound := by rintro call entered ⟨⟩
  answered := by rintro call entered result ⟨⟩
  ownInstall := nofun
  ownPromise := by rintro call entered ⟨⟩

end FreeInstallManager

open FreeInstallManager

/-- Every call is told once and of its own install, as long as no call's entries mix. -/
theorem freeInstallManager_good (steps : List FreeInstallStep)
    (keeps : freeInstallManager.EveryStep steps Keeps) :
    freeInstallManager.Throughout steps Good ∧ freeInstallManager.EveryStep steps OnlyOwn := by
  have coherent := keeps.throughout Coherent.start
    fun mgr step coherent keeps => (coherent.step step keeps).1
  constructor
  · exact fun reached rest split => (coherent reached rest split).good
  · exact fun reached step rest split =>
      ((coherent reached (step :: rest) split).step step (keeps reached step rest split)).2

def notesWant : InstallWant where
  bundleName := "notes"
  abilityName := "edit"
  startTime := "1"

def filesWant : InstallWant where
  bundleName := "files"
  abilityName := "open"
  startTime := "2"

def playWant : InstallWant where
  bundleName := "music"
  abilityName := "play"
  startTime := "3"
  isInsightIntent := true

theorem freeInstallManager_good_shared :
    let steps : List FreeInstallStep :=
      [.startFreeInstall { want := notesWant, userId := 100, recordId := 5 } true,
        .queryAbilityInfo 0 true errOk,
        .startFreeInstall { want := filesWant, userId := 100, recordId := 6, isAsync := true } true,
        .queryAbilityInfo 1 true errOk,
        .startFreeInstall { want := playWant, userId := 100, isAsync := true } true,
        .queryAbilityInfo 2 true errOk,
        .startFreeInstall { want := notesWant, userId := 101 } false,
        .setPreStartMissionCallStatus "files" "open" "2" true,
        .onInstallFinished 1 ⟨-6, fun _ => true, fun _ => true, fun _ => errOk⟩,
        .onInstallFinished 2 ⟨errOk, fun _ => true, fun _ => true, fun _ => 7⟩,
        .waitTimesOut 0, .removeFreeInstallInfo 0,
        .remoteFreeInstall filesWant 100 6 true, .startRemoteFreeInstall 4 errOk,
        .onInstallFinished 0 ⟨errOk, fun _ => true, fun _ => true, fun _ => errOk⟩,
        .onInstallFinished 4 ⟨29, fun _ => true, fun _ => true, fun _ => errOk⟩, .getFuture 4]
    (freeInstallManager.run steps).outcomes =
      [⟨3, none, .returned notTopAbility⟩,
        ⟨1, some 1, .installFinished 6 "files" "open" "2" (-6)⟩,
        ⟨2, some 2, .installFinished (-1) "music" "play" "3" 7⟩,
        ⟨0, none, .returned freeInstallTimeout⟩, ⟨4, some 4, .returned 29⟩] ∧
      freeInstallManager.Throughout steps Good ∧ freeInstallManager.EveryStep steps OnlyOwn := by
  intro steps
  refine ⟨by decide, freeInstallManager_good steps ?_⟩
  exact Machine.StepsFrom.everyStep (by decide)

theorem remoteTimeout_keeps_entry :
    let steps : List FreeInstallStep :=
      [.remoteFreeInstall notesWant 100 5 true, .startRemoteFreeInstall 0 errOk, .waitTimesOut 0]
    let mgr := freeInstallManager.run steps
    mgr.outcomes = [⟨0, none, .returned freeInstallTimeout⟩] ∧
      mgr.freeInstallList.map FreeInstallInfo.call = [0] ∧
      ¬freeInstallManager.Throughout steps Good := by
  intro steps mgr
  refine ⟨by decide, by decide, fun good => ?_⟩
  exact absurd ((good steps [] (List.append_nil _).symm).removed 0 (by decide)) (by decide)

end AbilityRuntime.FreeInstall
