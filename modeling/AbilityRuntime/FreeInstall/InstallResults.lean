import AbilityRuntime.FreeInstall.InstallCalls

set_option autoImplicit false

namespace AbilityRuntime.FreeInstall

open Library FreeInstallInfo List Bool

namespace FreeInstallManager

variable {mgr removed : FreeInstallManager} {call : Nat} {entered : Call}

@[simp] theorem setCall_freeInstallList (changed : Call) :
    (mgr.setCall call changed).freeInstallList = mgr.freeInstallList := rfl

@[simp] theorem setCall_outcomes (changed : Call) :
    (mgr.setCall call changed).outcomes = mgr.outcomes := rfl

theorem setPromise_of (known : mgr.call call = some entered) (source : Nat) (result : Int) :
    mgr.setPromise call source result =
      mgr.setCall call { entered with promise := some (result, source) } := by
  rw [setPromise, known]

theorem setCall_again (first second : Call) :
    (mgr.setCall call first).setCall call second = mgr.setCall call second := by
  simp [setCall]

structure Removes (mgr removed : FreeInstallManager) (call : Nat) : Prop where
  calls : removed.call = mgr.call
  nextCall : removed.nextCall = mgr.nextCall
  outcomes : removed.outcomes = mgr.outcomes
  fewer : removed.freeInstallList.Sublist mgr.freeInstallList
  others : removed.others call = mgr.others call
  gone : ¬removed.Listed call

theorem Coherent.isOf (coherent : mgr.Coherent) {info : FreeInstallInfo}
    (known : mgr.call info.call = some entered) (present : info ∈ mgr.freeInstallList) :
    info.IsOf entered.request := by
  obtain ⟨found, same, isOf⟩ := coherent.entries info present
  rw [known, Option.some.injEq] at same
  exact same ▸ isOf

theorem removes_of_unlisted (unlisted : ¬mgr.Listed call) : mgr.Removes mgr call :=
  ⟨rfl, rfl, rfl, List.Sublist.refl _, rfl, unlisted⟩

theorem removeFreeInstallInfo_removes (coherent : mgr.Coherent)
    (known : mgr.call call = some entered)
    (alone : ∀ info ∈ mgr.freeInstallList, info.isTaskOf entered.request.want = true ->
      info.call = call) :
    mgr.Removes (mgr.removeFreeInstallInfo entered.request.want) call where
  calls := rfl
  nextCall := rfl
  outcomes := rfl
  fewer := filter_sublist
  others := by
    simp only [others, removeFreeInstallInfo, filter_filter]
    refine filter_congr fun info present => ?_
    by_cases isTask : info.isTaskOf entered.request.want = true
    · simp [alone info present isTask]
    · simp [isTask]
  gone := by
    simp only [Listed, removeFreeInstallInfo, mem_map, mem_filter]
    rintro ⟨info, ⟨present, isOther⟩, rfl⟩
    simp [isTaskOf_self (coherent.isOf known present)] at isOther

theorem eraseP_removes (coherent : mgr.Coherent) {isFound : FreeInstallInfo -> Bool}
    {info : FreeInstallInfo} (found : mgr.freeInstallList.find? isFound = some info) :
    mgr.Removes { mgr with freeInstallList := mgr.freeInstallList.eraseP isFound }
      info.call := by
  obtain ⟨isThe, before, behind, list, others⟩ := find?_eq_some_iff_append.1 found
  have erased : mgr.freeInstallList.eraseP isFound = before ++ behind := by
    rw [list, eraseP_append_right _ (by simpa using others), eraseP_cons_of_pos isThe]
  have once := coherent.listedOnce
  rw [list, map_append, map_cons, nodup_middle, nodup_cons] at once
  constructor
  · rfl
  · rfl
  · rfl
  · exact eraseP_sublist
  · simp only [FreeInstallManager.others, erased]
    simp [list]
  · simpa [Listed, erased] using once.1

theorem OwnStep.setCall {changed : Call} (known : mgr.call call = some entered)
    (request : changed.request = entered.request)
    (sound : changed.Sound (mgr.Listed call) (mgr.Told call))
    (answered : ∀ result, changed.stage = .returned result -> changed.request.isAsync = false ->
      ∃ source, ⟨call, source, .returned result⟩ ∈ mgr.outcomes)
    (ownPromise : ∀ promise ∈ changed.promise, promise.2 = call) :
    mgr.OwnStep (mgr.setCall call changed) call entered changed :=
  ⟨known, rfl, rfl, request, List.Sublist.refl _, rfl, .inl rfl, sound, answered, ownPromise⟩

theorem Removes.returnCall (removes : mgr.Removes removed call)
    (known : mgr.call call = some entered)
    (remote : entered.request.isRemote = true -> entered.request.isAsync = false)
    (ends : entered.request.isAsync = false ∨ entered.isAwaited = false)
    (untold : ¬mgr.Told call) (ownPromise : ∀ promise ∈ entered.promise, promise.2 = call)
    (result : Int) {source : Option Nat} (ownInstall : ∀ install ∈ source, install = call) :
    mgr.OwnStep (removed.returnCall call entered result source) call entered
      { entered with stage := .returned result } where
  known := known
  calls := by rw [<- removes.calls]; rfl
  __ := removes
  request := rfl
  outcomes := .inr ⟨untold, source, _, ownInstall, by rw [<- removes.outcomes]; rfl⟩
  sound := {
    remote := remote
    pushed := nofun
    waits := by rintro (⟨⟨⟩⟩ | ⟨⟨⟩⟩)
    returned := by
      intro returned same
      have notAwaited : (entered.request.isAsync && entered.isAwaited) = false := by
        rcases ends with isSync | notAwaited
        · rw [isSync, Bool.false_and]
        · rw [notAwaited, Bool.and_false]
      rw [if_neg (by simpa using notAwaited)]
      exact ⟨by simp [Told, FreeInstallManager.returnCall, tell], removes.gone⟩ }
  answered := by
    rintro returned ⟨⟩ -
    exact ⟨source, mem_append_right _ (mem_singleton_self _)⟩
  ownPromise := ownPromise

theorem Removes.finishSync (removes : mgr.Removes removed call)
    (known : mgr.call call = some entered)
    (sound : entered.Sound (mgr.Listed call) (mgr.Told call))
    (answered : ∀ result, entered.stage = .returned result -> entered.request.isAsync = false ->
      ∃ source, ⟨call, source, .returned result⟩ ∈ mgr.outcomes)
    (isAwaited : entered.isAwaited = true) (isSync : entered.request.isAsync = false)
    {promise : Option (Int × Nat)} (ownPromise : ∀ set ∈ promise, set.2 = call) :
    mgr.OwnStep (removed.setCall call { entered with isAwaited := false, promise }) call entered
      { entered with isAwaited := false, promise } where
  known := known
  calls := by rw [<- removes.calls]; rfl
  __ := removes
  request := rfl
  outcomes := .inl removes.outcomes
  sound := {
    remote := fun _ => isSync
    pushed := fun pushed => by
      rw [(sound.pushed pushed).2.2.1] at isAwaited
      cases isAwaited
    waits := fun waits => by
      obtain ⟨-, untold, -, -⟩ := sound.waits waits
      rw [Told, setCall_outcomes, removes.outcomes]
      exact ⟨isSync, untold, by simp, fun _ => removes.gone⟩
    returned := fun result returned => by
      have ended := sound.returned result returned
      rw [isSync, Bool.false_and, if_neg Bool.false_ne_true] at ended
      rw [Bool.and_false, if_neg Bool.false_ne_true, Told, setCall_outcomes, removes.outcomes]
      exact ⟨ended.1, removes.gone⟩ }
  answered := by rwa [setCall_outcomes, removes.outcomes]
  ownPromise := ownPromise

theorem Removes.finishAsync (removes : mgr.Removes removed call)
    (known : mgr.call call = some entered)
    (sound : entered.Sound (mgr.Listed call) (mgr.Told call))
    (isAwaited : entered.isAwaited = true) (isAsync : entered.request.isAsync = true)
    (ownPromise : ∀ promise ∈ entered.promise, promise.2 = call) (notice : Notice) :
    mgr.OwnStep ((removed.setCall call { entered with isAwaited := false }).tell
        ⟨call, some call, notice⟩) call entered { entered with isAwaited := false } where
  known := known
  calls := by rw [<- removes.calls]; rfl
  __ := removes
  request := rfl
  outcomes := by
    refine .inr ⟨(sound.untold isAwaited isAsync).2, some call, notice, ?_, ?_⟩
    · rintro install ⟨⟩; rfl
    · rw [<- removes.outcomes]; rfl
  sound := {
    remote := sound.remote
    pushed := fun pushed => by
      rw [(sound.pushed pushed).2.2.1] at isAwaited
      cases isAwaited
    waits := fun waits => by
      rw [(sound.waits waits).1] at isAsync
      cases isAsync
    returned := fun result returned => by
      rw [Bool.and_false, if_neg Bool.false_ne_true]
      exact ⟨by simp [Told, tell], removes.gone⟩ }
  answered := by
    intro result returned isSync
    rw [isAsync] at isSync
    cases isSync
  ownPromise := ownPromise

theorem handleFreeInstallResult_cases (source : Nat) (recordId : Int) (info : FreeInstallInfo)
    (result : InstallResult) (isAsync : Bool) :
    let after := mgr.handleFreeInstallResult source recordId info result isAsync
    (after = mgr ∧ result.resultCode ≠ errOk ∧ info.requestId ≠ "" ∧
      result.hasAbilityRecord info.call = false) ∨
    (isAsync = true ∧ ∃ notice, after = mgr.tell ⟨info.call, some source, notice⟩) ∨
    (isAsync = false ∧ ∃ code, after = mgr.setPromise info.call source code) := by
  intro after
  by_cases isOk : result.resultCode = errOk
  · have installed : after = mgr.handleOnFreeInstallSuccess source recordId info result isAsync :=
      if_pos isOk
    cases isAsync with
    | true => exact .inr (.inl ⟨rfl, _, installed⟩)
    | false => exact .inr (.inr ⟨rfl, _, installed⟩)
  · have failed : after = mgr.handleOnFreeInstallFail source recordId info result isAsync :=
      if_neg isOk
    rw [handleOnFreeInstallFail] at failed
    split at failed
    next isLost =>
      simp only [ne_eq, and_eq_true, decide_eq_true_eq, not_eq_true'] at isLost
      exact .inl ⟨failed, isOk, isLost⟩
    · cases isAsync with
      | true => exact .inr (.inl ⟨rfl, _, failed⟩)
      | false => exact .inr (.inr ⟨rfl, _, failed⟩)

def Owns (mgr after : FreeInstallManager) (call : Nat) : Prop :=
  after = mgr ∨ ∃ entered changed, mgr.OwnStep after call entered changed

def NotifiesOwn (mgr : FreeInstallManager) (call : Nat) (request : InstallRequest)
    (result : InstallResult) : Prop :=
  (∀ info ∈ mgr.freeInstallList.find? (·.isResultFor request.want request.isAsync),
    info.call = call) ∧
  (request.isAsync = true -> result.resultCode ≠ errOk -> request.requestId ≠ "" ->
    result.hasAbilityRecord call = true)

def IntentFinishesOwn (mgr : FreeInstallManager) (call : Nat) (request : InstallRequest)
    (result : InstallResult) : Prop :=
  if request.isAsync then
    ∀ info ∈ mgr.freeInstallList, info.isTaskOf request.want = true -> info.call = call
  else
    result.resultCode = errOk ∧ ∀ info ∈ mgr.freeInstallList, info.isTaskOf request.want = false

def FinishesOwn (mgr : FreeInstallManager) (call : Nat) (request : InstallRequest)
    (result : InstallResult) : Prop :=
  if request.isRemote = false ∧ request.want.isInsightIntent = true then
    mgr.IntentFinishesOwn call request result
  else mgr.NotifiesOwn call request result

section

variable (coherent : mgr.Coherent)
include coherent

section

variable (known : mgr.call call = some entered)
include known

theorem find?_listed (listed : mgr.Listed call) :
    ∃ info, mgr.freeInstallList.find?
      (·.isResultFor entered.request.want entered.request.isAsync) = some info := by
  obtain ⟨info, present, rfl⟩ := mem_map.1 listed
  rw [<- Option.isSome_iff_exists, find?_isSome]
  exact ⟨info, present, isResultFor_self (coherent.isOf known present)⟩

theorem notifyFreeInstallResult_owns (isAwaited : entered.isAwaited = true) (recordId : Int)
    (result : InstallResult) (notifiesOwn : mgr.NotifiesOwn call entered.request result) :
    mgr.Owns ((mgr.setCall call { entered with isAwaited := false }).notifyFreeInstallResult
      call recordId entered.request.want result entered.request.isAsync) call := by
  have sound := coherent.sound call entered known
  have ownPromise := coherent.ownPromise call entered known
  have answered := fun result => coherent.answered call entered result known
  obtain ⟨finishesOwn, hasRecord⟩ := notifiesOwn
  rw [notifyFreeInstallResult, setCall_freeInstallList]
  split
  next info found =>
    obtain rfl := finishesOwn info found
    have removes := eraseP_removes coherent found
    have isOf := coherent.isOf known (mem_of_find?_eq_some found)
    rcases handleFreeInstallResult_cases info.call recordId info result entered.request.isAsync with
      ⟨same, failed, hasRequest, isLost⟩ | ⟨isAsync, notice, told⟩ | ⟨isSync, code, set⟩
    · have isSync : entered.request.isAsync = false := by
        by_contra isAsync
        rw [not_eq_false] at isAsync
        rw [hasRecord isAsync failed (isOf.requestId ▸ hasRequest)] at isLost
        cases isLost
      rw [same]
      exact .inr ⟨_, _, removes.finishSync known sound answered isAwaited isSync ownPromise⟩
    · rw [told]
      exact .inr ⟨_, _, removes.finishAsync known sound isAwaited isAsync ownPromise notice⟩
    · have ownSet : ∀ promise ∈ some (code, info.call), promise.2 = info.call := by
        rintro promise ⟨⟩
        rfl
      have own := removes.finishSync known sound answered isAwaited isSync ownSet
      rw [<- setCall_again { entered with isAwaited := false }] at own
      rw [set, setPromise_of (Function.update_self ..)]
      exact .inr ⟨_, _, own⟩
  next absent =>
    have unlisted : ¬mgr.Listed call := fun listed => by
      obtain ⟨info, found⟩ := find?_listed coherent known listed
      rw [absent] at found
      cases found
    have isSync : entered.request.isAsync = false := by
      by_contra isAsync
      rw [not_eq_false] at isAsync
      exact unlisted (sound.untold isAwaited isAsync).1
    exact .inr ⟨_, _, (removes_of_unlisted unlisted).finishSync known sound answered isAwaited isSync
      ownPromise⟩

theorem tasks_of_alone (listed : mgr.Listed call)
    (alone : ∀ info ∈ mgr.freeInstallList, info.isTaskOf entered.request.want = true ->
      info.call = call) :
    ∃ info, info.call = call ∧
      mgr.freeInstallList.filter (·.isTaskOf entered.request.want) = [info] := by
  obtain ⟨info, present, rfl⟩ := mem_map.1 listed
  refine ⟨info, rfl, ?_⟩
  have once : ((mgr.freeInstallList.filter (·.isTaskOf entered.request.want)).map
      FreeInstallInfo.call).Nodup := (filter_sublist.map _).nodup coherent.listedOnce
  have own : ∀ task ∈ mgr.freeInstallList.filter (·.isTaskOf entered.request.want),
      task.call = info.call := fun task isTask =>
    alone task (mem_filter.1 isTask).1 (mem_filter.1 isTask).2
  have isTask : info ∈ mgr.freeInstallList.filter (·.isTaskOf entered.request.want) :=
    mem_filter.2 ⟨present, isTaskOf_self (coherent.isOf known present)⟩
  match tasks : mgr.freeInstallList.filter (·.isTaskOf entered.request.want) with
  | [] =>
    rw [tasks] at isTask
    cases isTask
  | [task] =>
    rw [tasks, mem_singleton] at isTask
    rw [isTask, tasks]
  | first :: second :: rest =>
    rw [tasks] at once own
    have same : first.call = second.call := by rw [own first (by simp), own second (by simp)]
    simp [same] at once

theorem notifyInsightIntentFreeInstallResult_owns (isAwaited : entered.isAwaited = true)
    (result : InstallResult) (finishesOwn : mgr.IntentFinishesOwn call entered.request result) :
    mgr.Owns ((mgr.setCall call
      { entered with isAwaited := false }).notifyInsightIntentFreeInstallResult call
        entered.request.want result) call := by
  have sound := coherent.sound call entered known
  have ownPromise := coherent.ownPromise call entered known
  rw [IntentFinishesOwn] at finishesOwn
  cases isAsync : entered.request.isAsync with
  | true =>
    rw [if_pos isAsync] at finishesOwn
    have removes := removeFreeInstallInfo_removes coherent known finishesOwn
    have finish := removes.finishAsync known sound isAwaited isAsync ownPromise
    rw [notifyInsightIntentFreeInstallResult]
    split
    · exact .inr ⟨_, _, finish _⟩
    · have listed := (sound.untold isAwaited isAsync).1
      obtain ⟨info, rfl, tasks⟩ := tasks_of_alone coherent known listed finishesOwn
      dsimp only
      rw [setCall_freeInstallList, tasks, map_singleton]
      split
      · exact .inr ⟨_, _, finish _⟩
      · exact .inr ⟨_, _, finish _⟩
  | false =>
    rw [isAsync, if_neg Bool.false_ne_true] at finishesOwn
    obtain ⟨isOk, none⟩ := finishesOwn
    have removes := removeFreeInstallInfo_removes coherent known fun info present isTask => by
      rw [none info present] at isTask
      cases isTask
    have own := removes.finishSync known sound
      (fun result => coherent.answered call entered result known) isAwaited isAsync ownPromise
    have tasks : mgr.freeInstallList.filter (·.isTaskOf entered.request.want) = [] :=
      filter_eq_nil_iff.2 fun info present => by simp [none info present]
    rw [notifyInsightIntentFreeInstallResult, if_neg (not_not.2 isOk)]
    dsimp only
    rw [setCall_freeInstallList, tasks, map_nil, append_nil]
    exact .inr ⟨_, _, own⟩

end

end

end FreeInstallManager

end AbilityRuntime.FreeInstall
