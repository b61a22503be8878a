import Mathlib.Data.List.Nodup
import AbilityRuntime.FreeInstall.FreeInstallManager

set_option autoImplicit false

namespace AbilityRuntime.FreeInstall

open Library FreeInstallInfo Function List

structure FreeInstallInfo.IsOf (info : FreeInstallInfo) (request : InstallRequest) : Prop where
  want : info.want = request.want
  hasPromise : info.hasPromise = !request.isAsync
  requestId : info.requestId = request.requestId

structure Call.Sound (entered : Call) (listed told : Prop) : Prop where
  remote : entered.request.isRemote = true -> entered.request.isAsync = false
  pushed : entered.stage = .pushed ->
    listed ∧ ¬told ∧ entered.isAwaited = false ∧ entered.promise = none
  waits : entered.stage = .waiting ∨ entered.stage = .timedOut ->
    entered.request.isAsync = false ∧ ¬told ∧ (entered.isAwaited = true -> listed) ∧
      (entered.promise.isSome = true -> ¬listed)
  returned : ∀ result, entered.stage = .returned result ->
    if entered.request.isAsync && entered.isAwaited then listed ∧ ¬told else told ∧ ¬listed

theorem Call.Sound.untold {entered : Call} {listed told : Prop} (sound : entered.Sound listed told)
    (isAwaited : entered.isAwaited = true) (isAsync : entered.request.isAsync = true) :
    listed ∧ ¬told := by
  cases stage : entered.stage with
  | pushed =>
    rw [(sound.pushed stage).2.2.1] at isAwaited
    cases isAwaited
  | waiting =>
    rw [(sound.waits (.inl stage)).1] at isAsync
    cases isAsync
  | timedOut =>
    rw [(sound.waits (.inr stage)).1] at isAsync
    cases isAsync
  | returned result =>
    have ended := sound.returned result stage
    rwa [isAsync, isAwaited, Bool.and_true, if_pos rfl] at ended

theorem FreeInstallInfo.isTaskOf_self {info : FreeInstallInfo} {request : InstallRequest}
    (isOf : info.IsOf request) : info.isTaskOf request.want = true := by
  simp [isTaskOf, isTask, isOf.want]

theorem FreeInstallInfo.isResultFor_self {info : FreeInstallInfo} {request : InstallRequest}
    (isOf : info.IsOf request) : info.isResultFor request.want request.isAsync = true := by
  simp [isResultFor, isTaskOf_self isOf, isOf.want, isOf.hasPromise]

namespace FreeInstallManager

variable (mgr : FreeInstallManager)

def Listed (call : Nat) : Prop := call ∈ mgr.freeInstallList.map FreeInstallInfo.call

def Told (call : Nat) : Prop := call ∈ mgr.outcomes.map Outcome.call

def others (call : Nat) : List FreeInstallInfo := mgr.freeInstallList.filter (·.call ≠ call)

structure Coherent : Prop where
  known : ∀ call, (mgr.call call).isSome = true ↔ call < mgr.nextCall
  entries : ∀ info ∈ mgr.freeInstallList, ∃ entered,
    mgr.call info.call = some entered ∧ info.IsOf entered.request
  listedOnce : (mgr.freeInstallList.map FreeInstallInfo.call).Nodup
  toldOnce : (mgr.outcomes.map Outcome.call).Nodup
  toldKnown : ∀ call, mgr.Told call -> (mgr.call call).isSome = true
  sound : ∀ call entered, mgr.call call = some entered ->
    entered.Sound (mgr.Listed call) (mgr.Told call)
  answered : ∀ call entered result, mgr.call call = some entered ->
    entered.stage = .returned result -> entered.request.isAsync = false ->
      ∃ source, ⟨call, source, .returned result⟩ ∈ mgr.outcomes
  ownInstall : ∀ outcome ∈ mgr.outcomes, ∀ source ∈ outcome.source, source = outcome.call
  ownPromise : ∀ call entered, mgr.call call = some entered ->
    ∀ promise ∈ entered.promise, promise.2 = call

/-- A step of one call changes this call, takes at most its entry and tells at most it. -/
structure OwnStep (after : FreeInstallManager) (call : Nat) (entered changed : Call) : Prop where
  known : mgr.call call = some entered
  calls : after.call = update mgr.call call (some changed)
  nextCall : after.nextCall = mgr.nextCall
  request : changed.request = entered.request
  fewer : after.freeInstallList.Sublist mgr.freeInstallList
  others : after.others call = mgr.others call
  outcomes : after.outcomes = mgr.outcomes ∨ ¬mgr.Told call ∧ ∃ source notice,
    (∀ install ∈ source, install = call) ∧ after.outcomes = mgr.outcomes ++ [⟨call, source, notice⟩]
  sound : changed.Sound (after.Listed call) (after.Told call)
  answered : ∀ result, changed.stage = .returned result -> changed.request.isAsync = false ->
    ∃ source, ⟨call, source, .returned result⟩ ∈ after.outcomes
  ownPromise : ∀ promise ∈ changed.promise, promise.2 = call

variable {mgr} {after : FreeInstallManager} {call other : Nat} {entered changed : Call}

theorem mem_others {info : FreeInstallInfo} :
    info ∈ mgr.others call ↔ info ∈ mgr.freeInstallList ∧ info.call ≠ call := by
  simp [others]

theorem listed_iff_others (apart : other ≠ call) :
    mgr.Listed other ↔ other ∈ (mgr.others call).map FreeInstallInfo.call := by
  simp only [Listed, List.mem_map, mem_others]
  constructor
  · rintro ⟨info, present, rfl⟩
    exact ⟨info, ⟨present, apart⟩, rfl⟩
  · rintro ⟨info, ⟨present, -⟩, rfl⟩
    exact ⟨info, present, rfl⟩

namespace OwnStep

variable (own : mgr.OwnStep after call entered changed)

include own

theorem listed_iff (apart : other ≠ call) : after.Listed other ↔ mgr.Listed other := by
  rw [listed_iff_others apart, listed_iff_others apart, own.others]

theorem listed (present : after.Listed other) : mgr.Listed other :=
  (own.fewer.map _).subset present

theorem told_iff (apart : other ≠ call) : after.Told other ↔ mgr.Told other := by
  rcases own.outcomes with same | ⟨-, source, notice, -, told⟩
  · simp only [Told, same]
  · simp [Told, told, apart]

theorem outcomes_subset : mgr.outcomes ⊆ after.outcomes := by
  rcases own.outcomes with same | ⟨-, source, notice, -, told⟩
  · exact same ▸ Subset.refl _
  · exact told ▸ subset_append_left ..

theorem isSome_iff : (after.call other).isSome = true ↔ (mgr.call other).isSome = true := by
  rw [own.calls]
  by_cases same : other = call
  · simp [same, own.known]
  · simp [same]

theorem cases_call {found : Call} (present : after.call other = some found) :
    other = call ∧ found = changed ∨ other ≠ call ∧ mgr.call other = some found := by
  rw [own.calls] at present
  by_cases same : other = call
  · subst same
    rw [update_self, Option.some.injEq] at present
    exact .inl ⟨rfl, present.symm⟩
  · rw [update_of_ne same] at present
    exact .inr ⟨same, present⟩

theorem coherent (coherent : mgr.Coherent) : after.Coherent where
  known other := by rw [own.isSome_iff, coherent.known, own.nextCall]
  entries info present := by
    obtain ⟨found, known, isOf⟩ := coherent.entries info (own.fewer.subset present)
    rw [own.calls]
    by_cases same : info.call = call
    · rw [same, own.known, Option.some.injEq] at known
      subst known
      exact ⟨changed, by rw [same, update_self], own.request ▸ isOf⟩
    · exact ⟨found, by rw [update_of_ne same, known], isOf⟩
  listedOnce := (own.fewer.map _).nodup coherent.listedOnce
  toldOnce := by
    rcases own.outcomes with same | ⟨untold, source, notice, -, told⟩
    · exact same ▸ coherent.toldOnce
    · rw [told, map_append, map_singleton, nodup_append_comm]
      exact nodup_cons.2 ⟨untold, coherent.toldOnce⟩
  toldKnown other told := by
    rw [own.isSome_iff]
    by_cases same : other = call
    · rw [same, own.known, Option.isSome_some]
    · exact coherent.toldKnown other ((own.told_iff same).1 told)
  sound other found present := by
    rcases own.cases_call present with ⟨rfl, rfl⟩ | ⟨apart, earlier⟩
    · exact own.sound
    · rw [own.listed_iff apart, own.told_iff apart]
      exact coherent.sound other found earlier
  answered other found result present returned isSync := by
    rcases own.cases_call present with ⟨rfl, rfl⟩ | ⟨-, earlier⟩
    · exact own.answered result returned isSync
    · obtain ⟨source, told⟩ := coherent.answered other found result earlier returned isSync
      exact ⟨source, own.outcomes_subset told⟩
  ownInstall outcome told := by
    rcases own.outcomes with same | ⟨-, source, notice, install, more⟩
    · exact coherent.ownInstall outcome (same ▸ told)
    · rw [more, mem_append, mem_singleton] at told
      rcases told with earlier | rfl
      · exact coherent.ownInstall outcome earlier
      · exact install
  ownPromise other found present := by
    rcases own.cases_call present with ⟨rfl, rfl⟩ | ⟨-, earlier⟩
    · exact own.ownPromise
    · exact coherent.ownPromise other found earlier

end OwnStep

end FreeInstallManager

end AbilityRuntime.FreeInstall
