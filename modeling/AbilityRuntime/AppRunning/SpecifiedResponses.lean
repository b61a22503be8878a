import AbilityRuntime.AppRunning.SpecifiedAbility

set_option autoImplicit false

namespace AbilityRuntime.AppRunning.Specified

open Library Option AppMgrServiceInner List Specified.AppRunningRecord Machine

namespace AppRunningRecord

variable {record : AppRunningRecord}

@[simp] theorem addModules_specifiedAbilityRequest (bundleName moduleName : String) :
    (record.addModules bundleName moduleName).specifiedAbilityRequest =
      record.specifiedAbilityRequest := by
  unfold addModules
  split <;> rfl

theorem getTheModuleInfoNeedToUpdated_specifiedAbilityRequest {bundleName : String}
    {updated : AppRunningRecord}
    (found : record.getTheModuleInfoNeedToUpdated bundleName = some updated) :
    updated.specifiedAbilityRequest = record.specifiedAbilityRequest := by
  obtain ⟨_, _, rfl⟩ := map_eq_some_iff.mp found
  rfl

@[simp] theorem addAbilityStage_specifiedAbilityRequest :
    record.addAbilityStage.specifiedAbilityRequest = record.specifiedAbilityRequest := by
  unfold addAbilityStage
  cases found : record.getTheModuleInfoNeedToUpdated record.mainBundleName with
  | none => rfl
  | some updated => exact getTheModuleInfoNeedToUpdated_specifiedAbilityRequest found

@[simp] theorem addAbilityStageBySpecifiedAbility_specifiedAbilityRequest (bundleName : String) :
    (record.addAbilityStageBySpecifiedAbility bundleName).1.specifiedAbilityRequest =
      record.specifiedAbilityRequest := by
  unfold addAbilityStageBySpecifiedAbility
  split
  next updated found => exact getTheModuleInfoNeedToUpdated_specifiedAbilityRequest found
  · rfl

@[simp] theorem addAbilityStageForSpecified_specifiedAbilityRequest :
    record.addAbilityStageForSpecified.specifiedAbilityRequest =
      record.specifiedAbilityRequest := by
  unfold addAbilityStageForSpecified
  split
  · exact addAbilityStageBySpecifiedAbility_specifiedAbilityRequest _
  · rfl

end AppRunningRecord

namespace AppMgrServiceInner

structure Matched (service : AppMgrServiceInner) : Prop where
  scheduledOnce : service.scheduled.Nodup
  ownRequest : ∀ response ∈ service.responses, response.requestId = response.request
  respondedOnce : (service.responses.map SpecifiedResponse.requestId).Nodup

def FreshRequest (service : AppMgrServiceInner) : SpecifiedCall -> Prop
  | .startSpecifiedAbility requestId _ _ => requestId ∉ service.requestIds
  | _ => True

instance decidableFreshRequest (service : AppMgrServiceInner) :
    ∀ call, Decidable (service.FreshRequest call)
  | .startSpecifiedAbility requestId _ _ => inferInstanceAs (Decidable (requestId ∉ _))
  | .attachApplication | .launchApplication | .addAbilityStageDone | .scheduleAcceptWantDone
  | .handleTimeOut _ => isTrue trivial

/-- A stage done has an unscheduled want, and an answer is about the request in the slot. -/
def KeepsRequest (service : AppMgrServiceInner) : SpecifiedCall -> Prop
  | .addAbilityStageDone => ∀ record ∈ service.appRecord, record.hasAppLifeCycleDeal = true ->
    ∀ requestId ∈ record.specifiedAbilityRequest, requestId ∉ service.scheduled
  | .scheduleAcceptWantDone => ∀ record ∈ service.appRecord, ∀ request ∈ service.accepting.head?,
    record.specifiedAbilityRequest = some request
  | .handleTimeOut param => ∀ record ∈ service.appRecord,
    ∀ request ∈ service.appEventList.lookup param,
      ∀ requestId ∈ record.specifiedAbilityRequest, requestId = request
  | _ => True

instance decidableKeepsRequest (service : AppMgrServiceInner) :
    ∀ call, Decidable (service.KeepsRequest call)
  | .addAbilityStageDone => inferInstanceAs (Decidable (∀ record ∈ service.appRecord,
      record.hasAppLifeCycleDeal = true -> ∀ requestId ∈ record.specifiedAbilityRequest, _))
  | .scheduleAcceptWantDone => inferInstanceAs (Decidable (∀ record ∈ service.appRecord,
      ∀ request ∈ service.accepting.head?, _ = some request))
  | .handleTimeOut param => inferInstanceAs (Decidable (∀ record ∈ service.appRecord,
      ∀ request ∈ service.appEventList.lookup param,
        ∀ requestId ∈ record.specifiedAbilityRequest, requestId = request))
  | .startSpecifiedAbility _ _ _ | .attachApplication | .launchApplication => isTrue trivial

def Open (service : AppMgrServiceInner) (requestId : Nat) : Prop :=
  requestId ∈ service.requestIds ∧ ∀ response ∈ service.responses, response.request ≠ requestId

structure Coherent (service : AppMgrServiceInner) : Prop extends Matched service where
  scheduledAsked : ∀ requestId ∈ service.scheduled, requestId ∈ service.requestIds
  respondedAsked : ∀ response ∈ service.responses, response.request ∈ service.requestIds
  current : ∀ record ∈ service.appRecord, ∀ requestId ∈ record.specifiedAbilityRequest,
    service.Open requestId

variable {service : AppMgrServiceInner} {record : AppRunningRecord} {requestId : Nat}

theorem Coherent.withRecord (sound : service.Coherent) {record : Option AppRunningRecord}
    (current : ∀ changed ∈ record, ∀ requestId ∈ changed.specifiedAbilityRequest,
      service.Open requestId) :
    { service with appRecord := record }.Coherent where
  __ := sound
  current := current

theorem Coherent.mapRecord (sound : service.Coherent) {change : AppRunningRecord -> AppRunningRecord}
    (same : ∀ record, (change record).specifiedAbilityRequest = record.specifiedAbilityRequest) :
    { service with appRecord := service.appRecord.map change }.Coherent := by
  refine sound.withRecord fun changed found requestId held => ?_
  obtain ⟨record, present, rfl⟩ := map_eq_some_iff.mp found
  rw [same] at held
  exact sound.current record present requestId held

theorem Coherent.scheduleAcceptWant (sound : service.Coherent)
    (asked : requestId ∈ service.requestIds)
    (unscheduled : record.hasAppLifeCycleDeal = true -> requestId ∉ service.scheduled) :
    (service.scheduleAcceptWant record requestId).Coherent := by
  unfold AppMgrServiceInner.scheduleAcceptWant
  split
  next deal =>
    refine { sound with scheduledOnce := ?_, scheduledAsked := ?_ }
    · rw [nodup_append]
      refine ⟨sound.scheduledOnce, nodup_singleton _, ?_⟩
      rintro scheduled present _ last rfl
      exact unscheduled deal (mem_singleton.mp last ▸ present)
    · intro scheduled present
      rcases mem_append.mp present with before | last
      · exact sound.scheduledAsked scheduled before
      · exact mem_singleton.mp last ▸ asked
  · exact { sound with }

theorem scheduleAcceptWant_unscheduled
    (matched : (service.scheduleAcceptWant record requestId).Matched)
    (deal : record.hasAppLifeCycleDeal = true) : requestId ∉ service.scheduled := by
  have once := matched.scheduledOnce
  unfold scheduleAcceptWant at once
  rw [if_pos deal] at once
  exact fun present => (nodup_append.mp once).2.2 _ present _ (mem_singleton_self _) rfl

theorem Coherent.ask (sound : service.Coherent) (requestId : Nat) :
    { service with requestIds := requestId :: service.requestIds }.Coherent where
  __ := sound
  scheduledAsked := fun scheduled present => .tail _ (sound.scheduledAsked scheduled present)
  respondedAsked := fun response present => .tail _ (sound.respondedAsked response present)
  current := fun record found current held =>
    have before := sound.current record found current held
    ⟨.tail _ before.1, before.2⟩

theorem Coherent.startSpecifiedAbility (sound : service.Coherent)
    (bundleName moduleName : String)
    (fresh : service.FreshRequest (.startSpecifiedAbility requestId bundleName moduleName)) :
    (service.startSpecifiedAbility requestId bundleName moduleName).Coherent := by
  have unanswered : Open { service with requestIds := requestId :: service.requestIds } requestId :=
    ⟨.head _, fun response present same => fresh (same ▸ sound.respondedAsked response present)⟩
  have asked := sound.ask requestId
  unfold AppMgrServiceInner.startSpecifiedAbility
  split
  · refine asked.withRecord ?_
    rintro _ ⟨⟩ current held
    cases held
    exact unanswered
  next record found =>
    split
    · exact sound
    · unfold startSpecifiedAbilityExist
      dsimp only
      split
      · refine asked.withRecord ?_
        rintro _ ⟨⟩ current held
        rw [addAbilityStageBySpecifiedAbility_specifiedAbilityRequest,
          addModules_specifiedAbilityRequest] at held
        cases held
        exact unanswered
      · have slot := @addAbilityStageBySpecifiedAbility_specifiedAbilityRequest
          (record.setSpecifiedAbilityFlagAndWant requestId moduleName) bundleName
        have kept : ∀ staged : AppRunningRecord,
            staged.specifiedAbilityRequest = some requestId ->
              { service with
                requestIds := requestId :: service.requestIds
                appRecord := some staged }.Coherent := by
          intro staged same
          refine asked.withRecord ?_
          rintro _ ⟨⟩ current held
          rw [same] at held
          cases held
          exact unanswered
        split
        next staged sent =>
          rw [sent] at slot
          exact kept staged slot
        next staged sent =>
          rw [sent] at slot
          refine (kept staged slot).scheduleAcceptWant (.head _) fun _ scheduled => ?_
          exact fresh (sound.scheduledAsked requestId scheduled)

theorem Coherent.respond (sound : service.Coherent) (present : record ∈ service.appRecord)
    (held : record.specifiedAbilityRequest = some requestId) {emptied : AppRunningRecord}
    (empty : emptied.specifiedAbilityRequest = none) :
    Coherent { service with
      appRecord := some emptied
      responses := service.responses ++ [⟨record.getSpecifiedRequestId, requestId⟩] } := by
  have unanswered := sound.current record present requestId held
  have same : record.getSpecifiedRequestId = requestId := by
    unfold getSpecifiedRequestId
    rw [held]
  rw [same]
  refine { sound with ownRequest := ?_, respondedOnce := ?_, respondedAsked := ?_, current := ?_ }
  · intro response responded
    rcases mem_append.mp responded with before | last
    · exact sound.ownRequest response before
    · rw [mem_singleton.mp last]
  · rw [map_append, nodup_append]
    refine ⟨sound.respondedOnce, nodup_singleton _, ?_⟩
    rintro _ before _ last rfl
    obtain ⟨response, responded, number⟩ := mem_map.mp before
    rw [sound.ownRequest response responded, mem_singleton.mp last] at number
    exact unanswered.2 response responded (Int.ofNat.inj number)
  · intro response responded
    rcases mem_append.mp responded with before | last
    · exact sound.respondedAsked response before
    · rw [mem_singleton.mp last]; exact unanswered.1
  · rintro _ ⟨⟩ current still
    rw [empty] at still
    cases still

theorem scheduleAcceptWantDone_of {request : Nat} {accepting : List Nat}
    (found : service.appRecord = some record) (next : service.accepting = request :: accepting) :
    service.scheduleAcceptWantDone =
      { service with
        appRecord := some record.resetSpecifiedRequest
        appEventList := ∅
        accepting
        responses := service.responses ++ [⟨record.getSpecifiedRequestId, request⟩] } := by
  unfold scheduleAcceptWantDone
  rw [found, next]

theorem Coherent.scheduleAcceptWantDone (sound : service.Coherent)
    (keeps : service.KeepsRequest .scheduleAcceptWantDone) :
    service.scheduleAcceptWantDone.Coherent := by
  cases found : service.appRecord with
  | none =>
    unfold AppMgrServiceInner.scheduleAcceptWantDone
    rw [found]
    exact sound
  | some record =>
    cases next : service.accepting with
    | nil =>
      unfold AppMgrServiceInner.scheduleAcceptWantDone
      rw [found, next]
      exact sound
    | cons request accepting =>
      have held := keeps record found request (by rw [next]; rfl)
      have responded := @Coherent.respond service record request sound found held
        record.resetSpecifiedRequest rfl
      rw [scheduleAcceptWantDone_of found next]
      exact { responded with }

theorem getSpecifiedRequestId_inj
    (same : record.getSpecifiedRequestId = requestId) :
    record.specifiedAbilityRequest = some requestId := by
  unfold getSpecifiedRequestId at same
  split at same
  next held => rw [held, Int.ofNat.inj same]
  · cases same

theorem scheduleAcceptWantDone_keeps (matched : service.scheduleAcceptWantDone.Matched) :
    service.KeepsRequest .scheduleAcceptWantDone := by
  intro record found request first
  cases next : service.accepting with
  | nil =>
    rw [next] at first
    cases first
  | cons answered accepting =>
    rw [next] at first
    cases first
    rw [scheduleAcceptWantDone_of found next] at matched
    exact getSpecifiedRequestId_inj
      (matched.ownRequest _ (mem_append_right _ (mem_singleton_self _)))

theorem Coherent.handleTimeOut (sound : service.Coherent) {param : Nat}
    (keeps : service.KeepsRequest (.handleTimeOut param)) : (service.handleTimeOut param).Coherent := by
  unfold AppMgrServiceInner.handleTimeOut
  split
  next record request found event =>
    unfold handleStartSpecifiedAbilityTimeOut isStartSpecifiedAbility
    cases held : record.specifiedAbilityRequest with
    | none =>
      have emptied := @Coherent.withRecord service sound
        (some { record.resetSpecifiedRequest with isTerminating := true }) (by rintro _ ⟨⟩ _ ⟨⟩)
      exact { emptied with }
    | some requestId =>
      have same := keeps record found request event requestId held
      rw [same] at held
      have responded := @Coherent.respond service record request sound found held
        { record.resetSpecifiedRequest with isTerminating := true } rfl
      exact { responded with }
  · exact sound

theorem handleTimeOut_keeps {param : Nat} (matched : (service.handleTimeOut param).Matched) :
    service.KeepsRequest (.handleTimeOut param) := by
  intro record found request event requestId held
  unfold handleTimeOut at matched
  rw [found, event] at matched
  have own := matched.ownRequest
  unfold handleStartSpecifiedAbilityTimeOut isStartSpecifiedAbility at own
  dsimp only at own
  rw [held, isSome_some, if_pos rfl] at own
  have timedOut := getSpecifiedRequestId_inj (own _ (mem_append_right _ (mem_singleton_self _)))
  rw [held] at timedOut
  exact some.inj timedOut

theorem Coherent.addAbilityStageDone (sound : service.Coherent)
    (keeps : service.KeepsRequest .addAbilityStageDone) : service.addAbilityStageDone.Coherent := by
  unfold AppMgrServiceInner.addAbilityStageDone
  split
  · exact sound
  next record found =>
    split
    next requestId held =>
      exact sound.scheduleAcceptWant (sound.current record found requestId held).1
        fun deal => keeps record found deal requestId held
    next held =>
      refine sound.withRecord ?_
      rintro _ ⟨⟩ requestId still
      rw [addAbilityStage_specifiedAbilityRequest, held] at still
      cases still

theorem addAbilityStageDone_keeps (matched : service.addAbilityStageDone.Matched) :
    service.KeepsRequest .addAbilityStageDone := by
  intro record found deal requestId held
  unfold addAbilityStageDone at matched
  rw [mem_def.mp found] at matched
  dsimp only at matched
  rw [mem_def.mp held] at matched
  exact scheduleAcceptWant_unscheduled matched deal

theorem Coherent.step (sound : service.Coherent) (call : SpecifiedCall)
    (fresh : service.FreshRequest call) (keeps : service.KeepsRequest call) :
    (service.step call).Coherent := by
  cases call with
  | startSpecifiedAbility requestId bundleName moduleName =>
    exact sound.startSpecifiedAbility bundleName moduleName fresh
  | attachApplication => exact sound.mapRecord fun _ => rfl
  | launchApplication =>
    refine sound.mapRecord fun record => ?_
    split
    · exact addAbilityStageForSpecified_specifiedAbilityRequest
    · rfl
  | addAbilityStageDone => exact sound.addAbilityStageDone keeps
  | scheduleAcceptWantDone => exact sound.scheduleAcceptWantDone keeps
  | handleTimeOut param => exact sound.handleTimeOut keeps

theorem step_keeps {call : SpecifiedCall} (matched : (service.step call).Matched) :
    service.KeepsRequest call := by
  cases call with
  | addAbilityStageDone => exact addAbilityStageDone_keeps matched
  | scheduleAcceptWantDone => exact scheduleAcceptWantDone_keeps matched
  | handleTimeOut param => exact handleTimeOut_keeps matched
  | startSpecifiedAbility _ _ _ | attachApplication | launchApplication => trivial

end AppMgrServiceInner

open AppMgrServiceInner

theorem coherent_start (record : Option AppRunningRecord) :
    (appMgrService record).start.Coherent where
  scheduledOnce := nodup_nil
  ownRequest := fun _ responded => absurd responded not_mem_nil
  respondedOnce := nodup_nil
  scheduledAsked := fun _ scheduled => absurd scheduled not_mem_nil
  respondedAsked := fun _ responded => absurd responded not_mem_nil
  current := by
    intro record found requestId held
    obtain ⟨_, _, rfl⟩ := map_eq_some_iff.mp found
    cases held

/-- Wants and responses match exactly when no slot is taken over and no answer comes too late. -/
theorem specified_matched_iff (record : Option AppRunningRecord) (calls : List SpecifiedCall)
    (promised : (appMgrService record).EveryStep calls FreshRequest) :
    (appMgrService record).Throughout calls Matched ↔
      (appMgrService record).EveryStep calls KeepsRequest :=
  @throughout_iff_everyStep _ _ (appMgrService record) FreshRequest KeepsRequest Coherent
    Matched (coherent_start record)
    (fun _ call sound fresh keeps => sound.step call fresh keeps)
    (fun _ sound => sound.toMatched) (fun _ _ _ _ matched => step_keeps matched) _ promised

def runningProcess : AppRunningRecord where
  mainBundleName := "notes"
  hapModules := (∅ : KeyedMap String (List ModuleRunningRecord)).insert "notes" [⟨"entry", .running⟩]
  hasAppLifeCycleDeal := true
  isCreated := false

theorem specified_matched_inTurn :
    let calls : List SpecifiedCall :=
      [.startSpecifiedAbility 1 "notes" "entry", .scheduleAcceptWantDone,
        .startSpecifiedAbility 2 "notes" "share", .addAbilityStageDone, .handleTimeOut 2]
    (appMgrService (some runningProcess)).EveryStep calls FreshRequest ∧
      (appMgrService (some runningProcess)).Throughout calls Matched := by
  intro calls
  have promised : (appMgrService (some runningProcess)).EveryStep calls FreshRequest :=
    StepsFrom.everyStep (by decide)
  exact ⟨promised, (specified_matched_iff _ _ promised).mpr (StepsFrom.everyStep (by decide))⟩

theorem secondStart_takes_response :
    let calls : List SpecifiedCall :=
      [.startSpecifiedAbility 1 "notes" "entry", .startSpecifiedAbility 2 "notes" "entry",
        .scheduleAcceptWantDone]
    (appMgrService (some runningProcess)).EveryStep calls FreshRequest ∧
      ¬(appMgrService (some runningProcess)).Throughout calls Matched := by
  intro calls
  refine ⟨StepsFrom.everyStep (by decide), fun throughout => ?_⟩
  have matched := throughout calls [] (append_nil _).symm
  exact absurd (matched.ownRequest ⟨2, 1⟩ (by decide)) (by decide)

end AbilityRuntime.AppRunning.Specified
