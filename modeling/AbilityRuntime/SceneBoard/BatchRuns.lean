import AbilityRuntime.SceneBoard.BatchCalls

set_option autoImplicit false

namespace AbilityRuntime.SceneBoard

open Library SpecifiedRequests Option List

namespace UIAbilityLifecycleManager

/-- A batch waits with its requests, or has had its one outcome. -/
inductive Course (mgr : UIAbilityLifecycleManager) (requestListId : Nat) (abilities : List String) :
    Prop where
  | waiting (requestId : Nat)
      (course : mgr.course requestListId = [.called requestListId abilities])
      (held : (mgr.abilitiesRequestMap.lookup requestListId).isSome)
      (waits : mgr.queue.Waits requestListId requestId)
  | ended (missing : mgr.abilitiesRequestMap.lookup requestListId = none)
      (finished : Finished requestListId abilities (mgr.course requestListId))

structure BatchesOnCourse (mgr : UIAbilityLifecycleManager) : Prop where
  course : ∀ requestListId abilities, .called requestListId abilities ∈ mgr.events ->
    Course mgr requestListId abilities
  called : ∀ requestListId, (mgr.abilitiesRequestMap.lookup requestListId).isSome ->
    ∃ abilities, .called requestListId abilities ∈ mgr.events

def Live (mgr : UIAbilityLifecycleManager) (request : SpecifiedRequest) : Prop :=
  ∃ requestListId, request.requestListId = some requestListId ∧
    (mgr.abilitiesRequestMap.lookup requestListId).isSome

def Spares (mgr : UIAbilityLifecycleManager) (requestId : Nat) (start : Start)
    (failed : Option Nat) : Prop :=
  start.isHook = true -> ∀ request, mgr.queue.requests.lookup requestId = some request ->
    request.stage = .ability -> mgr.Live request -> request.requestListId = failed

/-- Every request that leaves reports it, and no ability fails before it is queued or ready. -/
def KeepsBatches (mgr : UIAbilityLifecycleManager) : Call -> Prop
  | .notifySCBToStartUIAbilities refused items _ =>
    refused = none -> (mgr.openBatch items).1.ItemsKeep mgr.queue.nextId items
  | .onAcceptWantResponse requestId acceptance _ =>
    ∀ request, mgr.queue.getSpecifiedRequest requestId = some request -> mgr.Live request ->
      acceptance.sessionCreated = true
  | .onStartSpecifiedFailed requestId start _
  | .onStartSpecifiedProcessTimeoutResponse requestId start _ =>
    ∀ next, (mgr.queue.popAndGetNextSpecified requestId).2 = some next ->
      mgr.Spares next start (mgr.queue.batchOf requestId)
  | .onStartSpecifiedProcessResponse requestId start sessionCreated _ =>
    ∀ request, mgr.queue.getSpecifiedRequest requestId = some request -> mgr.Live request ->
      if request.abilityRequest.specified then start.isHook = false else sessionCreated = true
  | .notifyStartupExceptionBySCB requestId =>
    ∀ request, mgr.queue.getSpecifiedRequest requestId = some request -> ¬ mgr.Live request
  | .startTask requestId start =>
    requestId ∈ mgr.queue.startTasks -> (mgr.queue.getSpecifiedRequest requestId).isSome ->
      mgr.Spares requestId start none
  | .failTask requestId start _ =>
    requestId ∈ mgr.queue.failTasks ->
      ∀ next, (mgr.queue.popAndGetNextSpecified requestId).2 = some next ->
        mgr.Spares next start (mgr.queue.batchOf requestId)
  | .notifySCBToStartUIAbility _ | .startUIAbility .. | .revokeDelegator | .otherRequestId => True

variable {mgr : UIAbilityLifecycleManager} {after : SpecifiedRequests} {gone : List Nat}
  {requestId : Nat} {request : SpecifiedRequest}

theorem onCourse_of_tracked (tracked : Tracked mgr none) : BatchesOnCourse mgr where
  course requestListId abilities mem := by
    cases held : mgr.abilitiesRequestMap.lookup requestListId with
    | none => exact .ended held (tracked.ended requestListId abilities nofun held mem)
    | some batch =>
      obtain ⟨called, pending, requestId, waiting⟩ := tracked.live requestListId batch nofun held
      have inside : .called requestListId abilities ∈ mgr.course requestListId :=
        mem_filter.mpr ⟨mem, by simp [Event.requestListId]⟩
      rw [pending.course] at inside
      obtain ⟨-, rfl⟩ := Event.called.inj (mem_singleton.mp inside)
      exact .waiting requestId pending.course (by rw [held, isSome_some])
        ((pending.waits requestId).mp waiting)
  called requestListId held := by
    obtain ⟨batch, found⟩ := isSome_iff_exists.mp held
    exact tracked.known requestListId batch found

theorem missing_of_not_live (idle : ¬ mgr.Live request) {requestListId : Nat}
    (own : request.requestListId = some requestListId) :
    mgr.abilitiesRequestMap.lookup requestListId = none := by
  by_contra held
  exact idle ⟨requestListId, own, isSome_iff_ne_none.mpr held⟩

theorem Tracked.popAndSubmitNext (tracked : Tracked mgr none)
    (spare : ∀ request, mgr.queue.getSpecifiedRequest requestId = some request ->
      ¬ mgr.Live request) :
    Tracked (mgr.withQueue (mgr.queue.popAndSubmitNext requestId)) none := by
  have listed := tracked.listed.popAndSubmitNext requestId
  obtain ⟨missing, same⟩ | ⟨key, rest, front, -⟩ := popAndGetNextSpecified_cases mgr.queue requestId
  · have kept : mgr.queue.popAndSubmitNext requestId = mgr.queue := by
      simp only [SpecifiedRequests.popAndSubmitNext, same]
    rw [kept]
    exact tracked
  · refine tracked.queue (popAndSubmitNext_goes front) listed fun other away requestListId own => .inr ?_
    rw [mem_singleton.mp away] at own
    obtain ⟨request, first⟩ := tracked.listed.front_known front
    rw [batchOf_eq (getSpecifiedRequest_some first).1] at own
    exact missing_of_not_live (spare request first) own

theorem Tracked.start (tracked : Tracked mgr none) {start : Start}
    (spare : start.isHook = true -> ∀ request, mgr.queue.getSpecifiedRequest requestId = some request ->
      request.stage = .ability -> ¬ mgr.Live request) :
    Tracked (mgr.withQueue (mgr.queue.startSpecifiedRequest requestId start)) none := by
  obtain ⟨gone, goes, reasons⟩ := start_goes mgr.queue requestId start
  refine tracked.queue goes (tracked.listed.start requestId start) fun other away requestListId own => .inr ?_
  obtain ⟨rfl, isHook, request, first, stage⟩ := reasons other away
  rw [batchOf_eq (getSpecifiedRequest_some first).1] at own
  exact missing_of_not_live (spare isHook request first stage) own

theorem fail_lookup (requestListId : Option Nat) (delivery : Delivery) (other : Nat) :
    (mgr.handleAbilitiesRequestDone requestListId none delivery).abilitiesRequestMap.lookup other =
      if requestListId = some other then none else mgr.abilitiesRequestMap.lookup other := by
  unfold handleAbilitiesRequestDone
  split
  · rfl
  next requestListId =>
    split
    next missing =>
      split
      next same => rw [<- some.inj same, missing]
      · rfl
    · simp [closeBatch, record, KeyedMap.lookup_erase_eq, eq_comm]

section

variable (tracked : Tracked mgr none)
include tracked

theorem Tracked.failAndStartNext
    (found : mgr.queue.getSpecifiedRequest requestId = some request) {start : Start}
    (spares : ∀ next, (mgr.queue.popAndGetNextSpecified requestId).2 = some next ->
      mgr.Spares next start (mgr.queue.batchOf requestId)) (delivery : Delivery) :
    Tracked ((mgr.handleAbilitiesRequestDone request.requestListId none delivery).withQueue
      (mgr.queue.popAndStartNext requestId start)) none := by
  obtain ⟨held, key, rest, front⟩ := getSpecifiedRequest_some found
  obtain ⟨gone, goes, reasons⟩ := popAndStartNext_goes front start
  have leaves : Goes (mgr.handleAbilitiesRequestDone request.requestListId none delivery).queue
      (mgr.queue.popAndStartNext requestId start) (requestId :: gone) := by
    rwa [handleAbilitiesRequestDone_queue]
  refine (tracked.fail request.requestListId delivery).queue leaves
    (tracked.listed.popAndStartNext requestId start) fun other away listId own => .inr ?_
  rw [handleAbilitiesRequestDone_queue] at own
  rw [fail_lookup]
  split
  · rfl
  next ne =>
    rcases mem_cons.mp away with same | later
    · rw [same, batchOf_eq held] at own
      exact absurd own ne
    · obtain ⟨next, isHook, nextRequest, nextHeld, stage⟩ := reasons other later
      rw [batchOf_eq nextHeld] at own
      refine missing_of_not_live (fun live => ne ?_) own
      have failed := spares other next isHook nextRequest nextHeld stage live
      rw [<- own, failed, batchOf_eq held]

theorem Tracked.eraseHook (requestId : Nat) : Tracked (mgr.eraseHook requestId) none :=
  tracked.queue (.same rfl rfl rfl) { tracked.listed with } fun _ away => by cases away

theorem Tracked.onStartSpecifiedFailed {start : Start}
    (spares : ∀ next, (mgr.queue.popAndGetNextSpecified requestId).2 = some next ->
      mgr.Spares next start (mgr.queue.batchOf requestId)) (delivery : Delivery) :
    Tracked (mgr.onStartSpecifiedFailed requestId start delivery) none := by
  unfold UIAbilityLifecycleManager.onStartSpecifiedFailed
  split
  · exact tracked.eraseHook requestId
  · split
    · exact tracked
    next request found =>
      dsimp only
      rw [handleAbilitiesRequestDone_queue]
      exact tracked.failAndStartNext found spares delivery

theorem Tracked.onStartSpecifiedProcessTimeoutResponse {start : Start}
    (spares : ∀ next, (mgr.queue.popAndGetNextSpecified requestId).2 = some next ->
      mgr.Spares next start (mgr.queue.batchOf requestId)) (delivery : Delivery) :
    Tracked (mgr.onStartSpecifiedProcessTimeoutResponse requestId start delivery) none := by
  unfold UIAbilityLifecycleManager.onStartSpecifiedProcessTimeoutResponse
  cases found : mgr.queue.getSpecifiedRequest requestId with
  | none =>
    obtain ⟨-, same⟩ | ⟨key, rest, front, -⟩ := popAndGetNextSpecified_cases mgr.queue requestId
    · simp only [popAndStartNext, same]
      exact tracked
    · obtain ⟨request, first⟩ := tracked.listed.front_known front
      rw [found] at first
      cases first
  | some request =>
    dsimp only
    rw [handleAbilitiesRequestDone_queue]
    exact tracked.failAndStartNext found spares delivery

theorem Tracked.popAndAnswer (found : mgr.queue.getSpecifiedRequest requestId = some request)
    (delivery : Delivery) :
    Tracked ((mgr.withQueue (mgr.queue.popAndSubmitNext requestId)).handleAbilitiesRequestDone
      request.requestListId (some { requestId, ability := request.abilityRequest.ability }) delivery)
        none := by
  obtain ⟨held, key, rest, front⟩ := getSpecifiedRequest_some found
  let session : SessionInfo := { requestId, ability := request.abilityRequest.ability }
  have goes : Goes mgr.queue (mgr.queue.popAndSubmitNext requestId) [session.requestId] :=
    popAndSubmitNext_goes front
  rw [<- batchOf_eq held]
  refine tracked.answer goes (tracked.listed.popAndSubmitNext requestId) ?_ ?_ delivery
  · have mem : requestId ∈ mgr.queue.list key := by
      rw [front]
      exact mem_cons_self
    exact KeyedQueues.mem_members.mpr ⟨key, mem⟩
  · rw [abilityOf, held, map_some]

theorem Tracked.onAcceptWantResponse {acceptance : Acceptance}
    (reports : ∀ request, mgr.queue.getSpecifiedRequest requestId = some request ->
      mgr.Live request -> acceptance.sessionCreated = true) (delivery : Delivery) :
    Tracked (mgr.onAcceptWantResponse requestId acceptance delivery) none := by
  unfold UIAbilityLifecycleManager.onAcceptWantResponse
  split
  · exact tracked.eraseHook requestId
  · cases found : mgr.queue.getSpecifiedRequest requestId with
    | none => exact tracked
    | some request =>
      have unreported (idle : ¬ mgr.Live request) :
          Tracked (mgr.withQueue (mgr.queue.popAndSubmitNext requestId)) none := by
        refine tracked.popAndSubmitNext fun other again => ?_
        rwa [<- some.inj (found.symm.trans again)]
      dsimp only
      split
      next cold =>
        rw [Bool.and_eq_true] at cold
        have alone := tracked.listed.cold requestId request (getSpecifiedRequest_some found).1 cold.1
        refine unreported fun ⟨requestListId, own, _⟩ => ?_
        rw [alone] at own
        cases own
      · split
        · exact tracked.popAndAnswer found delivery
        next silent => exact unreported fun live => silent (reports request found live)

theorem Tracked.onStartSpecifiedProcessResponse {start : Start} {sessionCreated : Bool}
    (reports : ∀ request, mgr.queue.getSpecifiedRequest requestId = some request ->
      mgr.Live request ->
        if request.abilityRequest.specified then start.isHook = false else sessionCreated = true)
    (delivery : Delivery) :
    Tracked (mgr.onStartSpecifiedProcessResponse requestId start sessionCreated delivery) none := by
  unfold UIAbilityLifecycleManager.onStartSpecifiedProcessResponse
  cases found : mgr.queue.getSpecifiedRequest requestId with
  | none => exact tracked
  | some request =>
    have held := (getSpecifiedRequest_some found).1
    dsimp only
    split
    next specified =>
      have goes : Goes mgr.queue (mgr.queue.update requestId fun request =>
          { request with specifiedProcessState := .ability }) [] := update_goes (fun _ => rfl) fun _ => rfl
      have updated := tracked.queue goes
        (tracked.listed.update requestId fun other => tracked.listed.cold requestId other)
        fun _ away => by cases away
      refine updated.start fun isHook other again _ ⟨requestListId, own, present⟩ => ?_
      have same := (batchOf_eq (getSpecifiedRequest_some again).1).symm.trans
        ((goes.batches requestId).trans (batchOf_eq held))
      have noHook := reports request found ⟨requestListId, same.symm.trans own, present⟩
      rw [if_pos specified, isHook] at noHook
      cases noHook
    next normal =>
      split
      · exact tracked.popAndAnswer found delivery
      next silent =>
        refine tracked.popAndSubmitNext fun other again live => ?_
        rw [<- some.inj (found.symm.trans again)] at live
        have reported := reports request found live
        rw [if_neg normal] at reported
        exact silent reported

theorem Tracked.failTask {start : Start} (spares : requestId ∈ mgr.queue.failTasks ->
      ∀ next, (mgr.queue.popAndGetNextSpecified requestId).2 = some next ->
        mgr.Spares next start (mgr.queue.batchOf requestId)) (delivery : Delivery) :
    Tracked (mgr.failTask requestId start delivery) none := by
  unfold UIAbilityLifecycleManager.failTask
  split
  next posted =>
    have erased : Tracked (mgr.withQueue
        { mgr.queue with failTasks := mgr.queue.failTasks.erase requestId }) none :=
      tracked.queue (.same rfl rfl rfl) { tracked.listed with } fun _ away => by cases away
    refine erased.onStartSpecifiedFailed (fun next following => ?_) delivery
    rw [popAndGetNextSpecified_snd] at following
    exact spares posted next ((popAndGetNextSpecified_snd ..).trans following)
  · exact tracked

theorem Tracked.startTask {start : Start} (spares : requestId ∈ mgr.queue.startTasks ->
      (mgr.queue.getSpecifiedRequest requestId).isSome -> mgr.Spares requestId start none) :
    Tracked (mgr.withQueue (mgr.queue.startTask requestId start)) none := by
  unfold SpecifiedRequests.startTask
  split
  next posted =>
    have erased : Tracked (mgr.withQueue
        { mgr.queue with startTasks := mgr.queue.startTasks.erase requestId }) none :=
      tracked.queue (.same rfl rfl rfl) { tracked.listed with } fun _ away => by cases away
    refine erased.start fun isHook request found stage ⟨requestListId, own, present⟩ => ?_
    have here : mgr.queue.getSpecifiedRequest requestId = some request := found
    have failed := spares posted (by rw [here, isSome_some]) isHook request
      (getSpecifiedRequest_some here).1 stage ⟨requestListId, own, present⟩
    rw [own] at failed
    cases failed
  · exact tracked

theorem Tracked.addRequest (room : mgr.queue.Room 1) (abilityRequest : AbilityRequest)
    (specifiedProcessState : SpecifiedProcessState) (start : Start) :
    Tracked (mgr.addRequest abilityRequest none specifiedProcessState start) none := by
  let request : SpecifiedRequest :=
    { requestId := mgr.queue.nextId, abilityRequest, specifiedProcessState }
  have adds := pushRequest_adds mgr.queue request
  have pushed : Listed (mgr.queue.drawNext.pushRequest request) :=
    tracked.listed.drawNext.push tracked.listed.fresh (Nat.lt_succ_self _) fun cold => by cases cold
  have added := addSpecifiedRequest_listed tracked.listed (show request.requestId = _ from rfl) rfl start
  obtain ⟨gone, goes, reasons⟩ := @addSpecifiedRequest_goes mgr request start
  rw [UIAbilityLifecycleManager.addRequest, getRequestId_eq room]
  refine (tracked.add adds pushed rfl (by simp)).queue goes added
    fun other away requestListId own => ?_
  obtain ⟨same, -, -⟩ := reasons other away
  rw [withQueue_queue, adds.batches, if_pos same] at own
  cases own

theorem Tracked.notifySCBToStartUIAbility (room : mgr.queue.Room 1) (item : BatchItem) :
    Tracked (mgr.notifySCBToStartUIAbility item) none := by
  unfold UIAbilityLifecycleManager.notifySCBToStartUIAbility startSpecifiedProcessRequest
  split
  · split
    · exact tracked
    · exact tracked.addRequest room ..
  · split
    · exact tracked.addRequest room ..
    · rw [getRequestId_eq room]
      exact tracked.drawNext

theorem Tracked.processColdStartBranch (alone : mgr.queue.batchOf requestId = none)
    (isRestart isHook : Bool) :
    Tracked (mgr.withQueue (mgr.queue.processColdStartBranch requestId isRestart isHook)) none := by
  unfold SpecifiedRequests.processColdStartBranch
  split
  · refine tracked.popAndSubmitNext fun request found ⟨requestListId, own, _⟩ => ?_
    rw [batchOf_eq (getSpecifiedRequest_some found).1, own] at alone
    cases alone
  · exact tracked.queue (.same rfl rfl rfl) { tracked.listed with } fun _ away => by cases away

theorem Tracked.startUIAbility (room : mgr.queue.Room 1) (abilityRequest : AbilityRequest)
    (requestId : Nat) (isRestart isHook : Bool) :
    Tracked (mgr.withQueue
      (mgr.queue.startUIAbility abilityRequest requestId isRestart isHook)) none := by
  obtain same | ⟨-, -, restarted⟩ | ⟨-, -, ⟨request, found, cold⟩, first⟩ :=
    startUIAbility_cases room abilityRequest requestId isRestart isHook
  · rw [same]
    exact tracked
  · rw [restarted]
    let request : SpecifiedRequest :=
      { requestId := mgr.queue.nextId, abilityRequest, isCold := true }
    have adds := pushRequest_adds mgr.queue request
    have pushed : Listed (mgr.queue.drawNext.pushRequest request) :=
      tracked.listed.drawNext.push tracked.listed.fresh (Nat.lt_succ_self _) fun _ => rfl
    refine (tracked.add adds pushed rfl nofun).processColdStartBranch ?_ true isHook
    exact (adds.batches request.requestId).trans (if_pos rfl)
  · rw [first]
    have held := (getSpecifiedRequest_some found).1
    exact tracked.processColdStartBranch
      ((batchOf_eq held).trans (tracked.listed.cold requestId request held cold)) false isHook

theorem Tracked.revokeDelegator (room : mgr.queue.Room 1) :
    Tracked mgr.revokeDelegator none := by
  rw [UIAbilityLifecycleManager.revokeDelegator, getRequestId_eq room]
  exact tracked.drawNext.queue (.same rfl rfl rfl) { tracked.drawNext.listed with }
    fun _ away => by cases away

theorem step_tracked (call : Call) (room : DrawsNew mgr call)
    (keeps : KeepsBatches mgr call) :
    Tracked (mgr.step call) none := by
  cases call with
  | notifySCBToStartUIAbility item => exact tracked.notifySCBToStartUIAbility room item
  | notifySCBToStartUIAbilities refused items delivery =>
    exact tracked.notifySCBToStartUIAbilities refused items delivery room keeps
  | startUIAbility abilityRequest requestId isRestart isHook =>
    exact tracked.startUIAbility room abilityRequest requestId isRestart isHook
  | revokeDelegator => exact tracked.revokeDelegator room
  | onAcceptWantResponse requestId acceptance delivery =>
    exact tracked.onAcceptWantResponse keeps delivery
  | onStartSpecifiedFailed requestId start delivery => exact tracked.onStartSpecifiedFailed keeps delivery
  | onStartSpecifiedProcessResponse requestId start sessionCreated delivery =>
    exact tracked.onStartSpecifiedProcessResponse keeps delivery
  | onStartSpecifiedProcessTimeoutResponse requestId start delivery =>
    exact tracked.onStartSpecifiedProcessTimeoutResponse keeps delivery
  | notifyStartupExceptionBySCB requestId => exact tracked.popAndSubmitNext keeps
  | startTask requestId start => exact tracked.startTask keeps
  | failTask requestId start delivery => exact tracked.failTask keeps delivery
  | otherRequestId =>
    simp only [step, getRequestId_eq room]
    exact tracked.drawNext

end

theorem tracked_start : Tracked { } none where
  listed := listed_start
  drawn _ := nofun
  batchesDrawn requestId requestListId own := by simp [batchOf] at own
  known requestListId batch held := by simp at held
  live requestListId batch _ held := by simp at held
  ended _ _ _ _ := nofun

end UIAbilityLifecycleManager

open UIAbilityLifecycleManager

theorem abilitiesRequests_onCourse {calls : List Call}
    (new : uiAbilityLifecycleManager.EveryStep calls DrawsNew)
    (every : uiAbilityLifecycleManager.EveryStep calls KeepsBatches) :
    uiAbilityLifecycleManager.Throughout calls BatchesOnCourse := by
  have throughout : uiAbilityLifecycleManager.Throughout calls fun mgr => Tracked mgr none :=
    (Machine.EveryStep.and new every).throughout tracked_start fun _ call tracked keeps =>
      step_tracked tracked call keeps.1 keeps.2
  exact fun done rest split => onCourse_of_tracked (throughout done rest split)

def mail : AbilityRequest where
  ability := "Mail"
  accessTokenId := 7

def mixedCalls : List Call :=
  [.notifySCBToStartUIAbilities none [{ abilityRequest := mail },
      { abilityRequest := { mail with ability := "Notes", specified := false } }] { },
    .onAcceptWantResponse 2 { } { }]

theorem abilitiesRequests_onCourse_mail :
    uiAbilityLifecycleManager.Throughout mixedCalls BatchesOnCourse ∧
      (uiAbilityLifecycleManager.run mixedCalls).course 1 =
        [.called 1 ["Mail", "Notes"], .sent 1 [⟨2, "Mail"⟩, ⟨3, "Notes"⟩], .outcome 1 (.requestDone 0)] := by
  have steps : uiAbilityLifecycleManager.StepsFrom KeepsBatches uiAbilityLifecycleManager.start
      mixedCalls := by
    refine ⟨fun _ => ItemsKeep.of_plain (by decide), fun _ _ _ => rfl, trivial⟩
  exact ⟨abilitiesRequests_onCourse (Machine.StepsFrom.everyStep (by decide +kernel))
    steps.everyStep, by decide +kernel⟩

def failingCalls : List Call :=
  [.notifySCBToStartUIAbilities none [{ abilityRequest := mail },
      { abilityRequest := { mail with startsProcess := true }, instanceKey := .failed }] { },
    .onAcceptWantResponse 2 { } { }]

theorem failed_batch_is_sent :
    (uiAbilityLifecycleManager.run (failingCalls.take 1)).course 1 =
        [.called 1 ["Mail", "Mail"], .outcome 1 (.returned errCreateInstanceKeyFailed)] ∧
      ((uiAbilityLifecycleManager.run (failingCalls.take 1)).abilitiesRequestMap.lookup 1).isSome ∧
      (uiAbilityLifecycleManager.run failingCalls).course 1 =
        [.called 1 ["Mail", "Mail"], .outcome 1 (.returned errCreateInstanceKeyFailed),
          .sent 1 [⟨2, "Mail"⟩], .outcome 1 (.requestDone 0)] ∧
      ¬ uiAbilityLifecycleManager.Throughout failingCalls BatchesOnCourse := by
  have sent : (uiAbilityLifecycleManager.run failingCalls).course 1 =
      [.called 1 ["Mail", "Mail"], .outcome 1 (.returned errCreateInstanceKeyFailed),
        .sent 1 [⟨2, "Mail"⟩], .outcome 1 (.requestDone 0)] := by decide +kernel
  refine ⟨by decide +kernel, by decide +kernel, sent, fun throughout => ?_⟩
  have called : .called 1 ["Mail", "Mail"] ∈ (uiAbilityLifecycleManager.run failingCalls).course 1 := by
    simp [sent]
  have stands := (throughout failingCalls [] (by simp)).course 1 _ (mem_filter.mp called).1
  cases stands with
  | waiting _ alone =>
    cases alone
  | ended _ finished =>
    cases finished

end AbilityRuntime.SceneBoard
