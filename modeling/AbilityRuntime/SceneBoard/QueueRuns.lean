import AbilityRuntime.SceneBoard.QueueOrder
import AbilityRuntime.SceneBoard.UIAbilityLifecycleManager

set_option autoImplicit false

namespace AbilityRuntime.SceneBoard

open Library SpecifiedRequests KeyedQueues Option

def Call.answered : Call -> Option Nat
  | .onAcceptWantResponse requestId _ _ | .onStartSpecifiedFailed requestId _ _
  | .onStartSpecifiedProcessResponse requestId _ _ _
  | .onStartSpecifiedProcessTimeoutResponse requestId _ _ | .notifyStartupExceptionBySCB requestId
  | .failTask requestId _ _ => some requestId
  | _ => none

structure SameOrder (before after : SpecifiedRequests) : Prop where
  lists : after.specifiedRequestList = before.specifiedRequestList
  started : after.started = before.started
  asked : after.asked = before.asked
  startTasks : after.startTasks = before.startTasks

theorem SameOrder.refl (queue : SpecifiedRequests) : SameOrder queue queue := ⟨rfl, rfl, rfl, rfl⟩

namespace UIAbilityLifecycleManager

structure InOrder (mgr : UIAbilityLifecycleManager) : Prop where
  full : NoneEmpty mgr.queue.specifiedRequestList
  arrival : ∀ key, (mgr.queue.list key).Sublist mgr.queue.arrived
  fronts : ∀ key front, (mgr.queue.list key).head? = some front ->
    (∃ stage, (front, stage) ∈ mgr.queue.started) ∨ front ∈ mgr.queue.startTasks
  behind : ∀ key, ∀ requestId ∈ (mgr.queue.list key).tail, ∀ stage,
    (requestId, stage) ∉ mgr.queue.started
  once : mgr.queue.started.Nodup ∧ mgr.queue.asked.Nodup
  leaves : mgr.queue.arrived.Nodup ∧ (mgr.queue.left ++ mgr.queue.members).Perm mgr.queue.arrived
  strangers : ∀ call requestId, call.answered = some requestId ->
    keyOfFront mgr.queue.specifiedRequestList requestId = none ->
      SameOrder mgr.queue (mgr.step call).queue

/-- No restart overtakes, and a process response is of a process that was started. -/
def KeepsOrder (mgr : UIAbilityLifecycleManager) : Call -> Prop
  | .startUIAbility abilityRequest requestId isRestart isHook =>
    ColdKeeps mgr.queue abilityRequest requestId isRestart isHook
  | .onStartSpecifiedProcessResponse requestId _ _ _ =>
    ∀ request, mgr.queue.getSpecifiedRequest requestId = some request ->
      request.abilityRequest.specified = true ->
        request.specifiedProcessState = .process ∧ (requestId, .process) ∈ mgr.queue.started
  | _ => True

variable {mgr : UIAbilityLifecycleManager}

theorem addRequest_ordered (ordered : Ordered mgr.queue none) (room : mgr.queue.Room 1)
    (abilityRequest : AbilityRequest) (requestListId : Option Nat)
    (specifiedProcessState : SpecifiedProcessState) (start : Start) :
    Ordered (mgr.addRequest abilityRequest requestListId specifiedProcessState start).queue none := by
  rw [addRequest_queue room]
  exact ordered.drawNext.addSpecifiedRequest ordered.listed.fresh (Nat.lt_succ_self _)
    (fun cold => by cases cold) start

theorem startSpecifiedProcessRequest_ordered (ordered : Ordered mgr.queue none)
    (room : mgr.queue.Room 1) (item : BatchItem) (requestListId : Option Nat) :
    Ordered (mgr.startSpecifiedProcessRequest item requestListId).1.queue none := by
  unfold startSpecifiedProcessRequest
  split
  · exact ordered
  · exact addRequest_ordered ordered room ..

theorem startAbilities_ordered (requestListId : Nat) (items : List BatchItem)
    (ordered : Ordered mgr.queue none) (room : mgr.queue.Room items.length) :
    Ordered (startAbilities requestListId mgr items).1.queue none := by
  induction items generalizing mgr with
  | nil => exact ordered
  | cons item rest ih =>
    unfold startAbilities
    have first : mgr.queue.Room 1 := room.first
    split
    · unfold startSpecifiedProcessRequest
      split
      next _ error same =>
        split at same
        · cases same
          exact ordered
        · cases same
      next _ same =>
        split at same
        · cases same
        · cases same
          exact ih (addRequest_ordered ordered first ..) (room.after (addRequest_nextId first ..))
    · split
      · exact ih (addRequest_ordered ordered first ..) (room.after (addRequest_nextId first ..))
      · have drawn := handleAbilitiesNormalSessionInfo_queue first item requestListId
        exact ih (drawn ▸ ordered.drawNext) (room.after (by rw [drawn]; rfl))

section

variable (ordered : Ordered mgr.queue none)
include ordered

theorem notifySCBToStartUIAbilities_ordered (refused : Option Int) (items : List BatchItem)
    (delivery : Delivery) (room : mgr.queue.Room (items.length + 1)) :
    Ordered (mgr.notifySCBToStartUIAbilities refused items delivery).queue none := by
  unfold notifySCBToStartUIAbilities
  split
  · exact ordered
  · have drawn : (mgr.openBatch items).1.queue = mgr.queue.drawNext :=
      congrArg Prod.fst (getRequestId_eq room.first)
    have after := startAbilities_ordered (mgr.openBatch items).2 items
      (drawn ▸ ordered.drawNext) (room.after (by rw [drawn]; rfl))
    dsimp only
    split
    next _ _ same =>
      rw [same] at after
      exact after
    next _ same =>
      rw [same] at after
      rwa [finishCall_queue]

theorem notifySCBToStartUIAbility_ordered (room : mgr.queue.Room 1) (item : BatchItem) :
    Ordered (mgr.notifySCBToStartUIAbility item).queue none := by
  unfold notifySCBToStartUIAbility
  split
  · exact startSpecifiedProcessRequest_ordered ordered room item none
  · split
    · exact addRequest_ordered ordered room ..
    · rw [getRequestId_eq room]
      exact ordered.drawNext

theorem eraseHook_ordered (requestId : Nat) : Ordered (mgr.eraseHook requestId).queue none :=
  { ordered with listed := { ordered.listed with } }

theorem onAcceptWantResponse_ordered (requestId : Nat) (acceptance : Acceptance)
    (delivery : Delivery) :
    Ordered (mgr.onAcceptWantResponse requestId acceptance delivery).queue none := by
  rw [onAcceptWantResponse_queue]
  split
  · exact eraseHook_ordered ordered requestId
  · split
    · exact ordered
    · exact ordered.popAndSubmitNext fun _ none => by cases none

theorem onStartSpecifiedFailed_ordered (requestId : Nat) (start : Start) (delivery : Delivery) :
    Ordered (mgr.onStartSpecifiedFailed requestId start delivery).queue none := by
  rw [onStartSpecifiedFailed_queue]
  split
  · exact eraseHook_ordered ordered requestId
  · split
    · exact ordered
    · exact ordered.popAndStartNext requestId start

theorem onStartSpecifiedProcessResponse_ordered {requestId : Nat} {start : Start}
    {sessionCreated : Bool} {delivery : Delivery} (keeps : KeepsOrder mgr
      (.onStartSpecifiedProcessResponse requestId start sessionCreated delivery)) :
    Ordered (mgr.onStartSpecifiedProcessResponse requestId start sessionCreated delivery).queue
      none := by
  rw [onStartSpecifiedProcessResponse_queue]
  cases found : mgr.queue.getSpecifiedRequest requestId with
  | none => exact ordered
  | some request =>
    dsimp only
    split
    next specified =>
      obtain ⟨process, started⟩ := keeps request found specified
      exact ordered.startAbilityStage found process started start
    · exact ordered.popAndSubmitNext fun _ none => by cases none

theorem failTask_ordered (requestId : Nat) (start : Start)
    (delivery : Delivery) : Ordered (mgr.failTask requestId start delivery).queue none := by
  unfold failTask
  split
  · refine onStartSpecifiedFailed_ordered ?_ requestId start delivery
    exact { ordered with listed := { ordered.listed with } }
  · exact ordered

theorem step_ordered (call : Call) (room : DrawsNew mgr call)
    (keeps : KeepsOrder mgr call) : Ordered (mgr.step call).queue none := by
  cases call with
  | notifySCBToStartUIAbility item => exact notifySCBToStartUIAbility_ordered ordered room item
  | notifySCBToStartUIAbilities refused items delivery =>
    exact notifySCBToStartUIAbilities_ordered ordered refused items delivery room
  | startUIAbility abilityRequest requestId isRestart isHook => exact ordered.startUIAbility room keeps
  | revokeDelegator =>
    simp only [step, revokeDelegator, getRequestId_eq room]
    exact { ordered.drawNext with listed := { ordered.drawNext.listed with } }
  | onAcceptWantResponse requestId acceptance delivery =>
    exact onAcceptWantResponse_ordered ordered requestId acceptance delivery
  | onStartSpecifiedFailed requestId start delivery =>
    exact onStartSpecifiedFailed_ordered ordered requestId start delivery
  | onStartSpecifiedProcessResponse requestId start sessionCreated delivery =>
    exact onStartSpecifiedProcessResponse_ordered ordered keeps
  | onStartSpecifiedProcessTimeoutResponse requestId start delivery =>
    simp only [step, onStartSpecifiedProcessTimeoutResponse_queue]
    exact ordered.popAndStartNext requestId start
  | notifyStartupExceptionBySCB requestId =>
    exact ordered.popAndSubmitNext fun _ none => by cases none
  | startTask requestId start => exact ordered.startTask requestId start
  | failTask requestId start delivery => exact failTask_ordered ordered requestId start delivery
  | otherRequestId =>
    simp only [step, getRequestId_eq room]
    exact ordered.drawNext

end

theorem onStartSpecifiedFailed_stranger {requestId : Nat}
    (missing : keyOfFront mgr.queue.specifiedRequestList requestId = none)
    (start : Start) (delivery : Delivery) :
    SameOrder mgr.queue (mgr.onStartSpecifiedFailed requestId start delivery).queue := by
  rw [onStartSpecifiedFailed_queue, getSpecifiedRequest_none missing]
  split
  · exact ⟨rfl, rfl, rfl, rfl⟩
  · exact .refl _

theorem step_stranger {call : Call} {requestId : Nat} (answered : call.answered = some requestId)
    (missing : keyOfFront mgr.queue.specifiedRequestList requestId = none) :
    SameOrder mgr.queue (mgr.step call).queue := by
  have kept : mgr.queue.popAndGetNextSpecified requestId = (mgr.queue, none) := by
    simp only [popAndGetNextSpecified, missing]
  cases call with
  | onAcceptWantResponse other acceptance delivery =>
    obtain rfl := some.inj answered
    simp only [step, onAcceptWantResponse_queue, getSpecifiedRequest_none missing]
    split
    · exact ⟨rfl, rfl, rfl, rfl⟩
    · exact .refl _
  | onStartSpecifiedFailed other start delivery =>
    obtain rfl := some.inj answered
    exact onStartSpecifiedFailed_stranger missing start delivery
  | onStartSpecifiedProcessResponse other start sessionCreated delivery =>
    obtain rfl := some.inj answered
    simp only [step, onStartSpecifiedProcessResponse_queue, getSpecifiedRequest_none missing]
    exact .refl _
  | onStartSpecifiedProcessTimeoutResponse other start delivery =>
    obtain rfl := some.inj answered
    simp only [step, onStartSpecifiedProcessTimeoutResponse_queue, popAndStartNext, kept]
    exact .refl _
  | notifyStartupExceptionBySCB other =>
    obtain rfl := some.inj answered
    simp only [step, withQueue_queue, popAndSubmitNext, kept]
    exact .refl _
  | failTask other start delivery =>
    obtain rfl := some.inj answered
    simp only [step, failTask]
    split
    · obtain ⟨lists, started, asked, startTasks⟩ := @onStartSpecifiedFailed_stranger (mgr.withQueue
        { mgr.queue with failTasks := mgr.queue.failTasks.erase other }) other missing start
          delivery
      exact ⟨lists, started, asked, startTasks⟩
    · exact .refl _
  | _ => cases answered

theorem inOrder_of_ordered (ordered : Ordered mgr.queue none) : InOrder mgr where
  full := ordered.listed.full
  arrival := ordered.listed.arrival
  fronts key front head := by
    rcases ordered.fronts key front head with started | task | none
    · exact .inl started
    · exact .inr task
    · cases none
  behind key requestId mem := (ordered.behind key requestId mem).1
  once := ⟨ordered.once, ordered.askedOnce⟩
  leaves := ⟨ordered.listed.distinct, ordered.listed.leaves⟩
  strangers _ _ := step_stranger

end UIAbilityLifecycleManager

open UIAbilityLifecycleManager

theorem specifiedRequests_inOrder {calls : List Call}
    (new : uiAbilityLifecycleManager.EveryStep calls DrawsNew)
    (every : uiAbilityLifecycleManager.EveryStep calls KeepsOrder) :
    uiAbilityLifecycleManager.Throughout calls InOrder := by
  have throughout : uiAbilityLifecycleManager.Throughout calls
      fun mgr => Ordered mgr.queue none :=
    (Machine.EveryStep.and new every).throughout ordered_start fun _ call ordered keeps =>
      step_ordered ordered call keeps.1 keeps.2
  exact fun done rest split => inOrder_of_ordered (throughout done rest split)

def browser : AbilityRequest where
  ability := "Browser"
  accessTokenId := 7

def orderlyCalls : List Call :=
  [.notifySCBToStartUIAbility { abilityRequest := browser },
    .notifySCBToStartUIAbility { abilityRequest := { browser with startsProcess := true } },
    .onAcceptWantResponse 1 { } { }, .startTask 2 { }, .onStartSpecifiedProcessResponse 2 { } true { },
    .onAcceptWantResponse 2 { } { }, .startUIAbility browser 0 true false]

theorem specifiedRequests_inOrder_browser :
    uiAbilityLifecycleManager.Throughout orderlyCalls InOrder := by
  have response : (uiAbilityLifecycleManager.run (orderlyCalls.take 4)).queue.getSpecifiedRequest 2 =
      some { requestId := 2, abilityRequest := { browser with startsProcess := true },
             specifiedProcessState := .process } := by decide +kernel
  have steps : uiAbilityLifecycleManager.StepsFrom KeepsOrder uiAbilityLifecycleManager.start
      orderlyCalls := by
    refine ⟨trivial, trivial, trivial, trivial, fun request found _ => ?_, trivial, fun _ _ => ?_, trivial⟩
    · have same := response.symm.trans found
      rw [<- some.inj same]
      exact ⟨rfl, by decide +kernel⟩
    · decide +kernel
  exact specifiedRequests_inOrder (Machine.StepsFrom.everyStep (by decide +kernel)) steps.everyStep

def overtakingCalls : List Call :=
  [.notifySCBToStartUIAbility { abilityRequest := browser }, .startUIAbility browser 0 true false]

theorem restart_overtakes :
    (uiAbilityLifecycleManager.run overtakingCalls).queue.list browser.listKey = [1, 2] ∧
      (uiAbilityLifecycleManager.run overtakingCalls).queue.started = [(1, .ability), (2, .ability)] ∧
      (uiAbilityLifecycleManager.run (overtakingCalls ++
        [.onAcceptWantResponse 1 { } { }, .startTask 2 { }])).queue.asked = [1, 2, 2] ∧
      ¬ uiAbilityLifecycleManager.Throughout overtakingCalls InOrder := by
  have queued : (uiAbilityLifecycleManager.run overtakingCalls).queue.list browser.listKey = [1, 2] := by
    decide +kernel
  have started : (uiAbilityLifecycleManager.run overtakingCalls).queue.started =
      [(1, .ability), (2, .ability)] := by decide +kernel
  refine ⟨queued, started, by decide +kernel, fun throughout => ?_⟩
  have behind := (throughout overtakingCalls [] (by simp)).behind browser.listKey 2
  rw [queued, started] at behind
  exact behind (by simp) .ability (by simp)

end AbilityRuntime.SceneBoard
