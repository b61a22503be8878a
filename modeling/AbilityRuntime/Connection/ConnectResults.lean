import AbilityRuntime.Connection.Bookkeeping

set_option autoImplicit false

namespace AbilityRuntime.Connection.AbilityConnectManager

open Function List

section

variable (setting : Setting) (mgr : AbilityConnectManager) (request : Connect)

def HasLiveRecord : Prop :=
  ∃ record ∈ mgr.getConnectRecordListFromMap request.connect,
    record.targetService = request.targetService ∧
      (mgr.connectState record = .connecting ∨ mgr.connectState record = .connected)

structure SameBooks (after : AbilityConnectManager) : Prop where
  connectMap : after.connectMap = mgr.connectMap
  connRecordList : after.connRecordList = mgr.connRecordList
  counts : after.callerPidConnectionCountMap = mgr.callerPidConnectionCountMap
  recipientMap : after.recipientMap = mgr.recipientMap

/-- ERR_OK leaves a live record; any other answer leaves the books. -/
structure ConnectSettles : Prop where
  answered : (mgr.connectAbilityLocked setting request).2 = .ok ->
    (mgr.connectAbilityLocked setting request).1.HasLiveRecord request
  refused : (mgr.connectAbilityLocked setting request).2 ≠ .ok ->
    mgr.SameBooks (mgr.connectAbilityLocked setting request).1

def reused : Option ConnectionRecord :=
  mgr.getAbilityConnectedRecordFromRecordList setting request.targetService
    (mgr.getConnectRecordListFromMap request.connect)

structure EndsAtOnce : Prop where
  loaded : request.isLoadedAbility = true
  active : request.targetState = .active
  shared : setting.isPerConnectionType request.targetService = false
  connected : 1 ≤ mgr.getConnectedListSize request.targetService
  remoteObject : mgr.connRemoteObject request.targetService = false
  handler : setting.hasTaskHandler = true

def newRecord : ConnectionRecord :=
  ⟨mgr.connectRecordId, request.connect, request.targetService, request.directCallerPid,
    request.directCallerUid, request.directCallerTokenId⟩

def withNewRecord : AbilityConnectManager :=
  mgr.addConnection (mgr.newRecord request) (mgr.getConnectRecordListFromMap request.connect)

end

variable {setting : Setting} {mgr : AbilityConnectManager} {request : Connect}

theorem connectAbilityLocked_eq (checks : request.checks = .ok) :
    mgr.connectAbilityLocked setting request =
      if request.isLoadedAbility = true ∧ (mgr.reused setting request).isSome = true then
        (mgr, .ok)
      else if request.reportXiaoYi ≠ .ok then (mgr.withNewRecord request, request.reportXiaoYi)
      else if request.isLoadedAbility = true ∧ request.targetState = .active then
        ((mgr.withNewRecord request).handleActiveAbility setting (mgr.newRecord request), .ok)
      else (mgr.withNewRecord request, .ok) := by
  have nonempty : (mgr.reused setting request).isSome = true ->
      (mgr.getConnectRecordListFromMap request.connect).isEmpty = false := by
    intro found
    cases list : mgr.getConnectRecordListFromMap request.connect with
    | nil => simp [reused, list, getAbilityConnectedRecordFromRecordList] at found
    | cons => rfl
  rw [connectAbilityLocked, if_neg (not_not.mpr checks)]
  change (if (_ && _ && (mgr.reused setting request).isSome) = true then _ else _) = _
  by_cases found : (mgr.reused setting request).isSome = true
  · simp [found, nonempty found, withNewRecord, newRecord]
  · simp [found, withNewRecord, newRecord]

section

variable (booked : Booked [] mgr)
include booked

theorem newRecord_unlisted : mgr.newRecord request ∉
    mgr.connRecordList (mgr.newRecord request).targetService := by
  intro mem
  have known := booked.known _ ((booked.listed _).mp mem).1
  exact absurd known (Nat.lt_irrefl _)

theorem withNewRecord_fields :
    (mgr.withNewRecord request).connectState =
        update mgr.connectState (mgr.newRecord request) .connecting ∧
      (mgr.withNewRecord request).connRecordList request.targetService =
        mgr.connRecordList request.targetService ++ [mgr.newRecord request] ∧
      (mgr.withNewRecord request).connRemoteObject = mgr.connRemoteObject ∧
      (mgr.withNewRecord request).getConnectRecordListFromMap request.connect =
        mgr.getConnectRecordListFromMap request.connect ++ [mgr.newRecord request] := by
  rw [withNewRecord, addConnection_eq (newRecord_unlisted booked)]
  refine ⟨rfl, update_self .., rfl, ?_⟩
  unfold getConnectRecordListFromMap
  rw [show (mgr.newRecord request).connCallback = request.connect from rfl, AList.lookup_insert,
    Option.getD_some]

theorem withNewRecord_live : (mgr.withNewRecord request).HasLiveRecord request := by
  obtain ⟨state, -, -, list⟩ := @withNewRecord_fields mgr request booked
  refine ⟨mgr.newRecord request, by simp [list], rfl, .inl ?_⟩
  rw [state, update_self]

theorem withNewRecord_connected :
    (mgr.withNewRecord request).getConnectedListSize request.targetService =
      mgr.getConnectedListSize request.targetService := by
  obtain ⟨state, list, -, -⟩ := @withNewRecord_fields mgr request booked
  unfold getConnectedListSize
  rw [state, list, countP_append, countP_singleton, update_self]
  refine countP_congr fun record mem => ?_
  have other : record ≠ mgr.newRecord request := by
    rintro rfl
    exact newRecord_unlisted booked mem
  rw [update_of_ne other]

theorem withNewRecord_changed : ¬mgr.SameBooks (mgr.withNewRecord request) := by
  intro same
  obtain ⟨-, -, -, list⟩ := @withNewRecord_fields mgr request booked
  rw [getConnectRecordListFromMap, same.connectMap] at list
  simpa [getConnectRecordListFromMap] using congrArg length list

theorem handleActiveAbility_live_iff (loaded : request.isLoadedAbility = true)
    (active : request.targetState = .active) (unused : mgr.reused setting request = none) :
    ((mgr.withNewRecord request).handleActiveAbility setting
      (mgr.newRecord request)).HasLiveRecord request ↔ ¬mgr.EndsAtOnce setting request := by
  obtain ⟨state, -, remoteObject, list⟩ := @withNewRecord_fields mgr request booked
  have kept := @withNewRecord_live mgr request booked
  have size := @withNewRecord_connected mgr request booked
  unfold handleActiveAbility
  split
  next perConnection =>
    exact iff_of_true kept fun ends => absurd perConnection (by simp [newRecord, ends.shared])
  next shared =>
    split
    next connected =>
      have known : mgr.newRecord request ∈
          (mgr.withNewRecord request).getConnectRecordListFromMap request.connect := by simp [list]
      have remote : ((mgr.withNewRecord request).setConnectState (mgr.newRecord request)
          .connected).connRemoteObject (mgr.newRecord request).targetService =
            mgr.connRemoteObject request.targetService := congrFun remoteObject _
      unfold completeConnect
      dsimp only
      split
      next ends =>
        obtain ⟨absent, handler⟩ : mgr.connRemoteObject request.targetService = false ∧
            setting.hasTaskHandler = true := by
          rw [remote] at ends
          simpa using ends
        refine iff_of_false ?_ (not_not.mpr ⟨loaded, active, (Bool.not_eq_true _).mp shared, ?_, absent, handler⟩)
        · rintro ⟨record, mem, target, live⟩
          change record ∈ (mgr.withNewRecord request).getConnectRecordListFromMap _ at mem
          rw [list, mem_append, mem_singleton] at mem
          rcases mem with earlier | rfl
          · -- no record of the callback to the service was there to be reused
            have foreign := find?_eq_none.mp unused record earlier
            have other : setting.extensionAbilityType request.targetService ≠ .agent := fun agent =>
              shared (by simp [Setting.isPerConnectionType, newRecord, agent])
            simp [target, other] at foreign
          · simp [setConnectState] at live
        · exact connected.le.trans_eq size
      next stays =>
        refine iff_of_true ⟨mgr.newRecord request, known, rfl, .inr (update_self ..)⟩ ?_
        intro ends
        refine stays ?_
        rw [remote, ends.remoteObject, ends.handler]
        rfl
    next alone =>
      refine iff_of_true kept fun ends => alone ?_
      exact ends.connected.trans_eq size.symm

end

def CanSettle (setting : Setting) (mgr : AbilityConnectManager) (request : Connect) : Prop :=
  if request.isLoadedAbility = true ∧ (mgr.reused setting request).isSome = true then
    mgr.HasLiveRecord request
  else request.reportXiaoYi = .ok ∧ ¬mgr.EndsAtOnce setting request

/-- A connect request settles exactly if it fails, reuses a live record, or starts one that lasts.
-/
theorem connectSettles_iff (setting : Setting) (calls : List Call) (request : Connect) :
    ConnectSettles setting ((machine setting).run calls) request ↔
      (request.checks = .ok -> CanSettle setting ((machine setting).run calls) request) := by
  have booked := Booked.run setting calls
  generalize (machine setting).run calls = mgr at booked ⊢
  by_cases checks : request.checks = .ok
  case neg =>
    have refused : mgr.connectAbilityLocked setting request = (mgr, request.checks) := if_pos checks
    refine iff_of_true ⟨?_, ?_⟩ fun passed => absurd passed checks <;> rw [refused]
    · exact fun answered => absurd answered checks
    · exact fun _ => ⟨rfl, rfl, rfl, rfl⟩
  case pos =>
    have result := @connectAbilityLocked_eq setting mgr request checks
    rw [forall_prop_of_true checks, CanSettle]
    split_ifs at result ⊢ with reuse reported active
    · exact ⟨fun settles => by simpa [result] using settles.answered, fun live =>
        ⟨fun _ => by rwa [result], fun failed => absurd (by rw [result]) failed⟩⟩
    · refine iff_of_false (fun settles => ?_) fun settled => reported settled.1
      have unchanged := settles.refused
      rw [result] at unchanged
      exact withNewRecord_changed booked (unchanged reported)
    · have unused : mgr.reused setting request = none :=
        Option.not_isSome_iff_eq_none.mp fun used => reuse ⟨active.1, used⟩
      have live := @handleActiveAbility_live_iff setting mgr request booked active.1 active.2 unused
      refine ⟨fun settles => ⟨not_not.mp reported, live.mp ?_⟩, fun settled => ⟨fun _ => ?_, ?_⟩⟩
      · simpa only [result, forall_const] using settles.answered
      · rw [result]; exact live.mpr settled.2
      · exact fun failed => absurd (by rw [result]) failed
    · refine iff_of_true ⟨fun _ => ?_, fun failed => absurd (by rw [result]) failed⟩
        ⟨not_not.mp reported, fun ends => active ⟨ends.loaded, ends.active⟩⟩
      rw [result]
      exact withNewRecord_live booked

def oneService : Setting := ⟨100, fun _ => .service, fun _ => true, true⟩

def oneConnect : Connect := ⟨7, .ok, 1, false, .other, 30, 20000000, 5, .ok⟩

theorem reuse_leaves_disconnecting :
    ¬ConnectSettles oneService ((machine oneService).run [.connectAbilityLocked oneConnect,
        .scheduleConnectAbilityDoneLocked 1 .inactive true,
        .disconnectAbilityLocked ⟨fun _ => .ok, 5, 9⟩ 7])
      { oneConnect with isLoadedAbility := true, targetState := .active } ∧
    ¬ConnectSettles oneService ((machine oneService).run [])
      { oneConnect with reportXiaoYi := .innerErr } := by
  refine ⟨fun settles => ?_, fun settles => ?_⟩
  · exact absurd (settles.answered (by decide)) (by unfold HasLiveRecord; decide)
  · exact absurd (settles.refused (by decide)).recipientMap (by decide)

end AbilityRuntime.Connection.AbilityConnectManager
