import AbilityRuntime.ClientConnection.LateCallbacks

set_option autoImplicit false

namespace AbilityRuntime.ClientConnection

open Library List

namespace ConnectionManager

structure Good (mgr : ConnectionManager) : Prop where
  sameCallbacks : mgr.holder = none -> ∀ entry ∈ mgr.abilityConnections,
    entry.2 = (mgr.callbackList entry.1.abilityConnection).map Registration.callback
  calledOnce : (mgr.delivered.map Delivery.call).Nodup
  neverLate : ∀ delivery ∈ mgr.delivered, delivery.isLate = false

def Keeps (mgr : ConnectionManager) : ConnectionStep -> Prop
  | .getConnectionState _ _ => mgr.StaysListed mgr.holder
  | .disconnectNext isAccepted => mgr.EndsQuiet isAccepted mgr.holder
  | .onAbilityConnectDone connection _ => mgr.AnswersApart connection mgr.holder
  | .disconnectNonexistentService connection => mgr.FindsConnected connection
  | _ => True

variable (mgr : ConnectionManager)

instance decidableStaysListed : ∀ holder, Decidable (mgr.StaysListed holder)
  | some (.added _ _ _) => inferInstanceAs (Decidable (_ = _ ∨ _ ∈ _))
  | none | some (.adding _ _ _) | some (.creating _ _) | some (.disconnecting _ _ _)
  | some (.removing _ _ _ _) => isTrue trivial

instance decidableAnswersApart (connection : Nat) :
    ∀ holder, Decidable (mgr.AnswersApart connection holder)
  | some (.added _ _ _) => inferInstanceAs (Decidable (_ = _ -> _ = _))
  | none | some (.adding _ _ _) | some (.creating _ _) | some (.disconnecting _ _ _)
  | some (.removing _ _ _ _) => isTrue trivial

instance (request : ConnectRequest) (callback : Nat) (rest : List ConnectionInfo) :
    Decidable (mgr.ReturnsQuiet request callback rest) :=
  inferInstanceAs (Decidable ((∀ connection < _, ∀ done ∈ mgr.connectDone connection,
    _ -> ∀ reg ∈ done.callbacks, _ = _) ∧ ∀ info ∈ rest, _ = _))

instance decidableEndsQuiet (isAccepted : Bool) :
    ∀ holder, Decidable (mgr.EndsQuiet isAccepted holder)
  | some (.disconnecting request callback []) =>
    inferInstanceAs (Decidable (mgr.ReturnsQuiet request callback []))
  | some (.disconnecting request callback (_ :: rest)) =>
    inferInstanceAs (Decidable (_ -> _ -> mgr.ReturnsQuiet request callback rest))
  | none | some (.adding _ _ _) | some (.added _ _ _) | some (.creating _ _)
  | some (.removing _ _ _ _) => isTrue trivial

instance (connection : Nat) : Decidable (mgr.FindsConnected connection) :=
  inferInstanceAs (Decidable (_ -> ∀ done ∈ mgr.connectDone connection, _ -> _ ->
    ∀ reg ∈ done.callbacks, _ -> _))

instance decidableKeeps : ∀ step, Decidable (mgr.Keeps step)
  | .getConnectionState _ _ => inferInstanceAs (Decidable (mgr.StaysListed mgr.holder))
  | .disconnectNext isAccepted =>
    inferInstanceAs (Decidable (mgr.EndsQuiet isAccepted mgr.holder))
  | .onAbilityConnectDone connection _ =>
    inferInstanceAs (Decidable (mgr.AnswersApart connection mgr.holder))
  | .disconnectNonexistentService connection =>
    inferInstanceAs (Decidable (mgr.FindsConnected connection))
  | .connectAbility _ _ _ _ _ | .addConnectCallback | .insertConnection | .disconnectAbility _ _
  | .removeConnectCallback | .callConnectDone _ | .onAbilityDisconnectDone _ _
  | .removeConnection _ => isTrue trivial

structure Coherent (mgr : ConnectionManager) : Prop where
  listed : mgr.Listed
  calledOnce : mgr.CalledOnce
  punctual : mgr.Punctual

variable {mgr}

theorem Coherent.good (sound : mgr.Coherent) : mgr.Good where
  sameCallbacks := fun free entry present => by
    have corresponds := sound.listed.corresponds entry present
    rwa [free] at corresponds
  calledOnce := sound.calledOnce.once
  neverLate := sound.punctual.neverLate

theorem Coherent.step (sound : mgr.Coherent) (step : ConnectionStep)
    (keeps : mgr.Keeps step) : (mgr.step step).Coherent := by
  obtain ⟨listed, calledOnce, punctual⟩ := sound
  cases step with
  | connectAbility request callback now connectingTime isAccepted =>
    exact ⟨listed.connectAbility request callback now connectingTime isAccepted,
      calledOnce.connectAbility listed request callback now connectingTime isAccepted,
      punctual.connectAbility listed calledOnce request callback now connectingTime isAccepted⟩
  | addConnectCallback =>
    exact ⟨listed.addConnectCallback, calledOnce.addConnectCallback, punctual.addConnectCallback⟩
  | getConnectionState connectingTime isAccepted =>
    exact ⟨listed.getConnectionState keeps,
      calledOnce.getConnectionState listed connectingTime isAccepted,
      punctual.getConnectionState listed calledOnce connectingTime isAccepted⟩
  | insertConnection =>
    exact ⟨listed.insertConnection, calledOnce.insertConnection, punctual.insertConnection⟩
  | disconnectAbility request callback =>
    exact ⟨listed.disconnectAbility request callback,
      calledOnce.disconnectAbility request callback, punctual.disconnectAbility request callback⟩
  | disconnectNext isAccepted =>
    exact ⟨listed.disconnectNext isAccepted, calledOnce.disconnectNext isAccepted,
      punctual.disconnectNext listed calledOnce isAccepted keeps⟩
  | removeConnectCallback =>
    exact ⟨listed.removeConnectCallback, calledOnce.removeConnectCallback,
      punctual.removeConnectCallback⟩
  | onAbilityConnectDone connection bundleName =>
    exact ⟨listed.onAbilityConnectDone connection bundleName,
      calledOnce.onAbilityConnectDone listed connection bundleName keeps,
      punctual.onAbilityConnectDone connection bundleName⟩
  | disconnectNonexistentService connection =>
    exact ⟨listed.disconnectNonexistentService connection,
      calledOnce.disconnectNonexistentService connection,
      punctual.disconnectNonexistentService connection keeps⟩
  | callConnectDone connection =>
    exact ⟨listed.callConnectDone connection, calledOnce.callConnectDone connection,
      punctual.callConnectDone connection⟩
  | onAbilityDisconnectDone connection resultCode =>
    exact ⟨listed.onAbilityDisconnectDone connection resultCode,
      calledOnce.onAbilityDisconnectDone connection resultCode,
      punctual.onAbilityDisconnectDone connection resultCode⟩
  | removeConnection connection =>
    exact ⟨listed.removeConnection connection, calledOnce.removeConnection connection,
      punctual.removeConnection connection⟩

theorem Coherent.start : ({} : ConnectionManager).Coherent where
  listed := {
    distinct := nodup_nil, created := nofun, corresponds := nofun, unmade := fun _ _ => rfl
    callbacks := fun _ => nodup_nil, calls := fun _ => nodup_nil, numbered := nofun
    held := trivial }
  calledOnce := {
    once := nodup_nil, told := nofun, connected := nofun, answered := nofun
    distinctCalls := nofun, earlier := nofun, undone := fun _ _ => rfl, held := trivial
    owed := by rintro connection reg (⟨⟨⟩, -⟩ | ⟨_, ⟨⟩, -⟩) }
  punctual := {
    neverLate := nofun, named := nofun, made := nofun, known := nofun, still := nofun
    held := trivial }

end ConnectionManager

open ConnectionManager

/-- A call is answered once and in time, as long as no connect-done is overtaken. -/
theorem connectionManager_good (steps : List ConnectionStep)
    (keeps : connectionManager.EveryStep steps Keeps) :
    connectionManager.Throughout steps Good := by
  intro reached rest split
  have sound := keeps.throughout Coherent.start
    (fun _ step sound keeps => sound.step step keeps) reached rest split
  exact sound.good

def connectNotes : ConnectRequest where
  connectCaller := 1
  want := { operation := { bundleName := "notes", abilityName := "sync" } }

theorem connectionManager_good_shared :
    let steps : List ConnectionStep :=
      [.connectAbility connectNotes 1 5 6 true, .insertConnection,
        .connectAbility connectNotes 2 7 8 true, .addConnectCallback, .getConnectionState 8 true,
        .onAbilityConnectDone 0 "notes", .disconnectNonexistentService 0, .callConnectDone 0,
        .callConnectDone 0, .connectAbility connectNotes 3 9 9 true, .addConnectCallback,
        .getConnectionState 9 true, .disconnectAbility connectNotes 2, .disconnectNext true,
        .removeConnectCallback, .disconnectNext true]
    (connectionManager.run steps).delivered = [⟨1, 0, false⟩, ⟨2, 1, false⟩, ⟨3, 2, false⟩] ∧
      (connectionManager.run steps).abilityConnections.callbacksOf 0 = [1, 3] ∧
      connectionManager.Throughout steps Good := by
  intro steps
  refine ⟨by decide, by decide, connectionManager_good steps ?_⟩
  exact Machine.StepsFrom.everyStep (by decide)

theorem connectDone_calls_twice :
    let steps : List ConnectionStep :=
      [.connectAbility connectNotes 1 5 6 true, .insertConnection,
        .connectAbility connectNotes 2 7 8 true, .addConnectCallback,
        .onAbilityConnectDone 0 "notes", .getConnectionState 8 true,
        .disconnectNonexistentService 0, .callConnectDone 0, .callConnectDone 0]
    (connectionManager.run steps).delivered = [⟨2, 1, false⟩, ⟨1, 0, false⟩, ⟨2, 1, false⟩] ∧
      ¬connectionManager.Throughout steps Good := by
  intro steps
  refine ⟨by decide, fun good => ?_⟩
  exact absurd (good steps [] (append_nil _).symm).calledOnce (by decide)

end AbilityRuntime.ClientConnection
