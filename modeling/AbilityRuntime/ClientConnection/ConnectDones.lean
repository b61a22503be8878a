import AbilityRuntime.ClientConnection.CallbackLists

set_option autoImplicit false

namespace AbilityRuntime.ClientConnection

open Library Function List Entries

namespace ConnectionManager

section

variable (mgr : ConnectionManager)

def Live (connection : Nat) : Prop :=
  connection ∈ mgr.abilityConnections.connections ∨
    ∃ reg info, mgr.holder = some (.creating reg info) ∧
      info.abilityConnection = connection

/-- The callback may still be called: its connection or a connect-done has it. -/
def Owed (connection : Nat) (reg : Registration) : Prop :=
  (mgr.connection connection).isAwaited = true ∧ mgr.Live connection ∧
      reg ∈ mgr.callbackList connection ∨
    ∃ done, mgr.connectDone connection = some done ∧
      (done.isFound = true ∨ mgr.Live connection) ∧ reg ∈ done.callbacks

def deliveredCalls : List Nat := mgr.delivered.map Delivery.call

def Untold (call : Nat) : Prop :=
  call ∉ mgr.deliveredCalls ∧ ∀ connection done, mgr.connectDone connection = some done ->
    ∀ reg ∈ done.callbacks, reg.call ≠ call

def OnceHeld : Option LockHolder -> Prop
  | some (.adding reg info _) | some (.added reg info _) =>
    mgr.connectCall reg.call = some ⟨reg.callback, info⟩ ∧
      mgr.Untold reg.call
  | _ => True

end

structure CalledOnce (mgr : ConnectionManager) : Prop where
  once : mgr.deliveredCalls.Nodup
  told : ∀ call ∈ mgr.deliveredCalls, call < mgr.nextCall
  connected : ∀ connection, (mgr.connection connection).connectionState = .connected ->
    (mgr.connection connection).isAwaited = false
  answered : ∀ connection done, mgr.connectDone connection = some done ->
    (mgr.connection connection).isAwaited = false
  distinctCalls : ∀ connection done, mgr.connectDone connection = some done ->
    (done.callbacks.map Registration.call).Nodup
  earlier : ∀ connection done, mgr.connectDone connection = some done ->
    ∀ reg ∈ done.callbacks, reg.call < mgr.nextCall
  undone : ∀ connection, mgr.nextConnection ≤ connection → mgr.connectDone connection = none
  owed : ∀ connection reg, mgr.Owed connection reg ->
    (∃ info, mgr.connectCall reg.call = some ⟨reg.callback, info⟩ ∧
      info.abilityConnection = connection) ∧ reg.call ∉ mgr.deliveredCalls
  held : mgr.OnceHeld mgr.holder

variable {mgr : ConnectionManager}

theorem CalledOnce.of_fewer (calledOnce : mgr.CalledOnce) {after : ConnectionManager}
    (delivered : after.delivered = mgr.delivered)
    (connectDone : after.connectDone = mgr.connectDone)
    (connectCall : after.connectCall = mgr.connectCall)
    (calls : after.nextCall = mgr.nextCall)
    (connections : after.nextConnection = mgr.nextConnection)
    (connected : ∀ connection, (after.connection connection).connectionState = .connected ->
      (mgr.connection connection).connectionState = .connected)
    (awaited : ∀ connection, (after.connection connection).isAwaited = true ->
      (mgr.connection connection).isAwaited = true)
    (lists : ∀ connection, ∀ reg ∈ after.callbackList connection,
      reg ∈ mgr.callbackList connection)
    (live : ∀ connection, after.Live connection -> mgr.Live connection)
    (held : after.OnceHeld after.holder) : after.CalledOnce := by
  have answered (connection : Nat) (before : (mgr.connection connection).isAwaited = false) :
      (after.connection connection).isAwaited = false :=
    Bool.eq_false_iff.mpr fun still => by simp [awaited connection still] at before
  have same : after.deliveredCalls = mgr.deliveredCalls := by
    unfold deliveredCalls
    rw [delivered]
  exact {
    once := same ▸ calledOnce.once
    told := by rw [same, calls]; exact calledOnce.told
    connected := fun connection is =>
      answered connection (calledOnce.connected connection (connected connection is))
    answered := fun connection done found =>
      answered connection (calledOnce.answered connection done (connectDone ▸ found))
    distinctCalls := by rw [connectDone]; exact calledOnce.distinctCalls
    earlier := by rw [connectDone, calls]; exact calledOnce.earlier
    undone := by rw [connectDone, connections]; exact calledOnce.undone
    owed := by
      rw [connectCall, same]
      intro connection reg owed
      refine calledOnce.owed connection reg (owed.imp ?_ ?_)
      · exact fun ⟨waits, lives, member⟩ =>
          ⟨awaited connection waits, live connection lives, lists connection reg member⟩
      · rintro ⟨done, found, sure, member⟩
        exact ⟨done, connectDone ▸ found, sure.imp_right (live connection), member⟩
    held }

variable {reg : Registration}

theorem Owed.call_lt (calledOnce : mgr.CalledOnce) (listed : mgr.Listed) {connection : Nat}
    (owed : mgr.Owed connection reg) :
    reg.call < mgr.nextCall := by
  rcases owed with ⟨-, -, member⟩ | ⟨done, found, -, member⟩
  · exact listed.numbered connection reg member
  · exact calledOnce.earlier connection done found reg member

theorem Owed.connection_eq (calledOnce : mgr.CalledOnce) {connection : Nat}
    (owed : mgr.Owed connection reg) {callback : Nat} {info : ConnectionInfo}
    (served : mgr.connectCall reg.call = some ⟨callback, info⟩) :
    reg.callback = callback ∧ connection = info.abilityConnection := by
  obtain ⟨⟨other, found, rfl⟩, -⟩ := calledOnce.owed connection reg owed
  rw [found] at served
  cases served
  exact ⟨rfl, rfl⟩

theorem CalledOnce.fresh (calledOnce : mgr.CalledOnce) : mgr.Untold mgr.nextCall :=
  ⟨fun told => Nat.lt_irrefl _ (calledOnce.told _ told),
    fun connection done found reg member same =>
      Nat.ne_of_lt (calledOnce.earlier connection done found reg member) same⟩

def newInfo (mgr : ConnectionManager) (request : ConnectRequest) (connectingTime : Nat) :
    ConnectionInfo where
  connectCaller := request.connectCaller
  connectReceiver := request.want.operation
  abilityConnection := mgr.nextConnection
  userid := request.accountId
  uiServiceExtProxy := request.want.uiServiceExtProxy
  connectingTime := connectingTime

theorem createConnection_of (request : ConnectRequest) (reg : Registration)
    (connectingTime : Nat) :
    mgr.createConnection request reg connectingTime true =
      { mgr with
        connection := update mgr.connection mgr.nextConnection ⟨[reg], .connecting, true⟩
        holder := some (.creating reg (mgr.newInfo request connectingTime))
        nextConnection := mgr.nextConnection + 1
        connectCall := update mgr.connectCall reg.call
          (some ⟨reg.callback, mgr.newInfo request connectingTime⟩)
        disconnected := ((mgr.setConnectCall reg
          (mgr.newInfo request connectingTime)).connectAgain reg.callback).disconnected } :=
  rfl

theorem CalledOnce.createConnection (calledOnce : { mgr with holder := none }.CalledOnce)
    (request : ConnectRequest) (connectingTime : Nat) (isAccepted : Bool)
    (untold : mgr.Untold reg.call)
    (unowed : ∀ connection other, Owed { mgr with holder := none } connection other ->
      other.call ≠ reg.call) :
    (mgr.createConnection request reg connectingTime isAccepted).CalledOnce := by
  cases isAccepted with
  | false => exact calledOnce
  | true =>
    have undone := calledOnce.undone mgr.nextConnection (Nat.le_refl _)
    rw [createConnection_of]
    refine { calledOnce with
      connected := ?_, answered := ?_
      undone := fun connection new => calledOnce.undone connection (Nat.le_of_succ_le new)
      owed := ?_, held := trivial }
    · intro connection
      dsimp only
      rw [update_apply]
      split
      · intro is
        cases is
      · exact calledOnce.connected connection
    · intro connection done found
      have other : connection ≠ mgr.nextConnection := by
        rintro rfl
        rw [show mgr.connectDone _ = none from undone] at found
        cases found
      dsimp only
      rw [update_of_ne other]
      exact calledOnce.answered connection done found
    · intro connection other owed
      by_cases new : connection = mgr.nextConnection
      · have same : other = reg := by
          rcases owed with ⟨-, -, member⟩ | ⟨done, found, -⟩
          · unfold callbackList at member
            dsimp only at member
            rw [new, update_self] at member
            exact mem_singleton.mp member
          · rw [new, show mgr.connectDone _ = none from undone] at found
            cases found
        rw [same]
        refine ⟨⟨mgr.newInfo request connectingTime, ?_, new.symm⟩, untold.1⟩
        exact update_self ..
      · have live (lives : Live { mgr with
            holder := some (.creating reg (mgr.newInfo request connectingTime)) }
              connection) : Live { mgr with holder := none } connection := by
          rcases lives with present | ⟨_, _, ⟨⟩, same⟩
          · exact .inl present
          · exact absurd same.symm new
        have before : Owed { mgr with holder := none } connection other := by
          rcases owed with ⟨waits, lives, member⟩ | ⟨done, found, sure, member⟩
          · unfold callbackList at member
            dsimp only at waits member
            rw [update_of_ne new] at waits member
            exact .inl ⟨waits, live lives, member⟩
          · exact .inr ⟨done, found, sure.imp_right live, member⟩
        obtain ⟨served, told⟩ := calledOnce.owed connection other before
        refine ⟨?_, told⟩
        dsimp only
        rw [update_of_ne (unowed connection other before)]
        exact served

section

variable (calledOnce : mgr.CalledOnce)
include calledOnce

theorem CalledOnce.connectAbility (listed : mgr.Listed) (request : ConnectRequest)
    (callback now connectingTime : Nat) (isAccepted : Bool) :
    (mgr.connectAbility request callback now connectingTime isAccepted).CalledOnce := by
  unfold ConnectionManager.connectAbility
  split
  · exact calledOnce
  next free =>
    have numbered : { mgr with nextCall := mgr.nextCall + 1 }.CalledOnce := {
      calledOnce with
      told := fun call told => Nat.lt_succ_of_lt (calledOnce.told call told)
      earlier := fun connection done found reg member =>
        Nat.lt_succ_of_lt (calledOnce.earlier connection done found reg member)
      held := by
        rw [free]
        trivial }
    have unowed (connection : Nat) (other : Registration)
        (owed : mgr.Owed connection other) : other.call ≠ mgr.nextCall :=
      Nat.ne_of_lt (owed.call_lt calledOnce listed)
    split
    next entry found =>
      refine { numbered with owed := ?_, held := ?_ }
      · intro connection other owed
        have before : mgr.Owed connection other := by
          have live (lives : Live { mgr with
              abilityConnections := mgr.abilityConnections.modifyCallbacks
                entry.1.abilityConnection (· ++ [callback])
              holder := some (.adding ⟨callback, mgr.nextCall⟩ entry.1 request) } connection) :
              mgr.Live connection := by
            rcases lives with present | ⟨_, _, ⟨⟩, -⟩
            rw [modifyCallbacks_connections] at present
            exact .inl present
          rcases owed with ⟨waits, lives, member⟩ | ⟨done, found, sure, member⟩
          · exact .inl ⟨waits, live lives, member⟩
          · exact .inr ⟨done, found, sure.imp_right live, member⟩
        obtain ⟨⟨info, served, at_⟩, told⟩ := calledOnce.owed connection other before
        refine ⟨⟨info, ?_, at_⟩, told⟩
        change update _ _ _ _ = _
        rw [update_of_ne (unowed connection other before)]
        exact served
      · exact ⟨update_self .., calledOnce.fresh⟩
    · have released : { mgr with nextCall := mgr.nextCall + 1, holder := none }.CalledOnce := by
        rw [free] at numbered
        exact numbered
      refine CalledOnce.createConnection released request connectingTime isAccepted
        calledOnce.fresh fun connection other owed => unowed connection other ?_
      rw [<- free] at owed
      exact owed

theorem CalledOnce.addConnectCallback : mgr.addConnectCallback.CalledOnce := by
  cases held : mgr.holder with
  | none =>
    unfold ConnectionManager.addConnectCallback
    rw [held]
    exact calledOnce
  | some holder =>
    cases holder with
    | adding reg info request =>
      have lists := addConnectCallback_callbackList held
      have adding := calledOnce.held
      rw [held] at adding
      have same (connection : Nat) :
          (mgr.addConnectCallback.connection connection).isAwaited =
              (mgr.connection connection).isAwaited ∧
            (mgr.addConnectCallback.connection connection).connectionState =
              (mgr.connection connection).connectionState := by
        rw [addConnectCallback_of held]
        dsimp only
        rw [update_apply]
        unfold AbilityConnection.addConnectCallback
        by_cases at_ : connection = info.abilityConnection
        · rw [if_pos at_, at_]
          split <;> exact ⟨rfl, rfl⟩
        · rw [if_neg at_]
          exact ⟨rfl, rfl⟩
      have live (connection : Nat) (lives : mgr.addConnectCallback.Live connection) :
          mgr.Live connection := by
        rw [addConnectCallback_of held] at lives
        rcases lives with present | ⟨_, _, ⟨⟩, -⟩
        exact .inl present
      have served : mgr.addConnectCallback.connectCall = mgr.connectCall := by
        rw [addConnectCallback_of held]
      have delivered : mgr.addConnectCallback.deliveredCalls = mgr.deliveredCalls := by
        rw [addConnectCallback_of held]
        rfl
      have connectDone : mgr.addConnectCallback.connectDone = mgr.connectDone := by
        rw [addConnectCallback_of held]
      have calls : mgr.addConnectCallback.nextCall = mgr.nextCall := by
        rw [addConnectCallback_of held]
      refine {
        once := delivered ▸ calledOnce.once
        told := by rw [delivered, calls]; exact calledOnce.told
        connected := fun connection is => by
          rw [(same connection).2] at is
          rw [(same connection).1]
          exact calledOnce.connected connection is
        answered := fun connection done found => by
          rw [(same connection).1]
          exact calledOnce.answered connection done (connectDone ▸ found)
        distinctCalls := by rw [connectDone]; exact calledOnce.distinctCalls
        earlier := by rw [connectDone, calls]; exact calledOnce.earlier
        undone := by rw [connectDone, addConnectCallback_of held]; exact calledOnce.undone
        owed := ?_
        held := by
          rw [addConnectCallback_of held]
          exact adding }
      intro connection other owed
      rw [served, delivered]
      by_cases added : other = reg ∧ connection = info.abilityConnection
      · rw [added.1, added.2]
        exact ⟨⟨info, adding.1, rfl⟩, adding.2.1⟩
      · refine calledOnce.owed connection other (owed.imp ?_ ?_)
        · rintro ⟨waits, lives, member⟩
          refine ⟨(same connection).1 ▸ waits, live connection lives, ?_⟩
          rw [lists] at member
          split at member
          next new =>
            rcases mem_append.mp member with before | last
            · exact before
            · exact absurd ⟨mem_singleton.mp last, new.1⟩ added
          · exact member
        · rintro ⟨done, found, sure, member⟩
          exact ⟨done, connectDone ▸ found, sure.imp_right (live connection), member⟩
    | added _ _ _ | creating _ _ | disconnecting _ _ _ | removing _ _ _ _ =>
      unfold ConnectionManager.addConnectCallback
      rw [held]
      exact calledOnce

theorem CalledOnce.release {after : ConnectionManager}
    (released : after = { mgr with holder := none, disconnected := after.disconnected }) :
    after.CalledOnce := by
  rw [released]
  refine calledOnce.of_fewer rfl rfl rfl rfl rfl (fun _ => id) (fun _ => id) (fun _ _ => id) ?_ trivial
  rintro connection (present | ⟨_, _, ⟨⟩, -⟩)
  exact .inl present

theorem CalledOnce.eraseConnection (connection : Nat) {holder : Option LockHolder}
    (still : holder = mgr.holder ∨
      mgr.OnceHeld holder ∧ ∀ reg info, holder ≠ some (.creating reg info)) :
    { mgr with
      abilityConnections := mgr.abilityConnections.eraseConnection connection
      holder }.CalledOnce := by
  refine calledOnce.of_fewer rfl rfl rfl rfl rfl (fun _ => id) (fun _ => id) (fun _ _ => id) ?_ ?_
  · rintro other (present | ⟨reg, info, creating, same⟩)
    · exact .inl (eraseConnection_connections.subset present)
    · rcases still with rfl | ⟨-, other⟩
      · exact .inr ⟨reg, info, creating, same⟩
      · exact absurd creating (other reg info)
  · rcases still with rfl | ⟨held, -⟩
    · exact calledOnce.held
    · exact held

theorem CalledOnce.delivers {disconnected : Nat -> Bool} {holder : Option LockHolder}
    (numbered : reg.call < mgr.nextCall)
    (untold : reg.call ∉ mgr.deliveredCalls)
    (owed : ∀ connection other, Owed { mgr with holder } connection other ->
      mgr.Owed connection other ∧ other.call ≠ reg.call)
    (held : OnceHeld { ({ mgr with disconnected }.deliver reg) with holder } holder) :
    { ({ mgr with disconnected }.deliver reg) with holder }.CalledOnce := by
  have calls : deliveredCalls { ({ mgr with disconnected }.deliver reg) with holder } =
      mgr.deliveredCalls ++ [reg.call] := by
    exact map_append
  refine { calledOnce with once := ?_, told := ?_, owed := ?_, held }
  all_goals rw [calls]
  · rw [nodup_append]
    refine ⟨calledOnce.once, nodup_singleton _, ?_⟩
    rintro call told _ last rfl
    exact untold (mem_singleton.mp last ▸ told)
  · intro call told
    rcases mem_append.mp told with before | last
    · exact calledOnce.told call before
    · exact mem_singleton.mp last ▸ numbered
  · intro connection other owes
    obtain ⟨before, ne⟩ := owed connection other owes
    obtain ⟨told, fresh⟩ := calledOnce.owed connection other before
    rw [mem_append, mem_singleton, not_or]
    exact ⟨told, fresh, ne⟩

theorem CalledOnce.deliver (listed : mgr.Listed) {info : ConnectionInfo}
    {request : ConnectRequest} {disconnected : Nat -> Bool}
    (held : mgr.holder = some (.added reg info request))
    (connected : (mgr.connection info.abilityConnection).connectionState = .connected) :
    { ({ mgr with disconnected }.deliver reg) with holder := none }.CalledOnce := by
  have added := calledOnce.held
  have numbered := listed.held
  rw [held] at added numbered
  obtain ⟨served, untold, undone⟩ := added
  refine calledOnce.delivers numbered.1 untold (fun connection other owed => ?_) trivial
  have live (lives : Live { mgr with holder := none } connection) : mgr.Live connection := by
    rcases lives with present | ⟨_, _, ⟨⟩, -⟩
    exact .inl present
  have before : mgr.Owed connection other := by
    rcases owed with ⟨waits, lives, member⟩ | ⟨done, found, sure, member⟩
    · exact .inl ⟨waits, live lives, member⟩
    · exact .inr ⟨done, found, sure.imp_right live, member⟩
  refine ⟨before, fun same => ?_⟩
  have place := (before.connection_eq calledOnce (same ▸ served)).2
  rcases before with ⟨waits, -, -⟩ | ⟨done, found, -, member⟩
  · rw [place, calledOnce.connected info.abilityConnection connected] at waits
    cases waits
  · exact undone connection done found other member same

theorem CalledOnce.unowed_of_erased {info : ConnectionInfo} {request : ConnectRequest}
    (held : mgr.holder = some (.added reg info request)) (connection : Nat)
    (other : Registration) (owed : Owed { mgr with
      abilityConnections := mgr.abilityConnections.eraseConnection info.abilityConnection
      holder := none } connection other) : other.call ≠ reg.call := by
  have added := calledOnce.held
  rw [held] at added
  obtain ⟨served, -, undone⟩ := added
  have apart (lives : Live { mgr with
      abilityConnections := mgr.abilityConnections.eraseConnection info.abilityConnection
      holder := none } connection) :
      mgr.Live connection ∧ connection ≠ info.abilityConnection := by
    rcases lives with present | ⟨_, _, ⟨⟩, -⟩
    obtain ⟨entry, there, rfl⟩ := mem_map.mp present
    obtain ⟨before, ne⟩ := mem_eraseConnection.mp there
    exact ⟨.inl (mem_map_of_mem before), ne⟩
  intro same
  rcases owed with ⟨waits, lives, member⟩ | ⟨done, found, -, member⟩
  · obtain ⟨live, ne⟩ := apart lives
    have before : mgr.Owed connection other := .inl ⟨waits, live, member⟩
    exact ne (before.connection_eq calledOnce (same ▸ served)).2
  · exact undone connection done found other member same

theorem CalledOnce.getConnectionState (listed : mgr.Listed) (connectingTime : Nat)
    (isAccepted : Bool) :
    (mgr.getConnectionState connectingTime isAccepted).CalledOnce := by
  unfold ConnectionManager.getConnectionState
  split
  next reg info request held =>
    have added := calledOnce.held
    rw [held] at added
    split
    next connected => exact calledOnce.deliver listed held connected
    · exact calledOnce.release rfl
    · have erased := @CalledOnce.eraseConnection mgr calledOnce info.abilityConnection none
        (.inr ⟨trivial, fun _ _ => nofun⟩)
      exact CalledOnce.createConnection erased request connectingTime isAccepted added.2
        (calledOnce.unowed_of_erased held)
  · exact calledOnce

theorem CalledOnce.insertConnection : mgr.insertConnection.CalledOnce := by
  unfold ConnectionManager.insertConnection
  split
  next reg info held =>
    refine calledOnce.of_fewer rfl rfl rfl rfl rfl (fun _ => id) (fun _ => id) (fun _ _ => id) ?_
      trivial
    rintro connection (present | ⟨_, _, ⟨⟩, -⟩)
    unfold connections at present
    rw [map_append] at present
    rcases mem_append.mp present with before | last
    · exact .inl before
    · exact .inr ⟨reg, info, held, (mem_singleton.mp last).symm⟩
  · exact calledOnce

theorem CalledOnce.disconnectAbility (request : ConnectRequest)
    (callback : Nat) : (mgr.disconnectAbility request callback).CalledOnce := by
  unfold ConnectionManager.disconnectAbility
  split
  · exact calledOnce
  · refine calledOnce.of_fewer rfl rfl rfl rfl rfl (fun _ => id) (fun _ => id) (fun _ _ => id) ?_
      trivial
    rintro connection (present | ⟨_, _, ⟨⟩, -⟩)
    exact .inl present

theorem CalledOnce.disconnectNext (isAccepted : Bool) :
    (mgr.disconnectNext isAccepted).CalledOnce := by
  unfold ConnectionManager.disconnectNext
  split
  · exact calledOnce.release rfl
  next request callback info rest held =>
    have erased (holder : Option LockHolder) (once : mgr.OnceHeld holder)
        (other : ∀ reg info, holder ≠ some (.creating reg info)) :=
      @CalledOnce.eraseConnection mgr calledOnce info.abilityConnection holder (.inr ⟨once, other⟩)
    dsimp only
    split
    · cases isAccepted with
      | true => exact erased _ trivial fun _ _ => nofun
      | false => exact (erased none trivial fun _ _ => nofun).release rfl
    · refine calledOnce.of_fewer rfl rfl rfl rfl rfl (fun _ => id) (fun _ => id) (fun _ _ => id) ?_
        trivial
      rintro connection (present | ⟨_, _, ⟨⟩, -⟩)
      rw [modifyCallbacks_connections] at present
      exact .inl present
  · exact calledOnce

theorem CalledOnce.removeConnectCallback : mgr.removeConnectCallback.CalledOnce := by
  cases held : mgr.holder with
  | none =>
    unfold ConnectionManager.removeConnectCallback
    rw [held]
    exact calledOnce
  | some holder =>
    cases holder with
    | removing request callback info rest =>
      have subset := removeConnectCallback_subset held
      have same (connection : Nat) :
          (mgr.removeConnectCallback.connection connection).isAwaited =
              (mgr.connection connection).isAwaited ∧
            (mgr.removeConnectCallback.connection connection).connectionState =
              (mgr.connection connection).connectionState := by
        rw [removeConnectCallback_of held]
        dsimp only
        rw [update_apply]
        split
        next place => rw [place]; exact ⟨rfl, rfl⟩
        · exact ⟨rfl, rfl⟩
      have lists (connection : Nat) := (subset connection).subset
      rw [removeConnectCallback_of held] at same lists ⊢
      refine calledOnce.of_fewer rfl rfl rfl rfl rfl ?_ ?_ ?_ ?_ trivial
      · exact fun connection is => (same connection).2 ▸ is
      · exact fun connection waits => (same connection).1 ▸ waits
      · exact fun connection reg member => lists connection member
      · rintro connection (present | ⟨_, _, ⟨⟩, -⟩)
        exact .inl present
    | adding _ _ _ | added _ _ _ | creating _ _ | disconnecting _ _ _ =>
      unfold ConnectionManager.removeConnectCallback
      rw [held]
      exact calledOnce

end

def AnswersApart (mgr : ConnectionManager) (connection : Nat) : Option LockHolder -> Prop
  | some (.added _ info _) =>
    info.abilityConnection = connection -> (mgr.connection connection).isAwaited = false
  | _ => True

theorem OnceHeld.imp {after : ConnectionManager} {holder : Option LockHolder}
    (served : after.connectCall = mgr.connectCall)
    (untold : ∀ call, mgr.Untold call -> after.Untold call) (held : mgr.OnceHeld holder) :
    after.OnceHeld holder := by
  cases holder with
  | none => trivial
  | some thread =>
    cases thread with
    | adding _ _ _ | added _ _ _ => exact ⟨served ▸ held.1, untold _ held.2⟩
    | creating _ _ | disconnecting _ _ _ | removing _ _ _ _ => trivial

theorem setConnectDone_found {connection : Nat} {before : ConnectDone}
    (has : mgr.connectDone connection = some before) {changed : Option ConnectDone}
    (fewer : ∀ done, changed = some done -> done.callbacks.Sublist before.callbacks ∧
      (done.isFound = true -> before.isFound = true ∨ mgr.Live connection)) {other : Nat}
    {done : ConnectDone} (found : update mgr.connectDone connection changed other = some done) :
    ∃ old, mgr.connectDone other = some old ∧ done.callbacks.Sublist old.callbacks ∧
      (done.isFound = true -> old.isFound = true ∨ mgr.Live other) := by
  rw [update_apply] at found
  split at found
  next same => exact ⟨before, same ▸ has, same ▸ fewer done found⟩
  · exact ⟨done, found, Sublist.refl _, .inl⟩

section

variable (calledOnce : mgr.CalledOnce)
include calledOnce

theorem CalledOnce.setConnection {connection : Nat} {changed : AbilityConnection}
    (removals : List Nat)
    (is : changed.connectionState = .connected ->
      (mgr.connection connection).connectionState = .connected)
    (still : changed.isAwaited = true -> (mgr.connection connection).isAwaited = true)
    (same : changed.callbackList = mgr.callbackList connection) :
    { mgr.setConnection connection changed with removals }.CalledOnce := by
  have fewer (other : Nat) {holds : AbilityConnection -> AbilityConnection -> Prop}
      (new : holds changed (mgr.connection connection)) (old : ∀ state, holds state state) :
      holds (update mgr.connection connection changed other) (mgr.connection other) := by
    rw [update_apply]
    split
    next place => exact place ▸ new
    · exact old _
  unfold ConnectionManager.setConnection
  refine calledOnce.of_fewer rfl rfl rfl rfl rfl ?_ ?_ ?_ (fun _ => id) calledOnce.held
  · exact fun other => @fewer other (fun after before =>
      after.connectionState = .connected -> before.connectionState = .connected) is fun _ => id
  · exact fun other => @fewer other (fun after before =>
      after.isAwaited = true -> before.isAwaited = true) still fun _ => id
  · exact fun other reg => @fewer other (fun after before =>
      reg ∈ after.callbackList -> reg ∈ before.callbackList)
      (by rw [same]; exact id) fun _ => id

theorem CalledOnce.onAbilityConnectDone (listed : mgr.Listed) (connection : Nat)
    (bundleName : String) (keeps : mgr.AnswersApart connection mgr.holder) :
    (mgr.onAbilityConnectDone connection bundleName).CalledOnce := by
  unfold ConnectionManager.onAbilityConnectDone
  dsimp only
  split
  · exact calledOnce
  next awaited =>
    have waits : (mgr.connection connection).isAwaited = true := by simpa using awaited
    split
    · exact calledOnce.setConnection mgr.removals id nofun rfl
    · have answers (other : Nat) {holds : AbilityConnection -> Prop}
          (new : holds { mgr.connection connection with
            connectionState := .connected, isAwaited := false })
          (old : holds (mgr.connection other)) :
          holds (update mgr.connection connection
            { mgr.connection connection with
              connectionState := .connected, isAwaited := false } other) := by
        rw [update_apply]
        split
        · exact new
        · exact old
      have dones (other : Nat) {done : ConnectDone} {holds : ConnectDone -> Prop}
          (found : update mgr.connectDone connection
            (some { bundleName, callbacks := (mgr.connection connection).callbackList }) other =
              some done)
          (new : holds { bundleName, callbacks := mgr.callbackList connection })
          (old : mgr.connectDone other = some done -> holds done) : holds done := by
        rw [update_apply] at found
        split at found
        · cases found; exact new
        · exact old found
      unfold ConnectionManager.setConnection ConnectionManager.setConnectDone
      refine { calledOnce with
        connected := ?_, answered := ?_, distinctCalls := ?_, earlier := ?_, undone := ?_
        owed := ?_, held := ?_ }
      · intro other
        exact @answers other (fun state => state.connectionState = .connected ->
          state.isAwaited = false) (fun _ => rfl) (calledOnce.connected other)
      · intro other done found
        dsimp only at found ⊢
        rw [update_apply] at found ⊢
        split at found
        next same => rw [if_pos same]
        next ne =>
          rw [if_neg ne]
          exact calledOnce.answered other done found
      · intro other done found
        exact @dones other done (fun done => (done.callbacks.map Registration.call).Nodup) found
          (listed.calls connection) (calledOnce.distinctCalls other done)
      · intro other done found
        exact @dones other done (fun done => ∀ reg ∈ done.callbacks,
          reg.call < mgr.nextCall) found (listed.numbered connection)
          (calledOnce.earlier other done)
      · intro other unmade
        have ne : other ≠ connection := by
          rintro rfl
          rw [listed.unmade other unmade] at waits
          cases waits
        dsimp only
        rw [update_of_ne ne]
        exact calledOnce.undone other unmade
      · intro other reg owed
        refine calledOnce.owed other reg ?_
        by_cases same : other = connection
        · rcases owed with ⟨still, -⟩ | ⟨done, found, sure, member⟩
          · dsimp only at still
            rw [same, update_self] at still
            cases still
          · dsimp only at found
            rw [same, update_self] at found
            cases found
            rcases sure with ⟨⟨⟩⟩ | live
            rw [same]
            exact .inl ⟨waits, same ▸ live, member⟩
        · refine owed.imp ?_ ?_
          · rintro ⟨still, live, member⟩
            unfold callbackList at member
            dsimp only at still member
            rw [update_of_ne same] at still member
            exact ⟨still, live, member⟩
          · rintro ⟨done, found, sure, member⟩
            dsimp only at found
            rw [update_of_ne same] at found
            exact ⟨done, found, sure, member⟩
      · have held := calledOnce.held
        have lists := listed.held
        dsimp only
        cases holder : mgr.holder with
        | none => trivial
        | some thread =>
          rw [holder] at held lists keeps
          cases thread with
          | adding reg info request =>
            refine ⟨held.1, held.2.1, fun other done found member there => ?_⟩
            exact @dones other done (fun done => member ∈ done.callbacks ->
              member.call ≠ reg.call) found (lists.2.2 connection member)
              (fun before => held.2.2 other done before member) there
          | added reg info request =>
            have ne : connection ≠ info.abilityConnection := fun same => by
              rw [keeps same.symm] at waits
              cases waits
            refine ⟨held.1, held.2.1, fun other done found member there => ?_⟩
            exact @dones other done (fun done => member ∈ done.callbacks ->
              member.call ≠ reg.call) found (lists.2 connection ne member)
              (fun before => held.2.2 other done before member) there
          | creating _ _ | disconnecting _ _ _ | removing _ _ _ _ => trivial

theorem CalledOnce.setConnectDone {connection : Nat} {before : ConnectDone}
    (has : mgr.connectDone connection = some before) {changed : Option ConnectDone}
    (fewer : ∀ done, changed = some done -> done.callbacks.Sublist before.callbacks ∧
      (done.isFound = true -> before.isFound = true ∨ mgr.Live connection)) :
    (mgr.setConnectDone connection changed).CalledOnce := by
  have earlier := @setConnectDone_found mgr connection before has changed fewer
  unfold ConnectionManager.setConnectDone
  refine { calledOnce with
    answered := ?_, distinctCalls := ?_, earlier := ?_, undone := ?_, owed := ?_, held := ?_ }
  · intro other done found
    obtain ⟨old, there, -⟩ := earlier found
    exact calledOnce.answered other old there
  · intro other done found
    obtain ⟨old, there, fewer, -⟩ := earlier found
    exact (calledOnce.distinctCalls other old there).sublist (fewer.map _)
  · intro other done found member present
    obtain ⟨old, there, fewer, -⟩ := earlier found
    exact calledOnce.earlier other old there member (fewer.subset present)
  · intro other unmade
    rw [Option.eq_none_iff_forall_not_mem]
    intro done found
    obtain ⟨old, there, -⟩ := earlier found
    rw [calledOnce.undone other unmade] at there
    cases there
  · intro other reg owed
    refine calledOnce.owed other reg (owed.imp_right ?_)
    rintro ⟨done, found, sure, member⟩
    obtain ⟨old, there, fewer, sooner⟩ := earlier found
    exact ⟨old, there, sure.elim sooner .inr, fewer.subset member⟩
  · refine @OnceHeld.imp mgr _ _ rfl (fun call before => ?_) calledOnce.held
    refine ⟨before.1, fun other done found reg member => ?_⟩
    obtain ⟨old, there, fewer, -⟩ := earlier found
    exact before.2 other old there reg (fewer.subset member)

theorem CalledOnce.disconnectNonexistentService
    (connection : Nat) : (mgr.disconnectNonexistentService connection).CalledOnce := by
  unfold ConnectionManager.disconnectNonexistentService
  split
  next done free has =>
    split
    · exact calledOnce
    · split
      next exist =>
        obtain ⟨entry, present, same⟩ := any_eq_true.mp exist
        rw [Bool.and_eq_true, decide_eq_true_eq] at same
        have live : mgr.Live connection := .inl (same.1 ▸ mem_map_of_mem present)
        refine calledOnce.setConnectDone has ?_
        rintro _ ⟨⟩
        exact ⟨Sublist.refl _, fun _ => .inr live⟩
      · exact calledOnce.setConnectDone has nofun
  · exact calledOnce

theorem CalledOnce.callConnectDone (connection : Nat) :
    (mgr.callConnectDone connection).CalledOnce := by
  unfold ConnectionManager.callConnectDone
  split
  next done has =>
    split
    next reg rest isFound callbacks =>
      have distinct := calledOnce.distinctCalls connection done has
      have numbered := calledOnce.earlier connection done has
      rw [callbacks] at distinct numbered
      rw [map_cons, nodup_cons] at distinct
      have first : mgr.Owed connection reg :=
        .inr ⟨done, has, .inl isFound, callbacks ▸ mem_cons_self⟩
      obtain ⟨⟨info, served, place⟩, untold⟩ := calledOnce.owed connection reg first
      have fewer : ∀ later, some { done with callbacks := rest } = some later ->
          later.callbacks.Sublist done.callbacks ∧
            (later.isFound = true -> done.isFound = true ∨ mgr.Live connection) :=
        fun later same => Option.some.inj same ▸ ⟨callbacks ▸ sublist_cons_self _ _, .inl⟩
      have shorter := calledOnce.setConnectDone has fewer
      refine shorter.delivers (numbered reg mem_cons_self) untold
        (fun other member owed => ⟨owed, fun same => ?_⟩) ?_
      · have here : other = connection := (owed.connection_eq shorter (same ▸ served)).2.trans place
        rcases owed with ⟨waits, -⟩ | ⟨later, found, -, present⟩
        · have waits : (mgr.connection other).isAwaited = true := waits
          rw [here, calledOnce.answered connection done has] at waits
          cases waits
        · have found : update mgr.connectDone connection
            (some { done with callbacks := rest }) other = some later := found
          rw [here, update_self] at found
          cases found
          exact distinct.1 (same ▸ mem_map_of_mem present)
      · refine @OnceHeld.imp mgr _ _ rfl (fun call before => ?_) calledOnce.held
        refine ⟨?_, fun other later found => ?_⟩
        · change call ∉ map Delivery.call (mgr.delivered ++ [_])
          rw [map_append, mem_append, not_or]
          exact ⟨before.1, fun last => before.2 connection done has reg
            (callbacks ▸ mem_cons_self) (mem_singleton.mp last).symm⟩
        · obtain ⟨old, there, sublist, -⟩ := setConnectDone_found has fewer found
          exact fun member present => before.2 other old there member (sublist.subset present)
    · exact calledOnce
  · exact calledOnce

theorem CalledOnce.onAbilityDisconnectDone (connection : Nat)
    (resultCode : Int) : (mgr.onAbilityDisconnectDone connection resultCode).CalledOnce := by
  have changed (removals : List Nat) :=
    @CalledOnce.setConnection mgr calledOnce connection
      { mgr.connection connection with connectionState := .disconnected } removals nofun id rfl
  unfold ConnectionManager.onAbilityDisconnectDone
  dsimp only
  split
  · exact changed mgr.removals
  · exact changed (connection :: mgr.removals)

theorem CalledOnce.removeConnection (connection : Nat) :
    (mgr.removeConnection connection).CalledOnce := by
  unfold ConnectionManager.removeConnection
  split
  · have erased := @CalledOnce.eraseConnection mgr calledOnce connection mgr.holder
      (.inl rfl)
    exact erased.of_fewer rfl rfl rfl rfl rfl (fun _ => id) (fun _ => id) (fun _ _ => id)
      (fun _ => id) erased.held
  · exact calledOnce

end

end ConnectionManager

end AbilityRuntime.ClientConnection
