import AbilityRuntime.ClientConnection.ConnectDones

set_option autoImplicit false

namespace AbilityRuntime.ClientConnection

open Library Function Prod List Bool Nat Entries

theorem Entries.modifyCallbacks_infos (entries : Entries) (connection : Nat)
    (change : List Nat -> List Nat) :
    (entries.modifyCallbacks connection change).map Prod.fst = entries.map Prod.fst := by
  unfold modifyCallbacks
  rw [List.map_map]
  refine List.map_congr_left fun before _ => ?_
  rw [comp_apply]
  split <;> rfl

namespace ConnectionManager

def IsInfo (mgr : ConnectionManager) (info : ConnectionInfo) : Prop :=
  info ∈ mgr.abilityConnections.map fst ∨
    ∃ reg, mgr.holder = some (.creating reg info)

def Bound (mgr : ConnectionManager) (connection : Nat) (reg : Registration) : Prop :=
  mgr.Live connection ∧ reg ∈ mgr.callbackList connection ∧
      ((mgr.connection connection).isAwaited = true ∨
        ∃ done, mgr.connectDone connection = some done ∧ reg ∈ done.callbacks) ∨
    ∃ done, mgr.connectDone connection = some done ∧ done.isFound = true ∧
      reg ∈ done.callbacks

def PunctualHeld (mgr : ConnectionManager) : Option LockHolder -> Prop
  | some (.adding reg _ _) | some (.added reg _ _) =>
    mgr.disconnected reg.call = false
  | _ => True

structure Punctual (mgr : ConnectionManager) : Prop where
  neverLate : ∀ delivery ∈ mgr.delivered, delivery.isLate = false
  named : ∀ call served, mgr.connectCall call = some served -> ∀ info, mgr.IsInfo info ->
    info.abilityConnection = served.info.abilityConnection -> info = served.info
  made : ∀ call served, mgr.connectCall call = some served ->
    served.info.abilityConnection < mgr.nextConnection ∧ call < mgr.nextCall
  known : ∀ call, mgr.disconnected call = true -> call < mgr.nextCall
  still : ∀ connection reg, mgr.disconnected reg.call = true ->
    ¬mgr.Bound connection reg
  held : mgr.PunctualHeld mgr.holder

variable {mgr : ConnectionManager}

variable {connection : Nat}

theorem Live.isInfo (live : mgr.Live connection) :
    ∃ info, mgr.IsInfo info ∧ info.abilityConnection = connection := by
  rcases live with present | ⟨reg, info, creating, same⟩
  · obtain ⟨entry, there, same⟩ := mem_map.mp present
    exact ⟨entry.1, .inl (mem_map_of_mem there), same⟩
  · exact ⟨info, .inr ⟨reg, creating⟩, same⟩

theorem IsInfo.live {info : ConnectionInfo} (is : mgr.IsInfo info) :
    mgr.Live info.abilityConnection := by
  rcases is with present | ⟨reg, creating⟩
  · obtain ⟨entry, there, rfl⟩ := mem_map.mp present
    exact .inl (mem_map_of_mem there)
  · exact .inr ⟨reg, info, creating, rfl⟩

theorem Bound.owed {reg : Registration}
    (bound : mgr.Bound connection reg) : mgr.Owed connection reg := by
  rcases bound with ⟨live, mem, awaited | ⟨done, found, calls⟩⟩ | ⟨done, found, sure, calls⟩
  · exact .inl ⟨awaited, live, mem⟩
  · exact .inr ⟨done, found, .inr live, calls⟩
  · exact .inr ⟨done, found, .inl sure, calls⟩

variable {after : ConnectionManager}

theorem Bound.of_infos (connections : after.connection = mgr.connection)
    (connectDone : after.connectDone = mgr.connectDone)
    (infos : ∀ info, after.IsInfo info -> mgr.IsInfo info) (connection : Nat)
    (reg : Registration) (_ : mgr.disconnected reg.call = true)
    (bound : after.Bound connection reg) : mgr.Bound connection reg := by
  unfold Bound callbackList at bound ⊢
  rw [connections, connectDone] at bound
  refine bound.imp_left fun ⟨live, rest⟩ => ⟨?_, rest⟩
  obtain ⟨info, is, rfl⟩ := live.isInfo
  exact (infos info is).live

theorem Punctual.of_fewer (punctual : mgr.Punctual)
    (neverLate : ∀ delivery ∈ after.delivered, delivery.isLate = false)
    (connectCall : after.connectCall = mgr.connectCall)
    (calls : after.nextCall = mgr.nextCall)
    (connections : after.nextConnection = mgr.nextConnection)
    (disconnected : ∀ call, after.disconnected call = true -> mgr.disconnected call = true)
    (infos : ∀ info, after.IsInfo info -> mgr.IsInfo info)
    (bound : ∀ connection reg, mgr.disconnected reg.call = true ->
      after.Bound connection reg -> mgr.Bound connection reg)
    (held : after.PunctualHeld after.holder) : after.Punctual where
  neverLate := neverLate
  named := by
    rw [connectCall]
    exact fun call served made info is => punctual.named call served made info (infos info is)
  made := by rw [connectCall, calls, connections]; exact punctual.made
  known := by rw [calls]; exact fun call late => punctual.known call (disconnected call late)
  still := fun connection reg late goes =>
    punctual.still connection reg (disconnected _ late)
      (bound connection reg (disconnected _ late) goes)
  held := held

theorem Punctual.fresh (punctual : mgr.Punctual) :
    mgr.disconnected mgr.nextCall = false :=
  Bool.eq_false_iff.mpr fun late => Nat.lt_irrefl _ (punctual.known _ late)

theorem Punctual.createConnection (punctual : { mgr with holder := none }.Punctual)
    (listed : { mgr with holder := none }.Listed)
    (undone : mgr.connectDone mgr.nextConnection = none)
    (request : ConnectRequest) {reg : Registration} (connectingTime : Nat)
    (isAccepted : Bool) (numbered : reg.call < mgr.nextCall)
    (fresh : mgr.disconnected reg.call = false) :
    (mgr.createConnection request reg connectingTime isAccepted).Punctual := by
  cases isAccepted with
  | false => exact punctual
  | true =>
    rw [createConnection_of]
    have fewer (call : Nat) (late : ((mgr.setConnectCall reg
        (mgr.newInfo request connectingTime)).connectAgain
          reg.callback).disconnected call = true) : mgr.disconnected call = true :=
      (and_eq_true _ _ ▸ late).1
    have served (call : Nat) (connected : ConnectCall)
        (found : update mgr.connectCall reg.call
          (some ⟨reg.callback, mgr.newInfo request connectingTime⟩) call =
            some connected) :
        call = reg.call ∧ connected.info = mgr.newInfo request connectingTime ∨
          mgr.connectCall call = some connected := by
      rw [update_apply] at found
      split at found
      next same => cases found; exact .inl ⟨same, rfl⟩
      · exact .inr found
    refine {
      neverLate := punctual.neverLate, named := ?_, made := ?_
      known := fun call late => punctual.known call (fewer call late), still := ?_, held := trivial }
    · intro call connected found info is same
      rcases is with present | ⟨_, ⟨⟩⟩
      · obtain ⟨entry, there, rfl⟩ := mem_map.mp present
        have made := listed.created entry.1.abilityConnection (mem_map_of_mem there)
        rcases served call connected found with ⟨-, new⟩ | before
        · exact absurd (same.trans (congrArg _ new)) (Nat.ne_of_lt made)
        · exact punctual.named call connected before entry.1 (.inl present) same
      · rcases served call connected found with ⟨-, new⟩ | before
        · exact new.symm
        · exact absurd same.symm (Nat.ne_of_lt (punctual.made call connected before).1)
    · intro call connected found
      rcases served call connected found with ⟨rfl, new⟩ | before
      · refine ⟨?_, numbered⟩
        rw [new]
        exact lt_succ_self _
      · obtain ⟨made, earlier⟩ := punctual.made call connected before
        exact ⟨lt_succ_of_lt made, earlier⟩
    · intro connection other late bound
      by_cases new : connection = mgr.nextConnection
      · have same : other = reg := by
          rcases bound with ⟨-, mem, -⟩ | ⟨done, found, -⟩
          · unfold callbackList at mem
            dsimp only at mem
            rw [new, update_self] at mem
            exact mem_singleton.mp mem
          · rw [new, show mgr.connectDone _ = none from undone] at found
            cases found
        have late := fewer other.call late
        rw [same, fresh] at late
        cases late
      · refine punctual.still connection other (fewer other.call late) ?_
        unfold Bound callbackList at bound ⊢
        dsimp only at bound ⊢
        rw [update_of_ne new] at bound
        refine bound.imp_left fun ⟨live, rest⟩ => ⟨?_, rest⟩
        rcases live with present | ⟨_, _, ⟨⟩, same⟩
        · exact .inl present
        · exact absurd same.symm new

theorem Punctual.connectAbility (punctual : mgr.Punctual) (listed : mgr.Listed)
    (calledOnce : mgr.CalledOnce) (request : ConnectRequest)
    (callback now connectingTime : Nat) (isAccepted : Bool) :
    (mgr.connectAbility request callback now connectingTime isAccepted).Punctual := by
  unfold ConnectionManager.connectAbility
  split
  · exact punctual
  next free =>
    split
    next entry found =>
      have infos (info : ConnectionInfo) (is : IsInfo { mgr with
          abilityConnections := mgr.abilityConnections.modifyCallbacks
            entry.1.abilityConnection (· ++ [callback])
          holder := some (.adding ⟨callback, mgr.nextCall⟩ entry.1 request) } info) :
          info ∈ mgr.abilityConnections.map fst := by
        rcases is with present | ⟨_, ⟨⟩⟩
        rwa [modifyCallbacks_infos] at present
      have present := mem_of_find?_eq_some found
      unfold setConnectCall
      refine {
        neverLate := punctual.neverLate, named := ?_, made := ?_
        known := fun call late => lt_succ_of_lt (punctual.known call late)
        still := ?_, held := punctual.fresh }
      · intro call served connected info is same
        dsimp only at connected
        rw [update_apply] at connected
        split at connected
        · cases connected
          obtain ⟨other, there, rfl⟩ := mem_map.mp (infos info is)
          exact congrArg fst (eq_of_connection listed.distinct there present same)
        · exact punctual.named call served connected info (.inl (infos info is)) same
      · intro call served connected
        dsimp only at connected ⊢
        rw [update_apply] at connected
        split at connected
        next same =>
          cases connected
          exact ⟨listed.created _ (mem_map_of_mem present), same ▸ lt_succ_self _⟩
        · exact (punctual.made call served connected).imp_right lt_succ_of_lt
      · intro connection reg late bound
        refine punctual.still connection reg late (bound.imp_left ?_)
        refine fun ⟨live, rest⟩ => ⟨?_, rest⟩
        obtain ⟨info, is, rfl⟩ := live.isInfo
        exact IsInfo.live (.inl (infos info is))
    · have released : { mgr with holder := none } = mgr := by rw [<- free]
      have before : { mgr with holder := none }.Punctual := released ▸ punctual
      have numbered : { mgr with nextCall := mgr.nextCall + 1, holder := none }.Punctual := {
        before with
        made := fun call served connected =>
          (punctual.made call served connected).imp_right lt_succ_of_lt
        known := fun call late => lt_succ_of_lt (punctual.known call late) }
      have listed : { mgr with nextCall := mgr.nextCall + 1, holder := none }.Listed := by
        have listed := listed.of_number free
        rwa [free] at listed
      exact @Punctual.createConnection { mgr with nextCall := mgr.nextCall + 1 } numbered
        listed (calledOnce.undone _ (Nat.le_refl _)) request ⟨callback, mgr.nextCall⟩
        connectingTime isAccepted (Nat.lt_succ_self _) punctual.fresh

theorem Punctual.addConnectCallback (punctual : mgr.Punctual) :
    mgr.addConnectCallback.Punctual := by
  cases held : mgr.holder with
  | none =>
    unfold ConnectionManager.addConnectCallback
    rw [held]
    exact punctual
  | some holder =>
    cases holder with
    | adding reg info request =>
      have lists := addConnectCallback_callbackList held
      have adding := punctual.held
      rw [held] at adding
      have awaited (connection : Nat) :
          (mgr.addConnectCallback.connection connection).isAwaited =
            (mgr.connection connection).isAwaited := by
        rw [addConnectCallback_of held]
        dsimp only
        rw [update_apply]
        unfold AbilityConnection.addConnectCallback
        by_cases place : connection = info.abilityConnection
        · rw [if_pos place, place]
          split <;> rfl
        · rw [if_neg place]
      have infos (other : ConnectionInfo) (is : mgr.addConnectCallback.IsInfo other) :
          mgr.IsInfo other := by
        rw [addConnectCallback_of held] at is
        rcases is with present | ⟨_, ⟨⟩⟩
        exact .inl present
      have connectDone : mgr.addConnectCallback.connectDone = mgr.connectDone := by
        rw [addConnectCallback_of held]
      have bound (connection : Nat) (other : Registration)
          (late : mgr.disconnected other.call = true)
          (goes : mgr.addConnectCallback.Bound connection other) :
          mgr.Bound connection other := by
        unfold Bound at goes ⊢
        rw [connectDone, awaited, lists] at goes
        refine goes.imp_left fun ⟨live, mem, rest⟩ => ⟨?_, ?_, rest⟩
        · obtain ⟨other, is, rfl⟩ := live.isInfo
          exact (infos other is).live
        · split at mem
          · rcases mem_append.mp mem with before | last
            · exact before
            · rw [mem_singleton.mp last, adding] at late
              cases late
          · exact mem
      rw [addConnectCallback_of held] at infos bound ⊢
      exact punctual.of_fewer punctual.neverLate rfl rfl rfl (fun _ => id) infos bound adding
    | added _ _ _ | creating _ _ | disconnecting _ _ _ | removing _ _ _ _ =>
      unfold ConnectionManager.addConnectCallback
      rw [held]
      exact punctual

theorem IsInfo.of_released {info : ConnectionInfo} (released : after.holder = none)
    (entries : ∀ entry ∈ after.abilityConnections, entry ∈ mgr.abilityConnections)
    (is : after.IsInfo info) : mgr.IsInfo info := by
  rcases is with present | ⟨_, creating⟩
  · obtain ⟨entry, there, rfl⟩ := mem_map.mp present
    exact .inl (mem_map_of_mem (entries entry there))
  · rw [released] at creating
    cases creating

theorem Punctual.getConnectionState (punctual : mgr.Punctual) (listed : mgr.Listed)
    (calledOnce : mgr.CalledOnce) (connectingTime : Nat) (isAccepted : Bool) :
    (mgr.getConnectionState connectingTime isAccepted).Punctual := by
  unfold ConnectionManager.getConnectionState
  split
  next reg info request held =>
    have added := punctual.held
    have numbered := listed.held
    have corresponds := listed.corresponds
    rw [held] at added numbered corresponds
    have fewer (call : Nat)
        (late : (mgr.connectAgain reg.callback).disconnected call = true) :
        mgr.disconnected call = true :=
      (and_eq_true _ _ ▸ late).1
    split
    · refine punctual.of_fewer ?_ rfl rfl rfl fewer (fun info => IsInfo.of_released rfl fun _ => id)
        (Bound.of_infos rfl rfl fun info => IsInfo.of_released rfl fun _ => id) trivial
      intro delivery delivered
      rcases mem_append.mp delivered with before | last
      · exact punctual.neverLate delivery before
      · rw [mem_singleton.mp last]
        refine eq_false_iff.mpr fun late => ?_
        have before := fewer reg.call late
        rw [show mgr.disconnected reg.call = false from added] at before
        cases before
    · exact punctual.of_fewer punctual.neverLate rfl rfl rfl fewer
        (fun info => IsInfo.of_released rfl fun _ => id)
        (Bound.of_infos rfl rfl fun info => IsInfo.of_released rfl fun _ => id) trivial
    · let erased : ConnectionManager := { mgr with
        abilityConnections := mgr.abilityConnections.eraseConnection info.abilityConnection }
      have infos (other : ConnectionInfo) : IsInfo { erased with holder := none } other ->
          mgr.IsInfo other :=
        IsInfo.of_released rfl fun entry present => (mem_eraseConnection.mp present).1
      have punctual : { erased with holder := none }.Punctual :=
        punctual.of_fewer punctual.neverLate rfl rfl rfl (fun _ => id) infos
          (Bound.of_infos rfl rfl infos) trivial
      have listed : { erased with holder := none }.Listed := { listed with
        distinct := listed.distinct.sublist eraseConnection_connections
        created := fun connection present =>
          listed.created connection (eraseConnection_connections.subset present)
        corresponds := fun entry present => by
          obtain ⟨there, other⟩ := mem_eraseConnection.mp present
          exact corresponds entry there fun same => absurd same other
        held := trivial }
      exact Punctual.createConnection punctual listed (calledOnce.undone _ (Nat.le_refl _)) request
        connectingTime isAccepted numbered.1 added
  · exact punctual

theorem Punctual.insertConnection (punctual : mgr.Punctual) :
    mgr.insertConnection.Punctual := by
  unfold ConnectionManager.insertConnection
  split
  next reg info held =>
    have infos (other : ConnectionInfo) (is : IsInfo { mgr with
        abilityConnections := mgr.abilityConnections ++ [(info, [reg.callback])]
        holder := none } other) : mgr.IsInfo other := by
      rcases is with present | ⟨_, ⟨⟩⟩
      rw [map_append] at present
      rcases mem_append.mp present with before | last
      · exact .inl before
      · exact .inr ⟨reg, mem_singleton.mp last ▸ held⟩
    exact punctual.of_fewer punctual.neverLate rfl rfl rfl (fun _ => id) infos
      (Bound.of_infos rfl rfl infos) trivial
  · exact punctual

theorem Punctual.disconnectAbility (punctual : mgr.Punctual) (request : ConnectRequest)
    (callback : Nat) : (mgr.disconnectAbility request callback).Punctual := by
  unfold ConnectionManager.disconnectAbility
  split
  · exact punctual
  · have infos (rest : List ConnectionInfo) (other : ConnectionInfo) (is : IsInfo { mgr with
        holder := some (.disconnecting request callback rest) } other) : mgr.IsInfo other := by
      rcases is with present | ⟨_, ⟨⟩⟩
      exact .inl present
    exact punctual.of_fewer punctual.neverLate rfl rfl rfl (fun _ => id) (infos _)
      (Bound.of_infos rfl rfl (infos _)) trivial

def isToCall (mgr : ConnectionManager) (connection callback : Nat) : Bool :=
  (mgr.connection connection).isAwaited ||
    (mgr.connectDone connection).any fun done =>
      done.callbacks.any (·.callback = callback)

/-- A disconnect returns, with `rest` left out after a refusal, while no connect-done has the callback
to call. -/
def ReturnsQuiet (mgr : ConnectionManager) (request : ConnectRequest) (callback : Nat)
    (rest : List ConnectionInfo) : Prop :=
  (∀ connection < mgr.nextConnection, ∀ done ∈ mgr.connectDone connection,
    done.isFound = true -> ∀ reg ∈ done.callbacks,
      mgr.isDisconnectedBy request callback reg.call = false) ∧
  ∀ info ∈ rest, mgr.isToCall info.abilityConnection callback = false

theorem Punctual.returnDisconnect (punctual : mgr.Punctual) (calledOnce : mgr.CalledOnce)
    {request : ConnectRequest} {callback : Nat} {rest : List ConnectionInfo}
    (quiet : mgr.ReturnsQuiet request callback rest)
    (ended : ∀ reg info, mgr.holder ≠ some (.creating reg info))
    (corresponds : ∀ entry ∈ mgr.abilityConnections,
      entry.2 = (mgr.callbackList entry.1.abilityConnection).map Registration.callback)
    (remaining : Remaining request callback mgr.abilityConnections rest) :
    (mgr.returnDisconnect request callback).Punctual := by
  have infos (info : ConnectionInfo) :
      IsInfo (mgr.returnDisconnect request callback) info -> mgr.IsInfo info :=
    IsInfo.of_released rfl fun _ => id
  have now (call : Nat) (late : (mgr.returnDisconnect request callback).disconnected call = true) :
      mgr.disconnected call = true ∨ mgr.isDisconnectedBy request callback call = true :=
    (or_eq_true _ _ ▸ late)
  refine { punctual with
    named := fun call served connected info is =>
      punctual.named call served connected info (infos info is)
    known := ?_, still := ?_, held := trivial }
  · intro call late
    rcases now call late with before | by_
    · exact punctual.known call before
    · obtain ⟨served, connected, -⟩ := (Option.any_eq_true _ _).mp by_
      exact (punctual.made call served connected).2
  · intro connection reg late after
    have bound : mgr.Bound connection reg := by
      refine after.imp_left fun ⟨live, more⟩ => ⟨?_, more⟩
      obtain ⟨info, is, rfl⟩ := live.isInfo
      exact (infos info is).live
    rcases now _ late with before | by_
    · exact punctual.still connection reg before bound
    obtain ⟨⟨info, served, rfl⟩, -⟩ := calledOnce.owed connection reg bound.owed
    have disconnects := by_
    unfold isDisconnectedBy at by_
    rw [served, Option.any_some, and_eq_true, decide_eq_true_eq] at by_
    obtain ⟨same, matching⟩ := by_
    rcases bound with ⟨live, mem, goes⟩ | ⟨done, found, sure, mem⟩
    · -- Its entry has the callback, so it is one of those left out.
      rcases live with present | ⟨other, new, creating, -⟩
      · obtain ⟨entry, there, place⟩ := mem_map.mp present
        have named := punctual.named _ _ served entry.1 (.inl (mem_map_of_mem there)) place
        have listed : callback ∈ entry.2 := by
          rw [corresponds entry there, place, <- same]
          exact mem_map_of_mem mem
        have left := remaining entry there (named ▸ matching) listed
        have quiet := quiet.2 entry.1 left
        rw [place] at quiet
        unfold isToCall at quiet
        rw [or_eq_false_iff] at quiet
        rcases goes with awaited | ⟨done, found, calls⟩
        · rw [quiet.1] at awaited
          cases awaited
        · rw [found, Option.any_some, any_eq_false] at quiet
          exact quiet.2 reg calls (decide_eq_true same)
      · exact ended other new creating
    · have made : info.abilityConnection < mgr.nextConnection := (punctual.made _ _ served).1
      rw [quiet.1 _ made done found sure reg mem] at disconnects
      cases disconnects

def EndsQuiet (mgr : ConnectionManager) (isAccepted : Bool) : Option LockHolder -> Prop
  | some (.disconnecting request callback []) => mgr.ReturnsQuiet request callback []
  | some (.disconnecting request callback (info :: rest)) =>
    (mgr.abilityConnections.callbacksOf info.abilityConnection).all (· = callback) = true ->
      isAccepted = false -> mgr.ReturnsQuiet request callback rest
  | _ => True

def FindsConnected (mgr : ConnectionManager) (connection : Nat) : Prop :=
  mgr.holder = none -> ∀ done ∈ mgr.connectDone connection, done.isFound = false ->
    mgr.isExist connection done.bundleName = true -> ∀ reg ∈ done.callbacks,
      reg ∉ mgr.callbackList connection ->
        mgr.disconnected reg.call = false

section

variable (punctual : mgr.Punctual)
include punctual

theorem Punctual.disconnectNext (listed : mgr.Listed) (calledOnce : mgr.CalledOnce)
    (isAccepted : Bool) (keeps : mgr.EndsQuiet isAccepted mgr.holder) :
    (mgr.disconnectNext isAccepted).Punctual := by
  unfold ConnectionManager.disconnectNext
  have corresponds := listed.corresponds
  have remaining := listed.held
  split
  next request callback held =>
    rw [held] at keeps corresponds remaining
    refine punctual.returnDisconnect calledOnce keeps (fun _ _ => ?_) corresponds remaining
    rw [held]
    nofun
  next request callback info rest held =>
    rw [held] at keeps corresponds remaining
    dsimp only
    have noEntry (entries : Entries) (holder : Option LockHolder)
        (fewer : entries.map fst ⊆ mgr.abilityConnections.map fst)
        (other : ∀ reg new, holder ≠ some (.creating reg new))
        (next : ConnectionInfo)
        (is : IsInfo { mgr with abilityConnections := entries, holder } next) :
        mgr.IsInfo next := by
      rcases is with present | ⟨reg, creating⟩
      · exact .inl (fewer present)
      · exact absurd creating (other reg next)
    have erases : (mgr.abilityConnections.eraseConnection info.abilityConnection).map fst ⊆
        mgr.abilityConnections.map fst :=
      map_subset _ fun entry present => (mem_eraseConnection.mp present).1
    split
    next emptied =>
      have erased (holder : Option LockHolder)
          (other : ∀ reg new, holder ≠ some (.creating reg new))
          (held : PunctualHeld { mgr with
            abilityConnections := mgr.abilityConnections.eraseConnection info.abilityConnection
            holder } holder) :
          { mgr with
            abilityConnections := mgr.abilityConnections.eraseConnection info.abilityConnection
            holder }.Punctual :=
        punctual.of_fewer punctual.neverLate rfl rfl rfl (fun _ => id)
          (noEntry _ _ erases other) (Bound.of_infos rfl rfl (noEntry _ _ erases other)) held
      cases isAccepted with
      | true => exact erased _ nofun trivial
      | false =>
        have other (reg : Registration) (new : ConnectionInfo) :
            mgr.holder ≠ some (.creating reg new) := by
          rw [held]
          nofun
        refine Punctual.returnDisconnect (erased mgr.holder other ?_)
          (calledOnce.eraseConnection info.abilityConnection (.inl rfl)) (keeps emptied rfl) other
          (fun entry present => ?_) fun entry present matching mem => ?_
        · rw [held]
          trivial
        · exact corresponds entry (mem_eraseConnection.mp present).1
        · obtain ⟨there, ne⟩ := mem_eraseConnection.mp present
          rcases mem_cons.mp (remaining entry there matching mem) with same | later
          · exact absurd (congrArg ConnectionInfo.abilityConnection same) ne
          · exact later
    · have same := mgr.abilityConnections.modifyCallbacks_infos info.abilityConnection
        (filter (· ≠ callback))
      have infos := noEntry (mgr.abilityConnections.modifyCallbacks info.abilityConnection
        (filter (· ≠ callback))) (some (.removing request callback info rest))
          (same ▸ Subset.refl _) nofun
      exact punctual.of_fewer punctual.neverLate rfl rfl rfl (fun _ => id) infos
        (Bound.of_infos rfl rfl infos) trivial
  · exact punctual

theorem Punctual.removeConnectCallback : mgr.removeConnectCallback.Punctual := by
  cases held : mgr.holder with
  | none =>
    unfold ConnectionManager.removeConnectCallback
    rw [held]
    exact punctual
  | some holder =>
    cases holder with
    | removing request callback info rest =>
      have subset := removeConnectCallback_subset held
      have awaited (connection : Nat) :
          (mgr.removeConnectCallback.connection connection).isAwaited =
            (mgr.connection connection).isAwaited := by
        rw [removeConnectCallback_of held]
        dsimp only
        rw [update_apply]
        split
        next place => rw [place]; rfl
        · rfl
      have infos (other : ConnectionInfo) (is : mgr.removeConnectCallback.IsInfo other) :
          mgr.IsInfo other := by
        rw [removeConnectCallback_of held] at is
        rcases is with present | ⟨_, ⟨⟩⟩
        exact .inl present
      have connectDone : mgr.removeConnectCallback.connectDone = mgr.connectDone := by
        rw [removeConnectCallback_of held]
      have bound (connection : Nat) (other : Registration)
          (_ : mgr.disconnected other.call = true)
          (goes : mgr.removeConnectCallback.Bound connection other) :
          mgr.Bound connection other := by
        unfold Bound at goes ⊢
        rw [connectDone, awaited] at goes
        refine goes.imp_left fun ⟨live, mem, rest⟩ => ⟨?_, (subset connection).subset mem, rest⟩
        obtain ⟨other, is, rfl⟩ := live.isInfo
        exact (infos other is).live
      rw [removeConnectCallback_of held] at infos bound ⊢
      exact punctual.of_fewer punctual.neverLate rfl rfl rfl (fun _ => id) infos bound trivial
    | adding _ _ _ | added _ _ _ | creating _ _ | disconnecting _ _ _ =>
      unfold ConnectionManager.removeConnectCallback
      rw [held]
      exact punctual

theorem Punctual.setConnection {changed : AbilityConnection}
    (list : changed.callbackList = mgr.callbackList connection)
    (awaited : changed.isAwaited = true -> (mgr.connection connection).isAwaited = true) :
    (mgr.setConnection connection changed).Punctual := by
  refine punctual.of_fewer punctual.neverLate rfl rfl rfl (fun _ => id) (fun _ => id) ?_ punctual.held
  intro other reg _ bound
  unfold Bound at bound ⊢
  rw [setConnection_callbackList] at bound
  refine bound.imp_left fun ⟨live, mem, goes⟩ => ⟨live, ?_, goes.imp_left ?_⟩
  · split at mem
    next same => rw [same, <- list]; exact mem
    · exact mem
  · unfold ConnectionManager.setConnection
    dsimp only
    rw [update_apply]
    split
    next same => rw [same]; exact awaited
    · exact id

theorem Punctual.setConnectDone {changed : Option ConnectDone}
    (fewer : ∀ done, changed = some done -> ∀ reg ∈ done.callbacks,
      mgr.disconnected reg.call = true -> done.isFound = true ∨
        mgr.Live connection ∧ reg ∈ mgr.callbackList connection ->
          mgr.Bound connection reg) :
    (mgr.setConnectDone connection changed).Punctual := by
  refine punctual.of_fewer punctual.neverLate rfl rfl rfl (fun _ => id) (fun _ => id) ?_ punctual.held
  intro other reg late bound
  unfold ConnectionManager.setConnectDone at bound
  by_cases same : other = connection
  · rw [same] at bound ⊢
    rcases bound with ⟨live, mem, awaited | ⟨done, found, calls⟩⟩ | ⟨done, found, sure, calls⟩
    · exact .inl ⟨live, mem, .inl awaited⟩
    · dsimp only at found
      rw [update_self] at found
      exact fewer done found reg calls late (.inr ⟨live, mem⟩)
    · dsimp only at found
      rw [update_self] at found
      exact fewer done found reg calls late (.inl sure)
  · unfold Bound at bound ⊢
    dsimp only at bound
    rw [update_of_ne same] at bound
    exact bound

theorem Punctual.onAbilityConnectDone (connection : Nat)
    (bundleName : String) : (mgr.onAbilityConnectDone connection bundleName).Punctual := by
  unfold ConnectionManager.onAbilityConnectDone
  dsimp only
  split
  · exact punctual
  next awaited =>
    have waits : (mgr.connection connection).isAwaited = true := by simpa using awaited
    split
    · exact punctual.setConnection rfl nofun
    · -- Whoever is called now was going to be called by the answer.
      have answered := @Punctual.setConnectDone mgr connection punctual
        (some { bundleName, callbacks := mgr.callbackList connection }) (by
          rintro _ ⟨⟩ reg mem _ (⟨⟨⟩⟩ | ⟨live, listed⟩)
          exact .inl ⟨live, listed, .inl waits⟩)
      exact answered.setConnection rfl nofun

theorem Punctual.disconnectNonexistentService (connection : Nat)
    (keeps : mgr.FindsConnected connection) :
    (mgr.disconnectNonexistentService connection).Punctual := by
  unfold ConnectionManager.disconnectNonexistentService
  split
  next done free has =>
    split
    · exact punctual
    next notFound =>
      split
      next exist =>
        obtain ⟨entry, present, same⟩ := any_eq_true.mp exist
        rw [and_eq_true, decide_eq_true_eq] at same
        have live : mgr.Live connection := .inl (same.1 ▸ mem_map_of_mem present)
        refine punctual.setConnectDone ?_
        rintro _ ⟨⟩ reg mem late -
        by_cases listed : reg ∈ mgr.callbackList connection
        · exact .inl ⟨live, listed, .inr ⟨done, has, mem⟩⟩
        · rw [keeps free done has (by simpa using notFound) exist reg mem listed] at late
          cases late
      · exact punctual.setConnectDone nofun
  · exact punctual

theorem Punctual.callConnectDone (connection : Nat) :
    (mgr.callConnectDone connection).Punctual := by
  unfold ConnectionManager.callConnectDone
  split
  next done has =>
    split
    next reg rest isFound callbacks =>
      have delivered : (mgr.deliver reg).Punctual := by
        refine punctual.of_fewer ?_ rfl rfl rfl (fun _ => id) (fun _ => id) (fun _ _ _ => id)
          punctual.held
        intro delivery delivered
        rcases mem_append.mp delivered with before | last
        · exact punctual.neverLate delivery before
        · rw [mem_singleton.mp last]
          exact eq_false_iff.mpr fun late => punctual.still connection reg late
            (.inr ⟨done, has, isFound, callbacks ▸ mem_cons_self⟩)
      refine delivered.setConnectDone ?_
      rintro _ ⟨⟩ other mem - -
      exact .inr ⟨done, has, isFound, callbacks ▸ mem_cons_of_mem _ mem⟩
    · exact punctual
  · exact punctual

theorem Punctual.onAbilityDisconnectDone (connection : Nat)
    (resultCode : Int) : (mgr.onAbilityDisconnectDone connection resultCode).Punctual := by
  have changed := @Punctual.setConnection mgr connection punctual
    { mgr.connection connection with connectionState := .disconnected } rfl id
  unfold ConnectionManager.onAbilityDisconnectDone
  dsimp only
  split
  · exact changed
  · exact changed.of_fewer changed.neverLate rfl rfl rfl (fun _ => id) (fun _ => id)
      (fun _ _ _ => id) changed.held

theorem Punctual.removeConnection (connection : Nat) :
    (mgr.removeConnection connection).Punctual := by
  unfold ConnectionManager.removeConnection
  split
  next free =>
    rw [and_eq_true, decide_eq_true_eq] at free
    have infos (removals : List Nat) (info : ConnectionInfo) : IsInfo { mgr with
        abilityConnections := mgr.abilityConnections.eraseConnection connection
        removals } info -> mgr.IsInfo info :=
      IsInfo.of_released free.1 fun entry present => (mem_eraseConnection.mp present).1
    exact punctual.of_fewer punctual.neverLate rfl rfl rfl (fun _ => id) (infos _)
      (Bound.of_infos rfl rfl (infos _)) punctual.held
  · exact punctual

end

end ConnectionManager

end AbilityRuntime.ClientConnection
