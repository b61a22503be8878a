import AbilityRuntime.ClientConnection.ConnectionManager
import AbilityRuntime.Library.FirstMatch

set_option autoImplicit false

namespace AbilityRuntime.ClientConnection

open Library Function List Registration Entries Nat

namespace Entries

variable {entries : Entries} {connection : Nat} {change : List Nat -> List Nat}
  {entry : ConnectionInfo × List Nat}

theorem mem_eraseConnection :
    entry ∈ entries.eraseConnection connection ↔
      entry ∈ entries ∧ entry.1.abilityConnection ≠ connection := by
  simp [eraseConnection]

theorem forall_modifyCallbacks {holds : ConnectionInfo × List Nat -> Prop}
    (changed : ∀ before ∈ entries, before.1.abilityConnection = connection ->
      holds (before.1, change before.2))
    (others : ∀ before ∈ entries, before.1.abilityConnection ≠ connection -> holds before) :
    ∀ entry ∈ entries.modifyCallbacks connection change, holds entry := by
  intro entry present
  obtain ⟨before, there, rfl⟩ := mem_map.mp present
  split
  next same => exact changed before there same
  next ne => exact others before there ne

def connections (entries : Entries) : List Nat := entries.map (·.1.abilityConnection)

theorem modifyCallbacks_connections :
    (entries.modifyCallbacks connection change).connections = entries.connections := by
  unfold modifyCallbacks connections
  rw [map_map]
  refine map_congr_left fun before _ => ?_
  rw [comp_apply]
  split <;> rfl

theorem eraseConnection_connections :
    (entries.eraseConnection connection).connections.Sublist entries.connections :=
  filter_sublist.map _

theorem eq_of_connection (distinct : entries.connections.Nodup)
    {first second : ConnectionInfo × List Nat} (left : first ∈ entries) (right : second ∈ entries)
    (same : first.1.abilityConnection = second.1.abilityConnection) : first = second :=
  inj_on_of_nodup_map distinct left right same

end Entries

theorem map_eraseP_callback {list : List Registration} {callback : Nat}
    (distinct : (list.map Registration.callback).Nodup) :
    (list.eraseP (·.callback = callback)).map Registration.callback =
      (list.map Registration.callback).filter (· ≠ callback) := by
  rw [eraseP_of_nodup distinct, filter_map]
  rfl

namespace ConnectionManager

def callbackList (mgr : ConnectionManager) (connection : Nat) : List Registration :=
  (mgr.connection connection).callbackList

def Corresponds (holder : Option LockHolder) (list : List Registration)
    (entry : ConnectionInfo × List Nat) : Prop :=
  match holder with
  | some (.adding reg info _) =>
    entry.2 = if entry.1.abilityConnection = info.abilityConnection then
      list.map callback ++ [reg.callback] else list.map callback
  | some (.added reg info _) =>
    (entry.1.abilityConnection = info.abilityConnection -> reg ∈ list) ->
      entry.2 = list.map callback
  | some (.removing _ callback info _) =>
    entry.2 = if entry.1.abilityConnection = info.abilityConnection then
      (list.map Registration.callback).filter (· ≠ callback) else list.map Registration.callback
  | _ => entry.2 = list.map Registration.callback

def Remaining (request : ConnectRequest) (callback : Nat) (entries : Entries)
    (rest : List ConnectionInfo) : Prop :=
  ∀ entry ∈ entries, request.matchConnection entry.1 = true -> callback ∈ entry.2 -> entry.1 ∈ rest

def ListsHeld (mgr : ConnectionManager) : Option LockHolder -> Prop
  | some (.adding reg info _) => reg.call < mgr.nextCall ∧
    info.abilityConnection ∈ mgr.abilityConnections.connections ∧
    ∀ connection, ∀ other ∈ mgr.callbackList connection, other.call ≠ reg.call
  | some (.added reg info _) => reg.call < mgr.nextCall ∧
    ∀ connection, connection ≠ info.abilityConnection ->
      ∀ other ∈ mgr.callbackList connection, other.call ≠ reg.call
  | some (.creating reg info) => info.abilityConnection < mgr.nextConnection ∧
    info.abilityConnection ∉ mgr.abilityConnections.connections ∧
    mgr.callbackList info.abilityConnection = [reg]
  | some (.disconnecting request callback rest) | some (.removing request callback _ rest) =>
    Remaining request callback mgr.abilityConnections rest
  | _ => True

structure Listed (mgr : ConnectionManager) : Prop where
  distinct : mgr.abilityConnections.connections.Nodup
  created : ∀ connection ∈ mgr.abilityConnections.connections, connection < mgr.nextConnection
  corresponds : ∀ entry ∈ mgr.abilityConnections,
    Corresponds mgr.holder (mgr.callbackList entry.1.abilityConnection) entry
  unmade : ∀ connection, mgr.nextConnection ≤ connection -> mgr.connection connection = {}
  callbacks : ∀ connection, ((mgr.callbackList connection).map callback).Nodup
  calls : ∀ connection, ((mgr.callbackList connection).map call).Nodup
  numbered : ∀ connection, ∀ reg ∈ mgr.callbackList connection,
    reg.call < mgr.nextCall
  held : mgr.ListsHeld mgr.holder

variable {mgr : ConnectionManager}

@[simp] theorem setConnection_callbackList (connection other : Nat) (changed : AbilityConnection) :
    (mgr.setConnection connection changed).callbackList other =
      if other = connection then changed.callbackList else mgr.callbackList other := by
  unfold setConnection callbackList
  dsimp only
  rw [update_apply]
  split <;> rfl

theorem Listed.of_same (listed : mgr.Listed) {after : ConnectionManager}
    (entries : after.abilityConnections = mgr.abilityConnections)
    (lists : after.callbackList = mgr.callbackList) (holder : after.holder = mgr.holder)
    (connections : after.nextConnection = mgr.nextConnection)
    (calls : after.nextCall = mgr.nextCall)
    (unmade : ∀ connection, mgr.nextConnection ≤ connection -> after.connection connection = {}) :
    after.Listed where
  distinct := entries ▸ listed.distinct
  created := by rw [entries, connections]; exact listed.created
  corresponds := by rw [entries, lists, holder]; exact listed.corresponds
  unmade := by rw [connections]; exact unmade
  callbacks := by rw [lists]; exact listed.callbacks
  calls := by rw [lists]; exact listed.calls
  numbered := by rw [lists, calls]; exact listed.numbered
  held := by
    have held := listed.held
    rw [holder]
    unfold ListsHeld at held ⊢
    rw [entries, lists, connections, calls]
    exact held

theorem Listed.eraseConnection (listed : mgr.Listed) (free : mgr.holder = none)
    (connection : Nat) :
    { mgr with
      abilityConnections := mgr.abilityConnections.eraseConnection connection }.Listed where
  distinct := listed.distinct.sublist eraseConnection_connections
  created := fun other present =>
    listed.created other (eraseConnection_connections.subset present)
  corresponds := fun entry present =>
    listed.corresponds entry (mem_eraseConnection.mp present).1
  __ := listed
  held := by
    rw [free]
    trivial

theorem Listed.release (listed : mgr.Listed)
    (corresponds : ∀ entry ∈ mgr.abilityConnections,
      entry.2 = (mgr.callbackList entry.1.abilityConnection).map callback) :
    { mgr with holder := none }.Listed :=
  { listed with corresponds, held := trivial }

theorem Listed.of_number (listed : mgr.Listed) (free : mgr.holder = none) :
    { mgr with nextCall := mgr.nextCall + 1 }.Listed :=
  { listed with
    numbered := fun connection reg present =>
      lt_succ_of_lt (listed.numbered connection reg present)
    held := by
      rw [free]
      trivial }

theorem createConnection_callbackList (request : ConnectRequest) (reg : Registration)
    (connectingTime other : Nat) :
    (mgr.createConnection request reg connectingTime true).callbackList other =
      if other = mgr.nextConnection then [reg] else mgr.callbackList other := by
  change (update mgr.connection mgr.nextConnection _ other).callbackList = _
  rw [update_apply]
  split <;> rfl

variable {reg : Registration}

theorem Listed.createConnection (listed : { mgr with holder := none }.Listed)
    (request : ConnectRequest) (connectingTime : Nat) (isAccepted : Bool)
    (numbered : reg.call < mgr.nextCall) :
    (mgr.createConnection request reg connectingTime isAccepted).Listed := by
  cases isAccepted with
  | false => exact listed
  | true =>
    have lists := @createConnection_callbackList mgr request reg connectingTime
    have apart : mgr.nextConnection ∉ mgr.abilityConnections.connections :=
      fun present => Nat.lt_irrefl _ (listed.created _ present)
    refine {
      distinct := listed.distinct
      created := fun connection present => lt_succ_of_lt (listed.created connection present)
      corresponds := ?_, unmade := ?_, callbacks := ?_, calls := ?_, numbered := ?_, held := ?_ }
    · intro entry present
      have other : entry.1.abilityConnection ≠ mgr.nextConnection :=
        fun same => apart (same ▸ mem_map_of_mem present)
      rw [lists, if_neg other]
      exact listed.corresponds entry present
    · intro connection unmade
      change update _ _ _ connection = _
      rw [update_of_ne (Nat.ne_of_gt unmade)]
      exact listed.unmade connection (Nat.le_of_succ_le unmade)
    · intro connection
      rw [lists]
      split
      · exact nodup_singleton _
      · exact listed.callbacks connection
    · intro connection
      rw [lists]
      split
      · exact nodup_singleton _
      · exact listed.calls connection
    · intro connection other present
      rw [lists] at present
      split at present
      · exact mem_singleton.mp present ▸ numbered
      · exact listed.numbered connection other present
    · refine ⟨lt_succ_self _, apart, ?_⟩
      rw [lists]
      exact if_pos rfl

theorem Listed.connectAbility (listed : mgr.Listed) (request : ConnectRequest)
    (callback now connectingTime : Nat) (isAccepted : Bool) :
    (mgr.connectAbility request callback now connectingTime isAccepted).Listed := by
  unfold ConnectionManager.connectAbility
  split
  · exact listed
  next free =>
    split
    next entry found =>
      refine { listed with
        distinct := ?_, created := ?_, corresponds := ?_, numbered := ?_, held := ?_ }
      · rw [modifyCallbacks_connections]
        exact listed.distinct
      · rw [modifyCallbacks_connections]
        exact listed.created
      · dsimp only
        refine forall_modifyCallbacks ?_ ?_
        all_goals
          intro before present place
          have same := listed.corresponds before present
          rw [free] at same
          unfold Corresponds at same ⊢
          dsimp only at same ⊢
        · rw [if_pos place]
          exact congrArg (· ++ [callback]) same
        · rw [if_neg place]
          exact same
      · exact fun connection reg present =>
          lt_succ_of_lt (listed.numbered connection reg present)
      · refine ⟨lt_succ_self _, ?_, fun connection other present => ?_⟩
        · rw [modifyCallbacks_connections]
          exact mem_map_of_mem (mem_of_find?_eq_some found)
        exact Nat.ne_of_lt (listed.numbered connection other present)
    · refine Listed.createConnection ?_ request connectingTime isAccepted (lt_succ_self _)
      refine (listed.of_number free).release fun entry present => ?_
      have same := listed.corresponds entry present
      rwa [free] at same

variable {info : ConnectionInfo} {request : ConnectRequest}

theorem addConnectCallback_of (held : mgr.holder = some (.adding reg info request)) :
    mgr.addConnectCallback =
      { mgr with
        connection := update mgr.connection info.abilityConnection
          ((mgr.connection info.abilityConnection).addConnectCallback reg)
        holder := some (.added reg info request) } := by
  unfold addConnectCallback
  rw [held]
  rfl

theorem addConnectCallback_callbackList
    (held : mgr.holder = some (.adding reg info request)) (connection : Nat) :
    mgr.addConnectCallback.callbackList connection =
      if connection = info.abilityConnection ∧ reg.callback ∉
          (mgr.callbackList connection).map callback then
        mgr.callbackList connection ++ [reg]
      else mgr.callbackList connection := by
  rw [addConnectCallback_of held]
  unfold callbackList AbilityConnection.addConnectCallback
  dsimp only
  by_cases same : connection = info.abilityConnection
  · rw [same, update_self]
    by_cases there : reg.callback ∈
        (mgr.connection info.abilityConnection).callbackList.map callback
    · rw [if_pos (by simpa using there), if_neg fun both => both.2 there]
    · rw [if_neg (by simpa using there), if_pos ⟨rfl, there⟩]
  · rw [update_of_ne same, if_neg fun both => same both.1]

theorem Listed.addConnectCallback (listed : mgr.Listed) : mgr.addConnectCallback.Listed := by
  cases held : mgr.holder with
  | none =>
    unfold ConnectionManager.addConnectCallback
    rw [held]
    exact listed
  | some holder =>
    cases holder with
    | adding reg info request =>
      have lists := addConnectCallback_callbackList held
      have fresh := listed.held
      have corresponds := listed.corresponds
      rw [held] at fresh corresponds
      obtain ⟨numbered, known, fresh⟩ := fresh
      have entries : mgr.addConnectCallback.abilityConnections = mgr.abilityConnections := by
        rw [addConnectCallback_of held]
      have calls : mgr.addConnectCallback.nextCall = mgr.nextCall := by
        rw [addConnectCallback_of held]
      have connections : mgr.addConnectCallback.nextConnection = mgr.nextConnection := by
        rw [addConnectCallback_of held]
      have holder : mgr.addConnectCallback.holder = some (.added reg info request) := by
        rw [addConnectCallback_of held]
      refine {
        distinct := entries ▸ listed.distinct, created := ?_, corresponds := ?_, unmade := ?_
        callbacks := ?_, calls := ?_, numbered := ?_, held := ?_ }
      · rw [entries, connections]; exact listed.created
      · intro entry present
        have before := corresponds entry (entries ▸ present)
        rw [holder]
        unfold Corresponds at before ⊢
        dsimp only at before ⊢
        rw [lists]
        intro mem
        by_cases same : entry.1.abilityConnection = info.abilityConnection
        · rw [if_pos same] at before
          have added := mem same
          split at added
          next new => rw [if_pos new, map_append, before]; rfl
          · exact absurd rfl (fresh _ reg added)
        · rw [if_neg same] at before
          rw [if_neg fun both => same both.1, before]
      · intro connection unmade
        rw [connections] at unmade
        have other : connection ≠ info.abilityConnection :=
          fun same => Nat.not_lt_of_le unmade (same ▸ listed.created _ known)
        rw [addConnectCallback_of held]
        dsimp only
        rw [update_of_ne other]
        exact listed.unmade connection unmade
      · intro connection
        rw [lists]
        split
        next new =>
          rw [map_append, nodup_append]
          refine ⟨listed.callbacks connection, nodup_singleton _, ?_⟩
          rintro callback present _ last rfl
          exact new.2 (mem_singleton.mp last ▸ present)
        · exact listed.callbacks connection
      · intro connection
        rw [lists]
        split
        next new =>
          rw [map_append, nodup_append]
          refine ⟨listed.calls connection, nodup_singleton _, ?_⟩
          rintro call present _ last rfl
          obtain ⟨other, there, same⟩ := mem_map.mp present
          exact fresh connection other there (same.trans (mem_singleton.mp last))
        · exact listed.calls connection
      · intro connection other present
        rw [lists] at present
        rw [calls]
        split at present
        · rcases mem_append.mp present with before | last
          · exact listed.numbered connection other before
          · exact mem_singleton.mp last ▸ numbered
        · exact listed.numbered connection other present
      · rw [holder]
        refine ⟨calls.symm ▸ numbered, fun connection apart other present => ?_⟩
        rw [lists, if_neg fun both => apart both.1] at present
        exact fresh connection other present
    | added _ _ _ | creating _ _ | disconnecting _ _ _ | removing _ _ _ _ =>
      unfold ConnectionManager.addConnectCallback
      rw [held]
      exact listed

def StaysListed (mgr : ConnectionManager) : Option LockHolder -> Prop
  | some (.added reg info _) =>
    (mgr.connection info.abilityConnection).connectionState = .disconnected ∨
      reg ∈ mgr.callbackList info.abilityConnection
  | _ => True

theorem Listed.getConnectionState (listed : mgr.Listed) {connectingTime : Nat}
    {isAccepted : Bool}
    (keeps : mgr.StaysListed mgr.holder) :
    (mgr.getConnectionState connectingTime isAccepted).Listed := by
  unfold ConnectionManager.getConnectionState
  split
  next reg info request held =>
    have numbered := listed.held
    have corresponds := listed.corresponds
    rw [held] at keeps corresponds numbered
    have released (stays : reg ∈ mgr.callbackList info.abilityConnection) :
        { mgr with holder := none }.Listed := by
      refine listed.release fun entry present => corresponds entry present fun same => ?_
      rwa [same]
    split
    next connected =>
      rcases keeps with disconnected | stays
      · rw [connected] at disconnected; cases disconnected
      · exact (released stays).of_same rfl rfl rfl rfl rfl (released stays).unmade
    next connecting =>
      rcases keeps with disconnected | stays
      · rw [connecting] at disconnected; cases disconnected
      · exact (released stays).of_same rfl rfl rfl rfl rfl (released stays).unmade
    · refine Listed.createConnection ?_ request connectingTime isAccepted numbered.1
      refine { listed with
        distinct := listed.distinct.sublist eraseConnection_connections
        created := fun connection present =>
          listed.created connection (eraseConnection_connections.subset present)
        corresponds := ?_, held := trivial }
      intro entry present
      obtain ⟨there, other⟩ := mem_eraseConnection.mp present
      exact corresponds entry there fun same => absurd same other
  · exact listed

theorem Listed.insertConnection (listed : mgr.Listed) : mgr.insertConnection.Listed := by
  unfold ConnectionManager.insertConnection
  split
  next reg info held =>
    have new := listed.held
    have corresponds := listed.corresponds
    rw [held] at new corresponds
    obtain ⟨made, apart, list⟩ := new
    have connections : (mgr.abilityConnections ++ [(info, [reg.callback])]).map
        (·.1.abilityConnection) = mgr.abilityConnections.connections ++ [info.abilityConnection] :=
      map_append
    refine { listed with distinct := ?_, created := ?_, corresponds := ?_, held := trivial }
    · unfold Entries.connections
      rw [connections, nodup_append]
      refine ⟨listed.distinct, nodup_singleton _, ?_⟩
      rintro connection present _ last rfl
      exact apart (mem_singleton.mp last ▸ present)
    · unfold Entries.connections
      rw [connections]
      intro connection present
      rcases mem_append.mp present with before | last
      · exact listed.created connection before
      · exact mem_singleton.mp last ▸ made
    · intro entry present
      rcases mem_append.mp present with before | last
      · exact corresponds entry before
      · rw [mem_singleton.mp last]
        change [reg.callback] = (mgr.callbackList info.abilityConnection).map _
        rw [list]
        rfl
  · exact listed

theorem Listed.disconnectAbility (listed : mgr.Listed) (request : ConnectRequest)
    (callback : Nat) : (mgr.disconnectAbility request callback).Listed := by
  unfold ConnectionManager.disconnectAbility
  split
  · exact listed
  next free =>
    have corresponds := listed.corresponds
    rw [free] at corresponds
    refine { listed with corresponds, held := ?_ }
    intro entry present matching mem
    refine mem_map_of_mem (mem_filter.mpr ⟨present, ?_⟩)
    simp [matching, mem]

theorem Listed.disconnectNext (listed : mgr.Listed) (isAccepted : Bool) :
    (mgr.disconnectNext isAccepted).Listed := by
  unfold ConnectionManager.disconnectNext
  split
  next request callback held =>
    have corresponds := listed.corresponds
    rw [held] at corresponds
    exact { listed with corresponds, held := trivial }
  next request callback info rest held =>
    have corresponds := listed.corresponds
    have remaining := listed.held
    rw [held] at corresponds remaining
    have fewer (entry : ConnectionInfo × List Nat) (present : entry ∈ mgr.abilityConnections)
        (other : entry.1.abilityConnection ≠ info.abilityConnection)
        (matching : request.matchConnection entry.1 = true) (mem : callback ∈ entry.2) :
        entry.1 ∈ rest := by
      rcases mem_cons.mp (remaining entry present matching mem) with same | later
      · exact absurd (congrArg ConnectionInfo.abilityConnection same) other
      · exact later
    dsimp only
    split
    · have erased (holder : Option LockHolder)
          (held : ListsHeld { mgr with
            abilityConnections := mgr.abilityConnections.eraseConnection info.abilityConnection
            holder } holder)
          (free : ∀ (list : List Registration) (entry : ConnectionInfo × List Nat),
            entry.2 = list.map Registration.callback -> Corresponds holder list entry) :
          { mgr with
            abilityConnections := mgr.abilityConnections.eraseConnection info.abilityConnection
            holder }.Listed := { listed with
        distinct := listed.distinct.sublist eraseConnection_connections
        created := fun connection present =>
          listed.created connection (eraseConnection_connections.subset present)
        corresponds := fun entry present =>
          free _ entry (corresponds entry (mem_eraseConnection.mp present).1)
        held }
      cases isAccepted with
      | true =>
        refine erased _ (fun entry present => ?_) fun _ _ => id
        obtain ⟨there, other⟩ := mem_eraseConnection.mp present
        exact fewer entry there other
      | false =>
        have ended := erased none trivial fun _ _ => id
        exact ended.of_same rfl rfl rfl rfl rfl ended.unmade
    · refine { listed with distinct := ?_, created := ?_, corresponds := ?_, held := ?_ }
      · rw [modifyCallbacks_connections]
        exact listed.distinct
      · rw [modifyCallbacks_connections]
        exact listed.created
      · refine forall_modifyCallbacks ?_ ?_
        all_goals
          intro before present place
          have same := corresponds before present
          unfold Corresponds at same ⊢
          dsimp only at same ⊢
        · rw [if_pos place, same]
          rfl
        · rw [if_neg place]
          exact same
      · refine forall_modifyCallbacks ?_ ?_
        · intro before _ _ _ mem
          simp at mem
        · exact fun before present other => fewer before present other
  · exact listed

variable {rest : List ConnectionInfo}

theorem removeConnectCallback_of {callback : Nat}
    (held : mgr.holder = some (.removing request callback info rest)) :
    mgr.removeConnectCallback =
      { mgr with
        connection := update mgr.connection info.abilityConnection
          ((mgr.connection info.abilityConnection).removeConnectCallback callback)
        holder := some (.disconnecting request callback rest) } := by
  unfold removeConnectCallback
  rw [held]
  rfl

theorem removeConnectCallback_callbackList {callback : Nat}
    (held : mgr.holder = some (.removing request callback info rest)) (connection : Nat) :
    mgr.removeConnectCallback.callbackList connection =
      if connection = info.abilityConnection then
        (mgr.callbackList connection).eraseP (·.callback = callback)
      else mgr.callbackList connection := by
  rw [removeConnectCallback_of held]
  unfold callbackList
  dsimp only
  split
  next same => rw [same, update_self]; rfl
  next other => rw [update_of_ne other]

theorem removeConnectCallback_subset {callback : Nat}
    (held : mgr.holder = some (.removing request callback info rest)) (connection : Nat) :
    (mgr.removeConnectCallback.callbackList connection).Sublist (mgr.callbackList connection) := by
  rw [removeConnectCallback_callbackList held]
  split
  · exact eraseP_sublist
  · exact List.Sublist.refl _

section

variable (listed : mgr.Listed)
include listed

theorem Listed.removeConnectCallback : mgr.removeConnectCallback.Listed := by
  cases held : mgr.holder with
  | none =>
    unfold ConnectionManager.removeConnectCallback
    rw [held]
    exact listed
  | some holder =>
    cases holder with
    | removing request callback info rest =>
      have lists := removeConnectCallback_callbackList held
      have subset := removeConnectCallback_subset held
      have remaining := listed.held
      have corresponds := listed.corresponds
      rw [held] at remaining corresponds
      have entries : mgr.removeConnectCallback.abilityConnections =
          mgr.abilityConnections := by rw [removeConnectCallback_of held]
      have calls : mgr.removeConnectCallback.nextCall = mgr.nextCall := by
        rw [removeConnectCallback_of held]
      have connections : mgr.removeConnectCallback.nextConnection = mgr.nextConnection := by
        rw [removeConnectCallback_of held]
      have holder : mgr.removeConnectCallback.holder =
          some (.disconnecting request callback rest) := by rw [removeConnectCallback_of held]
      refine {
        distinct := entries ▸ listed.distinct, created := ?_, corresponds := ?_, unmade := ?_
        callbacks := fun connection => (listed.callbacks connection).sublist ((subset connection).map _)
        calls := fun connection => (listed.calls connection).sublist ((subset connection).map _)
        numbered := ?_, held := ?_ }
      · rw [entries, connections]; exact listed.created
      · intro entry present
        have before := corresponds entry (entries ▸ present)
        rw [holder]
        unfold Corresponds at before ⊢
        dsimp only at before ⊢
        rw [lists, before]
        split
        · exact (map_eraseP_callback (listed.callbacks _)).symm
        · rfl
      · intro connection unmade
        have before := listed.unmade connection (connections ▸ unmade)
        rw [removeConnectCallback_of held]
        dsimp only
        rw [update_apply]
        split
        next same => rw [<- same, before]; rfl
        · exact before
      · intro connection reg present
        rw [calls]
        exact listed.numbered connection reg ((subset connection).subset present)
      · rw [holder]
        change Remaining request callback mgr.removeConnectCallback.abilityConnections rest
        rw [entries]
        exact remaining
    | adding _ _ _ | added _ _ _ | creating _ _ | disconnecting _ _ _ =>
      unfold ConnectionManager.removeConnectCallback
      rw [held]
      exact listed

theorem Listed.setConnection {connection : Nat} {changed : AbilityConnection}
    (list : changed.callbackList = mgr.callbackList connection)
    (unmade : mgr.connection connection = {} -> changed = {}) :
    (mgr.setConnection connection changed).Listed := by
  refine listed.of_same rfl ?_ rfl rfl rfl ?_
  · funext other
    rw [setConnection_callbackList]
    split
    next same => rw [same, list]
    · rfl
  · intro other new
    change update _ _ _ _ = _
    rw [update_apply]
    split
    next same => exact unmade (same ▸ listed.unmade other new)
    · exact listed.unmade other new

theorem Listed.onAbilityConnectDone (connection : Nat)
    (bundleName : String) : (mgr.onAbilityConnectDone connection bundleName).Listed := by
  unfold ConnectionManager.onAbilityConnectDone
  dsimp only
  split
  · exact listed
  next awaited =>
    have made : mgr.connection connection ≠ {} := by
      intro unmade
      rw [unmade] at awaited
      exact awaited rfl
    split
    · exact listed.setConnection rfl fun unmade => absurd unmade made
    · have changed := @Listed.setConnection mgr listed connection
        { mgr.connection connection with connectionState := .connected, isAwaited := false } rfl
        fun unmade => absurd unmade made
      exact changed.of_same rfl rfl rfl rfl rfl changed.unmade

theorem Listed.onAbilityDisconnectDone (connection : Nat)
    (resultCode : Int) : (mgr.onAbilityDisconnectDone connection resultCode).Listed := by
  have changed := @Listed.setConnection mgr listed connection
    { mgr.connection connection with connectionState := .disconnected } rfl fun unmade => by
      rw [unmade]
  unfold ConnectionManager.onAbilityDisconnectDone
  dsimp only
  split
  · exact changed
  · exact changed.of_same rfl rfl rfl rfl rfl changed.unmade

theorem Listed.removeConnection (connection : Nat) :
    (mgr.removeConnection connection).Listed := by
  unfold ConnectionManager.removeConnection
  split
  next free =>
    rw [Bool.and_eq_true, decide_eq_true_eq] at free
    have erased := listed.eraseConnection free.1 connection
    exact erased.of_same rfl rfl rfl rfl rfl erased.unmade
  · exact listed

theorem Listed.disconnectNonexistentService (connection : Nat) :
    (mgr.disconnectNonexistentService connection).Listed := by
  unfold ConnectionManager.disconnectNonexistentService
  split
  · split
    · exact listed
    · split <;> exact listed.of_same rfl rfl rfl rfl rfl listed.unmade
  · exact listed

theorem Listed.callConnectDone (connection : Nat) :
    (mgr.callConnectDone connection).Listed := by
  unfold ConnectionManager.callConnectDone
  split
  · split
    · exact listed.of_same rfl rfl rfl rfl rfl listed.unmade
    · exact listed
  · exact listed

end

end ConnectionManager

end AbilityRuntime.ClientConnection
