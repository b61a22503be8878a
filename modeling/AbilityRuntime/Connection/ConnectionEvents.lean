import AbilityRuntime.Connection.ConnectionReports

set_option autoImplicit false

namespace AbilityRuntime.ConnectionState

open Library KeyedMap Function Status AList ConnectedExtension Option ConnectionStateItem ConnectionStateManager

inductive Call where
  | addConnection (record : ConnectionRecord)
  | removeConnection (record : ConnectionRecord) (isCallerDied : Bool)
  | suspendConnection (record : ConnectionRecord)
  | resumeConnection (record : ConnectionRecord)

def ConnectionStateManager.apply (mgr : ConnectionStateManager) :
    Call -> ConnectionStateManager × List Report
  | .addConnection record => mgr.addConnection record
  | .removeConnection record isCallerDied => mgr.removeConnection record isCallerDied
  | .suspendConnection record => mgr.suspendConnection record
  | .resumeConnection record => mgr.resumeConnection record

/-! What the calls say, in their own terms: the connections of each caller to each target that were
added and not removed since, and whether each is suspended. -/

abbrev Connections := Int -> Nat -> ConnectedExtension

namespace Connections

def change (connections : Connections) (record : ConnectionRecord)
    (changed : ConnectedExtension -> Nat -> ConnectedExtension) : Connections :=
  match record.targetToken, record.connection with
  | some token, some connection =>
    update connections record.callerPid
      (update (connections record.callerPid) token
        (changed (connections record.callerPid token) connection))
  | _, _ => connections

section

variable (extension : ConnectedExtension)

def add (connection : Nat) : ConnectedExtension :=
  extension.insert connection false

def remove (connection : Nat) : ConnectedExtension :=
  extension.erase connection

def suspend (connection : Nat) : ConnectedExtension :=
  if extension.lookup connection = some false then extension.insert connection true else extension

def resume (connection : Nat) : ConnectedExtension :=
  if connection ∈ extension then extension.insert connection false else extension

end

def after (connections : Connections) : Call -> Connections
  | .addConnection record => connections.change record add
  | .removeConnection record true => update connections record.callerPid fun _ => ∅
  | .removeConnection record false => connections.change record remove
  | .suspendConnection record => connections.change record suspend
  | .resumeConnection record => connections.change record resume

end Connections

def Status.of (extension : ConnectedExtension) : Status :=
  if extension.isEmpty then .disconnected
  else if extension.isSuspended then .suspended
  else .connected

structure Traced where
  mgr : ConnectionStateManager := {}
  reports : List Report := []
  connections : Connections := fun _ _ => ∅

def ConnectionStateManager.entry (mgr : ConnectionStateManager) (callerPid : Int)
    (token : Nat) : Option ConnectedExtension :=
  (mgr.connectionStates.lookup callerPid).bind fun item => item.connectionMap.lookup token

namespace Traced

def apply (traced : Traced) (call : Call) : Traced where
  mgr := (traced.mgr.apply call).1
  reports := traced.reports ++ (traced.mgr.apply call).2
  connections := traced.connections.after call

def machine : Machine Traced Call := ⟨{}, apply⟩

/-- The entry is there while a connection is, and the events leave the observer with their state. -/
def Faithful (traced : Traced) : Prop :=
  ∀ callerPid token,
    ((traced.mgr.entry callerPid token).isSome ↔
      (traced.connections callerPid token).isEmpty = false) ∧
    told (eventsOf callerPid (.extension token) traced.reports) =
      some (of (traced.connections callerPid token))

def LeavesSuspended (connections : Connections) : Call -> Prop
  | .removeConnection record false =>
    ∃ token ∈ record.targetToken, ∃ connection ∈ record.connection,
      (connections record.callerPid token).lookup connection = some false ∧
      of ((connections record.callerPid token).erase connection) = .suspended
  | _ => False

end Traced

namespace ConnectedExtension

variable {extension : ConnectedExtension} {connection : Nat} {suspended : Bool}

theorem isEmpty_of_lookup (found : extension.lookup connection = some suspended) :
    extension.isEmpty = false := by
  by_contra filled
  have := keys_isEmpty.mp (Bool.not_eq_false _ ▸ filled) connection
  rw [found] at this
  cases this

@[simp] theorem isEmpty_insert : isEmpty (insert connection suspended extension) = false :=
  isEmpty_of_lookup (lookup_insert extension)

@[simp] theorem isSuspended_insert :
    isSuspended (insert connection suspended extension) =
      (suspended && isSuspended (erase connection extension)) := by
  simp only [isSuspended, values_insert, List.all_cons, id]

theorem isSuspended_of_lookup (found : extension.lookup connection = some suspended) :
    extension.isSuspended = (suspended && isSuspended (erase connection extension)) := by
  rw [isSuspended, (values_erase_perm found).all_eq, List.all_cons, isSuspended]
  rfl

theorem erase_of_lookup (missing : extension.lookup connection = none) :
    extension.erase connection = extension :=
  ext (List.kerase_of_notMem_keys (lookup_eq_none.mp missing))

end ConnectedExtension

namespace Connections

variable (extension : ConnectedExtension) (connection : Nat)

theorem suspend_isEmpty : (suspend extension connection).isEmpty = extension.isEmpty := by
  unfold suspend
  split
  next found => rw [isEmpty_insert, isEmpty_of_lookup found]
  · rfl

theorem resume_isEmpty : (resume extension connection).isEmpty = extension.isEmpty := by
  unfold resume
  split
  next present =>
    obtain ⟨suspended, found⟩ := isSome_iff_exists.mp (lookup_isSome.mpr present)
    rw [isEmpty_insert, isEmpty_of_lookup found]
  · rfl

end Connections

theorem unlessEmpty_of_filled {extension : ConnectedExtension}
    (filled : extension.isEmpty = false) :
    unlessEmpty extension = some extension :=
  if_neg (Bool.eq_false_iff.mp filled)

theorem unlessEmpty_of_empty {extension : ConnectedExtension} (empty : extension.isEmpty = true) :
    unlessEmpty extension = none :=
  if_pos empty

@[simp] theorem Status.of_empty : of ∅ = .disconnected := rfl

theorem ConnectedExtension.removeConnection_entry {extension : ConnectedExtension}
    {connection : Nat} (filled : extension.isEmpty = false)
    (sound : extension.lookup connection = some false ->
      of (extension.erase connection) ≠ .suspended) :
    (if (extension.removeConnection connection).2.isSome then none
      else some (Connections.remove extension connection)) =
      unlessEmpty (Connections.remove extension connection) := by
  unfold Connections.remove removeConnection
  cases found : extension.lookup connection with
  | none =>
    rw [erase_of_lookup found, unlessEmpty_of_filled filled]
    rfl
  | some suspended =>
    dsimp only
    split
    next empty =>
      rw [unlessEmpty_of_empty empty]
      rfl
    next more =>
      rw [Bool.not_eq_true] at more
      rw [unlessEmpty_of_filled more]
      cases suspended with
      | true => rfl
      | false =>
        have active : ¬isSuspended (erase connection extension) = true := by
          intro all
          refine sound found ?_
          rw [of, more, all]
          rfl
        rw [if_neg Bool.false_ne_true, if_neg active]
        rfl

theorem ConnectedExtension.removeConnection_suspended {extension : ConnectedExtension}
    {connection : Nat} (active : extension.lookup connection = some false)
    (suspended : of (extension.erase connection) = .suspended) :
    (extension.removeConnection connection).2 = some .suspended := by
  unfold of at suspended
  unfold removeConnection
  rw [active]
  dsimp only
  split at suspended
  · cases suspended
  next more =>
    rw [if_neg more, if_neg Bool.false_ne_true]
    split at suspended
    next all => rw [if_pos all]
    · cases suspended

/-- An operation leaves the connections it should, and its event takes the observer along. -/
def Tells (old new : ConnectedExtension) (result : ConnectedExtension × Option ConnectionEvent) :
    Prop :=
  result.1 = new ∧ result.2.toList.foldlM next (of old) = some (of new)

namespace Tells

variable (extension : ConnectedExtension) (connection : Nat)

theorem addConnection :
    Tells extension (Connections.add extension connection)
      (extension.addConnection connection) := by
  unfold ConnectedExtension.addConnection Connections.add
  split
  next empty =>
    refine ⟨rfl, ?_⟩
    simp [of, next, empty]
  next filled =>
    refine ⟨rfl, ?_⟩
    cases suspended : extension.isSuspended <;> simp [of, next, filled, suspended]

theorem removeConnection :
    Tells extension (Connections.remove extension connection)
      (extension.removeConnection connection) := by
  unfold ConnectedExtension.removeConnection Connections.remove
  cases found : extension.lookup connection with
  | none =>
    rw [erase_of_lookup found]
    exact ⟨rfl, rfl⟩
  | some suspended =>
    have filled := isEmpty_of_lookup found
    have before := isSuspended_of_lookup found
    dsimp only
    split
    next empty =>
      refine ⟨rfl, ?_⟩
      cases all : extension.isSuspended <;> simp [of, next, filled, empty, all]
    next rest =>
      cases suspended with
      | true => exact ⟨rfl, by simp_all [of]⟩
      | false =>
        rw [if_neg Bool.false_ne_true]
        split
        next all => exact ⟨rfl, by simp_all [Status.of, Status.next]⟩
        next all => exact ⟨rfl, by simp_all [Status.of]⟩

theorem suspendConnection :
    Tells extension (Connections.suspend extension connection)
      (extension.suspendConnection connection) := by
  unfold ConnectedExtension.suspendConnection Connections.suspend
  cases found : extension.lookup connection with
  | none => exact ⟨rfl, rfl⟩
  | some suspended =>
    have filled := isEmpty_of_lookup found
    have before := isSuspended_of_lookup found
    cases suspended with
    | true => exact ⟨rfl, rfl⟩
    | false =>
      refine ⟨rfl, ?_⟩
      cases rest : isSuspended (erase connection extension) <;> simp_all [of, next]

theorem resumeConnection :
    Tells extension (Connections.resume extension connection)
      (extension.resumeConnection connection) := by
  unfold ConnectedExtension.resumeConnection Connections.resume
  cases found : extension.lookup connection with
  | none =>
    rw [if_neg (lookup_eq_none.mp found)]
    exact ⟨rfl, rfl⟩
  | some suspended =>
    have filled := isEmpty_of_lookup found
    have present : connection ∈ extension := by
      rw [<- lookup_isSome, found]
      rfl
    rw [if_pos present]
    refine ⟨rfl, ?_⟩
    cases all : extension.isSuspended <;> simp [of, next, filled, all]

end Tells

namespace ConnectionStateManager

variable {mgr : ConnectionStateManager}

theorem entry_putItem (mgr : ConnectionStateManager) (callerPid other : Int) (removed : Bool)
    (item : ConnectionStateItem) (token : Nat) :
    (mgr.putItem callerPid removed item).entry other token =
      if other = callerPid then item.connectionMap.lookup token
      else mgr.entry other token := by
  refine putItem_part (fun item => item.connectionMap.lookup token) ?_ mgr callerPid other
    removed item
  intro item empty
  rw [ConnectionStateItem.isEmpty, Bool.and_eq_true] at empty
  exact keys_isEmpty.mp empty.1 token

/-- One caller's entry for one target becomes `entry`, with `event` reported for the two; nothing
else changes. -/
structure Moves (before after : ConnectionStateManager) (reports : List Report) (callerPid : Int)
    (token : Nat) (entry : Option ConnectedExtension) (event : Option ConnectionEvent) : Prop where
  owned : after.Owned
  entries : ∀ pid other, after.entry pid other =
    if pid = callerPid ∧ other = token then entry else before.entry pid other
  events : ∀ pid other, eventsOf pid (.extension other) reports =
    if pid = callerPid ∧ other = token then event.toList else []

theorem Moves.putItem (owned : mgr.Owned) (removed : Bool) {item : ConnectionStateItem}
    {callerPid : Int} (own : item.callerPid = callerPid)
    (before : ∀ token, mgr.entry callerPid token = item.connectionMap.lookup token)
    {connectionMap : KeyedMap Nat ConnectedExtension} {token : Nat}
    {entry : Option ConnectedExtension}
    (changed : ∀ other, connectionMap.lookup other =
      if other = token then entry else item.connectionMap.lookup other)
    (extension : ConnectedExtension) (event : Option ConnectionEvent) :
    Moves mgr
      (mgr.putItem callerPid removed { item with connectionMap := connectionMap })
      (item.reportExtension token extension event).toList callerPid token entry event := by
  refine ⟨owned.putItem own, fun pid other => ?_, fun pid other => ?_⟩
  · rw [entry_putItem]
    by_cases samePid : pid = callerPid
    · rw [if_pos samePid, changed, samePid, before]
      simp
    · simp [samePid]
  · rw [reportExtension, eventsOf_toList, own]
    simp only [Target.extension.injEq]

theorem itemOf_entry (mgr : ConnectionStateManager) (callerPid : Int) (token : Nat) :
    mgr.entry callerPid token =
      ((mgr.connectionStates.lookup callerPid).getD
        { callerPid := callerPid }).connectionMap.lookup token := by
  unfold entry
  cases mgr.connectionStates.lookup callerPid with
  | none => simp
  | some item => rfl

theorem addConnection_moves (owned : mgr.Owned) {record : ConnectionRecord} {token : Nat}
    {connection : Nat} (target : record.targetToken = some token)
    (callback : record.connection = some connection) :
    let result := ConnectedExtension.addConnection
      ((mgr.entry record.callerPid token).getD ∅) connection
    Moves mgr (mgr.addConnection record).1 (mgr.addConnection record).2
      record.callerPid token (some result.1) result.2 := by
  have own := itemOf_own owned record.callerPid
  have entries := mgr.itemOf_entry record.callerPid
  unfold addConnection ConnectionStateItem.addConnection
  rw [target, callback, entries token]
  refine Moves.putItem owned false own entries (fun other => ?_) _ _
  exact lookup_insert_eq _ token other _

theorem changeConnection_moves
    (change : ConnectedExtension -> Nat -> ConnectedExtension × Option ConnectionEvent)
    (owned : mgr.Owned) {record : ConnectionRecord} {token connection : Nat}
    (target : record.targetToken = some token) (callback : record.connection = some connection)
    {item : ConnectionStateItem}
    (found : mgr.connectionStates.lookup record.callerPid = some item)
    {extension : ConnectedExtension}
    (connected : item.connectionMap.lookup token = some extension) :
    let result := item.changeConnection change record
    Moves mgr (mgr.putItem record.callerPid false result.1) result.2.toList
      record.callerPid token (some (change extension connection).1)
      (change extension connection).2 := by
  have own := owned record.callerPid item found
  have entries : ∀ token, mgr.entry record.callerPid token =
      item.connectionMap.lookup token := by
    intro token
    rw [entry, found]
    rfl
  unfold ConnectionStateItem.changeConnection
  rw [target, callback]
  dsimp only
  rw [connected]
  exact Moves.putItem owned false own entries (fun other => lookup_insert_eq _ token other _) _ _

theorem removeConnection_moves (owned : mgr.Owned) {record : ConnectionRecord}
    {token connection : Nat} (target : record.targetToken = some token)
    (callback : record.connection = some connection) {item : ConnectionStateItem}
    (found : mgr.connectionStates.lookup record.callerPid = some item)
    {extension : ConnectedExtension}
    (connected : item.connectionMap.lookup token = some extension) :
    let result := ConnectedExtension.removeConnection extension connection
    Moves mgr (mgr.removeConnection record false).1 (mgr.removeConnection record false).2
      record.callerPid token (if result.2.isSome then none else some result.1) result.2 := by
  have own := owned record.callerPid item found
  have entries : ∀ token, mgr.entry record.callerPid token =
      item.connectionMap.lookup token := by
    intro token
    rw [entry, found]
    rfl
  unfold removeConnection ConnectionStateItem.removeConnection
  rw [found, target, callback]
  dsimp only
  rw [if_neg Bool.false_ne_true, connected]
  refine Moves.putItem owned _ own entries (fun other => ?_) _ _
  split
  · exact lookup_erase_eq _ token other
  · exact lookup_insert_eq _ token other _

theorem handleCallerDied_entry (mgr : ConnectionStateManager) (callerPid pid : Int)
    (token : Nat) :
    (mgr.handleCallerDied callerPid).1.entry pid token =
      if pid = callerPid then none else mgr.entry pid token :=
  handleCallerDied_part _ mgr callerPid pid

theorem handleCallerDied_events (owned : mgr.Owned) (callerPid pid : Int) (token : Nat) :
    eventsOf pid (.extension token) (mgr.handleCallerDied callerPid).2 =
      if pid = callerPid ∧ (mgr.entry callerPid token).isSome then [.disconnected] else [] := by
  rw [handleCallerDied_eventsOf owned]
  unfold entry
  cases mgr.connectionStates.lookup callerPid with
  | none => simp
  | some item => simp [targets, lookup_isSome, mem_keys]

end ConnectionStateManager

theorem ConnectionRecord.null_or_connection (record : ConnectionRecord) :
    (record.targetToken = none ∨ record.connection = none) ∨
      ∃ token connection, record.targetToken = some token ∧ record.connection = some connection := by
  cases record.targetToken <;> cases record.connection <;> simp

section

variable {record : ConnectionRecord} (null : record.targetToken = none ∨ record.connection = none)
include null

theorem Connections.change_null {connections : Connections}
    {changed : ConnectedExtension -> Nat -> ConnectedExtension} :
    connections.change record changed = connections := by
  rcases null with null | null <;> simp [Connections.change, null]

variable (item : ConnectionStateItem)

theorem ConnectionStateItem.addConnection_null : item.addConnection record = (item, none) := by
  rcases null with null | null <;> simp [addConnection, null]

theorem ConnectionStateItem.removeConnection_null :
    item.removeConnection record = (item, none) := by
  rcases null with null | null <;> simp [removeConnection, null]

theorem ConnectionStateItem.changeConnection_null
    (change : ConnectedExtension -> Nat -> ConnectedExtension × Option ConnectionEvent) :
    item.changeConnection change record = (item, none) := by
  rcases null with null | null <;> simp [changeConnection, null]

end

namespace Traced

open ConnectionStateManager (Moves)

variable {traced : Traced} {record : ConnectionRecord} {token connection : Nat}

structure Tracked (traced : Traced) : Prop where
  owned : traced.mgr.Owned
  entries : ∀ callerPid token, traced.mgr.entry callerPid token =
    KeyedMap.unlessEmpty (traced.connections callerPid token)
  told : ∀ callerPid token, told (eventsOf callerPid (.extension token) traced.reports) =
    some (of (traced.connections callerPid token))

namespace Tracked

theorem faithful (tracked : Tracked traced) : traced.Faithful := by
  intro callerPid token
  refine ⟨?_, tracked.told callerPid token⟩
  rw [tracked.entries callerPid token]
  unfold unlessEmpty
  split
  next empty => simp [ConnectedExtension.isEmpty, empty]
  next filled => simpa [ConnectedExtension.isEmpty] using filled

variable {changed : ConnectedExtension -> Nat -> ConnectedExtension}

section

variable (tracked : Tracked traced)
include tracked

theorem moves (target : record.targetToken = some token)
    (callback : record.connection = some connection) {mgr : ConnectionStateManager}
    {reports : List Report} {event : Option ConnectionEvent}
    (move : Moves traced.mgr mgr reports record.callerPid token
      (unlessEmpty (changed (traced.connections record.callerPid token) connection)) event)
    (follows : event.toList.foldlM next (of (traced.connections record.callerPid token)) =
      some (of (changed (traced.connections record.callerPid token) connection))) :
    Tracked ⟨mgr, traced.reports ++ reports, traced.connections.change record changed⟩ := by
  have connections : ∀ pid other, traced.connections.change record changed pid other =
      if pid = record.callerPid ∧ other = token then
        changed (traced.connections record.callerPid token) connection
      else traced.connections pid other := by
    intro pid other
    unfold Connections.change
    rw [target, callback]
    by_cases samePid : pid = record.callerPid
    · by_cases same : other = token <;> simp [samePid, same]
    · simp [samePid]
  refine ⟨move.owned, fun pid other => ?_, fun pid other => ?_⟩
  · dsimp only
    rw [move.entries, connections]
    split
    · rfl
    · exact tracked.entries pid other
  · dsimp only
    rw [told_append, tracked.told, move.events, connections, bind_some]
    split
    next same => rw [same.1, same.2, follows]
    · rfl

theorem putItem (callerPid : Int) :
    Tracked { traced with
      mgr := traced.mgr.putItem callerPid false
        ((traced.mgr.connectionStates.lookup callerPid).getD { callerPid := callerPid }) } := by
  refine ⟨tracked.owned.putItem (itemOf_own tracked.owned callerPid),
    fun pid other => ?_, tracked.told⟩
  rw [entry_putItem, <- itemOf_entry, <- tracked.entries pid other]
  split
  next same => rw [same]
  · rfl

theorem addConnection (record : ConnectionRecord) :
    Tracked (traced.apply (.addConnection record)) := by
  rcases record.null_or_connection with null | ⟨token, connection, target, callback⟩
  case inl =>
    have same := tracked.putItem record.callerPid
    have result : traced.apply (.addConnection record) = { traced with
        mgr := traced.mgr.putItem record.callerPid false
          ((traced.mgr.connectionStates.lookup record.callerPid).getD
            { callerPid := record.callerPid }) } := by
      simp only [apply, ConnectionStateManager.apply, ConnectionStateManager.addConnection,
        Connections.after, Connections.change_null null, ConnectionStateItem.addConnection_null null,
        Option.toList_none, List.append_nil]
      rfl
    rw [result]
    exact same
  case inr =>
    have move := ConnectionStateManager.addConnection_moves tracked.owned target callback
    rw [tracked.entries, unlessEmpty_getD] at move
    obtain ⟨result, follows⟩ :=
      Tells.addConnection (traced.connections record.callerPid token) connection
    dsimp only at move
    rw [result] at move
    have filled : unlessEmpty
        (Connections.add (traced.connections record.callerPid token) connection) =
          some (Connections.add (traced.connections record.callerPid token) connection) :=
      unlessEmpty_of_filled ConnectedExtension.isEmpty_insert
    exact tracked.moves target callback move follows

theorem of_entry_none {callerPid : Int} (missing : traced.mgr.entry callerPid token = none) :
    traced.connections callerPid token = ∅ := by
  rw [tracked.entries] at missing
  have whole := unlessEmpty_getD (traced.connections callerPid token)
  rw [missing] at whole
  exact whole.symm

theorem of_entry_some {callerPid : Int} {extension : ConnectedExtension}
    (found : traced.mgr.entry callerPid token = some extension) :
    extension = traced.connections callerPid token ∧ extension.isEmpty = false := by
  rw [tracked.entries] at found
  have whole := unlessEmpty_getD (traced.connections callerPid token)
  rw [found] at whole
  exact ⟨whole, unlessEmpty_filled found⟩

theorem found_or_none (record : ConnectionRecord)
    (nothing : ∀ connection, changed ∅ connection = ∅) :
    (traced.mgr.connectionStates.lookup record.callerPid = none ∧
      traced.connections.change record changed = traced.connections) ∨
    ∃ item, traced.mgr.connectionStates.lookup record.callerPid = some item ∧
      ((record.targetToken = none ∨ record.connection = none) ∨
      ∃ token connection, record.targetToken = some token ∧ record.connection = some connection ∧
        ((item.connectionMap.lookup token = none ∧
          traced.connections.change record changed = traced.connections) ∨
        (item.connectionMap.lookup token = some (traced.connections record.callerPid token) ∧
          (traced.connections record.callerPid token).isEmpty = false))) := by
  have noEntry : ∀ token connection, record.targetToken = some token ->
      record.connection = some connection ->
      traced.mgr.entry record.callerPid token = none ->
      traced.connections.change record changed = traced.connections := by
    intro token connection target callback missing
    unfold Connections.change
    rw [target, callback]
    dsimp only
    rw [tracked.of_entry_none missing, nothing, <- tracked.of_entry_none missing,
      Function.update_eq_self, Function.update_eq_self]
  cases found : traced.mgr.connectionStates.lookup record.callerPid with
  | none =>
    refine .inl ⟨rfl, ?_⟩
    rcases record.null_or_connection with null | ⟨token, connection, target, callback⟩
    · exact Connections.change_null null
    · refine noEntry token connection target callback ?_
      rw [ConnectionStateManager.entry, found]
      rfl
  | some item =>
    refine .inr ⟨item, rfl, ?_⟩
    rcases record.null_or_connection with null | ⟨token, connection, target, callback⟩
    · exact .inl null
    · refine .inr ⟨token, connection, target, callback, ?_⟩
      have entry : traced.mgr.entry record.callerPid token =
          item.connectionMap.lookup token := by
        rw [entry, found]
        rfl
      cases connected : item.connectionMap.lookup token with
      | none => exact .inl ⟨rfl, noEntry token connection target callback (entry.trans connected)⟩
      | some extension =>
        obtain ⟨rfl, filled⟩ := tracked.of_entry_some (entry.trans connected)
        exact .inr ⟨rfl, filled⟩

theorem sameItem {item : ConnectionStateItem}
    (found : traced.mgr.connectionStates.lookup record.callerPid = some item)
    {connections : Connections} (same : connections = traced.connections) :
    Tracked ⟨traced.mgr.putItem record.callerPid false item, traced.reports ++ [],
      connections⟩ := by
  have put := tracked.putItem record.callerPid
  rw [found, getD_some] at put
  rw [same, List.append_nil]
  exact put

theorem changeConnection (record : ConnectionRecord)
    {change : ConnectedExtension -> Nat -> ConnectedExtension × Option ConnectionEvent}
    (tells : ∀ extension connection,
      Tells extension (changed extension connection) (change extension connection))
    (nothing : ∀ connection, changed ∅ connection = ∅)
    (keeps : ∀ extension connection, (changed extension connection).isEmpty = extension.isEmpty) :
    let result := changeConnection (changeConnection change) traced.mgr record
    Tracked ⟨result.1, traced.reports ++ result.2, traced.connections.change record changed⟩ := by
  unfold ConnectionStateManager.changeConnection
  rcases tracked.found_or_none record nothing with ⟨missing, same⟩ | ⟨item, found, rest⟩
  · rw [missing, same]
    simpa using tracked
  · rw [found]
    rcases rest with null | ⟨token, connection, target, callback, ⟨missing, same⟩ | ⟨entry, filled⟩⟩
    · dsimp only
      rw [item.changeConnection_null null]
      exact tracked.sameItem found (Connections.change_null null)
    · have result : item.changeConnection change record = (item, none) := by
        simp [ConnectionStateItem.changeConnection, target, callback, missing]
      dsimp only
      rw [result]
      exact tracked.sameItem found same
    · have move := changeConnection_moves change tracked.owned target callback found entry
      obtain ⟨result, follows⟩ := tells (traced.connections record.callerPid token) connection
      have kept := unlessEmpty_of_filled ((keeps _ connection).trans filled)
      rw [result, <- kept] at move
      exact tracked.moves target callback move follows

theorem removeConnection (record : ConnectionRecord)
    (sound : ¬LeavesSuspended traced.connections (.removeConnection record false)) :
    Tracked (traced.apply (.removeConnection record false)) := by
  have unfolded : traced.apply (.removeConnection record false) =
      ⟨(traced.mgr.removeConnection record false).1,
        traced.reports ++ (traced.mgr.removeConnection record false).2,
        traced.connections.change record Connections.remove⟩ := rfl
  rw [unfolded]
  have nothing : ∀ connection, Connections.remove ∅ connection = ∅ := fun _ => rfl
  rcases tracked.found_or_none record nothing with ⟨missing, same⟩ | ⟨item, found, rest⟩
  · rw [same]
    simpa [ConnectionStateManager.removeConnection, missing] using tracked
  · rcases rest with null | ⟨token, connection, target, callback, ⟨missing, same⟩ | ⟨entry, filled⟩⟩
    · have result : traced.mgr.removeConnection record false =
          (traced.mgr.putItem record.callerPid false item, []) := by
        simp [ConnectionStateManager.removeConnection, found, item.removeConnection_null null]
      rw [result]
      exact tracked.sameItem found (Connections.change_null null)
    · have result : traced.mgr.removeConnection record false =
          (traced.mgr.putItem record.callerPid false item, []) := by
        simp [ConnectionStateManager.removeConnection, found, ConnectionStateItem.removeConnection,
          target, callback, missing]
      rw [result]
      exact tracked.sameItem found same
    · have move := removeConnection_moves tracked.owned target callback found entry
      obtain ⟨result, follows⟩ :=
        Tells.removeConnection (traced.connections record.callerPid token) connection
      dsimp only at move
      rw [result, ConnectedExtension.removeConnection_entry filled] at move
      · exact tracked.moves target callback move follows
      · intro active suspended
        exact sound ⟨token, target, connection, callback, active, suspended⟩

theorem callerDied (record : ConnectionRecord) :
    Tracked (traced.apply (.removeConnection record true)) := by
  refine ⟨tracked.owned.handleCallerDied record.callerPid, fun pid token => ?_, fun pid token => ?_⟩
  · have after := traced.mgr.handleCallerDied_entry record.callerPid pid token
    rw [tracked.entries pid token] at after
    refine after.trans ?_
    simp only [apply, Connections.after, update_apply]
    split <;> rfl
  · have events := handleCallerDied_events tracked.owned record.callerPid pid token
    have result : (traced.apply (.removeConnection record true)).reports =
        traced.reports ++ (traced.mgr.handleCallerDied record.callerPid).2 := rfl
    rw [result, told_append, tracked.told, bind_some, events]
    simp only [apply, Connections.after, update_apply]
    by_cases same : pid = record.callerPid
    · rw [if_pos same, <- same, tracked.entries]
      cases empty : (traced.connections pid token).isEmpty with
      | true =>
        rw [unlessEmpty_of_empty empty, of, if_pos empty]
        simp
      | false =>
        rw [unlessEmpty_of_filled empty, of_empty, of, empty]
        cases (traced.connections pid token).isSuspended <;> simp [next]
    · simp [same]

theorem apply (call : Call)
    (sound : ¬LeavesSuspended traced.connections call) : Tracked (traced.apply call) := by
  cases call with
  | addConnection record => exact tracked.addConnection record
  | removeConnection record isCallerDied =>
    cases isCallerDied with
    | true => exact tracked.callerDied record
    | false => exact tracked.removeConnection record sound
  | suspendConnection record =>
    exact tracked.changeConnection record Tells.suspendConnection (fun _ => rfl)
      Connections.suspend_isEmpty
  | resumeConnection record =>
    exact tracked.changeConnection record Tells.resumeConnection (fun _ => rfl)
      Connections.resume_isEmpty

end

theorem initial : Tracked {} where
  owned := by simp [Owned]
  entries := by
    simp [entry, unlessEmpty]
  told := fun _ _ => rfl

end Tracked

theorem not_faithful_of_leavesSuspended (tracked : Tracked traced) {call : Call}
    (leaves : LeavesSuspended traced.connections call) : ¬(traced.apply call).Faithful := by
  cases call with
  | removeConnection record isCallerDied =>
    cases isCallerDied with
    | true => exact leaves.elim
    | false =>
      obtain ⟨token, target, connection, callback, active, suspended⟩ := leaves
      intro faithful
      obtain ⟨item, found, connected⟩ : ∃ item,
          traced.mgr.connectionStates.lookup record.callerPid = some item ∧
          item.connectionMap.lookup token = some (traced.connections record.callerPid token) := by
        have entry := tracked.entries record.callerPid token
        rw [unlessEmpty_of_filled (isEmpty_of_lookup active)] at entry
        exact bind_eq_some_iff.mp entry
      have move := removeConnection_moves tracked.owned target callback found connected
      have after := move.entries record.callerPid token
      rw [removeConnection_suspended active suspended, if_pos ⟨rfl, rfl⟩] at after
      have remaining : (traced.apply (.removeConnection record false)).connections
          record.callerPid token = (traced.connections record.callerPid token).erase connection := by
        simp [apply, Connections.after, Connections.change, mem_def.mp target,
          mem_def.mp callback, Connections.remove]
      have kept := (faithful record.callerPid token).1
      rw [remaining] at kept
      have filled : isEmpty
          ((traced.connections record.callerPid token).erase connection) = false := by
        by_contra empty
        rw [of, if_pos (Bool.not_eq_false _ ▸ empty)] at suspended
        cases suspended
      have present := kept.mpr filled
      rw [show (traced.apply (.removeConnection record false)).mgr.entry record.callerPid token =
        none from after] at present
      cases present
  | _ => exact leaves.elim

/-- Entries and events are right exactly when no last active connection leaves suspended ones. -/
theorem connection_events_iff (calls : List Call) :
    machine.Throughout calls Faithful ↔
      machine.EveryStep calls fun traced call => ¬LeavesSuspended traced.connections call := by
  have promised : machine.EveryStep calls fun _ _ => True := fun _ _ _ _ => trivial
  refine Machine.throughout_iff_everyStep Tracked.initial
    (fun traced call tracked _ sound => tracked.apply call sound)
    (fun traced tracked => tracked.faithful) ?_ promised
  intro traced call tracked _ faithful leaves
  exact not_faithful_of_leavesSuspended tracked leaves faithful

def lostDisconnection : List Call :=
  let first : ConnectionRecord := ⟨1, some 5, some 10⟩
  let second : ConnectionRecord := ⟨1, some 5, some 11⟩
  [.addConnection first, .addConnection second, .suspendConnection first,
    .removeConnection second false, .removeConnection first false]

theorem disconnected_is_never_reported : ¬machine.Throughout lostDisconnection Faithful := by
  intro throughout
  have last := (throughout lostDisconnection [] (by simp) 1 5).2
  exact absurd last (by decide)

end Traced

end AbilityRuntime.ConnectionState
