import AbilityRuntime.Connection.AbilityConnectManager

set_option autoImplicit false

namespace AbilityRuntime.Connection.AbilityConnectManager

open Library KeyedMap Function List AList

def mapped (mgr : AbilityConnectManager) : List ConnectionRecord :=
  (KeyedMap.values mgr.connectMap).flatten

def connectionsOf (records : List ConnectionRecord) (pid : Int) : Nat :=
  records.countP (·.directCallerPid = pid)

def absentWhenZero (count : Nat) : Option Int := if count = 0 then none else some count

/-- The four books agree, but for the records that have left their service's list and are still to
leave the map. -/
structure Booked (pending : List ConnectionRecord) (mgr : AbilityConnectManager) : Prop where
  underItsCallback : ∀ callback list, mgr.connectMap.lookup callback = some list ->
    list ≠ [] ∧ ∀ record ∈ list, record.connCallback = callback
  inItsTarget : ∀ service, ∀ record ∈ mgr.connRecordList service, record.targetService = service
  listed : ∀ record, record ∈ mgr.connRecordList record.targetService ↔
    record ∈ mgr.mapped ∧ record ∉ pending
  distinct : mgr.mapped.Nodup
  recipients : ∀ callback, callback ∈ mgr.recipientMap ↔ callback ∈ mgr.connectMap
  counted : ∀ pid, mgr.callerPidConnectionCountMap.lookup pid =
    absentWhenZero (connectionsOf mgr.mapped pid)
  known : ∀ record ∈ mgr.mapped, record.recordId < mgr.connectRecordId
  underway : ∀ record ∈ mgr.connRecordList record.targetService,
    mgr.connectState record ≠ .disconnected
  read : ∀ task ∈ mgr.readLists, ∀ record ∈ task.2, record.targetService = task.1

variable {setting : Setting} {mgr : AbilityConnectManager}
  {pending : List ConnectionRecord} {record : ConnectionRecord}

theorem mem_mapped :
    record ∈ mgr.mapped ↔
      ∃ callback list, mgr.connectMap.lookup callback = some list ∧ record ∈ list := by
  rw [mapped, mem_flatten]
  constructor
  · rintro ⟨list, held, mem⟩
    obtain ⟨callback, found⟩ := mem_values.mp held
    exact ⟨callback, list, found, mem⟩
  · rintro ⟨callback, list, found, mem⟩
    exact ⟨list, mem_values.mpr ⟨callback, found⟩, mem⟩

theorem mem_getConnectRecordListFromMap {connect : Nat} :
    record ∈ mgr.getConnectRecordListFromMap connect ↔
      ∃ list, mgr.connectMap.lookup connect = some list ∧ record ∈ list := by
  unfold getConnectRecordListFromMap
  cases mgr.connectMap.lookup connect <;> simp

namespace Booked

section

variable (booked : Booked pending mgr)
include booked

theorem mem_mapped_iff :
    record ∈ mgr.mapped ↔ record ∈ mgr.getConnectRecordListFromMap record.connCallback := by
  rw [mem_mapped, mem_getConnectRecordListFromMap]
  constructor
  · rintro ⟨callback, list, found, mem⟩
    rw [(booked.underItsCallback callback list found).2 record mem]
    exact ⟨list, found, mem⟩
  · rintro ⟨list, found, mem⟩
    exact ⟨_, list, found, mem⟩

theorem congr {others : List ConnectionRecord}
    (same : ∀ record, record ∈ others ↔ record ∈ pending) : Booked others mgr :=
  { booked with
    listed := by
      intro record
      rw [booked.listed record, same record] }

theorem ofUnlisted (unlisted : record ∉ mgr.connRecordList record.targetService) :
    Booked (record :: pending) mgr :=
  { booked with
    listed := by
      intro other
      rw [booked.listed other, mem_cons, not_or]
      constructor
      · intro both
        refine ⟨both.1, ?_, both.2⟩
        rintro rfl
        exact unlisted ((booked.listed other).mpr both)
      · exact fun both => ⟨both.1, both.2.2⟩ }

theorem setConnectState (record : ConnectionRecord) (state : ConnectionState)
    (allowed : state = .disconnected -> record ∉ mgr.connRecordList record.targetService) :
    Booked pending (mgr.setConnectState record state) :=
  { booked with
    underway := by
      intro other mem ended
      unfold AbilityConnectManager.setConnectState at mem ended
      simp only [update_apply] at mem ended
      split at ended
      next same =>
        rw [same] at mem
        exact allowed ended mem
      · exact booked.underway other mem ended }

theorem removeConnectRecordFromList (record : ConnectionRecord) :
    Booked (record :: pending) (mgr.removeConnectRecordFromList record.targetService record) := by
  have kept : ∀ service other,
      other ∈ (mgr.removeConnectRecordFromList record.targetService record).connRecordList
        service ↔ other ∈ mgr.connRecordList service ∧ other ≠ record := by
    intro service other
    unfold AbilityConnectManager.removeConnectRecordFromList
    simp only [update_apply]
    split
    next same => simp [same]
    next ne =>
      constructor
      · intro mem
        refine ⟨mem, ?_⟩
        rintro rfl
        exact ne (booked.inItsTarget service other mem).symm
      · exact fun both => both.1
  exact
    { booked with
      inItsTarget := fun service other mem =>
        booked.inItsTarget service other ((kept service other).mp mem).1
      listed := by
        intro other
        rw [kept, booked.listed other, mem_cons, not_or]
        constructor
        · exact fun both => ⟨both.1.1, both.2, both.1.2⟩
        · exact fun both => ⟨⟨both.1, both.2.2⟩, both.2.1⟩
      underway := fun other mem => booked.underway other ((kept _ other).mp mem).1 }

end

end Booked

theorem connectionsOf_perm {more less : List ConnectionRecord} (split : more.Perm (record :: less))
    (pid : Int) :
    connectionsOf more pid =
      connectionsOf less pid + if pid = record.directCallerPid then 1 else 0 := by
  rw [connectionsOf, split.countP_eq, countP_cons, connectionsOf]
  simp only [decide_eq_true_eq, @eq_comm Int pid]

theorem decrementConnectionCountAndCleanup_lookup {before after : List ConnectionRecord}
    (counted : ∀ pid, mgr.callerPidConnectionCountMap.lookup pid =
      absentWhenZero (connectionsOf before pid))
    (split : before.Perm (record :: after)) (pid : Int) :
    (mgr.decrementConnectionCountAndCleanup
      record.directCallerPid).callerPidConnectionCountMap.lookup pid =
      absentWhenZero (connectionsOf after pid) := by
  have one : connectionsOf before record.directCallerPid =
      connectionsOf after record.directCallerPid + 1 := by
    rw [connectionsOf_perm split, if_pos rfl]
  have present : mgr.callerPidConnectionCountMap.lookup record.directCallerPid =
      some ((connectionsOf after record.directCallerPid : Int) + 1) := by
    rw [counted, one, absentWhenZero, if_neg (by omega)]
    simp
  have others : pid ≠ record.directCallerPid ->
      mgr.callerPidConnectionCountMap.lookup pid = absentWhenZero (connectionsOf after pid) := by
    intro ne
    rw [counted, connectionsOf_perm split, if_neg ne, Nat.add_zero]
  unfold decrementConnectionCountAndCleanup
  rw [present]
  dsimp only
  split
  next zero =>
    rw [lookup_erase_eq]
    split
    next same =>
      have none : connectionsOf after pid = 0 := by
        rw [same]
        omega
      rw [none]
      rfl
    next ne => exact others ne
  next more =>
    rw [lookup_insert_eq]
    split
    next same =>
      rw [same, absentWhenZero, if_neg (by omega)]
      simp
    next ne => exact others ne

theorem handleConnectionCountIncrement_lookup {before after : List ConnectionRecord}
    (counted : ∀ pid, mgr.callerPidConnectionCountMap.lookup pid =
      absentWhenZero (connectionsOf before pid))
    (split : after.Perm (record :: before)) (pid : Int) :
    (mgr.handleConnectionCountIncrement
      record.directCallerPid).callerPidConnectionCountMap.lookup pid =
      absentWhenZero (connectionsOf after pid) := by
  unfold handleConnectionCountIncrement
  rw [lookup_insert_eq, connectionsOf_perm split]
  split
  next same =>
    rw [counted, same]
    by_cases zero : connectionsOf before record.directCallerPid = 0 <;>
      simp [absentWhenZero, zero]
  · exact counted pid

theorem decrementConnectionCountAndCleanup_frame (pid : Int) :
    mgr.decrementConnectionCountAndCleanup pid =
      { mgr with
        callerPidConnectionCountMap :=
          (mgr.decrementConnectionCountAndCleanup pid).callerPidConnectionCountMap } := by
  unfold decrementConnectionCountAndCleanup
  cases mgr.callerPidConnectionCountMap.lookup pid with
  | none => rfl
  | some currentCount =>
    dsimp only
    split <;> rfl

theorem removeConnectionRecordFromMap_absent (missing : record ∉ mgr.mapped) :
    mgr.removeConnectionRecordFromMap record = mgr := by
  unfold removeConnectionRecordFromMap
  split
  · rfl
  next callback list found =>
    obtain ⟨lookup, mem⟩ := lookup_of_find found
    exact absurd (mem_mapped.mpr ⟨callback, list, lookup, of_decide_eq_true mem⟩) missing

theorem removeConnectionRecordFromMap_held (held : record ∈ mgr.mapped) :
    ∃ callback list, mgr.connectMap.lookup callback = some list ∧ record ∈ list ∧
      mgr.removeConnectionRecordFromMap record =
        { mgr with
          connectMap :=
            if (list.filter (· != record)).isEmpty then mgr.connectMap.erase callback
            else mgr.connectMap.insert callback (list.filter (· != record))
          recipientMap :=
            if (list.filter (· != record)).isEmpty then mgr.recipientMap.erase callback
            else mgr.recipientMap
          callerPidConnectionCountMap :=
            (mgr.decrementConnectionCountAndCleanup
              record.directCallerPid).callerPidConnectionCountMap } := by
  unfold removeConnectionRecordFromMap
  split
  next missing =>
    obtain ⟨callback, list, found, mem⟩ := mem_mapped.mp held
    have := not_mem_values_of_find (fun list => decide (record ∈ list)) missing
      (mem_values.mpr ⟨callback, found⟩)
    exact absurd mem (of_decide_eq_false this)
  next callback list found =>
    obtain ⟨lookup, mem⟩ := lookup_of_find found
    refine ⟨callback, list, lookup, of_decide_eq_true mem, ?_⟩
    dsimp only
    rw [decrementConnectionCountAndCleanup_frame]
    split <;> rfl

theorem mapped_perm (mgr : AbilityConnectManager) (callback : Nat) :
    mgr.mapped.Perm (mgr.getConnectRecordListFromMap callback ++
      (values (mgr.connectMap.erase callback)).flatten) := by
  unfold getConnectRecordListFromMap
  cases found : mgr.connectMap.lookup callback with
  | none =>
    have same : mgr.connectMap.erase callback = mgr.connectMap :=
      ext (kerase_of_notMem_keys (lookup_eq_none.mp found))
    rw [same]
    exact List.Perm.refl _
  | some list =>
    have := (values_erase_perm found).flatten
    rwa [flatten_cons] at this

/-- The callback's list shrinks, and goes with its death recipient once it is empty. -/
def shrunk (mgr : AbilityConnectManager) (callback : Nat) (rest : List ConnectionRecord) :
    KeyedMap Nat (List ConnectionRecord) :=
  if rest.isEmpty then mgr.connectMap.erase callback
  else mgr.connectMap.insert callback rest

theorem values_shrunk (callback : Nat) (rest : List ConnectionRecord) :
    (values (mgr.shrunk callback rest)).flatten =
      rest ++ (values (mgr.connectMap.erase callback)).flatten := by
  unfold shrunk
  split
  next empty => rw [isEmpty_iff.mp empty, nil_append]
  · rw [values_insert, flatten_cons]

theorem shrunk_lookup {callback other : Nat} {rest list : List ConnectionRecord}
    (found : (mgr.shrunk callback rest).lookup other = some list) :
    (other = callback ∧ list = rest ∧ rest ≠ []) ∨
      (other ≠ callback ∧ mgr.connectMap.lookup other = some list) := by
  unfold shrunk at found
  split at found
  · rw [lookup_erase_eq] at found
    split at found
    · cases found
    next ne => exact .inr ⟨ne, found⟩
  next filled =>
    rw [lookup_insert_eq] at found
    split at found
    next same => exact .inl ⟨same, (Option.some.inj found).symm, by simpa using filled⟩
    next ne => exact .inr ⟨ne, found⟩

theorem removeConnectionRecordFromMap_perm (distinct : mgr.mapped.Nodup)
    (held : record ∈ mgr.mapped) :
    mgr.mapped.Perm (record :: (mgr.removeConnectionRecordFromMap record).mapped) := by
  obtain ⟨callback, list, found, mem, result⟩ := removeConnectionRecordFromMap_held held
  have whole := mgr.mapped_perm callback
  rw [getConnectRecordListFromMap, found, Option.getD_some] at whole
  have listDistinct : list.Nodup := (whole.nodup_iff.mp distinct).of_append_left
  have listSplit : list.Perm (record :: list.filter (· != record)) := by
    have erased := perm_cons_erase mem
    rwa [listDistinct.erase_eq_filter record] at erased
  have after : (mgr.removeConnectionRecordFromMap record).mapped =
      list.filter (· != record) ++ (values (mgr.connectMap.erase callback)).flatten := by
    rw [result]
    exact values_shrunk callback _
  rw [after, <- cons_append]
  exact whole.trans (listSplit.append_right _)

theorem Booked.removeConnectionRecordFromMap (booked : Booked (record :: pending) mgr) :
    Booked pending (mgr.removeConnectionRecordFromMap record) := by
  by_cases held : record ∈ mgr.mapped
  case neg =>
    rw [removeConnectionRecordFromMap_absent held]
    refine { booked with listed := fun other => ?_ }
    rw [booked.listed other, mem_cons, not_or]
    constructor
    · exact fun both => ⟨both.1, both.2.2⟩
    · intro both
      refine ⟨both.1, ?_, both.2⟩
      rintro rfl
      exact held both.1
  case pos =>
    obtain ⟨callback, list, found, mem, result⟩ := removeConnectionRecordFromMap_held held
    have mappedSplit := removeConnectionRecordFromMap_perm booked.distinct held
    have distinct := nodup_cons.mp (mappedSplit.nodup_iff.mp booked.distinct)
    have mapping : ∀ other, other ∈ mgr.mapped ↔
        other = record ∨ other ∈ (mgr.removeConnectionRecordFromMap record).mapped := by
      intro other
      rw [mappedSplit.mem_iff, mem_cons]
    constructor
    case underItsCallback =>
      rw [result]
      intro other kept lookup
      rcases shrunk_lookup lookup with ⟨same, rest, filled⟩ | ⟨-, before⟩
      · rw [same, rest]
        refine ⟨filled, fun each inRest => ?_⟩
        exact (booked.underItsCallback callback list found).2 each (mem_of_mem_filter inRest)
      · exact booked.underItsCallback other kept before
    case inItsTarget =>
      rw [result]
      exact booked.inItsTarget
    case listed =>
      intro other
      have before := booked.listed other
      rw [mapping other, mem_cons, not_or] at before
      have same : (mgr.removeConnectionRecordFromMap record).connRecordList =
          mgr.connRecordList := by rw [result]
      rw [same, before]
      constructor
      · exact fun both => ⟨both.1.resolve_left both.2.1, both.2.2⟩
      · intro both
        refine ⟨.inr both.1, ?_, both.2⟩
        rintro rfl
        exact distinct.1 both.1
    case distinct => exact distinct.2
    case recipients =>
      rw [result]
      intro other
      split
      · rw [Finset.mem_erase, mem_erase, booked.recipients other]
      · rw [KeyedMap.mem_insert_of_mem (mem_of_lookup found), booked.recipients other]
    case counted =>
      intro pid
      have counts := decrementConnectionCountAndCleanup_lookup booked.counted mappedSplit pid
      rw [<- counts, result]
    case known =>
      intro other kept
      have := booked.known other ((mapping other).mpr (.inr kept))
      rwa [result]
    case underway =>
      rw [result]
      exact booked.underway
    case read =>
      rw [result]
      exact booked.read

section

variable (unlisted : record ∉ mgr.connRecordList record.targetService)
include unlisted

theorem addConnection_eq (list : List ConnectionRecord) :
    mgr.addConnection record list =
      { mgr with
        connectRecordId := mgr.connectRecordId + 1
        connectState := update mgr.connectState record .connecting
        connRecordList := update mgr.connRecordList record.targetService
          (mgr.connRecordList record.targetService ++ [record])
        connectMap := mgr.connectMap.insert record.connCallback (list ++ [record])
        recipientMap :=
          if list.isEmpty then insert record.connCallback mgr.recipientMap
          else mgr.recipientMap
        callerPidConnectionCountMap :=
          (mgr.handleConnectionCountIncrement
            record.directCallerPid).callerPidConnectionCountMap } := by
  unfold addConnection addConnectRecordToList addConnectObjectToMap addConnectDeathRecipient
  dsimp only [setConnectState]
  rw [if_neg unlisted]
  cases list.isEmpty with
  | false => rfl
  | true =>
    by_cases already : record.connCallback ∈ mgr.recipientMap <;>
      simp [already, handleConnectionCountIncrement]

theorem addConnection_perm :
    (mgr.addConnection record
      (mgr.getConnectRecordListFromMap record.connCallback)).mapped.Perm
        (record :: mgr.mapped) := by
  rw [addConnection_eq unlisted, mapped, values_insert, flatten_cons]
  have shared := (mgr.mapped_perm record.connCallback).symm.cons record
  rw [append_assoc, singleton_append]
  exact perm_middle.trans shared

theorem addConnection_listing (list : List ConnectionRecord) (service : Nat)
    (other : ConnectionRecord) :
    other ∈ (mgr.addConnection record list).connRecordList service ↔
      other ∈ mgr.connRecordList service ∨ (other = record ∧ service = record.targetService) := by
  rw [addConnection_eq unlisted]
  simp only [update_apply]
  split
  next same => simp [same]
  next ne => simp [ne]

end

namespace Booked

section

variable (booked : Booked pending mgr)
include booked

theorem removeAndEnd (record : ConnectionRecord) :
    Booked (record :: pending)
      ((mgr.removeConnectRecordFromList record.targetService record).setConnectState record
        .disconnected) := by
  have removed := booked.removeConnectRecordFromList record
  exact removed.setConnectState record .disconnected fun _ mem =>
    ((removed.listed record).mp mem).2 mem_cons_self

theorem endConnection (record : ConnectionRecord) :
    Booked pending (mgr.endConnection record.targetService record) :=
  (booked.removeAndEnd record).removeConnectionRecordFromMap

theorem endConnections {service : Nat} {records : List ConnectionRecord}
    (targets : ∀ record ∈ records, record.targetService = service) :
    Booked pending (records.foldl (AbilityConnectManager.endConnection service) mgr) := by
  induction records generalizing mgr with
  | nil => exact booked
  | cons record rest ih =>
    have first : Booked pending (mgr.endConnection service record) := by
      rw [<- targets record mem_cons_self]
      exact booked.endConnection record
    exact ih first fun other mem => targets other (mem_cons_of_mem _ mem)

theorem completeConnect (record : ConnectionRecord) :
    Booked pending (mgr.completeConnect setting record) := by
  have connected := booked.setConnectState record .connected nofun
  unfold AbilityConnectManager.completeConnect
  dsimp only
  split
  · exact connected.setConnectState record .disconnecting nofun
  · exact connected

theorem disconnectAbility (setting : Setting) (record : ConnectionRecord) :
    Booked (if (mgr.disconnectAbility setting record).1.connectState record = .disconnected ∧
        (mgr.disconnectAbility setting record).2 = .ok then record :: pending else pending)
      (mgr.disconnectAbility setting record).1 := by
  unfold AbilityConnectManager.disconnectAbility
  split
  · have disconnecting := booked.setConnectState record .disconnecting nofun
    dsimp only
    split
    · rw [if_neg]
      · exact disconnecting
      · simp [AbilityConnectManager.setConnectState]
    · rw [if_pos]
      · exact disconnecting.removeAndEnd record
      · simp [AbilityConnectManager.setConnectState]
  · simpa using booked

end

theorem completeDisconnect_removed (booked : Booked (record :: pending) mgr) :
    Booked (record :: pending) (mgr.completeDisconnect record) :=
  booked.setConnectState record .disconnected fun _ mem =>
    ((booked.listed record).mp mem).2 mem_cons_self

theorem append (booked : Booked (record :: pending) mgr) :
    Booked (pending ++ [record]) mgr :=
  booked.congr fun other => by simp [or_comm]

theorem disconnectRecordNormal (booked : Booked pending mgr) (setting : Setting)
    (record : ConnectionRecord) :
    Booked (mgr.disconnectRecordNormal setting pending record).2.1
      (mgr.disconnectRecordNormal setting pending record).1 := by
  have step := booked.disconnectAbility setting record
  unfold AbilityConnectManager.disconnectRecordNormal
  dsimp only
  split
  next failed =>
    rw [if_neg fun both => failed both.2] at step
    exact step
  next succeeded =>
    rw [ne_eq, not_not] at succeeded
    split
    next ended =>
      rw [if_pos ⟨ended, succeeded⟩] at step
      exact step.completeDisconnect_removed.append
    next underway =>
      rw [if_neg fun both => underway both.1] at step
      exact step

theorem disconnectRecordForce (booked : Booked pending mgr) (record : ConnectionRecord) :
    Booked (mgr.disconnectRecordForce pending record).2
      (mgr.disconnectRecordForce pending record).1 :=
  (booked.removeAndEnd record).append

theorem disconnectRecords (caller : Caller) (callerDied : Bool) {records : List ConnectionRecord}
    (booked : Booked pending mgr) (result : ErrCode) :
    Booked (disconnectRecords setting caller callerDied mgr pending result records).2.1
      (disconnectRecords setting caller callerDied mgr pending result records).1 := by
  induction records generalizing mgr pending result with
  | nil => exact booked
  | cons record rest ih =>
    have normal := booked.disconnectRecordNormal setting record
    unfold disconnectRecords
    dsimp only
    split
    · exact booked
    · split
      · exact ih booked result
      · split
        next step =>
          rw [step] at normal
          exact ih normal .ok
        next _ step =>
          rw [step] at normal
          split
          · exact ih (normal.disconnectRecordForce record) .ok
          · exact normal

theorem removeAll (booked : Booked pending mgr) :
    Booked [] (pending.foldl AbilityConnectManager.removeConnectionRecordFromMap mgr) := by
  induction pending generalizing mgr with
  | nil => exact booked
  | cons record rest ih => exact ih booked.removeConnectionRecordFromMap

theorem disconnectAbilityLocked (booked : Booked [] mgr) (caller : Caller) (connect : Nat)
    (callerDied : Bool) :
    Booked [] (mgr.disconnectAbilityLocked setting caller connect callerDied).1 := by
  unfold AbilityConnectManager.disconnectAbilityLocked
  split
  · exact booked
  · exact (booked.disconnectRecords caller callerDied .ok).removeAll

theorem scheduleConnectAbilityDone (booked : Booked pending mgr) (record : ConnectionRecord) :
    Booked pending (mgr.scheduleConnectAbilityDone setting record) := by
  unfold AbilityConnectManager.scheduleConnectAbilityDone
  split
  · exact booked.completeConnect record
  · exact booked

theorem scheduleConnectAbilityDoneLocked (booked : Booked pending mgr) (service : Nat)
    (state : AbilityState) (remoteObject : Bool) :
    Booked pending (mgr.scheduleConnectAbilityDoneLocked setting service state remoteObject).1 := by
  have fold : ∀ (records : List ConnectionRecord) {mgr : AbilityConnectManager},
      Booked pending mgr -> Booked pending
        (records.foldl (AbilityConnectManager.scheduleConnectAbilityDone setting) mgr) := by
    intro records
    induction records with
    | nil => exact id
    | cons record rest ih => exact fun booked => ih (booked.scheduleConnectAbilityDone record)
  unfold AbilityConnectManager.scheduleConnectAbilityDoneLocked
  split
  · exact booked
  · exact fold _ { booked with }

theorem scheduleDisconnectAbilityDoneLocked (booked : Booked pending mgr)
    (isForbidStart : Bool) (service : Nat) (state : AbilityState) :
    Booked pending
      (mgr.scheduleDisconnectAbilityDoneLocked setting isForbidStart service state).1 := by
  unfold AbilityConnectManager.scheduleDisconnectAbilityDoneLocked
  split
  · exact booked
  · split
    · exact booked
    next connect found =>
      split
      · exact booked
      · have mem := mem_of_find?_eq_some found
        rw [<- booked.inItsTarget service connect mem]
        exact booked.endConnection connect

theorem addConnection (booked : Booked [] mgr)
    (fresh : record.recordId = mgr.connectRecordId) :
    Booked [] (mgr.addConnection record (mgr.getConnectRecordListFromMap record.connCallback)) := by
  have unmapped : record ∉ mgr.mapped := by
    intro mem
    have := booked.known record mem
    omega
  have unlisted : record ∉ mgr.connRecordList record.targetService := fun mem =>
    unmapped ((booked.listed record).mp mem).1
  have result := addConnection_eq unlisted (mgr.getConnectRecordListFromMap record.connCallback)
  have more := addConnection_perm unlisted
  have held : ∀ other, other ∈ (mgr.addConnection record
      (mgr.getConnectRecordListFromMap record.connCallback)).mapped ↔
        other = record ∨ other ∈ mgr.mapped := by
    intro other
    rw [more.mem_iff, mem_cons]
  constructor
  case underItsCallback =>
    rw [result]
    intro callback list found
    rw [lookup_insert_eq] at found
    split at found
    next same =>
      cases found
      refine ⟨by simp, fun other mem => ?_⟩
      rw [same]
      rcases mem_append.mp mem with before | new
      · obtain ⟨list, lookup, inList⟩ := mem_getConnectRecordListFromMap.mp before
        exact (booked.underItsCallback _ list lookup).2 other inList
      · rw [mem_singleton.mp new]
    · exact booked.underItsCallback callback list found
  case inItsTarget =>
    intro service other mem
    rcases (addConnection_listing unlisted _ service other).mp mem with before | ⟨rfl, rfl⟩
    · exact booked.inItsTarget service other before
    · rfl
  case listed =>
    intro other
    rw [addConnection_listing unlisted, held, booked.listed other]
    constructor
    · rintro (before | ⟨same, -⟩)
      exacts [⟨.inr before.1, before.2⟩, ⟨.inl same, not_mem_nil⟩]
    · rintro ⟨same | before, -⟩
      exacts [.inr ⟨same, by rw [same]⟩, .inl ⟨before, not_mem_nil⟩]
  case distinct =>
    rw [more.nodup_iff]
    exact nodup_cons.mpr ⟨unmapped, booked.distinct⟩
  case recipients =>
    rw [result]
    intro callback
    split
    · rw [mem_insert, Finset.mem_insert, booked.recipients callback]
    next filled =>
      have present : record.connCallback ∈ mgr.connectMap := by
        cases found : mgr.connectMap.lookup record.connCallback with
        | none => simp [getConnectRecordListFromMap, found] at filled
        | some => exact mem_of_lookup found
      rw [KeyedMap.mem_insert_of_mem present, booked.recipients callback]
  case counted =>
    intro pid
    have counts := handleConnectionCountIncrement_lookup booked.counted more pid
    rw [<- counts, result]
  case known =>
    intro other mem
    have next : (mgr.addConnection record
        (mgr.getConnectRecordListFromMap record.connCallback)).connectRecordId =
          mgr.connectRecordId + 1 := by rw [result]
    rcases (held other).mp mem with rfl | before
    · omega
    · have := booked.known other before
      omega
  case underway =>
    intro other mem
    have state : (mgr.addConnection record
        (mgr.getConnectRecordListFromMap record.connCallback)).connectState =
          update mgr.connectState record .connecting := by rw [result]
    rw [state]
    rcases (addConnection_listing unlisted _ _ other).mp mem with before | ⟨rfl, -⟩
    · have ne : other ≠ record := by
        rintro rfl
        exact unlisted before
      rw [update_of_ne ne]
      exact booked.underway other before
    · rw [update_self]
      nofun
  case read =>
    rw [result]
    exact booked.read

theorem handleActiveAbility (booked : Booked pending mgr) (record : ConnectionRecord) :
    Booked pending (mgr.handleActiveAbility setting record) := by
  unfold AbilityConnectManager.handleActiveAbility
  split
  · exact booked
  · split
    · exact booked.completeConnect record
    · exact booked

theorem connectAbilityLocked (booked : Booked [] mgr) (request : Connect) :
    Booked [] (mgr.connectAbilityLocked setting request).1 := by
  unfold AbilityConnectManager.connectAbilityLocked
  split
  · exact booked
  · dsimp only
    split
    · exact booked
    · let record : ConnectionRecord :=
        ⟨mgr.connectRecordId, request.connect, request.targetService, request.directCallerPid,
          request.directCallerUid, request.directCallerTokenId⟩
      have added : Booked [] (mgr.addConnection record
          (mgr.getConnectRecordListFromMap request.connect)) :=
        booked.addConnection rfl
      split
      · exact added
      · split
        · exact added.handleActiveAbility record
        · exact added

section

variable (booked : Booked pending mgr)
include booked

theorem handleExtensionDisconnectTask (record : ConnectionRecord) :
    Booked pending (mgr.handleExtensionDisconnectTask setting record) := by
  have step := booked.disconnectAbility setting record
  unfold AbilityConnectManager.handleExtensionDisconnectTask
  dsimp only
  split
  next ended =>
    split at step
    · exact step.completeDisconnect_removed.removeConnectionRecordFromMap
    next failed =>
      have unlisted := fun mem => step.underway record mem ended
      exact (step.ofUnlisted unlisted).completeDisconnect_removed.removeConnectionRecordFromMap
  next underway =>
    rw [if_neg fun both => underway both.1] at step
    exact step

theorem disconnectBeforeCleanup (services : List Nat) :
    Booked pending (mgr.disconnectBeforeCleanup setting services) := by
  induction services generalizing mgr with
  | nil => exact booked
  | cons service rest ih =>
    exact ih (booked.endConnections fun record mem =>
      booked.inItsTarget service record (mem_of_mem_filter mem))

theorem handleTerminateDisconnectTask (service : Nat) :
    Booked pending (mgr.handleTerminateDisconnectTask service) := by
  unfold AbilityConnectManager.handleTerminateDisconnectTask
  generalize mgr.connRecordList service = records
  induction records generalizing mgr with
  | nil => exact booked
  | cons record rest ih => exact ih (booked.endConnection record)

theorem readConnectRecordList (service : Nat) :
    Booked pending (mgr.readConnectRecordList service) :=
  { booked with
    read := by
      intro task mem record inTask
      rcases mem_cons.mp mem with rfl | before
      · exact booked.inItsTarget service record inTask
      · exact booked.read task before record inTask }

theorem cleanActivatingTimeoutAbilityInner (task : Nat) :
    Booked pending (mgr.cleanActivatingTimeoutAbilityInner task) := by
  unfold AbilityConnectManager.cleanActivatingTimeoutAbilityInner
  split
  · exact booked
  next service records found =>
    exact booked.endConnections (booked.read (service, records) (mem_of_getElem? found))

end

theorem apply (booked : Booked [] mgr) (call : Call) :
    Booked [] (mgr.apply setting call) := by
  cases call with
  | connectAbilityLocked request => exact booked.connectAbilityLocked request
  | disconnectAbilityLocked caller connect =>
    exact booked.disconnectAbilityLocked caller connect false
  | scheduleConnectAbilityDoneLocked service state remoteObject =>
    exact booked.scheduleConnectAbilityDoneLocked service state remoteObject
  | scheduleDisconnectAbilityDoneLocked isForbidStart service state =>
    exact booked.scheduleDisconnectAbilityDoneLocked isForbidStart service state
  | handleStartTimeoutTask service =>
    exact booked.endConnections fun record mem =>
      booked.inItsTarget service record (mem_of_mem_filter mem)
  | handleConnectTimeoutTask service =>
    exact booked.endConnections (booked.inItsTarget service)
  | handleTerminateDisconnectTask service => exact booked.handleTerminateDisconnectTask service
  | handleAbilityDiedTask service =>
    have deadTarget : Booked [] { mgr with
        connRemoteObject := update mgr.connRemoteObject service false } :=
      { booked with }
    exact deadTarget.endConnections (booked.inItsTarget service)
  | disconnectBeforeCleanup services => exact booked.disconnectBeforeCleanup services
  | readConnectRecordList service => exact booked.readConnectRecordList service
  | cleanActivatingTimeoutAbilityInner task =>
    exact booked.cleanActivatingTimeoutAbilityInner task
  | handleExtensionDisconnectTask record => exact booked.handleExtensionDisconnectTask record
  | handleCallBackDiedTask caller connect =>
    unfold AbilityConnectManager.apply AbilityConnectManager.handleCallBackDiedTask
    dsimp only
    split
    · exact booked.disconnectAbilityLocked caller connect true
    · exact booked

theorem initial : Booked [] {} where
  underItsCallback := by simp
  inItsTarget := by simp
  listed := by simp [mapped, values]
  distinct := by simp [mapped, values]
  recipients := by simp
  counted := by simp [mapped, values, connectionsOf, absentWhenZero]
  known := by simp [mapped, values]
  underway := by simp
  read := by simp

theorem run (setting : Setting) (calls : List Call) : Booked [] ((machine setting).run calls) :=
  Machine.run_invariant (Booked []) initial (fun _ call booked => booked.apply call) calls

end Booked

/-- The map, the service lists, the death recipients and the caller counters agree. -/
theorem connections_booked (setting : Setting) (calls : List Call) :
    let mgr := (machine setting).run calls
    (∀ record : ConnectionRecord,
      record ∈ mgr.getConnectRecordListFromMap record.connCallback ↔
        ∀ service, record ∈ mgr.connRecordList service ↔ service = record.targetService) ∧
    (∀ record callback, record ∈ mgr.getConnectRecordListFromMap callback ->
      callback = record.connCallback) ∧
    (∀ record service, record ∈ mgr.connRecordList service ->
      record ∈ mgr.getConnectRecordListFromMap record.connCallback) ∧
    (∀ callback list, mgr.connectMap.lookup callback = some list -> list ≠ []) ∧
    (∀ callback, callback ∈ mgr.recipientMap ↔ callback ∈ mgr.connectMap) ∧
    mgr.mapped.Nodup ∧
    ∀ pid, mgr.callerPidConnectionCountMap.lookup pid =
      absentWhenZero (connectionsOf mgr.mapped pid) := by
  intro mgr
  have booked : Booked [] mgr := Booked.run setting calls
  have atTarget : ∀ record, record ∈ mgr.connRecordList record.targetService ↔
      record ∈ mgr.getConnectRecordListFromMap record.connCallback := by
    intro record
    rw [booked.listed record, booked.mem_mapped_iff]
    simp
  refine ⟨?_, ?_, ?_, fun callback list found => (booked.underItsCallback callback list found).1,
    booked.recipients, booked.distinct, booked.counted⟩
  case refine_1 =>
    intro record
    rw [<- atTarget record]
    constructor
    · intro listed service
      constructor
      · exact fun mem => (booked.inItsTarget service record mem).symm
      · rintro rfl
        exact listed
    · exact fun exactly => (exactly record.targetService).mpr rfl
  case refine_2 =>
    intro record callback mem
    obtain ⟨list, found, inList⟩ := mem_getConnectRecordListFromMap.mp mem
    exact ((booked.underItsCallback callback list found).2 record inList).symm
  case refine_3 =>
    intro record service mem
    rw [<- atTarget record, booked.inItsTarget service record mem]
    exact mem

end AbilityRuntime.Connection.AbilityConnectManager
