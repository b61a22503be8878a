import AbilityRuntime.Connection.ConnectionReports
import AbilityRuntime.Connection.DataAbilityManager

set_option autoImplicit false

namespace AbilityRuntime.ConnectionState.ConnectionStateManager

open Library ConnectedDataAbility

def dataCallers (mgr : ConnectionStateManager) (record : Nat) (pid : Int) :
    Option ConnectedDataAbility :=
  (mgr.connectionStates.lookup pid).bind fun item => item.dataAbilityMap.lookup record

variable {mgr : ConnectionStateManager}

theorem dataCallers_putItem (mgr : ConnectionStateManager) (callerPid pid : Int)
    (removed : Bool) (item : ConnectionStateItem) (record : Nat) :
    (mgr.putItem callerPid removed item).dataCallers record pid =
      if pid = callerPid then item.dataAbilityMap.lookup record
      else mgr.dataCallers record pid := by
  refine putItem_part (fun item => item.dataAbilityMap.lookup record) ?_ mgr callerPid pid
    removed item
  intro item empty
  rw [ConnectionStateItem.isEmpty, Bool.and_eq_true] at empty
  exact KeyedMap.keys_isEmpty.mp empty.2 record

theorem handleCallerDied_dataCallers (mgr : ConnectionStateManager) (callerPid pid : Int)
    (record : Nat) :
    (mgr.handleCallerDied callerPid).1.dataCallers record pid =
      if pid = callerPid then none else mgr.dataCallers record pid :=
  handleCallerDied_part _ mgr callerPid pid

theorem handleCallerDied_dataEvents (owned : mgr.Owned) (callerPid pid : Int) (record : Nat) :
    eventsOf pid (.dataAbility record) (mgr.handleCallerDied callerPid).2 =
      if pid = callerPid ∧ (mgr.dataCallers record callerPid).isSome then [.disconnected]
      else [] := by
  rw [handleCallerDied_eventsOf owned]
  unfold dataCallers
  cases mgr.connectionStates.lookup callerPid with
  | none => simp
  | some item => simp [ConnectionStateItem.targets, AList.lookup_isSome, AList.mem_keys]

/-- One process's callers of one data ability become `callers`, with `event` reported. -/
structure DataMoves (before after : ConnectionStateManager) (reports : List Report) (callerPid : Int)
    (record : Nat) (callers : Option ConnectedDataAbility) (event : Option ConnectionEvent) :
    Prop where
  owned : after.Owned
  callers : ∀ pid other, after.dataCallers other pid =
    if pid = callerPid ∧ other = record then callers else before.dataCallers other pid
  events : ∀ pid other, eventsOf pid (.dataAbility other) reports =
    if pid = callerPid ∧ other = record then event.toList else []

theorem DataMoves.putItem (owned : mgr.Owned) (removed : Bool) {item : ConnectionStateItem}
    {callerPid : Int} (own : item.callerPid = callerPid)
    (before : ∀ record, mgr.dataCallers record callerPid = item.dataAbilityMap.lookup record)
    {dataAbilityMap : KeyedMap Nat ConnectedDataAbility} {record : Nat}
    {callers : Option ConnectedDataAbility}
    (changed : ∀ other, dataAbilityMap.lookup other =
      if other = record then callers else item.dataAbilityMap.lookup other)
    (event : Option ConnectionEvent) :
    DataMoves mgr
      (mgr.putItem callerPid removed { item with dataAbilityMap := dataAbilityMap })
      (event.map fun event => ⟨event, item.callerPid, .dataAbility record, false⟩).toList
      callerPid record callers event := by
  refine ⟨owned.putItem own, fun pid other => ?_, fun pid other => ?_⟩
  · rw [dataCallers_putItem]
    by_cases samePid : pid = callerPid
    · rw [if_pos samePid, changed, samePid, before]
      simp
    · simp [samePid]
  · rw [eventsOf_toList, own]
    simp only [Target.dataAbility.injEq]

theorem addDataAbilityConnection_moves (owned : mgr.Owned) (caller : DataAbilityCaller)
    (record : Nat) (process : caller.callerPid ≠ 0) :
    let result := addCaller ((mgr.dataCallers record caller.callerPid).getD []) caller
    DataMoves mgr (mgr.addDataAbilityConnection caller record).1
      (mgr.addDataAbilityConnection caller record).2 caller.callerPid record (some result.1)
      (if result.2 then some .connected else none) := by
  have own := itemOf_own owned caller.callerPid
  have before : ∀ record, mgr.dataCallers record caller.callerPid =
      ((mgr.connectionStates.lookup caller.callerPid).getD
        { callerPid := caller.callerPid }).dataAbilityMap.lookup record := by
    unfold dataCallers
    cases mgr.connectionStates.lookup caller.callerPid <;> simp
  unfold addDataAbilityConnection ConnectionStateItem.addDataAbilityConnection
  rw [if_neg process, before record]
  have move := DataMoves.putItem owned false own before
    (fun other => KeyedMap.lookup_insert_eq _ record other
      (addCaller ((((mgr.connectionStates.lookup caller.callerPid).getD
        { callerPid := caller.callerPid }).dataAbilityMap.lookup record).getD []) caller).1)
    (if (addCaller ((((mgr.connectionStates.lookup caller.callerPid).getD
        { callerPid := caller.callerPid }).dataAbilityMap.lookup record).getD []) caller).2
      then some .connected else none)
  convert move using 2
  split <;> rfl

theorem removeDataAbilityConnection_moves (owned : mgr.Owned) (caller : DataAbilityCaller)
    {record : Nat} (process : caller.callerPid ≠ 0) {callers : ConnectedDataAbility}
    (connected : mgr.dataCallers record caller.callerPid = some callers) :
    let result := removeCaller callers caller
    DataMoves mgr (mgr.removeDataAbilityConnection caller record).1
      (mgr.removeDataAbilityConnection caller record).2 caller.callerPid record
      (if result.2 then none else some result.1)
      (if result.2 then some .disconnected else none) := by
  obtain ⟨item, found, entry⟩ := Option.bind_eq_some_iff.mp connected
  have own := owned caller.callerPid item found
  have before : ∀ record, mgr.dataCallers record caller.callerPid =
      item.dataAbilityMap.lookup record := by
    intro record
    rw [dataCallers, found]
    rfl
  unfold removeDataAbilityConnection ConnectionStateItem.removeDataAbilityConnection
  rw [if_neg process, found]
  dsimp only
  rw [entry]
  dsimp only
  split
  · exact DataMoves.putItem owned true own before
      (fun other => KeyedMap.lookup_erase_eq _ record other) (some .disconnected)
  · exact DataMoves.putItem owned false own before
      (fun other => KeyedMap.lookup_insert_eq _ record other _) none

end AbilityRuntime.ConnectionState.ConnectionStateManager

namespace AbilityRuntime.DataAbility

open Library ConnectionState

namespace DataAbilityManager

def entriesOf (mgr : DataAbilityManager) (record : Nat) (pid : Int) : List ClientInfo :=
  (mgr.clients record).filter (·.clientPid = pid)

def callersOf (mgr : DataAbilityManager) (record : Nat) (pid : Int) :
    Option ConnectedDataAbility :=
  mgr.connectionState.dataCallers record pid

/-- A process is taken for connected while it is, and no entry is without callers. -/
def Agrees (mgr : DataAbilityManager) : Prop :=
  (∀ pid record, pid ≠ 0 ->
    Status.told (eventsOf pid (.dataAbility record) mgr.reports) =
      some (if mgr.entriesOf record pid = [] then .disconnected else .connected)) ∧
  ∀ pid record callers, mgr.callersOf record pid = some callers -> callers ≠ []

variable (isNotHap : Int -> Bool)

def identity (pid : Int) (token : Option Nat) : Option Nat :=
  if isNotHap pid then none else token

/-- The process has no entry, or the connection side is told of its death: by its own end, or by a
client's remote that dies while an entry still has it. -/
def Reported (mgr : DataAbilityManager) (callerPid : Int) (notices : List Notice) : Prop :=
  (∀ record, mgr.entriesOf record callerPid = []) ∨ .appDied ∈ notices ∨
    0 < callerPid ∧ ∃ before record object after,
      notices = before ++ .remoteDied record (some object) :: after ∧
      ∃ info ∈ mgr.clients record, info.client = object ∧
        ∀ notice ∈ before, mgr.reaches notice record info = false

def Meets (mgr : DataAbilityManager) : Call -> Prop
  | .acquire request =>
    ∀ record ∈ mgr.recordFor isNotHap request, request.client = none ->
      mgr.entriesOf record request.callingPid ≠ []
  | .release request =>
    mgr.releases request -> ∃ info,
      (mgr.clients request.scheduler).find? (·.client = request.client) = some info ∧
      info.clientPid = request.callingPid ∧
      (mgr.entriesOf request.scheduler request.callingPid).countP
        (fun info => decide (identity isNotHap request.callingPid (some info.client) =
          identity isNotHap request.callingPid (some request.client))) = 1
  | .callerDied callerPid notices =>
    mgr.Reported callerPid notices ∧ ∀ record, ∀ info ∈ mgr.clients record,
      info.clientPid = callerPid ↔ ∃ notice ∈ notices, mgr.reaches notice record info

variable {isNotHap} {pid : Int} {entries : List ClientInfo} {callers : ConnectedDataAbility}

structure Holds (isNotHap : Int -> Bool) (pid : Int) (entries : List ClientInfo)
    (callers : ConnectedDataAbility) : Prop where
  own : ∀ info ∈ callers, info.callerPid = pid ∧ info.isNotHap = isNotHap pid
  distinct : (callers.map fun info => identity isNotHap pid info.callerToken).Nodup
  same : ∀ other, other ∈ callers.map (fun info => identity isNotHap pid info.callerToken) ↔
    other ∈ entries.map fun info => identity isNotHap pid (some info.client)

namespace Holds

theorem isCaller_iff (holds : Holds isNotHap pid entries callers) {token : Option Nat}
    {info : DataAbilityCaller} (mem : info ∈ callers) :
    ConnectedDataAbility.isCaller ⟨pid, token, isNotHap pid⟩ info = true ↔
      identity isNotHap pid info.callerToken = identity isNotHap pid token := by
  obtain ⟨samePid, sameKind⟩ := holds.own info mem
  unfold ConnectedDataAbility.isCaller identity
  cases kind : isNotHap pid <;> simp [samePid, sameKind, kind]

theorem isEmpty_iff (holds : Holds isNotHap pid entries callers) :
    callers.isEmpty = true ↔ entries = [] := by
  have same := holds.same
  constructor
  · intro empty
    rw [List.isEmpty_iff.mp empty] at same
    cases entries with
    | nil => rfl
    | cons info rest =>
      have := (same (identity isNotHap pid (some info.client))).mpr (by simp)
      simp at this
  · rintro rfl
    cases callers with
    | nil => rfl
    | cons info rest =>
      have := (same (identity isNotHap pid info.callerToken)).mp (by simp)
      simp at this

theorem initial : Holds isNotHap pid [] [] := ⟨by simp, by simp, by simp⟩

theorem addCaller (holds : Holds isNotHap pid entries callers) (info : ClientInfo) :
    Holds isNotHap pid (entries ++ [info])
      (ConnectedDataAbility.addCaller callers ⟨pid, some info.client, isNotHap pid⟩).1 := by
  unfold ConnectedDataAbility.addCaller
  rw [if_neg (by simp)]
  split
  next found =>
    obtain ⟨caller, mem, isCaller⟩ := List.any_eq_true.mp found
    have known := (holds.isCaller_iff mem).mp isCaller
    refine { holds with same := fun other => ?_ }
    rw [holds.same, List.map_append, List.mem_append]
    constructor
    · exact .inl
    · rintro (before | new)
      · exact before
      · rw [List.map_singleton, List.mem_singleton] at new
        rw [new, <- known, <- holds.same]
        exact List.mem_map_of_mem mem
  next missing =>
    have fresh : identity isNotHap pid (some info.client) ∉
        callers.map fun info => identity isNotHap pid info.callerToken := by
      intro mem
      obtain ⟨caller, inCallers, same⟩ := List.mem_map.mp mem
      exact missing (List.any_eq_true.mpr ⟨caller, inCallers, (holds.isCaller_iff inCallers).mpr same⟩)
    refine ⟨fun caller mem => ?_, ?_, fun other => ?_⟩
    · rcases List.mem_append.mp mem with before | new
      · exact holds.own caller before
      · simp [List.mem_singleton.mp new]
    · rw [List.map_append, List.map_singleton, List.nodup_append]
      refine ⟨holds.distinct, by simp, ?_⟩
      intro first mem second new
      rw [List.mem_singleton.mp new]
      rintro rfl
      exact fresh mem
    · rw [List.map_append, List.map_append, List.mem_append, List.mem_append, holds.same]
      rfl

theorem removeCaller {before after : List ClientInfo} {info : ClientInfo}
    (holds : Holds isNotHap pid (before ++ info :: after) callers)
    (only : (before ++ info :: after).countP (fun other =>
      decide (identity isNotHap pid (some other.client) =
        identity isNotHap pid (some info.client))) = 1) :
    Holds isNotHap pid (before ++ after)
      (ConnectedDataAbility.removeCaller callers ⟨pid, some info.client, isNotHap pid⟩).1 := by
  have others : ∀ other ∈ before ++ after, identity isNotHap pid (some other.client) ≠
      identity isNotHap pid (some info.client) := by
    have none : (before ++ after).countP (fun other =>
        decide (identity isNotHap pid (some other.client) =
          identity isNotHap pid (some info.client))) = 0 := by
      rw [List.countP_append, List.countP_cons_of_pos (by simp)] at only
      rw [List.countP_append]
      omega
    intro other mem
    simpa using List.countP_eq_zero.mp none other mem
  obtain ⟨caller, mem, known⟩ := List.mem_map.mp
    ((holds.same (identity isNotHap pid (some info.client))).mpr (by simp))
  obtain ⟨found, front, back, -, isCaller, whole, erased⟩ :=
    List.exists_of_eraseP mem ((holds.isCaller_iff mem).mpr known)
  have foundMember : found ∈ callers := by simp [whole]
  have foundKnown := (holds.isCaller_iff foundMember).mp isCaller
  have result : (ConnectedDataAbility.removeCaller callers
      ⟨pid, some info.client, isNotHap pid⟩).1 = front ++ back := by
    simp [ConnectedDataAbility.removeCaller, erased]
  have kept : ∀ other ∈ front ++ back, other ∈ callers := by
    intro other inRest
    rw [whole]
    rw [List.mem_append] at inRest
    rcases inRest with inFront | inBack
    · exact List.mem_append_left _ inFront
    · exact List.mem_append_right _ (List.mem_cons_of_mem _ inBack)
  have distinct := holds.distinct
  rw [whole, List.map_append, List.map_cons, List.nodup_middle, List.nodup_cons,
    <- List.map_append, foundKnown] at distinct
  rw [result]
  refine ⟨fun other inRest => holds.own other (kept other inRest), distinct.2, fun other => ?_⟩
  have same := holds.same other
  rw [whole, List.map_append, List.map_cons, List.mem_append, List.mem_cons, foundKnown,
    List.map_append, List.map_cons, List.mem_append, List.mem_cons] at same
  have split : ∀ {first second : List (Option Nat)},
      (other ∈ first ∨ other = identity isNotHap pid (some info.client) ∨ other ∈ second) ↔
        other = identity isNotHap pid (some info.client) ∨ other ∈ first ++ second := by
    intro first second
    rw [List.mem_append]
    exact or_left_comm
  by_cases this : other = identity isNotHap pid (some info.client)
  · rw [this]
    constructor
    · exact fun inRest => absurd inRest distinct.1
    · intro inEntries
      obtain ⟨entry, entryMember, sameIdentity⟩ := List.mem_map.mp inEntries
      exact absurd sameIdentity (others entry entryMember)
  · simpa [this] using same

end Holds

def statusOf (callers : Option ConnectedDataAbility) : Status :=
  if callers.isSome then .connected else .disconnected

def Held (isNotHap : Int -> Bool) (pid : Int) (entries : List ClientInfo)
    (callers : Option ConnectedDataAbility) : Prop :=
  Holds isNotHap pid entries (callers.getD []) ∧ (callers.isSome ↔ entries ≠ [])

/-- No process is dead between calls; while notices come in its clients may be gone. -/
structure Tracked (isNotHap : Int -> Bool) (dead : Int -> Prop) (mgr : DataAbilityManager) :
    Prop where
  owned : mgr.connectionState.Owned
  told : ∀ pid record, Status.told (eventsOf pid (.dataAbility record) mgr.reports) =
    some (statusOf (mgr.callersOf record pid))
  held : ∀ pid record, pid ≠ 0 -> ¬dead pid ->
    Held isNotHap pid (mgr.entriesOf record pid) (mgr.callersOf record pid)
  zero : ∀ record, mgr.callersOf record 0 = none

variable {mgr : DataAbilityManager} {dead : Int -> Prop} {callerPid : Int}

theorem Held.some_callers (held : Held isNotHap pid entries (some callers)) :
    Holds isNotHap pid entries callers ∧ callers.isEmpty = false := by
  have holds : Holds isNotHap pid entries callers := held.1
  refine ⟨holds, ?_⟩
  rw [Bool.eq_false_iff, ne_eq, holds.isEmpty_iff]
  exact held.2.mp rfl

theorem Held.addCaller_null (held : Held isNotHap pid entries (some callers)) :
    ConnectedDataAbility.addCaller callers ⟨pid, none, isNotHap pid⟩ = (callers, false) := by
  obtain ⟨holds, filled⟩ := held.some_callers
  unfold ConnectedDataAbility.addCaller
  cases kind : isNotHap pid with
  | false => simp
  | true =>
    obtain ⟨info, mem⟩ := List.exists_mem_of_ne_nil callers (by simpa using filled)
    have known : callers.any (ConnectedDataAbility.isCaller ⟨pid, none, isNotHap pid⟩) = true := by
      refine List.any_eq_true.mpr ⟨info, mem, (holds.isCaller_iff mem).mpr ?_⟩
      simp [identity, kind]
    rw [kind] at known
    simp [known, filled]

theorem addClient_entries (mgr : DataAbilityManager) (isNotHap : Int -> Bool)
    (record client : Nat) (tryBind : Bool) (callingPid pid : Int) (other : Nat) :
    (mgr.addClient isNotHap record client tryBind callingPid).entriesOf other pid =
      mgr.entriesOf other pid ++
        if pid = callingPid ∧ other = record then
          [⟨client, tryBind, isNotHap callingPid, callingPid⟩] else [] := by
  unfold addClient entriesOf
  by_cases sameRecord : other = record
  · by_cases samePid : pid = callingPid
    · simp [sameRecord, samePid]
    · simp [sameRecord, samePid, Ne.symm samePid]
  · simp [sameRecord]

theorem Held.addCaller {callers : Option ConnectedDataAbility}
    (held : Held isNotHap pid entries callers) (info : ClientInfo) :
    let result := ConnectedDataAbility.addCaller (callers.getD [])
      ⟨pid, some info.client, isNotHap pid⟩
    Held isNotHap pid (entries ++ [info]) (some result.1) ∧
      (if result.2 then some ConnectionEvent.connected else none).toList.foldlM Status.next
        (statusOf callers) = some .connected := by
  refine ⟨⟨held.1.addCaller info, by simp⟩, ?_⟩
  have notified : (ConnectedDataAbility.addCaller (callers.getD [])
      ⟨pid, some info.client, isNotHap pid⟩).2 = (callers.getD []).isEmpty := by
    unfold ConnectedDataAbility.addCaller
    rw [if_neg (by simp)]
    split <;> rfl
  rw [notified]
  cases callers with
  | none => rfl
  | some callers =>
    rw [Option.getD_some, held.some_callers.2]
    rfl

theorem Held.removeCaller {before after : List ClientInfo} {info : ClientInfo}
    (held : Held isNotHap pid (before ++ info :: after) (some callers))
    (only : (before ++ info :: after).countP (fun other =>
      decide (identity isNotHap pid (some other.client) =
        identity isNotHap pid (some info.client))) = 1) :
    let result := ConnectedDataAbility.removeCaller callers ⟨pid, some info.client, isNotHap pid⟩
    Held isNotHap pid (before ++ after) (if result.2 then none else some result.1) ∧
      (if result.2 then some ConnectionEvent.disconnected else none).toList.foldlM Status.next
        .connected = some (statusOf (if result.2 then none else some result.1)) := by
  have removed := held.some_callers.1.removeCaller only
  have notified : (ConnectedDataAbility.removeCaller callers
      ⟨pid, some info.client, isNotHap pid⟩).2 = (ConnectedDataAbility.removeCaller callers
        ⟨pid, some info.client, isNotHap pid⟩).1.isEmpty := by
    unfold ConnectedDataAbility.removeCaller
    rw [if_neg (by simp)]
  dsimp only
  rw [notified]
  split
  next empty =>
    have none := removed.isEmpty_iff.mp empty
    rw [List.isEmpty_iff.mp empty] at removed
    exact ⟨⟨removed, by simp [none]⟩, rfl⟩
  next filled =>
    rw [removed.isEmpty_iff] at filled
    exact ⟨⟨removed, by simpa using filled⟩, rfl⟩

namespace Tracked

theorem agrees (tracked : Tracked isNotHap (fun _ => False) mgr) : mgr.Agrees := by
  constructor
  · intro pid record process
    have held := (tracked.held pid record process not_false).2
    rw [tracked.told, statusOf]
    by_cases none : mgr.entriesOf record pid = []
    · rw [if_pos none, if_neg]
      exact fun some => held.mp some none
    · rw [if_neg none, if_pos (held.mpr none)]
  · intro pid record callers found
    by_cases process : pid = 0
    · rw [process, tracked.zero] at found
      cases found
    · have held := tracked.held pid record process not_false
      rw [found] at held
      have filled := held.2.mp rfl
      intro none
      exact filled (held.1.isEmpty_iff.mp (by simp [none]))

section

variable (tracked : Tracked isNotHap dead mgr)
include tracked

theorem moves {callerPid : Int} {record : Nat} {result : ConnectionStateManager × List Report}
    {callers : Option ConnectedDataAbility} {event : Option ConnectionEvent}
    {clients : Nat -> List ClientInfo} {loaded : KeyedMap String Nat} (process : callerPid ≠ 0)
    (move : ConnectionStateManager.DataMoves mgr.connectionState result.1 result.2 callerPid
      record callers event)
    (follows : event.toList.foldlM Status.next (statusOf (mgr.callersOf record callerPid)) =
      some (statusOf callers)) (here : Held isNotHap callerPid
      ((clients record).filter (·.clientPid = callerPid)) callers)
    (others : ∀ pid other, ¬(pid = callerPid ∧ other = record) ->
      (clients other).filter (·.clientPid = pid) = mgr.entriesOf other pid) :
    Tracked isNotHap dead ⟨loaded, clients, result.1, mgr.reports ++ result.2⟩ := by
  refine ⟨move.owned, fun pid other => ?_, fun pid other isProcess alive => ?_, fun other => ?_⟩
  · rw [told_append, tracked.told, Option.bind_some, move.events]
    unfold callersOf
    rw [move.callers]
    split
    next same =>
      rw [same.1, same.2, <- follows]
      rfl
    · rfl
  · unfold callersOf entriesOf
    rw [move.callers]
    split
    next same =>
      rw [same.1, same.2]
      exact here
    next ne =>
      rw [others pid other ne]
      exact tracked.held pid other isProcess alive
  · unfold callersOf
    rw [move.callers, if_neg fun same => process same.1.symm]
    exact tracked.zero other

theorem unseen {clients : Nat -> List ClientInfo} {loaded : KeyedMap String Nat}
    (same : ∀ pid record, pid ≠ 0 -> ¬dead pid ->
      (clients record).filter (·.clientPid = pid) = mgr.entriesOf record pid) :
    Tracked isNotHap dead ⟨loaded, clients, mgr.connectionState, mgr.reports⟩ := by
  refine { tracked with held := fun pid record process alive => ?_ }
  unfold entriesOf
  rw [same pid record process alive]
  exact tracked.held pid record process alive

theorem acquire (alive : ∀ pid, ¬dead pid) (request : Acquire)
    (meets : Meets isNotHap mgr (.acquire request)) :
    Tracked isNotHap dead (mgr.acquire isNotHap request) := by
  unfold DataAbilityManager.acquire
  cases found : mgr.recordFor isNotHap request with
  | none => exact tracked
  | some record =>
    dsimp only
    by_cases process : request.callingPid = 0
    case pos =>
      have silent : ∀ (state : ConnectionStateManager) (client : Option Nat),
          state.addDataAbilityConnection ⟨request.callingPid, client,
            isNotHap request.callingPid⟩ record = (state, []) := by
        intro state client
        rw [ConnectionStateManager.addDataAbilityConnection, if_pos process]
      unfold reportDataAbilityAcquired DataAbilityManager.told
      rw [silent, List.append_nil]
      cases given : request.client with
      | none => exact tracked.unseen fun pid record _ _ => rfl
      | some client =>
        refine tracked.unseen fun pid other isProcess _ => ?_
        have entries := mgr.addClient_entries isNotHap record client
          request.tryBind request.callingPid pid other
        rw [if_neg fun same => isProcess (same.1.trans process), List.append_nil] at entries
        exact entries
    case neg =>
      have held := tracked.held request.callingPid record process (alive _)
      cases given : request.client with
      | none =>
        have move := ConnectionStateManager.addDataAbilityConnection_moves tracked.owned
          ⟨request.callingPid, none, isNotHap request.callingPid⟩ record process
        obtain ⟨callers, present⟩ :=
          Option.isSome_iff_exists.mp (held.2.mpr (meets record found given))
        have present' : mgr.connectionState.dataCallers record request.callingPid =
          some callers := present
        rw [present] at held
        rw [present', Option.getD_some, held.addCaller_null] at move
        refine tracked.moves process move ?_ held fun _ _ _ => rfl
        rw [present]
        rfl
      | some client =>
        have move := ConnectionStateManager.addDataAbilityConnection_moves tracked.owned
          ⟨request.callingPid, some client, isNotHap request.callingPid⟩ record process
        have entries := mgr.addClient_entries isNotHap record client request.tryBind
          request.callingPid
        obtain ⟨added, follows⟩ := held.addCaller
          ⟨client, request.tryBind, isNotHap request.callingPid, request.callingPid⟩
        refine tracked.moves process move follows ?_ fun pid other ne => ?_
        · have here := entries request.callingPid record
          rw [if_pos ⟨rfl, rfl⟩] at here
          rw [<- here] at added
          exact added
        · have there := entries pid other
          rw [if_neg ne, List.append_nil] at there
          exact there

theorem release (alive : ∀ pid, ¬dead pid) (request : Release)
    (meets : Meets isNotHap mgr (.release request)) :
    Tracked isNotHap dead (mgr.release isNotHap request) := by
  unfold DataAbilityManager.release
  split
  next releases =>
    obtain ⟨info, found, own, only⟩ := meets releases
    obtain ⟨isClient, before, after, whole, fresh⟩ := List.find?_eq_some_iff_append.mp found
    have client : info.client = request.client := of_decide_eq_true isClient
    have erased : (mgr.clients request.scheduler).eraseP (·.client = request.client) =
        before ++ after := by
      rw [whole, List.eraseP_append_right _ (by simpa using fresh)]
      simp [client]
    have entries : mgr.entriesOf request.scheduler request.callingPid =
        before.filter (·.clientPid = request.callingPid) ++
          info :: after.filter (·.clientPid = request.callingPid) := by
      rw [entriesOf, whole, List.filter_append, List.filter_cons_of_pos (by simpa using own)]
    have others : ∀ pid other, ¬(pid = request.callingPid ∧ other = request.scheduler) ->
        (mgr.removeClient request.scheduler request.client).entriesOf other pid =
          mgr.entriesOf other pid := by
      intro pid other ne
      unfold removeClient entriesOf
      simp only [Function.update_apply]
      split
      next same =>
        have notPid : ¬info.clientPid = pid := by
          rw [own]
          exact fun samePid => ne ⟨samePid.symm, same⟩
        rw [erased, same, whole, List.filter_append, List.filter_append,
          List.filter_cons_of_neg (by simpa using notPid)]
      · rfl
    have here : (mgr.removeClient request.scheduler request.client).entriesOf request.scheduler
        request.callingPid = before.filter (·.clientPid = request.callingPid) ++
          after.filter (·.clientPid = request.callingPid) := by
      unfold removeClient entriesOf
      simp only [Function.update_self]
      rw [erased, List.filter_append]
    by_cases process : request.callingPid = 0
    case pos =>
      have silent : mgr.connectionState.removeDataAbilityConnection ⟨request.callingPid,
          some request.client, isNotHap request.callingPid⟩ request.scheduler =
            (mgr.connectionState, []) := by
        rw [ConnectionStateManager.removeDataAbilityConnection, if_pos process]
      have result : (mgr.removeClient request.scheduler request.client).reportDataAbilityReleased
          isNotHap request.client request.scheduler request.callingPid =
            mgr.removeClient request.scheduler request.client := by
        unfold reportDataAbilityReleased DataAbilityManager.told removeClient
        rw [silent, List.append_nil]
      rw [result]
      refine tracked.unseen fun pid other isProcess _ => others pid other ?_
      rintro ⟨samePid, -⟩
      exact isProcess (samePid.trans process)
    case neg =>
      have held := tracked.held request.callingPid request.scheduler process (alive _)
      rw [entries] at held only
      obtain ⟨callers, present⟩ := Option.isSome_iff_exists.mp (held.2.mpr (by simp))
      have move := ConnectionStateManager.removeDataAbilityConnection_moves tracked.owned
        ⟨request.callingPid, some request.client, isNotHap request.callingPid⟩ process present
      rw [present] at held
      rw [<- client] at only
      obtain ⟨removed, follows⟩ := held.removeCaller only
      rw [client] at removed follows
      refine tracked.moves process move ?_ ?_ others
      · rw [present]
        exact follows
      · rw [<- here] at removed
        exact removed
  · exact tracked

end

theorem getDiedCallerPid_eq {record : Nat} {object : Option Nat}
    (own : ∀ other, ∀ info ∈ mgr.clients other,
      mgr.reaches (.remoteDied record object) other info -> info.clientPid = callerPid) :
    mgr.getDiedCallerPid record object = 0 ∨ mgr.getDiedCallerPid record object = callerPid := by
  unfold getDiedCallerPid
  cases object with
  | none => exact .inl rfl
  | some object =>
    dsimp only
    cases found : (mgr.clients record).find? (·.client = object) with
    | none => exact .inl rfl
    | some info =>
      refine .inr (own record info (List.mem_of_find?_eq_some found) ?_)
      simpa [reaches] using List.find?_some found

section

variable (tracked : Tracked isNotHap (· = callerPid) mgr)
include tracked

theorem handleCallerDied :
    Tracked isNotHap (· = callerPid)
      (mgr.told (mgr.connectionState.handleCallerDied callerPid)) := by
  have after : ∀ pid record, (mgr.told
      (mgr.connectionState.handleCallerDied callerPid)).callersOf record pid =
        if pid = callerPid then none else mgr.callersOf record pid :=
    fun pid record => mgr.connectionState.handleCallerDied_dataCallers callerPid pid record
  refine ⟨tracked.owned.handleCallerDied callerPid, fun pid record => ?_,
    fun pid record process alive => ?_, fun record => ?_⟩
  · have events := ConnectionStateManager.handleCallerDied_dataEvents tracked.owned callerPid pid
      record
    rw [after, DataAbilityManager.told, told_append, tracked.told, Option.bind_some, events]
    by_cases same : pid = callerPid
    · rw [if_pos same, same]
      have present : mgr.connectionState.dataCallers record callerPid =
        mgr.callersOf record callerPid := rfl
      rw [present]
      cases mgr.callersOf record callerPid with
      | none => simp [statusOf]
      | some callers => simp [statusOf, Status.next]
    · simp [same]
  · rw [after, if_neg alive]
    exact tracked.held pid record process alive
  · rw [after]
    split
    · rfl
    · exact tracked.zero record

theorem dropClients {notice : Notice}
    (own : ∀ record, ∀ info ∈ mgr.clients record, mgr.reaches notice record info ->
      info.clientPid = callerPid) :
    Tracked isNotHap (· = callerPid) (mgr.dropClients notice) := by
  refine tracked.unseen fun pid record _ alive => ?_
  rw [entriesOf, List.filter_filter]
  refine List.filter_congr fun info mem => ?_
  by_cases same : info.clientPid = pid
  · have unreached : mgr.reaches notice record info = false := by
      rw [Bool.eq_false_iff]
      exact fun reached => alive (same ▸ own record info mem reached)
    simp [same, unreached]
  · simp [same]

theorem notify {notice : Notice}
    (own : ∀ record, ∀ info ∈ mgr.clients record, mgr.reaches notice record info ->
      info.clientPid = callerPid) :
    Tracked isNotHap (· = callerPid) (mgr.notify callerPid notice) := by
  cases notice with
  | appDied => exact tracked.handleCallerDied.dropClients own
  | abilityDied token => exact tracked.dropClients own
  | remoteDied record object =>
    have told : Tracked isNotHap (· = callerPid)
        (mgr.told (mgr.connectionState.handleDataAbilityCallerDied
          (mgr.getDiedCallerPid record object))) := by
      unfold ConnectionStateManager.handleDataAbilityCallerDied
      split
      · simpa [DataAbilityManager.told] using tracked
      next process =>
        rcases getDiedCallerPid_eq own with zero | same
        · omega
        · rw [same]
          exact tracked.handleCallerDied
    exact told.dropClients own

end

end Tracked

theorem reaches_congr {other : DataAbilityManager}
    (same : other.dataAbilityRecordsLoaded = mgr.dataAbilityRecordsLoaded) :
    other.reaches = mgr.reaches := by
  unfold reaches
  rw [same]

theorem notify_loaded (notice : Notice) :
    (mgr.notify callerPid notice).dataAbilityRecordsLoaded =
      mgr.dataAbilityRecordsLoaded := by
  cases notice <;> rfl

theorem notify_clients (notice : Notice) (record : Nat) :
    (mgr.notify callerPid notice).clients record =
      (mgr.clients record).filter (!mgr.reaches notice record ·) := by
  cases notice <;> rfl

theorem notify_gone (notice : Notice) (record : Nat)
    (gone : notice = .appDied ∨ mgr.callersOf record callerPid = none) :
    (mgr.notify callerPid notice).callersOf record callerPid = none := by
  have died : ∀ pid, (mgr.connectionState.handleCallerDied pid).1.dataCallers record callerPid =
      if callerPid = pid then none else mgr.callersOf record callerPid :=
    fun pid => mgr.connectionState.handleCallerDied_dataCallers pid callerPid record
  cases notice with
  | appDied => exact (died callerPid).trans (if_pos rfl)
  | abilityDied token => exact gone.resolve_left nofun
  | remoteDied died' object =>
    have none := gone.resolve_left nofun
    unfold notify ConnectionStateManager.handleDataAbilityCallerDied
    dsimp only
    split
    · exact none
    · refine (died _).trans ?_
      rw [none]
      exact ite_self _

theorem callerDied_clients (mgr : DataAbilityManager) (callerPid : Int) (notices : List Notice)
    (record : Nat) :
    (mgr.callerDied callerPid notices).clients record =
      (mgr.clients record).filter fun info => notices.all (!mgr.reaches · record info) := by
  induction notices generalizing mgr with
  | nil => simp [callerDied]
  | cons notice rest ih =>
    have later := ih (mgr.notify callerPid notice)
    rw [reaches_congr (notify_loaded notice), notify_clients, List.filter_filter] at later
    refine later.trans (List.filter_congr fun info _ => ?_)
    rw [List.all_cons, Bool.and_comm]

theorem callerDied_gone (mgr : DataAbilityManager) (callerPid : Int) (notices : List Notice)
    (record : Nat)
    (gone : .appDied ∈ notices ∨ mgr.callersOf record callerPid = none) :
    (mgr.callerDied callerPid notices).callersOf record callerPid = none := by
  induction notices generalizing mgr with
  | nil => exact gone.resolve_left List.not_mem_nil
  | cons notice rest ih =>
    refine ih (mgr.notify callerPid notice) ?_
    by_cases later : .appDied ∈ rest
    · exact .inl later
    · refine .inr (notify_gone notice record ?_)
      rcases gone with mem | none
      · exact .inl ((List.mem_cons.mp mem).resolve_right later).symm
      · exact .inr none

theorem getDiedCallerPid_reached {record : Nat} {object : Nat} {info : ClientInfo}
    (present : info ∈ mgr.clients record) (reached : info.client = object)
    (own : ∀ info ∈ mgr.clients record, info.client = object -> info.clientPid = callerPid) :
    mgr.getDiedCallerPid record (some object) = callerPid := by
  unfold getDiedCallerPid
  dsimp only
  cases found : (mgr.clients record).find? (·.client = object) with
  | none => exact absurd (List.find?_eq_none.mp found info present) (by simp [reached])
  | some first =>
    exact own first (List.mem_of_find?_eq_some found) (by simpa using List.find?_some found)

theorem notify_remoteDied_gone {died : Nat} {object : Option Nat} (process : 0 < callerPid)
    (dies : mgr.getDiedCallerPid died object = callerPid) (record : Nat) :
    (mgr.notify callerPid (.remoteDied died object)).callersOf record callerPid = none := by
  unfold notify ConnectionStateManager.handleDataAbilityCallerDied
  dsimp only
  rw [dies, if_neg (by omega)]
  exact (mgr.connectionState.handleCallerDied_dataCallers callerPid callerPid record).trans
    (if_pos rfl)

theorem callerDied_remote_gone {before after : List Notice} {died object : Nat} {info : ClientInfo}
    (process : 0 < callerPid) (present : info ∈ mgr.clients died)
    (reached : info.client = object)
    (left : ∀ notice ∈ before, mgr.reaches notice died info = false)
    (own : ∀ info ∈ mgr.clients died, info.client = object -> info.clientPid = callerPid)
    (record : Nat) :
    (mgr.callerDied callerPid (before ++ .remoteDied died (some object) :: after)).callersOf
      record callerPid = none := by
  have split : mgr.callerDied callerPid (before ++ .remoteDied died (some object) :: after) =
      ((mgr.callerDied callerPid before).notify callerPid
        (.remoteDied died (some object))).callerDied callerPid after := by
    simp [callerDied]
  have clients := mgr.callerDied_clients callerPid before died
  have dies : (mgr.callerDied callerPid before).getDiedCallerPid died (some object) =
      callerPid := by
    refine getDiedCallerPid_reached ?_ reached ?_
    · rw [clients, List.mem_filter, List.all_eq_true]
      exact ⟨present, fun notice mem => by simp [left notice mem]⟩
    · intro first mem
      rw [clients] at mem
      exact own first (List.mem_of_mem_filter mem)
  rw [split]
  exact callerDied_gone _ callerPid after record (.inr (notify_remoteDied_gone process dies record))

namespace Tracked

theorem notices (tracked : Tracked isNotHap (· = callerPid) mgr) {notices : List Notice}
    (own : ∀ notice ∈ notices, ∀ record, ∀ info ∈ mgr.clients record,
      mgr.reaches notice record info -> info.clientPid = callerPid) :
    Tracked isNotHap (· = callerPid) (mgr.callerDied callerPid notices) := by
  induction notices generalizing mgr with
  | nil => exact tracked
  | cons notice rest ih =>
    refine ih (tracked.notify (own notice List.mem_cons_self)) ?_
    intro other mem record info left reached
    rw [reaches_congr (notify_loaded notice)] at reached
    rw [notify_clients] at left
    exact own other (List.mem_cons_of_mem _ mem) record info (List.mem_of_mem_filter left) reached

theorem callerDied (tracked : Tracked isNotHap (fun _ => False) mgr) (callerPid : Int)
    (notices : List Notice) (meets : Meets isNotHap mgr (.callerDied callerPid notices)) :
    Tracked isNotHap (fun _ => False) (mgr.callerDied callerPid notices) := by
  have dying : Tracked isNotHap (· = callerPid) mgr :=
    { tracked with held := fun pid record process _ => tracked.held pid record process not_false }
  have after := dying.notices fun notice mem record info inClients reached =>
    (meets.2 record info inClients).mpr ⟨notice, mem, reached⟩
  refine { after with held := fun pid record process _ => ?_ }
  by_cases same : pid = callerPid
  · have none : (mgr.callerDied callerPid notices).callersOf record callerPid = none := by
      rcases meets.1 with empty | died | ⟨positive, before, record', object, rest, rfl, info,
        present, reached, left⟩
      · have absent := (tracked.held callerPid record (same ▸ process) not_false).2
        rw [empty record, Option.isSome_iff_ne_none] at absent
        exact mgr.callerDied_gone callerPid notices record
          (.inr (not_not.mp fun held => absent.mp held rfl))
      · exact mgr.callerDied_gone callerPid notices record (.inl died)
      · refine callerDied_remote_gone positive present reached left ?_ record
        intro other mem same
        exact (meets.2 record' other mem).mpr ⟨_, List.mem_append_right _ List.mem_cons_self,
          by simp [reaches, same]⟩
    have entries : (mgr.callerDied callerPid notices).entriesOf record callerPid = [] := by
      rw [entriesOf, callerDied_clients, List.filter_filter, List.filter_eq_nil_iff]
      intro info mem
      simp only [Bool.and_eq_true, decide_eq_true_eq, not_and]
      intro isDead unreached
      obtain ⟨notice, inNotices, reached⟩ := (meets.2 record info mem).mp isDead
      have := List.all_eq_true.mp unreached notice inNotices
      rw [reached] at this
      cases this
    rw [same, entries, none]
    exact ⟨Holds.initial, by simp⟩
  · exact after.held pid record process same

theorem apply (tracked : Tracked isNotHap (fun _ => False) mgr) (call : Call)
    (meets : Meets isNotHap mgr call) :
    Tracked isNotHap (fun _ => False) (mgr.apply isNotHap call) := by
  cases call with
  | acquire request => exact tracked.acquire (fun _ => not_false) request meets
  | release request => exact tracked.release (fun _ => not_false) request meets
  | callerDied callerPid notices => exact tracked.callerDied callerPid notices meets

theorem initial : Tracked isNotHap (fun _ => False) {} where
  owned := by simp [ConnectionStateManager.Owned]
  told := fun _ _ => rfl
  held := fun _ _ _ _ => ⟨Holds.initial, by simp [callersOf, ConnectionStateManager.dataCallers,
    entriesOf]⟩
  zero := fun _ => rfl

end Tracked

/-- If all steps fit, the observers agree with the data abilities in every state. -/
theorem data_ability_connections_agree (isNotHap : Int -> Bool) (calls : List Call)
    (meets : (machine isNotHap).EveryStep calls (Meets isNotHap)) :
    (machine isNotHap).Throughout calls Agrees := by
  have tracked := meets.throughout Tracked.initial fun _ call tracked met => tracked.apply call met
  exact fun done rest split => (tracked done rest split).agrees

def acquireBy (client : Nat) : Call :=
  .acquire ⟨true, "com.example.data", "DataAbility", false, some client, true, 3, some 20⟩

def releaseBy (client : Nat) : Call := .release ⟨20, client, 3, true⟩

theorem two_clients_agree :
    (machine fun _ => false).Throughout
      [acquireBy 7, acquireBy 8, releaseBy 7, releaseBy 8] Agrees := by
  refine data_ability_connections_agree (fun _ => false) _ (Machine.StepsFrom.everyStep ?_)
  exact ⟨fun _ _ => nofun, fun _ _ => nofun, fun _ => ⟨_, rfl, rfl, by decide⟩,
    fun _ => ⟨_, rfl, rfl, by decide⟩, trivial⟩

theorem disconnected_while_held :
    ¬(machine fun _ => false).Throughout [acquireBy 7, acquireBy 7, releaseBy 7] Agrees := by
  intro throughout
  have last := (throughout [acquireBy 7, acquireBy 7, releaseBy 7] [] (by simp)).1 3 20 (by decide)
  exact absurd last (by decide)

end DataAbilityManager

end AbilityRuntime.DataAbility
