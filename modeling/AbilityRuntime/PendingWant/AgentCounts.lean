import Mathlib.Data.List.Count
import Mathlib.Data.List.Nodup
import AbilityRuntime.PendingWant.SendingRuns

set_option autoImplicit false

namespace AbilityRuntime.PendingWant

open PendingWantManager Int32 List Nat AgentCount Option Function Flags Caller GetWantSenderCall
variable {Want : Type} {api : WantApi Want}

def Caller.isThirdParty (caller : Caller) : Bool := !(caller.isSystemAppCall || caller.isSACall)

namespace PendingWantManager

def bundleOf (mgr : PendingWantManager Want) (r : Nat) : Option String :=
  mgr.records[r]?.map (·.key.bundleName)

def noticesOf (mgr : PendingWantManager Want) (r : Nat) : List (Nat × Int32) :=
  mgr.records[r]?.elim [] fun record =>
    record.mCancelCallbacks.map fun receiver => (receiver, record.key.requestCode)

/-- The listeners of the records that become cancelled are notified, and no others. -/
structure Notifies (before after : PendingWantManager Want) : Prop where
  stays : ∀ r, before.isCanceled r = true -> after.isCanceled r = true
  sent : after.canceledSent = before.canceledSent ++
    ((range before.records.length).filter fun r =>
      !before.isCanceled r && after.isCanceled r).flatMap before.noticesOf

def agentNumber (mgr : PendingWantManager Want) (bundleName : String) : Int :=
  (mgr.wantAgentCount bundleName).elim 0 (·.currentNumber.toInt)

end PendingWantManager

-- SenderInner tests a record before it takes the mutex to cancel it, so that a one-time record may
-- be cancelled in between.
inductive Event (Want : Type) where
  | operation (call : Call Want)
  | completeOneTime (caller : Caller) (record : Nat)

def Event.apply (api : WantApi Want) (mgr : PendingWantManager Want) :
    Event Want -> PendingWantManager Want
  | .operation call => mgr.apply api call
  | .completeOneTime caller r =>
    if mgr.isOneTime r then mgr.cancelWantSenderLocked api caller r true else mgr

def Event.isThirdParty : Event Want -> Bool
  | .operation (.getWantSender call) => call.caller.isThirdParty
  | _ => false

/-- The records that were counted when they were created, and those that went with an uninstall. -/
structure Tracked (Want : Type) where
  mgr : PendingWantManager Want := {}
  counted : List Nat := []
  cleared : List Nat := []

namespace Tracked

def step (api : WantApi Want) (tracked : Tracked Want) (event : Event Want) : Tracked Want where
  mgr := event.apply api tracked.mgr
  counted :=
    if (event.apply api tracked.mgr).records.length > tracked.mgr.records.length &&
        event.isThirdParty then tracked.counted ++ [tracked.mgr.records.length]
    else tracked.counted
  cleared :=
    match event with
    | .operation (.clearPendingWantRecordTask _ bundleName uid) =>
      tracked.cleared ++ tracked.mgr.wantRecords.filter (tracked.mgr.hasBundle api bundleName uid)
    | _ => tracked.cleared

section

variable (tracked : Tracked Want)

def Live (r : Nat) : Prop :=
  r < tracked.mgr.records.length ∧ tracked.mgr.isCanceled r = false ∧ r ∉ tracked.cleared

def liveCounted (bundleName : String) : Nat :=
  tracked.mgr.wantRecords.countP fun r =>
    r ∈ tracked.counted && tracked.mgr.bundleOf r = some bundleName

/-- The map holds the live records once, and counts those of a bundle that were counted. -/
structure Accounted (tracked : Tracked Want) : Prop where
  once : tracked.mgr.wantRecords.Nodup
  held : ∀ r, r ∈ tracked.mgr.wantRecords ↔ tracked.Live r
  number : ∀ bundleName, tracked.mgr.agentNumber bundleName = tracked.liveCounted bundleName

/-- The count is reduced when a counted record leaves the map, and only then. -/
def ReducesRight (caller : Caller) (r : Nat) : Prop :=
  (caller.isThirdParty = true ∧
      ∃ bundleName, tracked.mgr.bundleOf r = some bundleName ∧
        tracked.mgr.wantAgentCount bundleName ≠ none) ↔
    (r ∈ tracked.mgr.wantRecords ∧ r ∈ tracked.counted)

def CancelsRight (caller : Caller) (r : Nat) : Prop :=
  tracked.ReducesRight caller r ∧ (tracked.mgr.isCanceled r = true -> tracked.mgr.noticesOf r = [])

def CountsRight (call : GetWantSenderCall Want) : Prop :=
  call.caller.isThirdParty = true ->
    ∀ count, tracked.mgr.wantAgentCount call.wantSenderInfo.bundleName = some count ->
      count.currentNumber ≠ Int32.maxValue

end

def Meets (api : WantApi Want) (tracked : Tracked Want) : Event Want -> Prop
  | .operation (.getWantSender call) =>
    call.isPermitted = true ->
      match tracked.mgr.getPendingWantRecordByKey api (call.pendingKey api) with
      | none => call.needCreate = true -> call.allocated = true -> tracked.CountsRight call
      | some r => call.needCancel = true -> tracked.ReducesRight call.caller r
  | .operation (.cancelWantSender caller isSystemAppCall sender) =>
    caller.isSACall = true ∨ isSystemAppCall = true ->
      ∀ r, sender = some r -> tracked.CancelsRight caller r
  | .operation (.senderInner caller r managerAlive) =>
    tracked.mgr.isCanceled r = false -> managerAlive = true -> tracked.mgr.isOneTime r = true ->
      tracked.ReducesRight caller r
  | .operation (.clearPendingWantRecordTask caller bundleName uid) =>
    ∀ r ∈ tracked.mgr.wantRecords, tracked.mgr.hasBundle api bundleName uid r = true ->
      tracked.ReducesRight caller r
  | .completeOneTime caller r => tracked.mgr.isOneTime r = true -> tracked.CancelsRight caller r
  | _ => True

end Tracked

def trackedMachine (api : WantApi Want) : Library.Machine (Tracked Want) (Event Want) where
  start := {}
  step := Tracked.step api

/-- There is an entry for a bundle when something is to be counted, and it has that number. -/
def Agrees (count : Option AgentCount) (number : Nat) : Prop :=
  match count with
  | none => number = 0
  | some count => 0 < number ∧ count.currentNumber.toInt = number

variable {count : Option AgentCount}

theorem Agrees.toInt {number : Nat} (agrees : Agrees count number) :
    count.elim 0 (·.currentNumber.toInt) = number := by
  cases count with
  | none =>
    have empty : number = 0 := agrees
    simp [empty]
  | some count => exact agrees.2

theorem Agrees.eq_none_iff {number : Nat} (agrees : Agrees count number) :
    count = none ↔ number = 0 := by
  cases count with
  | none => simpa [Agrees] using agrees
  | some count => simpa using Nat.pos_iff_ne_zero.mp agrees.1

def AgentCount.reduced (count : AgentCount) : Option AgentCount :=
  if count.currentNumber = 1 then none
  else some { count with
    currentNumber := count.currentNumber - 1
    latestMinNumber := count.currentNumber - 1 }

theorem Agrees.reduced {number : Nat}
    (agrees : Agrees count (number + 1)) : Agrees (count.bind reduced) number := by
  cases count with
  | none => simp [Agrees] at agrees
  | some count =>
    have current : count.currentNumber.toInt = number + 1 := by exact_mod_cast agrees.2
    have bound := count.currentNumber.toInt_lt
    rw [bind_some, reduced]
    split
    next last =>
      rw [last, toInt_one] at current
      simp only [Agrees]
      omega
    next more =>
      have several : number ≠ 0 := by
        rintro rfl
        exact more (toInt_inj.mp (by simpa using current))
      refine ⟨by omega, ?_⟩
      rw [toInt_sub, toInt_one, current]
      rw [Int.bmod_eq_of_le (by omega) (by omega)]
      omega

theorem Agrees.added {number : Nat} (agrees : Agrees count number)
    (room : ∀ entry, count = some entry -> entry.currentNumber ≠ maxValue) {entry : AgentCount}
    (added : entry.currentNumber = count.elim 1 (·.currentNumber + 1)) :
    Agrees (some entry) (number + 1) := by
  refine ⟨succ_pos number, ?_⟩
  cases count with
  | none =>
    rw [added, agrees]
    rfl
  | some count =>
    have bound := count.currentNumber.toInt_lt
    have notLast : count.currentNumber.toInt ≠ 2147483647 := by
      intro last
      exact room count rfl (toInt_inj.mp last)
    have current := agrees.2
    rw [added, elim_some, toInt_add, toInt_one, current, Int.bmod_eq_of_le (by omega) (by omega)]
    rfl

namespace PendingWantManager

variable {mgr : PendingWantManager Want}

theorem reduceWantAgentNumber_count (mgr : PendingWantManager Want) (caller : Caller)
    (key : PendingWantKey Want) (bundleName : String) :
    (mgr.reduceWantAgentNumber caller key).wantAgentCount bundleName =
      if caller.isThirdParty = true ∧ bundleName = key.bundleName then
        (mgr.wantAgentCount bundleName).bind reduced
      else mgr.wantAgentCount bundleName := by
  unfold reduceWantAgentNumber
  cases foreign : caller.isSystemAppCall || caller.isSACall with
  | true => simp [isThirdParty, foreign]
  | false =>
    have thirdParty : caller.isThirdParty = true := by simp [isThirdParty, foreign]
    simp only [thirdParty, true_and, Bool.false_eq_true, if_false]
    unfold handleReduceWantAgentNumber
    by_cases same : bundleName = key.bundleName
    · subst same
      rw [if_pos rfl]
      cases found : mgr.wantAgentCount key.bundleName with
      | none => exact found
      | some count =>
        rw [bind_some, reduced]
        dsimp only
        split
        · simp [setAgentCount]
        · simp [setAgentCount]
    · rw [if_neg same]
      split
      · rfl
      · split
        · simp [setAgentCount, same]
        · simp [setAgentCount, same]

theorem removeRecord_count (mgr : PendingWantManager Want) (caller : Caller) (r : Nat)
    (bundleName : String) :
    (mgr.removeRecord caller r).wantAgentCount bundleName =
      if caller.isThirdParty = true ∧ mgr.bundleOf r = some bundleName then
        (mgr.wantAgentCount bundleName).bind reduced
      else mgr.wantAgentCount bundleName := by
  unfold removeRecord bundleOf
  cases mgr.records[r]? with
  | none => simp
  | some record =>
    simp only [reduceWantAgentNumber_count, map_some, some.injEq, eq_comm]

theorem addWantAgentNumber_count (mgr : PendingWantManager Want) (caller : Caller)
    (key : PendingWantKey Want) :
    ∃ entry, entry.currentNumber =
        (mgr.wantAgentCount key.bundleName).elim 1 (·.currentNumber + 1) ∧
      ∀ bundleName, (mgr.addWantAgentNumber caller key).wantAgentCount bundleName =
        if caller.isThirdParty = true ∧ bundleName = key.bundleName then some entry
        else mgr.wantAgentCount bundleName := by
  unfold addWantAgentNumber
  cases foreign : caller.isSystemAppCall || caller.isSACall with
  | true =>
    refine ⟨⟨(mgr.wantAgentCount key.bundleName).elim 1 (·.currentNumber + 1), 1, false⟩, rfl, ?_⟩
    simp [isThirdParty, foreign]
  | false =>
    have thirdParty : caller.isThirdParty = true := by simp [isThirdParty, foreign]
    simp only [thirdParty, true_and, Bool.false_eq_true, if_false]
    unfold handleAddWantAgentNumber
    cases mgr.wantAgentCount key.bundleName with
    | none => exact ⟨{}, rfl, fun bundleName => by simp [setAgentCount, update_apply]⟩
    | some count =>
      dsimp only
      split
      · split
        · exact ⟨{ count with currentNumber := count.currentNumber + 1 }, rfl, fun bundleName => by
            simp [sendWantAgentNumberEvent, setAgentCount, update_apply]⟩
        · exact ⟨{ count with currentNumber := count.currentNumber + 1 }, rfl, fun bundleName => by
            simp [setAgentCount, update_apply]⟩
      · split
        · exact ⟨{ count with currentNumber := count.currentNumber + 1, dfxFlag := true }, rfl,
            fun bundleName => by
              simp [sendWantAgentNumberEvent, setAgentCount, update_apply]⟩
        · exact ⟨{ count with currentNumber := count.currentNumber + 1 }, rfl, fun bundleName => by
            simp [setAgentCount, update_apply]⟩

@[simp] theorem isCanceled_removeRecord (caller : Caller) (r other : Nat) :
    (mgr.removeRecord caller r).isCanceled other = mgr.isCanceled other := by
  rw [isCanceled, removeRecord_records]
  rfl

@[simp] theorem bundleOf_removeRecord (caller : Caller) (r other : Nat) :
    (mgr.removeRecord caller r).bundleOf other = mgr.bundleOf other := by
  rw [bundleOf, removeRecord_records]
  rfl

structure SameBooks (before after : PendingWantManager Want) : Prop where
  records : after.records.length = before.records.length
  live : after.wantRecords = before.wantRecords
  count : after.wantAgentCount = before.wantAgentCount
  bundle : ∀ r, after.bundleOf r = before.bundleOf r

theorem modifyRecord_sameBooks (mgr : PendingWantManager Want) (r : Nat)
    (change : PendingWantRecord Want -> PendingWantRecord Want)
    (same : ∀ record, (change record).key.bundleName = record.key.bundleName) :
    mgr.SameBooks (mgr.modifyRecord r change) where
  records := length_modify ..
  live := rfl
  count := rfl
  bundle := by
    intro other
    simp only [bundleOf, modifyRecord, getElem?_modify]
    cases mgr.records[other]? with
    | none => rfl
    | some record => by_cases own : r = other <;> simp [own, same]

theorem mark_sameBooks (api : WantApi Want) (mgr : PendingWantManager Want) (r : Nat) :
    mgr.SameBooks (mgr.makeWantSenderCanceledLocked api r) := by
  unfold makeWantSenderCanceledLocked
  cases mgr.records[r]? with
  | none => exact ⟨rfl, rfl, rfl, fun _ => rfl⟩
  | some record =>
    have modified := mgr.modifyRecord_sameBooks r (fun record => { record with
      canceled := true
      key := if record.key.code > 0 then record.key.clearAllWantsInfosFd api else record.key })
      (fun record => by
        split
        · rfl
        · rfl)
    exact { modified with }

end PendingWantManager

namespace Tracked

variable {tracked : Tracked Want}

structure Booked (tracked : Tracked Want) : Prop where
  once : tracked.mgr.wantRecords.Nodup
  held : ∀ r, r ∈ tracked.mgr.wantRecords ↔ tracked.Live r
  counted : ∀ r ∈ tracked.counted, r < tracked.mgr.records.length
  cleared : ∀ r ∈ tracked.cleared, r < tracked.mgr.records.length
  number : ∀ bundleName,
    Agrees (tracked.mgr.wantAgentCount bundleName) (tracked.liveCounted bundleName)

theorem Booked.accounted (booked : tracked.Booked) : tracked.Accounted where
  __ := booked
  number bundleName := (booked.number bundleName).toInt

variable {bundleName : String}

theorem SameBooks.number {after : PendingWantManager Want} (same : tracked.mgr.SameBooks after)
    (numbers : Agrees (tracked.mgr.wantAgentCount bundleName) (tracked.liveCounted bundleName)) :
    Agrees (after.wantAgentCount bundleName)
      (liveCounted { tracked with mgr := after } bundleName) := by
  simpa only [liveCounted, same.live, same.count, same.bundle] using numbers

variable {caller : Caller} {r : Nat}

theorem SameBooks.reducesRight {after : PendingWantManager Want}
    (same : tracked.mgr.SameBooks after) (right : tracked.ReducesRight caller r) :
    ReducesRight { tracked with mgr := after } caller r := by
  simpa only [ReducesRight, same.live, same.count, same.bundle] using right

theorem Booked.sameBooks (booked : tracked.Booked) {after : PendingWantManager Want}
    (same : tracked.mgr.SameBooks after)
    (marks : ∀ r, after.isCanceled r = tracked.mgr.isCanceled r) :
    Booked { tracked with mgr := after } where
  once := by rw [same.live]; exact booked.once
  held r := by
    rw [same.live, booked.held]
    simp only [Live, same.records, marks]
  counted r mem := by rw [same.records]; exact booked.counted r mem
  cleared r mem := by rw [same.records]; exact booked.cleared r mem
  number bundleName := SameBooks.number same (booked.number bundleName)

theorem number_remove
    (numbers : Agrees (tracked.mgr.wantAgentCount bundleName) (tracked.liveCounted bundleName))
    (right : tracked.ReducesRight caller r) :
    Agrees ((tracked.mgr.removeRecord caller r).wantAgentCount bundleName)
      (liveCounted { tracked with mgr := tracked.mgr.removeRecord caller r } bundleName) := by
  simp only [liveCounted, removeRecord_wantRecords,
    bundleOf_removeRecord, removeRecord_count,
    countP_erase]
  by_cases counts : r ∈ tracked.mgr.wantRecords ∧ r ∈ tracked.counted ∧
      tracked.mgr.bundleOf r = some bundleName
  · obtain ⟨mem, counted, bundle⟩ := counts
    have thirdParty := (right.mpr ⟨mem, counted⟩).1
    have positive : 0 < tracked.liveCounted bundleName := by
      rw [liveCounted, countP_pos_iff]
      exact ⟨r, mem, by simp [counted, bundle]⟩
    rw [if_pos ⟨thirdParty, bundle⟩, if_pos ⟨mem, by simp [counted, bundle]⟩]
    apply Agrees.reduced
    change Agrees _ (tracked.liveCounted bundleName - 1 + 1)
    rw [Nat.sub_add_cancel positive]
    exact numbers
  · have outside : ¬ (r ∈ tracked.mgr.wantRecords ∧
        (decide (r ∈ tracked.counted) && decide (tracked.mgr.bundleOf r = some bundleName)) =
          true) := by
      simpa using counts
    split
    next reduces =>
      have empty : tracked.mgr.wantAgentCount bundleName = none := by
        by_contra some
        have counted := right.mp ⟨reduces.1, bundleName, reduces.2, some⟩
        exact counts ⟨counted.1, counted.2, reduces.2⟩
      rw [empty] at numbers ⊢
      exact numbers
    · exact numbers

theorem Booked.cancel (booked : tracked.Booked) (right : tracked.ReducesRight caller r) :
    Booked { tracked with
      mgr := (tracked.mgr.makeWantSenderCanceledLocked api r).removeRecord caller r } := by
  have same := mark_sameBooks api tracked.mgr r
  constructor
  case once =>
    simp only [removeRecord_wantRecords, same.live]
    exact booked.once.erase r
  case held =>
    intro other
    simp only [removeRecord_wantRecords, same.live, booked.once.mem_erase_iff,
      booked.held, Live, removeRecord_records, same.records,
      isCanceled_removeRecord, isCanceled_mark,
      Bool.or_eq_false_iff, decide_eq_false_iff_not]
    constructor
    · rintro ⟨ne, made, unmarked, uncleared⟩
      exact ⟨made, ⟨unmarked, fun own => ne own.1⟩, uncleared⟩
    · rintro ⟨made, ⟨unmarked, own⟩, uncleared⟩
      exact ⟨fun is => own ⟨is, is ▸ made⟩, made, unmarked, uncleared⟩
  case counted =>
    intro other mem
    rw [removeRecord_records, same.records]
    exact booked.counted other mem
  case cleared =>
    intro other mem
    rw [removeRecord_records, same.records]
    exact booked.cleared other mem
  case number =>
    intro bundleName
    have numbers := SameBooks.number same (booked.number bundleName)
    exact number_remove numbers (SameBooks.reducesRight same right)

theorem Booked.clear (booked : tracked.Booked) (mem : r ∈ tracked.mgr.wantRecords)
    (right : tracked.ReducesRight caller r) :
    Booked { tracked with
      mgr := tracked.mgr.removeRecord caller r
      cleared := tracked.cleared ++ [r] } where
  once := by
    rw [removeRecord_wantRecords]
    exact booked.once.erase r
  held other := by
    simp only [removeRecord_wantRecords, booked.once.mem_erase_iff,
      booked.held, Live, removeRecord_records,
      PendingWantManager.isCanceled_removeRecord, mem_append, mem_singleton, not_or]
    constructor
    · exact fun ⟨ne, made, unmarked, uncleared⟩ =>
        ⟨made, unmarked, uncleared, ne⟩
    · exact fun ⟨made, unmarked, uncleared, ne⟩ =>
        ⟨ne, made, unmarked, uncleared⟩
  counted other counted := by
    rw [removeRecord_records]
    exact booked.counted other counted
  cleared other cleared := by
    rw [removeRecord_records]
    rcases mem_append.mp cleared with earlier | own
    · exact booked.cleared other earlier
    · rw [mem_singleton.mp own]
      exact ((booked.held r).mp mem).1
  number bundleName := number_remove (booked.number bundleName) right

theorem Booked.reducesRight_clear (booked : tracked.Booked) {other : Nat}
    (mem : r ∈ tracked.mgr.wantRecords) (right : tracked.ReducesRight caller r)
    (otherMember : other ∈ tracked.mgr.wantRecords) (ne : other ≠ r)
    (otherRight : tracked.ReducesRight caller other) :
    ReducesRight { tracked with
      mgr := tracked.mgr.removeRecord caller r
      cleared := tracked.cleared ++ [r] } caller other := by
  have after := booked.clear mem right
  have stays : other ∈ (tracked.mgr.removeRecord caller r).wantRecords := by
    rw [removeRecord_wantRecords]
    exact (mem_erase_of_ne ne).mpr otherMember
  constructor
  · rintro ⟨thirdParty, bundleName, bundle, entry⟩
    rw [bundleOf_removeRecord] at bundle
    refine ⟨stays, (otherRight.mp ⟨thirdParty, bundleName, bundle, fun empty => entry ?_⟩).2⟩
    rw [removeRecord_count, empty]
    split
    · rfl
    · rfl
  · rintro ⟨_, counted⟩
    obtain ⟨thirdParty, bundleName, bundle, _⟩ := otherRight.mpr ⟨otherMember, counted⟩
    refine ⟨thirdParty, bundleName, by simpa using bundle, fun empty => ?_⟩
    have zero := (after.number bundleName).eq_none_iff.mp empty
    rw [liveCounted, countP_eq_zero] at zero
    exact zero other stays (by simp [counted, bundle])

theorem pendingKey_bundleName (call : GetWantSenderCall Want) :
    (call.pendingKey api).bundleName = call.wantSenderInfo.bundleName := by
  have named : (call.info api).bundleName = call.wantSenderInfo.bundleName := by
    unfold info
    dsimp only
    split
    · rfl
    · rfl
  unfold pendingKey
  dsimp only
  split
  · exact named
  · exact named

variable {call : GetWantSenderCall Want}

theorem createRecord_eq (mgr : PendingWantManager Want) (allocated : call.allocated = true) :
    (mgr.createRecord api call).1 = { mgr.addWantAgentNumber call.caller (mgr.newRecord api call).key with
      lastCode := (mgr.addWantAgentNumber call.caller (mgr.newRecord api call).key).lastCode + 1
      records := mgr.records ++ [mgr.newRecord api call]
      wantRecords := mgr.wantRecords.take call.place ++
        mgr.records.length :: mgr.wantRecords.drop call.place } := by
  unfold createRecord
  rw [if_pos allocated]
  simp

theorem liveCounted_create (booked : tracked.Booked) (allocated : call.allocated = true)
    (bundleName : String) :
    liveCounted { tracked with
        mgr := (tracked.mgr.createRecord api call).1
        counted := if call.caller.isThirdParty then tracked.counted ++ [tracked.mgr.records.length]
          else tracked.counted } bundleName =
      tracked.liveCounted bundleName +
        if call.caller.isThirdParty = true ∧ bundleName = call.wantSenderInfo.bundleName then 1
        else 0 := by
  rw [createRecord_eq tracked.mgr allocated]
  have order := placed_perm tracked.mgr.wantRecords call.place tracked.mgr.records.length
  have unknown : tracked.mgr.records.length ∉ tracked.counted := fun mem =>
    Nat.lt_irrefl _ (booked.counted _ mem)
  simp only [liveCounted]
  rw [order.countP_eq, countP_cons]
  congr 1
  · apply countP_congr
    intro r mem
    have made := ((booked.held r).mp mem).1
    have other : r ≠ tracked.mgr.records.length := Nat.ne_of_lt made
    cases call.caller.isThirdParty with
    | false => simp [bundleOf, getElem?_append_left made]
    | true => simp [bundleOf, getElem?_append_left made, other]
  · have named : (tracked.mgr.newRecord api call).key.bundleName =
        call.wantSenderInfo.bundleName := pendingKey_bundleName call
    cases call.caller.isThirdParty with
    | false => simp [unknown]
    | true => simp [bundleOf, named, eq_comm]

theorem Booked.create (booked : tracked.Booked) (allocated : call.allocated = true)
    (room : tracked.CountsRight call) :
    Booked { tracked with
      mgr := (tracked.mgr.createRecord api call).1
      counted := if call.caller.isThirdParty then tracked.counted ++ [tracked.mgr.records.length]
        else tracked.counted } := by
  have order := placed_perm tracked.mgr.wantRecords call.place tracked.mgr.records.length
  have fresh : tracked.mgr.records.length ∉ tracked.mgr.wantRecords := fun mem =>
    Nat.lt_irrefl _ ((booked.held _).mp mem).1
  rw [createRecord_eq tracked.mgr allocated]
  constructor
  case once =>
    rw [order.nodup_iff, nodup_cons]
    exact ⟨fresh, booked.once⟩
  case held =>
    intro r
    dsimp only [Live]
    rw [order.mem_iff, mem_cons, booked.held, length_append, length_singleton]
    by_cases own : r = tracked.mgr.records.length
    · subst own
      have uncleared : tracked.mgr.records.length ∉ tracked.cleared := fun mem =>
        Nat.lt_irrefl _ (booked.cleared _ mem)
      simp [PendingWantManager.isCanceled, PendingWantManager.newRecord, uncleared]
    · rw [or_iff_right own, Live]
      constructor
      · rintro ⟨made, unmarked, uncleared⟩
        refine ⟨by omega, ?_, uncleared⟩
        rw [isCanceled, getElem?_append_left made]
        exact unmarked
      · rintro ⟨made, unmarked, uncleared⟩
        have earlier : r < tracked.mgr.records.length := by omega
        rw [isCanceled, getElem?_append_left earlier] at unmarked
        exact ⟨earlier, unmarked, uncleared⟩
  case counted =>
    intro r mem
    rw [length_append, length_singleton]
    split at mem
    · rcases mem_append.mp mem with earlier | own
      · exact lt_succ_of_lt (booked.counted r earlier)
      · exact Nat.lt_succ_of_le (Nat.le_of_eq (List.mem_singleton.mp own))
    · exact Nat.lt_succ_of_lt (booked.counted r mem)
  case cleared =>
    intro r mem
    rw [length_append, length_singleton]
    exact lt_succ_of_lt (booked.cleared r mem)
  case number =>
    intro bundleName
    have numbers := booked.number bundleName
    have named : (tracked.mgr.newRecord api call).key.bundleName =
        call.wantSenderInfo.bundleName := pendingKey_bundleName call
    obtain ⟨entry, added, counts⟩ := tracked.mgr.addWantAgentNumber_count call.caller
      (tracked.mgr.newRecord api call).key
    rw [<- createRecord_eq tracked.mgr allocated, liveCounted_create booked allocated,
      createRecord_eq tracked.mgr allocated]
    rw [counts, named]
    split
    next own =>
      rw [named, <- own.2] at added
      exact numbers.added (fun found isFound => room own.1 found (own.2 ▸ isFound)) added
    · exact numbers

theorem Booked.countsRight_cancel (booked : tracked.Booked)
    (found : tracked.mgr.bundleOf r = some call.wantSenderInfo.bundleName) :
    CountsRight { tracked with
      mgr := (tracked.mgr.makeWantSenderCanceledLocked api r).removeRecord call.caller r } call := by
  intro thirdParty entry isEntry last
  have same := mark_sameBooks api tracked.mgr r
  have before := booked.number call.wantSenderInfo.bundleName
  rw [removeRecord_count, same.bundle, if_pos ⟨thirdParty, found⟩, same.count] at isEntry
  cases was : tracked.mgr.wantAgentCount call.wantSenderInfo.bundleName with
  | none =>
    rw [was] at isEntry
    cases isEntry
  | some count =>
    rw [was] at before isEntry
    rw [bind_some, reduced] at isEntry
    split at isEntry
    · cases isEntry
    · cases isEntry
      have current := before.2
      have bound := count.currentNumber.toInt_lt
      have value : (count.currentNumber - 1).toInt = count.currentNumber.toInt - 1 := by
        rw [toInt_sub, toInt_one, Int.bmod_eq_of_le (by omega) (by omega)]
      dsimp only at last
      rw [last] at value
      have highest : maxValue.toInt = 2147483647 := rfl
      omega

theorem Booked.clearAll (booked : tracked.Booked) {uid : Int32}
    (right : ∀ r ∈ tracked.mgr.wantRecords, tracked.mgr.hasBundle api bundleName uid r = true ->
      tracked.ReducesRight caller r) :
    Booked { tracked with
      mgr := tracked.mgr.clearPendingWantRecordTask api caller bundleName uid
      cleared := tracked.cleared ++
        tracked.mgr.wantRecords.filter (tracked.mgr.hasBundle api bundleName uid) } := by
  have general (live : List Nat) (current : Tracked Want) (holds : current.Booked)
      (once : live.Nodup) (within : ∀ r ∈ live, r ∈ current.mgr.wantRecords)
      (allRight : ∀ r ∈ live, current.mgr.hasBundle api bundleName uid r = true ->
        current.ReducesRight caller r) :
      Booked { current with
        mgr := live.foldl (fun mgr r =>
          if mgr.hasBundle api bundleName uid r then mgr.removeRecord caller r else mgr) current.mgr
        cleared := current.cleared ++ live.filter (current.mgr.hasBundle api bundleName uid) } := by
    induction live generalizing current with
    | nil => simpa using holds
    | cons r rest ih =>
      obtain ⟨fresh, restOnce⟩ := nodup_cons.mp once
      have mem := within r mem_cons_self
      rw [foldl_cons, filter_cons]
      split
      next has =>
        have removed := holds.clear mem (allRight r mem_cons_self has)
        have sameBundle : (current.mgr.removeRecord caller r).hasBundle api bundleName uid =
            current.mgr.hasBundle api bundleName uid := by
          funext other
          rw [hasBundle, removeRecord_records]
          rfl
        have later := ih _ removed restOnce ?_ ?_
        · simpa only [has, if_true, sameBundle, append_assoc, singleton_append] using later
        · intro other inRest
          rw [removeRecord_wantRecords]
          have ne : other ≠ r := fun same => fresh (same ▸ inRest)
          exact (mem_erase_of_ne ne).mpr (within other (mem_cons_of_mem r inRest))
        · intro other inRest otherHas
          have ne : other ≠ r := fun same => fresh (same ▸ inRest)
          have isRest := mem_cons_of_mem r inRest
          exact holds.reducesRight_clear mem (allRight r mem_cons_self has)
            (within other isRest) ne (allRight other isRest (sameBundle ▸ otherHas))
      next has =>
        have later := ih current holds restOnce
          (fun other inRest => within other (mem_cons_of_mem r inRest))
          (fun other inRest => allRight other (mem_cons_of_mem r inRest))
        simpa only [has, if_false] using later
  exact general _ tracked booked booked.once (fun _ mem => mem) right

end Tracked

namespace PendingWantManager

variable {mgr after : PendingWantManager Want}

theorem Notifies.none (marks : ∀ r < mgr.records.length, after.isCanceled r = mgr.isCanceled r)
    (sent : after.canceledSent = mgr.canceledSent) : mgr.Notifies after where
  stays r marked := by rw [marks r (isCanceled_lt marked), marked]
  sent := by
    have empty : (range mgr.records.length).filter (fun r =>
        !mgr.isCanceled r && after.isCanceled r) = [] := by
      rw [filter_eq_nil_iff]
      intro r inside
      rw [marks r (mem_range.mp inside)]
      simp
    rw [sent, empty, flatMap_nil, append_nil]

theorem noticesOf_unmade {r : Nat} (unmade : ¬ r < mgr.records.length) : mgr.noticesOf r = [] := by
  rw [noticesOf, List.getElem?_eq_none (Nat.le_of_not_lt unmade)]
  rfl

theorem Notifies.one {r : Nat} (quiet : mgr.isCanceled r = true -> mgr.noticesOf r = [])
    (marks : ∀ other < mgr.records.length,
      after.isCanceled other = (mgr.isCanceled other || decide (other = r)))
    (sent : after.canceledSent = mgr.canceledSent ++ mgr.noticesOf r) : mgr.Notifies after where
  stays other marked := by rw [marks other (isCanceled_lt marked), marked, Bool.true_or]
  sent := by
    have newly : (range mgr.records.length).filter (fun other =>
        !mgr.isCanceled other && after.isCanceled other) =
          (range mgr.records.length).filter fun other =>
            !mgr.isCanceled r && decide (other = r) := by
      refine filter_congr fun other inside => ?_
      rw [marks other (mem_range.mp inside)]
      by_cases own : other = r
      · simp [own]
      · simp [own]
    rw [sent, newly]
    congr 1
    by_cases made : r < mgr.records.length
    · cases marked : mgr.isCanceled r with
      | true => simp [quiet marked]
      | false =>
        have only : (range mgr.records.length).filter (fun other => decide (other = r)) = [r] := by
          rw [filter_eq, count_eq_one_of_mem nodup_range (mem_range.mpr made)]
          rfl
        simp [only]
    · rw [noticesOf_unmade made, eq_comm, flatMap_eq_nil_iff]
      intro other mem
      have own : other = r := by simpa using (Bool.and_eq_true_iff.mp (mem_filter.mp mem).2).2
      rw [own]
      exact noticesOf_unmade made

theorem mark_canceledSent (api : WantApi Want) (mgr : PendingWantManager Want) (r : Nat) :
    (mgr.makeWantSenderCanceledLocked api r).canceledSent =
      mgr.canceledSent ++ mgr.noticesOf r := by
  unfold makeWantSenderCanceledLocked noticesOf
  cases mgr.records[r]? with
  | none => simp
  | some record => rfl

@[simp] theorem removeRecord_canceledSent (mgr : PendingWantManager Want) (caller : Caller)
    (r : Nat) : (mgr.removeRecord caller r).canceledSent = mgr.canceledSent := by
  unfold removeRecord
  cases mgr.records[r]? with
  | none => rfl
  | some record =>
    simp only [reduceWantAgentNumber, handleReduceWantAgentNumber]
    split
    · rfl
    · split
      · rfl
      · split
        · rfl
        · rfl

theorem addWantAgentNumber_canceledSent (mgr : PendingWantManager Want) (caller : Caller)
    (key : PendingWantKey Want) :
    (mgr.addWantAgentNumber caller key).canceledSent = mgr.canceledSent := by
  unfold addWantAgentNumber handleAddWantAgentNumber
  grind [setAgentCount, sendWantAgentNumberEvent]

theorem createOrReturn_canceledSent (mgr : PendingWantManager Want)
    (call : GetWantSenderCall Want) (ref : Option Nat) :
    (mgr.createOrReturn api call ref).1.canceledSent = mgr.canceledSent := by
  unfold createOrReturn createRecord
  split
  · split
    · exact addWantAgentNumber_canceledSent mgr call.caller _
    · rfl
  · rfl

theorem createOrReturn_isCanceled (mgr : PendingWantManager Want)
    (call : GetWantSenderCall Want) (ref : Option Nat) {r : Nat} (made : r < mgr.records.length) :
    (mgr.createOrReturn api call ref).1.isCanceled r = mgr.isCanceled r := by
  unfold createOrReturn createRecord
  split
  · split
    · simp [isCanceled, getElem?_append_left made]
    · rfl
  · rfl

theorem cancel_notifies {r : Nat} (caller : Caller)
    (quiet : mgr.isCanceled r = true -> mgr.noticesOf r = []) :
    mgr.Notifies ((mgr.makeWantSenderCanceledLocked api r).removeRecord caller r) := by
  refine .one quiet (fun other made => ?_) ?_
  · by_cases own : other = r
    · simp [own, own ▸ made]
    · simp [own]
  · rw [removeRecord_canceledSent, mark_canceledSent]

theorem Notifies.create {marked : PendingWantManager Want}
    (notifies : mgr.Notifies marked) (same : marked.records.length = mgr.records.length)
    (call : GetWantSenderCall Want) (ref : Option Nat) :
    mgr.Notifies (marked.createOrReturn api call ref).1 := by
  have marks : ∀ r < mgr.records.length,
      (marked.createOrReturn api call ref).1.isCanceled r = marked.isCanceled r :=
    fun r made => createOrReturn_isCanceled marked call ref (same ▸ made)
  constructor
  case stays =>
    intro r before
    rw [marks r (isCanceled_lt before)]
    exact notifies.stays r before
  case sent =>
    rw [createOrReturn_canceledSent, notifies.sent]
    congr 2
    refine filter_congr fun r inside => ?_
    rw [marks r (mem_range.mp inside)]

theorem cancelWantSenderLocked_records (mgr : PendingWantManager Want) (caller : Caller)
    (r : Nat) (cleanAbility : Bool) :
    (mgr.cancelWantSenderLocked api caller r cleanAbility).records.length = mgr.records.length := by
  unfold cancelWantSenderLocked
  split
  · simp [makeWantSenderCanceledLocked_records]
  · simp [makeWantSenderCanceledLocked_records]

end PendingWantManager

namespace Tracked

variable {tracked : Tracked Want}

structure Settled (api : WantApi Want) (tracked : Tracked Want) (event : Event Want) : Prop where
  booked : (tracked.step api event).Booked
  notifies : tracked.mgr.Notifies (event.apply api tracked.mgr)

variable {event : Event Want}

theorem settled_of_mgr (others : ∀ caller bundleName uid,
      event ≠ .operation (.clearPendingWantRecordTask caller bundleName uid))
    (same : (event.apply api tracked.mgr).records.length = tracked.mgr.records.length)
    (booked : Booked { tracked with mgr := event.apply api tracked.mgr })
    (notifies : tracked.mgr.Notifies (event.apply api tracked.mgr)) :
    Settled api tracked event := by
  refine ⟨?_, notifies⟩
  have step : tracked.step api event = { tracked with mgr := event.apply api tracked.mgr } := by
    unfold Tracked.step
    simp only [same, gt_iff_lt, Nat.lt_irrefl, decide_false, Bool.false_and, Bool.false_eq_true,
      if_false]
  rw [step]
  exact booked

theorem settled_unchanged (booked : tracked.Booked) (others : ∀ caller bundleName uid,
      event ≠ .operation (.clearPendingWantRecordTask caller bundleName uid))
    (unchanged : event.apply api tracked.mgr = tracked.mgr) : Settled api tracked event :=
  settled_of_mgr others (by rw [unchanged]) (by rw [unchanged]; exact booked)
    (by rw [unchanged]; exact .none (fun _ _ => rfl) rfl)

theorem settled_cancel (booked : tracked.Booked) (caller : Caller) (r : Nat)
    (others : ∀ caller bundleName uid,
      event ≠ .operation (.clearPendingWantRecordTask caller bundleName uid))
    (cancels : event.apply api tracked.mgr = tracked.mgr.cancelWantSenderLocked api caller r true)
    (right : tracked.CancelsRight caller r) : Settled api tracked event := by
  refine settled_of_mgr others ?_ ?_ ?_
  · rw [cancels, cancelWantSenderLocked_records]
  · rw [cancels]
    exact booked.cancel right.1
  · rw [cancels]
    exact cancel_notifies caller right.2

theorem settled_modify (booked : tracked.Booked) (r : Nat)
    (change : PendingWantRecord Want -> PendingWantRecord Want) (others : ∀ caller bundleName uid,
      event ≠ .operation (.clearPendingWantRecordTask caller bundleName uid))
    (modifies : event.apply api tracked.mgr = tracked.mgr.modifyRecord r change)
    (bundle : ∀ record, (change record).key.bundleName = record.key.bundleName)
    (marks : ∀ record, (change record).canceled = record.canceled) :
    Settled api tracked event := by
  have same := tracked.mgr.modifyRecord_sameBooks r change bundle
  have sameMarks : ∀ other, (tracked.mgr.modifyRecord r change).isCanceled other =
      tracked.mgr.isCanceled other := by
    intro other
    simp only [isCanceled, modifyRecord, getElem?_modify]
    cases tracked.mgr.records[other]? with
    | none => rfl
    | some record => by_cases own : r = other <;> simp [own, marks]
  refine settled_of_mgr others ?_ ?_ ?_
  · rw [modifies, same.records]
  · rw [modifies]
    exact booked.sameBooks same sameMarks
  · rw [modifies]
    exact .none (fun other _ => sameMarks other) rfl

theorem settled_create {call : GetWantSenderCall Want}
    {base : PendingWantManager Want} {ref : Option Nat}
    (creates : (tracked.mgr.getWantSender api call).1 = (base.createOrReturn api call ref).1)
    (baseBooked : Booked { tracked with mgr := base })
    (same : base.records.length = tracked.mgr.records.length)
    (notifies : tracked.mgr.Notifies base)
    (room : call.needCreate = true -> call.allocated = true ->
      CountsRight { tracked with mgr := base } call) :
    Settled api tracked (.operation (.getWantSender call)) := by
  refine ⟨?_, ?_⟩
  · have step : tracked.step api (.operation (.getWantSender call)) = { tracked with
        mgr := (base.createOrReturn api call ref).1
        counted :=
          if (base.createOrReturn api call ref).1.records.length > base.records.length &&
              call.caller.isThirdParty then tracked.counted ++ [base.records.length]
          else tracked.counted } := by
      unfold Tracked.step
      simp only [Event.apply, apply, creates, Event.isThirdParty, same]
    rw [step]
    by_cases make : call.needCreate = true ∧ call.allocated = true
    · have made : (base.createOrReturn api call ref).1 = (base.createRecord api call).1 := by
        rw [createOrReturn, if_pos make.1]
      have grown : (base.createRecord api call).1.records.length > base.records.length := by
        rw [createRecord_eq base make.2]
        simp
      rw [made]
      simp only [grown, decide_true, Bool.true_and]
      exact baseBooked.create make.2 (room make.1 make.2)
    · have unmade : (base.createOrReturn api call ref).1 = base := by
        unfold createOrReturn createRecord
        by_cases create : call.needCreate = true
        · have refused : ¬ call.allocated = true := fun allocated => make ⟨create, allocated⟩
          rw [if_pos create, if_neg refused]
        · rw [if_neg create]
      rw [unmade]
      simpa using baseBooked
  · change tracked.mgr.Notifies (tracked.mgr.getWantSender api call).1
    rw [creates]
    exact notifies.create same call ref

theorem settled_getWantSender (booked : tracked.Booked) (call : GetWantSenderCall Want)
    (meets : tracked.Meets api (.operation (.getWantSender call))) :
    Settled api tracked (.operation (.getWantSender call)) := by
  by_cases permitted : call.isPermitted = true
  · have required := meets permitted
    have locked : (tracked.mgr.getWantSender api call).1 =
        (tracked.mgr.getWantSenderLocked api call).1 := by
      rw [getWantSender, if_pos permitted]
    unfold getWantSenderLocked at locked
    cases found : tracked.mgr.getPendingWantRecordByKey api (call.pendingKey api) with
    | none =>
      rw [found] at locked required
      exact settled_create locked booked rfl (.none (fun _ _ => rfl) rfl) required
    | some r =>
      rw [found] at locked required
      dsimp only at locked required
      have mem : r ∈ tracked.mgr.wantRecords := mem_of_find?_eq_some found
      split at locked
      next cancels =>
        have right := required cancels
        have live := (booked.held r).mp mem
        have quiet : tracked.mgr.isCanceled r = true -> tracked.mgr.noticesOf r = [] := by
          rw [live.2.1]
          exact fun marked => by cases marked
        refine settled_create locked (booked.cancel right) ?_ (cancel_notifies call.caller quiet) ?_
        · simp [makeWantSenderCanceledLocked_records]
        · intro _ _
          refine booked.countsRight_cancel ?_
          obtain ⟨record, known, same⟩ := (getPendingWantRecordByKey_some found).2
          rw [bundleOf, known, map_some, (matches_iff.mp same).2.1, pendingKey_bundleName]
      · split at locked
        · unfold updatePresent at locked
          split at locked
          · exact settled_unchanged booked (by simp) locked
          · exact settled_modify booked _ _ (by simp) locked (fun _ => rfl) (fun _ => rfl)
        · exact settled_unchanged booked (by simp) locked
  · refine settled_unchanged booked (by simp) ?_
    change (tracked.mgr.getWantSender api call).1 = tracked.mgr
    rw [getWantSender, if_neg permitted]

theorem settled_clear (booked : tracked.Booked) (caller : Caller) (bundleName : String)
    (uid : Int32)
    (meets : tracked.Meets api (.operation (.clearPendingWantRecordTask caller bundleName uid))) :
    Settled api tracked (.operation (.clearPendingWantRecordTask caller bundleName uid)) := by
  have records : (tracked.mgr.clearPendingWantRecordTask api caller bundleName uid).records =
        tracked.mgr.records ∧
      (tracked.mgr.clearPendingWantRecordTask api caller bundleName uid).canceledSent =
        tracked.mgr.canceledSent := by
    refine clear_induction api
      (fun mgr => mgr.records = tracked.mgr.records ∧ mgr.canceledSent = tracked.mgr.canceledSent)
      caller bundleName uid ⟨rfl, rfl⟩ fun mgr r same => ?_
    rw [removeRecord_records, removeRecord_canceledSent]
    exact same
  refine ⟨?_, ?_⟩
  · have cleared := booked.clearAll meets
    simpa [Tracked.step, Event.apply, apply, records.1] using cleared
  · refine .none (fun r _ => ?_) records.2
    change (tracked.mgr.clearPendingWantRecordTask api caller bundleName uid).isCanceled r = _
    rw [isCanceled, records.1]
    rfl

theorem settled_senderInner (booked : tracked.Booked) (caller : Caller) (r : Nat)
    (managerAlive : Bool)
    (meets : tracked.Meets api (.operation (.senderInner caller r managerAlive))) :
    Settled api tracked (.operation (.senderInner caller r managerAlive)) := by
  cases found : tracked.mgr.records[r]? with
  | none =>
    refine settled_unchanged booked (by simp) ?_
    simp [Event.apply, apply, senderInner, found]
  | some record =>
    by_cases sends : record.canceled = false ∧ managerAlive = true ∧
        has record.key.flags oneTimeFlag = true
    · have unmarked : tracked.mgr.isCanceled r = false := by
        simp [isCanceled, found, sends.1]
      have oneTime : tracked.mgr.isOneTime r = true := by
        simp [isOneTime, found, sends.2.2]
      refine settled_cancel booked caller r (by simp) ?_ ⟨meets unmarked sends.2.1 oneTime, ?_⟩
      · simp [Event.apply, apply, senderInner, found, sends]
      · rw [unmarked]
        exact fun marked => by cases marked
    · refine settled_unchanged booked (by simp) ?_
      simp only [Event.apply, apply, senderInner, found]
      grind

theorem settled_of_meets (booked : tracked.Booked) (event : Event Want)
    (meets : tracked.Meets api event) : Settled api tracked event := by
  cases event with
  | completeOneTime caller r =>
    by_cases oneTime : tracked.mgr.isOneTime r = true
    · exact settled_cancel booked caller r (by simp) (if_pos oneTime) (meets oneTime)
    · exact settled_unchanged booked (by simp) (if_neg oneTime)
  | operation call =>
    cases call with
    | getWantSender call => exact settled_getWantSender booked call meets
    | cancelWantSender caller isSystemAppCall sender =>
      cases sender with
      | none => exact settled_unchanged booked (by simp) rfl
      | some r =>
        by_cases allowed : caller.isSACall = true ∨ isSystemAppCall = true
        · refine settled_cancel booked caller r (by simp) ?_ (meets allowed r rfl)
          have passed : ¬ ((!caller.isSACall && !isSystemAppCall) = true) := by
            simpa [or_iff_not_imp_left] using allowed
          exact if_neg passed
        · refine settled_unchanged booked (by simp) ?_
          have refused : (!caller.isSACall && !isSystemAppCall) = true := by
            simpa using allowed
          exact if_pos refused
    | senderInner caller r managerAlive =>
      exact settled_senderInner booked caller r managerAlive meets
    | registerCancelListener sender receiver =>
      cases found : tracked.mgr.records[sender]?.bind fun target =>
          tracked.mgr.getPendingWantRecordByCode target.key.code with
      | none =>
        refine settled_unchanged booked (by simp) ?_
        simp [Event.apply, apply, registerCancelListener, found]
      | some r =>
        refine settled_modify booked r (fun record =>
          if record.canceled then record
          else { record with mCancelCallbacks := record.mCancelCallbacks ++ [receiver] })
          (by simp) ?_ ?_ ?_
        · simp [Event.apply, apply, registerCancelListener, found]
        · intro record
          split
          · rfl
          · rfl
        · intro record
          split
          · rfl
          · rfl
    | unregisterCancelListener sender receiver =>
      cases found : tracked.mgr.records[sender]?.bind fun target =>
          tracked.mgr.getPendingWantRecordByCode target.key.code with
      | none =>
        refine settled_unchanged booked (by simp) ?_
        simp [Event.apply, apply, unregisterCancelListener, found]
      | some r =>
        refine settled_modify booked r (fun record =>
          { record with mCancelCallbacks := record.mCancelCallbacks.erase receiver })
          (by simp) ?_ (fun _ => rfl) (fun _ => rfl)
        simp [Event.apply, apply, unregisterCancelListener, found]
    | clearPendingWantRecordTask caller bundleName uid =>
      exact settled_clear booked caller bundleName uid meets

end Tracked

theorem want_agents_accounted (api : WantApi Want) (events : List (Event Want))
    (every : (trackedMachine api).EveryStep events (Tracked.Meets api)) :
    (trackedMachine api).Throughout events Tracked.Accounted ∧
      (trackedMachine api).EveryStep events fun tracked event =>
        tracked.mgr.Notifies (event.apply api tracked.mgr) := by
  have booked : (trackedMachine api).Throughout events Tracked.Booked := by
    refine every.throughout ?_ fun _ event before meets =>
      (Tracked.settled_of_meets before event meets).booked
    exact {
      once := nodup_nil
      held := by simp [trackedMachine, Tracked.Live]
      counted := by simp [trackedMachine]
      cleared := by simp [trackedMachine]
      number := by simp [trackedMachine, Agrees, Tracked.liveCounted] }
  constructor
  · exact fun done rest split => (booked done rest split).accounted
  · intro done event rest split
    exact (Tracked.settled_of_meets (booked done (event :: rest) split) event
      (every done event rest split)).notifies

theorem want_agents_accounted_one_time :
    (trackedMachine bundleWants).Throughout
        [.operation (.getWantSender (shopAgent oneTimeFlag)),
          .operation (.registerCancelListener 0 9), .completeOneTime {} 0] Tracked.Accounted ∧
      (trackedMachine bundleWants).EveryStep
        [.operation (.getWantSender (shopAgent oneTimeFlag)),
          .operation (.registerCancelListener 0 9), .completeOneTime {} 0]
        fun tracked event => tracked.mgr.Notifies (event.apply bundleWants tracked.mgr) := by
  refine want_agents_accounted bundleWants _ (Library.Machine.StepsFrom.everyStep ⟨?_, ?_, ?_, trivial⟩)
  · exact fun _ _ _ _ count found => by cases found
  · trivial
  · refine fun _ => ⟨⟨fun _ => ⟨by decide, by decide⟩, fun _ => ?_⟩, fun marked => by cases marked⟩
    exact ⟨rfl, "com.example.shop", rfl, by decide⟩

theorem want_agents_miscounted :
    ¬ (trackedMachine bundleWants).Throughout
        [.operation (.getWantSender (shopAgent oneTimeFlag)),
          .operation (.cancelWantSender { isSystemAppCall := true } true (some 0))]
        Tracked.Accounted ∧
      ¬ (trackedMachine bundleWants).EveryStep
        [.operation (.getWantSender (shopAgent oneTimeFlag)),
          .operation (.registerCancelListener 0 9),
          .operation (.cancelWantSender { isSystemAppCall := true } true (some 0)),
          .operation (.cancelWantSender { isSystemAppCall := true } true (some 0))]
        fun tracked event => tracked.mgr.Notifies (event.apply bundleWants tracked.mgr) := by
  constructor
  · intro throughout
    have number := (throughout _ [] (append_nil _).symm).number "com.example.shop"
    revert number
    decide
  · intro every
    have sent := (every [.operation (.getWantSender (shopAgent oneTimeFlag)),
      .operation (.registerCancelListener 0 9),
      .operation (.cancelWantSender { isSystemAppCall := true } true (some 0))]
      (.operation (.cancelWantSender { isSystemAppCall := true } true (some 0))) [] rfl).sent
    revert sent
    decide

end AbilityRuntime.PendingWant
