import AbilityRuntime.Library.Locks
import AbilityRuntime.PendingWant.Sending
import AbilityRuntime.PendingWant.Uniqueness

set_option autoImplicit false

namespace AbilityRuntime.PendingWant

open List Library Thread Function PendingWant.System PendingWantManager

variable {Want : Type} {api : WantApi Want}

namespace PendingWantManager

structure KeepsMarks (before after : PendingWantManager Want) : Prop where
  length : before.records.length ≤ after.records.length
  canceled : ∀ r, before.isCanceled r = true -> after.isCanceled r = true
  oneTime : ∀ r < before.records.length, after.isOneTime r = before.isOneTime r

/-- The records of the map exist, stand there once and, those being removed apart, are not
cancelled. -/
structure Live (mgr : PendingWantManager Want) (removing : Nat -> Prop) : Prop where
  made : ∀ r ∈ mgr.wantRecords, r < mgr.records.length
  nodup : mgr.wantRecords.Nodup
  canceled : ∀ r ∈ mgr.wantRecords, mgr.isCanceled r = true -> removing r

variable {mgr before after : PendingWantManager Want} {removing : Nat -> Prop}

theorem KeepsMarks.trans {middle : PendingWantManager Want} (first : before.KeepsMarks middle)
    (second : middle.KeepsMarks after) : before.KeepsMarks after where
  length := Nat.le_trans first.length second.length
  canceled r marked := second.canceled r (first.canceled r marked)
  oneTime r made :=
    (second.oneTime r (Nat.lt_of_lt_of_le made first.length)).trans (first.oneTime r made)

theorem KeepsMarks.of_records (same : after.records = before.records) : before.KeepsMarks after where
  length := Nat.le_of_eq (by rw [same])
  canceled r marked := by rw [isCanceled, same]; exact marked
  oneTime r _ := by rw [isOneTime, isOneTime, same]

theorem isCanceled_lt {r : Nat} (marked : mgr.isCanceled r = true) : r < mgr.records.length := by
  obtain ⟨record, found, _⟩ := (Option.any_eq_true _ _).mp marked
  exact (List.getElem?_eq_some_iff.mp found).1

@[simp] theorem isCanceled_mark (r other : Nat) :
    (mgr.makeWantSenderCanceledLocked api r).isCanceled other =
      (mgr.isCanceled other || decide (other = r ∧ r < mgr.records.length)) := by
  rw [isCanceled, makeWantSenderCanceledLocked_records, getElem?_modify]
  by_cases same : r = other
  · subst same
    by_cases made : r < mgr.records.length <;> simp [isCanceled, made]
  · simp [isCanceled, same, Ne.symm same]

theorem mark_keepsMarks (api : WantApi Want) (mgr : PendingWantManager Want) (r : Nat) :
    mgr.KeepsMarks (mgr.makeWantSenderCanceledLocked api r) where
  length := by simp [makeWantSenderCanceledLocked_records]
  canceled other marked := by simp [marked]
  oneTime other _ := by
    rw [isOneTime, makeWantSenderCanceledLocked_records, getElem?_modify, isOneTime]
    cases mgr.records[other]? with
    | none => rfl
    | some record =>
      by_cases same : r = other <;> simp [same, apply_ite, PendingWantKey.clearAllWantsInfosFd]

theorem removeRecord_keepsMarks (mgr : PendingWantManager Want) (caller : Caller) (r : Nat) :
    mgr.KeepsMarks (mgr.removeRecord caller r) :=
  KeepsMarks.of_records (removeRecord_records mgr caller r)

theorem Live.mark (live : mgr.Live removing) (r : Nat) :
    (mgr.makeWantSenderCanceledLocked api r).Live fun other => removing other ∨ other = r where
  made other mem := by
    simpa [makeWantSenderCanceledLocked_records] using live.made other (by simpa using mem)
  nodup := by simpa using live.nodup
  canceled other mem marked := by
    simp only [isCanceled_mark, Bool.or_eq_true, decide_eq_true_eq] at marked
    rcases marked with earlier | ⟨same, _⟩
    · exact .inl (live.canceled other (by simpa using mem) earlier)
    · exact .inr same

theorem Live.remove (live : mgr.Live removing) (caller : Caller) (r : Nat) :
    (mgr.removeRecord caller r).Live fun other => removing other ∧ other ≠ r where
  made other mem := by
    simp only [removeRecord_wantRecords] at mem
    simpa using live.made other (mem_of_mem_erase mem)
  nodup := by simpa using live.nodup.erase r
  canceled other mem marked := by
    rw [removeRecord_wantRecords, live.nodup.mem_erase_iff] at mem
    exact ⟨live.canceled other mem.2 (by simpa [isCanceled] using marked), mem.1⟩

theorem Live.weaken (live : mgr.Live removing) {wider : Nat -> Prop}
    (weaker : ∀ r, removing r -> wider r) : mgr.Live wider where
  __ := live
  canceled r mem marked := weaker r (live.canceled r mem marked)

theorem createRecord_keepsMarks (api : WantApi Want) (mgr : PendingWantManager Want) (call : GetWantSenderCall Want) :
    mgr.KeepsMarks (mgr.createRecord api call).1 := by
  have old (r : Nat) (made : r < mgr.records.length) :
      (mgr.createRecord api call).1.records[r]? = mgr.records[r]? := by
    unfold createRecord
    split
    · simp [getElem?_append_left made]
    · rfl
  constructor
  case length =>
    unfold createRecord
    split <;> simp
  case canceled =>
    intro r marked
    rw [isCanceled, old r (isCanceled_lt marked)]
    exact marked
  case oneTime =>
    intro r made
    rw [isOneTime, old r made, isOneTime]

@[simp] theorem isCanceled_updatePresent (r other : Nat) (call : GetWantSenderCall Want) :
    (mgr.updatePresent api r call).isCanceled other = mgr.isCanceled other := by
  unfold updatePresent
  split
  · rfl
  · simp only [isCanceled, modifyRecord, getElem?_modify]
    cases mgr.records[other]? with
    | none => rfl
    | some record => by_cases same : r = other <;> simp [same]

theorem updatePresent_keepsMarks (api : WantApi Want) (mgr : PendingWantManager Want) (r : Nat)
    (call : GetWantSenderCall Want) : mgr.KeepsMarks (mgr.updatePresent api r call) where
  length := by
    unfold updatePresent
    split <;> simp [modifyRecord]
  canceled other marked := by simpa using marked
  oneTime other _ := by
    unfold updatePresent
    split
    · rfl
    · simp only [isOneTime, modifyRecord, getElem?_modify]
      cases mgr.records[other]? with
      | none => rfl
      | some record => by_cases same : r = other <;> simp [same]

theorem createOrReturn_keepsMarks (api : WantApi Want) (mgr : PendingWantManager Want) (call : GetWantSenderCall Want)
    (ref : Option Nat) : mgr.KeepsMarks (mgr.createOrReturn api call ref).1 := by
  unfold createOrReturn
  split
  · exact createRecord_keepsMarks api mgr call
  · exact KeepsMarks.of_records rfl

theorem Live.create (live : mgr.Live removing) (call : GetWantSenderCall Want) (ref : Option Nat) :
    (mgr.createOrReturn api call ref).1.Live removing := by
  unfold createOrReturn createRecord
  split_ifs
  case neg => exact live
  case neg => exact live
  case pos =>
    have order := placed_perm mgr.wantRecords call.place mgr.records.length
    constructor
    case made =>
      simp only [addWantAgentNumber_wantRecords, addWantAgentNumber_records, length_append,
        length_singleton]
      intro r mem
      rcases mem_cons.mp (order.mem_iff.mp mem) with rfl | old
      · omega
      · have made := live.made r old
        omega
    case nodup =>
      simp only [addWantAgentNumber_wantRecords]
      rw [order.nodup_iff, nodup_cons]
      exact ⟨fun old => Nat.lt_irrefl _ (live.made _ old), live.nodup⟩
    case canceled =>
      simp only [addWantAgentNumber_wantRecords, addWantAgentNumber_records, isCanceled]
      intro r mem marked
      rcases mem_cons.mp (order.mem_iff.mp mem) with rfl | old
      · simp [newRecord] at marked
      · rw [getElem?_append_left (live.made r old)] at marked
        exact live.canceled r old marked

theorem Live.update (live : mgr.Live removing) (r : Nat) (call : GetWantSenderCall Want) :
    (mgr.updatePresent api r call).Live removing := by
  have same : (mgr.updatePresent api r call).wantRecords = mgr.wantRecords := by
    unfold updatePresent
    split <;> rfl
  constructor
  case made =>
    intro other mem
    have made := live.made other (same ▸ mem)
    exact Nat.lt_of_lt_of_le made (updatePresent_keepsMarks api mgr r call).length
  case nodup => exact same ▸ live.nodup
  case canceled =>
    intro other mem marked
    exact live.canceled other (same ▸ mem) (by simpa using marked)

theorem clear_keepsMarks (api : WantApi Want) (mgr : PendingWantManager Want) (caller : Caller)
    (bundleName : String) (uid : Int32) :
    mgr.KeepsMarks (mgr.clearPendingWantRecordTask api caller bundleName uid) := by
  apply clear_induction api mgr.KeepsMarks caller bundleName uid (.of_records rfl)
  exact fun current r keeps => keeps.trans (removeRecord_keepsMarks current caller r)

theorem Live.clear (live : mgr.Live removing) (api : WantApi Want) (caller : Caller)
    (bundleName : String) (uid : Int32) :
    (mgr.clearPendingWantRecordTask api caller bundleName uid).Live removing := by
  apply clear_induction api (fun mgr => mgr.Live removing) caller bundleName uid live
  exact fun current r live => (live.remove caller r).weaken fun _ => And.left

end PendingWantManager

def SendPlace.afterTest : SendPlace -> Prop
  | .begun | .locked => False
  | .passed | .canceling | .marked | .ready | .executed => True

def SendPlace.beforeOperation : SendPlace -> Prop
  | .passed | .canceling | .marked | .ready => True
  | .begun | .locked | .executed => False

def SendPlace.afterMark : SendPlace -> Prop
  | .marked | .ready => True
  | .begun | .locked | .passed | .canceling | .executed => False

namespace Thread

def HoldsMutex : Thread Want -> Unit -> Prop
  | .send _ _ _ .canceling, _ | .send _ _ _ .marked, _ => True
  | .cancelLocked _ _, _ | .cancelMarked _ _, _ | .getLocked _, _ | .getMarked _ _ _, _ => True
  | _, _ => False

def HoldsLock : Thread Want -> Nat -> Prop
  | .send _ _ _ .begun, _ => False
  | .send _ r _ _, lock => lock = r
  | _, _ => False

def Removes : Thread Want -> Nat -> Prop
  | .send _ r _ .marked, other | .cancelMarked _ r, other | .getMarked _ r _, other => other = r
  | _, _ => False

end Thread

def executions (executed : List Executed) (r : Nat) : Nat :=
  executed.countP fun entry => entry.r == r

def Answer.Fits (answer : Answer) : Prop :=
  answer.created = false -> answer.canceledWhenFound = false ∧
    (answer.cancelPresent = false -> answer.canceledWhenReturned = false)

def Thread.Fits (mgr : PendingWantManager Want) (executed : List Executed) : Thread Want -> Prop
  | .send _ r canceledAtBegin place =>
    r < mgr.records.length ∧ (canceledAtBegin = true -> mgr.isCanceled r = true) ∧
      (place.afterTest -> canceledAtBegin = false) ∧
      (mgr.isOneTime r = true ->
        (place.beforeOperation -> executions executed r = 0) ∧
        (place.afterMark -> mgr.isCanceled r = true))
  | .getMarked call _ canceledWhenFound => call.needCancel = true ∧ canceledWhenFound = false
  | _ => True

namespace System

variable {sys : System Want} {thread : Nat} {state : Thread Want}

def Removing (threads : Nat -> Thread Want) (r : Nat) : Prop :=
  ∃ thread, (threads thread).Removes r

structure Invariant (sys : System Want) : Prop where
  mutex : Held HoldsMutex sys.threads fun _ => sys.mutex
  lock : Held HoldsLock sys.threads sys.lock
  live : sys.mgr.Live (Removing sys.threads)
  fits : ∀ thread, (sys.threads thread).Fits sys.mgr sys.executed
  oneTime : ∀ r, sys.mgr.isOneTime r = true ->
    (sys.mgr.isCanceled r = false -> executions sys.executed r = 0) ∧ executions sys.executed r ≤ 1
  executed : ∀ entry ∈ sys.executed,
    entry.r < sys.mgr.records.length ∧ entry.canceledAtBegin = false
  answers : ∀ answer ∈ sys.answers, answer.Fits

theorem removes_holdsMutex {r : Nat} (removes : state.Removes r) : state.HoldsMutex () := by
  unfold Removes at removes
  split at removes <;> simp_all [HoldsMutex]

theorem Invariant.not_removing (inv : sys.Invariant) (holds : (sys.threads thread).HoldsMutex ())
    (none : ∀ r, ¬ (sys.threads thread).Removes r) (r : Nat) : ¬ Removing sys.threads r := by
  rintro ⟨other, removes⟩
  obtain rfl := inv.mutex.unique (removes_holdsMutex removes) holds
  exact none r removes

theorem Invariant.not_removing_free (inv : sys.Invariant) (free : sys.mutex = none) (r : Nat) :
    ¬ Removing sys.threads r := by
  rintro ⟨other, removes⟩
  exact inv.mutex.nobody free (removes_holdsMutex removes)

theorem Invariant.removing_only (inv : sys.Invariant) {r other : Nat}
    (holds : (sys.threads thread).HoldsMutex ()) (only : ∀ r', (sys.threads thread).Removes r' -> r' = r)
    (removing : Removing sys.threads other) : other = r := by
  obtain ⟨thread', removes⟩ := removing
  obtain rfl := inv.mutex.unique (removes_holdsMutex removes) holds
  exact only other removes

theorem Removing.update {r : Nat} (removing : Removing sys.threads r)
    (own : (sys.threads thread).Removes r -> state.Removes r) :
    Removing (update sys.threads thread state) r := by
  obtain ⟨other, removes⟩ := removing
  by_cases moved : other = thread
  · subst moved
    exact ⟨other, by simpa using own removes⟩
  · exact ⟨other, by simpa [moved] using removes⟩

theorem removing_self {r : Nat} (removes : state.Removes r) :
    Removing (update sys.threads thread state) r :=
  ⟨thread, by simpa using removes⟩

theorem Fits.keeps {mgr : PendingWantManager Want} {executed : List Executed}
    (fits : state.Fits sys.mgr executed) (keeps : sys.mgr.KeepsMarks mgr) :
    state.Fits mgr executed := by
  cases state with
  | send caller r canceledAtBegin place =>
    obtain ⟨made, began, tested, oneTime⟩ := fits
    refine ⟨Nat.lt_of_lt_of_le made keeps.length, fun at' => keeps.canceled r (began at'), tested, ?_⟩
    intro flagged
    rw [keeps.oneTime r made] at flagged
    exact ⟨(oneTime flagged).1, fun after => keeps.canceled r ((oneTime flagged).2 after)⟩
  | getMarked call r canceledWhenFound => exact fits
  | _ => trivial

section

variable (inv : sys.Invariant)
include inv

theorem Invariant.move {mgr : PendingWantManager Want} {mutex : Option Nat}
    {lock : Nat -> Option Nat} {answers : List Answer} (keeps : sys.mgr.KeepsMarks mgr)
    (mutexHeld : Held HoldsMutex (update sys.threads thread state) fun _ => mutex)
    (lockHeld : Held HoldsLock (update sys.threads thread state) lock)
    (live : mgr.Live (Removing (update sys.threads thread state)))
    (fits : state.Fits mgr sys.executed) (answersFit : ∀ answer ∈ answers, answer.Fits) :
    Invariant { sys with
      mgr := mgr
      threads := update sys.threads thread state
      mutex := mutex
      lock := lock
      answers := answers } where
  mutex := mutexHeld
  lock := lockHeld
  live := live
  fits other := by
    by_cases moved : other = thread
    · simpa [moved] using fits
    · simpa [moved] using Fits.keeps (inv.fits other) keeps
  oneTime r flagged := by
    by_cases made : r < sys.mgr.records.length
    · rw [keeps.oneTime r made] at flagged
      obtain ⟨unmarked, once⟩ := inv.oneTime r flagged
      refine ⟨fun clear => unmarked ?_, once⟩
      by_contra marked
      simp [keeps.canceled r (by simpa using marked)] at clear
    · -- nothing was executed for a record that had not been made
      have never : executions sys.executed r = 0 := by
        refine countP_eq_zero.mpr fun entry mem same => made ?_
        rw [<- eq_of_beq same]
        exact (inv.executed entry mem).1
      simp [never]
  executed entry mem :=
    ⟨Nat.lt_of_lt_of_le (inv.executed entry mem).1 keeps.length, (inv.executed entry mem).2⟩
  answers := answersFit

theorem Invariant.goTo (sameMutex : state.HoldsMutex () ↔ (sys.threads thread).HoldsMutex ())
    (sameLock : ∀ r, state.HoldsLock r ↔ (sys.threads thread).HoldsLock r)
    (removes : ∀ r, (sys.threads thread).Removes r -> state.Removes r)
    (fits : state.Fits sys.mgr sys.executed) : (sys.goTo thread state).Invariant :=
  inv.move (.of_records rfl) (inv.mutex.keep fun _ => sameMutex) (inv.lock.keep sameLock)
    (inv.live.weaken fun r removing => removing.update (removes r)) fits inv.answers

theorem Invariant.takeMutex (without : ¬ (sys.threads thread).HoldsMutex ())
    (takes : state.HoldsMutex ())
    (sameLock : ∀ r, state.HoldsLock r ↔ (sys.threads thread).HoldsLock r)
    (fits : state.Fits sys.mgr sys.executed) : (sys.takeMutex thread state).Invariant := by
  unfold System.takeMutex
  split
  case isFalse => exact inv
  case isTrue free =>
    refine inv.move (.of_records rfl) (inv.mutex.takeOnly free takes) (inv.lock.keep sameLock)
      (inv.live.weaken fun r removing => removing.update fun own => ?_) fits inv.answers
    exact absurd (removes_holdsMutex own) without

theorem Invariant.mark {r : Nat} (holds : (sys.threads thread).HoldsMutex ())
    (none : ∀ r, ¬ (sys.threads thread).Removes r) (removes : state.Removes r)
    (sameLock : ∀ r, state.HoldsLock r ↔ (sys.threads thread).HoldsLock r)
    (fits : state.Fits (sys.mgr.makeWantSenderCanceledLocked api r) sys.executed) :
    Invariant { sys.goTo thread state with mgr := sys.mgr.makeWantSenderCanceledLocked api r } := by
  refine inv.move (mark_keepsMarks api sys.mgr r) (inv.mutex.keep fun _ => ?_)
    (inv.lock.keep sameLock) ((inv.live.mark r).weaken fun other marked => ?_) fits inv.answers
  · simp [holds, removes_holdsMutex removes]
  · rcases marked with earlier | rfl
    · exact absurd earlier (inv.not_removing holds none other)
    · exact removing_self removes

theorem Invariant.leave {mgr : PendingWantManager Want} {answers : List Answer}
    (holds : (sys.threads thread).HoldsMutex ()) (leaves : ¬ state.HoldsMutex ())
    (sameLock : ∀ r, state.HoldsLock r ↔ (sys.threads thread).HoldsLock r)
    (keeps : sys.mgr.KeepsMarks mgr) (live : mgr.Live fun _ => False)
    (fits : state.Fits mgr sys.executed) (answersFit : ∀ answer ∈ answers, answer.Fits) :
    Invariant { sys.leave thread mgr state with answers := answers } :=
  inv.move keeps (inv.mutex.releaseOnly holds leaves) (inv.lock.keep sameLock)
    (live.weaken fun _ => False.elim) fits answersFit

theorem Invariant.unlock {r : Nat}
    (holds : ∀ other, (sys.threads thread).HoldsLock other ↔ other = r)
    (without : ¬ (sys.threads thread).HoldsMutex ()) : (sys.unlock thread r).Invariant := by
  refine inv.move (.of_records rfl) (inv.mutex.keep fun _ => ?_) ?_
    (inv.live.weaken fun other removing => removing.update fun own => ?_) trivial inv.answers
  · exact iff_of_false id without
  · refine inv.lock.release r ((holds r).mpr rfl) fun other => ?_
    exact iff_of_false id fun held => held.1 ((holds other).mp held.2)
  · exact absurd (removes_holdsMutex own) without

end

theorem executions_append (executed : List Executed) (entry : Executed) (r : Nat) :
    executions (executed ++ [entry]) r = executions executed r + if entry.r = r then 1 else 0 := by
  simp [executions, countP_cons]

section

variable (inv : sys.Invariant)
include inv

theorem Invariant.execute {caller : Caller} {r : Nat} (operation : Operation)
    (here : sys.threads thread = .send caller r false .executed)
    (once : sys.mgr.isOneTime r = true ->
      executions sys.executed r = 0 ∧ sys.mgr.isCanceled r = true) :
    Invariant { sys with executed := sys.executed ++ [⟨r, operation, false⟩] } where
  __ := inv
  fits other := by
    have before := inv.fits other
    cases there : sys.threads other with
    | send caller' r' canceledAtBegin place =>
      rw [there] at before
      obtain ⟨made, began, tested, oneTime⟩ := before
      refine ⟨made, began, tested, fun flagged => ⟨fun early => ?_, (oneTime flagged).2⟩⟩
      rw [executions_append, if_neg, (oneTime flagged).1 early]
      rintro rfl
      have mine : (sys.threads thread).HoldsLock r := by simp [here, HoldsLock]
      have theirs : (sys.threads other).HoldsLock r := by
        cases place <;> simp_all [HoldsLock, SendPlace.beforeOperation]
      obtain rfl := inv.lock.unique mine theirs
      cases here.symm.trans there
      exact early
    | getMarked call r' canceledWhenFound =>
      rw [there] at before
      exact before
    | _ => trivial
  oneTime other flagged := by
    obtain ⟨unmarked, atMost⟩ := inv.oneTime other flagged
    rw [executions_append]
    by_cases same : r = other
    · subst same
      simp [once flagged]
    · simpa [same] using ⟨unmarked, atMost⟩
  executed entry mem := by
    rcases mem_append.mp mem with old | new
    · exact inv.executed entry old
    · have fits := inv.fits thread
      rw [here] at fits
      simp only [mem_singleton] at new
      subst new
      exact ⟨fits.1, rfl⟩

theorem advanceSend_invariant (managerAlive : Bool) {caller : Caller} {r : Nat}
    {canceledAtBegin : Bool} {place : SendPlace}
    (here : sys.threads thread = .send caller r canceledAtBegin place) :
    (sys.advanceSend api thread managerAlive caller r canceledAtBegin place).Invariant := by
  have fits := inv.fits thread
  rw [here] at fits
  obtain ⟨made, began, tested, oneTime⟩ := fits
  cases place with
  | begun =>
    simp only [advanceSend]
    split
    case isFalse => exact inv
    case isTrue free =>
      refine inv.move (.of_records rfl) (inv.mutex.keep fun _ => ?_) (inv.lock.take r free ?_)
        (inv.live.weaken fun other removing => removing.update ?_)
        ⟨made, began, False.elim, fun _ => ⟨False.elim, False.elim⟩⟩ inv.answers
      · simp [here, HoldsMutex]
      · simp [here, HoldsLock]
      · simp [here, Removes]
  | locked =>
    have held (other : Nat) : (sys.threads thread).HoldsLock other ↔ other = r := by
      simp [here, HoldsLock]
    have without : ¬ (sys.threads thread).HoldsMutex () := by simp [here, HoldsMutex]
    simp only [advanceSend]
    split_ifs with canceled dead
    · exact inv.unlock held without
    · exact inv.unlock held without
    · have unmarked : sys.mgr.isCanceled r = false := by simpa using canceled
      have clear : canceledAtBegin = false := by
        by_contra early
        simp [began (by simpa using early)] at unmarked
      refine inv.goTo ?_ ?_ ?_ ⟨made, began, fun _ => clear, fun flagged => ⟨fun _ => ?_, False.elim⟩⟩
      · simp [here, HoldsMutex]
      · simp [here, HoldsLock]
      · simp [here, Removes]
      · exact (inv.oneTime r flagged).1 unmarked
  | passed =>
    simp only [advanceSend]
    split_ifs with flag
    · refine inv.takeMutex ?_ trivial ?_
        ⟨made, began, tested, fun flagged => ⟨(oneTime flagged).1, False.elim⟩⟩
      · simp [here, HoldsMutex]
      · simp [here, HoldsLock]
    · refine inv.goTo ?_ ?_ ?_ ⟨made, began, tested, fun flagged => absurd flagged flag⟩
      · simp [here, HoldsMutex]
      · simp [here, HoldsLock]
      · simp [here, Removes]
  | canceling =>
    have keeps := mark_keepsMarks api sys.mgr r
    have marked : (sys.mgr.makeWantSenderCanceledLocked api r).isCanceled r = true := by simp [made]
    refine inv.mark ?_ ?_ rfl ?_ ⟨Nat.lt_of_lt_of_le made keeps.length, fun _ => marked, tested,
      fun flagged => ⟨fun _ => ?_, fun _ => marked⟩⟩
    · simp [here, HoldsMutex]
    · simp [here, Removes]
    · simp [here, HoldsLock]
    · rw [keeps.oneTime r made] at flagged
      exact (oneTime flagged).1 trivial
  | marked =>
    have holds : (sys.threads thread).HoldsMutex () := by simp [here, HoldsMutex]
    have keeps := removeRecord_keepsMarks sys.mgr caller r
    refine inv.leave holds id ?_ keeps ?_ (Fits.keeps ⟨made, began, tested, oneTime⟩ keeps) inv.answers
    · simp [here, HoldsLock]
    · refine (inv.live.remove caller r).weaken fun other removed => ?_
      exact removed.2 (inv.removing_only holds (by simp [here, Removes]) removed.1)
  | ready =>
    obtain rfl := tested trivial
    have moved : (sys.goTo thread (.send caller r false .executed)).Invariant := by
      refine inv.goTo ?_ ?_ ?_ ⟨made, began, fun _ => rfl, fun flagged => ⟨False.elim, False.elim⟩⟩
      · simp [here, HoldsMutex]
      · simp [here, HoldsLock]
      · simp [here, Removes]
    simp only [advanceSend]
    split
    · exact moved
    next operation _ =>
      refine moved.execute operation (update_self thread _ sys.threads) fun flagged => ?_
      exact ⟨(oneTime flagged).1 trivial, (oneTime flagged).2 trivial⟩
  | executed =>
    exact inv.unlock (by simp [here, HoldsLock]) (by simp [here, HoldsMutex])

theorem Invariant.found_unmarked (quiet : ∀ r, ¬ Removing sys.threads r) {r : Nat}
    (mem : r ∈ sys.mgr.wantRecords) : sys.mgr.isCanceled r = false := by
  by_contra marked
  exact quiet r (inv.live.canceled r mem (by simpa using marked))

theorem Invariant.answer {ref : Option Nat} {created cancelPresent canceledWhenFound : Bool}
    (fits : ∀ r, ref = some r ->
      Answer.Fits ⟨r, created, cancelPresent, canceledWhenFound, sys.mgr.isCanceled r⟩) :
    (sys.answer ref created cancelPresent canceledWhenFound).Invariant := by
  cases ref with
  | none => exact inv
  | some r =>
    refine { inv with answers := fun entry mem => ?_ }
    rcases mem_append.mp mem with old | new
    · exact inv.answers entry old
    · rw [mem_singleton.mp new]
      exact fits r rfl

theorem advanceGet_invariant {call : GetWantSenderCall Want}
    (here : sys.threads thread = .getLocked call) :
    (sys.advanceGet api thread call).Invariant := by
  have holds : (sys.threads thread).HoldsMutex () := by simp [here, HoldsMutex]
  have clean : ∀ r, ¬ (sys.threads thread).Removes r := by simp [here, Removes]
  have quiet := inv.not_removing holds clean
  have noLock (r : Nat) : (idle : Thread Want).HoldsLock r ↔ (sys.threads thread).HoldsLock r := by
    simp [here, HoldsLock]
  have live : sys.mgr.Live fun _ => False := inv.live.weaken quiet
  unfold advanceGet
  split
  next missing =>
    have left := inv.leave holds id noLock
      (createOrReturn_keepsMarks api sys.mgr call none)
      (live.create call none) trivial inv.answers
    exact left.answer fun r _ made => nomatch made
  next r found =>
    have unmarked := inv.found_unmarked quiet (mem_of_find?_eq_some found)
    split_ifs with cancel update
    · exact inv.mark holds clean rfl noLock ⟨cancel, unmarked⟩
    · have left := inv.leave holds id noLock (updatePresent_keepsMarks api sys.mgr r call)
        (live.update r call) trivial inv.answers
      refine left.answer fun other same _ => ⟨unmarked, fun _ => ?_⟩
      cases same
      exact (isCanceled_updatePresent r r call).trans unmarked
    · have left := inv.leave holds id noLock (.of_records rfl) live trivial inv.answers
      refine left.answer fun other same _ => ⟨unmarked, fun _ => ?_⟩
      cases same
      exact unmarked

theorem advance_invariant (thread : Nat) (managerAlive : Bool) :
    (sys.advance api thread managerAlive).Invariant := by
  have fits := inv.fits thread
  unfold advance
  split
  · exact inv
  next here => exact advanceSend_invariant inv managerAlive here
  next caller r here =>
    refine inv.takeMutex ?_ trivial ?_ trivial
    · simp [here, HoldsMutex]
    · simp [here, HoldsLock]
  next caller r here =>
    refine inv.mark ?_ ?_ rfl ?_ trivial
    · simp [here, HoldsMutex]
    · simp [here, Removes]
    · simp [here, HoldsLock]
  next caller r here =>
    have holds : (sys.threads thread).HoldsMutex () := by simp [here, HoldsMutex]
    refine inv.leave holds id ?_ (removeRecord_keepsMarks sys.mgr caller r) ?_
      trivial inv.answers
    · simp [here, HoldsLock]
    · refine (inv.live.remove caller r).weaken fun other removed => ?_
      exact removed.2 (inv.removing_only holds (by simp [here, Removes]) removed.1)
  next call here =>
    refine inv.takeMutex ?_ trivial ?_ trivial
    · simp [here, HoldsMutex]
    · simp [here, HoldsLock]
  next call here => exact advanceGet_invariant inv here
  next call r canceledWhenFound here =>
    have holds : (sys.threads thread).HoldsMutex () := by simp [here, HoldsMutex]
    have removed : (sys.mgr.removeRecord call.caller r).Live fun _ => False := by
      refine (inv.live.remove call.caller r).weaken fun other removed => ?_
      exact removed.2 (inv.removing_only holds (by simp [here, Removes]) removed.1)
    have noLock (r : Nat) :
        (idle : Thread Want).HoldsLock r ↔ (sys.threads thread).HoldsLock r := by
      simp [here, HoldsLock]
    have left := inv.leave holds id noLock
      ((removeRecord_keepsMarks sys.mgr call.caller r).trans
        (createOrReturn_keepsMarks api _ call (some r)))
      (removed.create call (some r)) trivial inv.answers
    rw [here] at fits
    refine left.answer fun other _ _ => ⟨fits.2, fun kept => ?_⟩
    cases fits.1.symm.trans kept
  next code here =>
    split
    case isFalse => exact inv
    case isTrue free =>
      have moved : (sys.goTo thread .idle).Invariant := by
        refine inv.goTo ?_ ?_ ?_ trivial
        · simp [here, HoldsMutex]
        · simp [here, HoldsLock]
        · simp [here, Removes]
      refine moved.answer fun r found _ => ?_
      have unmarked : sys.mgr.isCanceled r = false :=
        inv.found_unmarked (inv.not_removing_free free) (mem_of_find?_eq_some found)
      exact ⟨by simp [found, unmarked], fun _ => unmarked⟩
  next caller bundleName uid here =>
    split
    case isFalse => exact inv
    case isTrue free =>
      have live : sys.mgr.Live fun _ => False := inv.live.weaken (inv.not_removing_free free)
      have cleared := live.clear api caller bundleName uid
      refine inv.move (clear_keepsMarks api sys.mgr caller bundleName uid) ?_
        (inv.lock.keep ?_) (cleared.weaken fun _ => False.elim) trivial inv.answers
      · rw [<- free]
        exact inv.mutex.keep (by simp [here, HoldsMutex])
      · simp [here, HoldsLock]

theorem begin_invariant (idle : sys.threads thread = .idle)
    (task : Task Want) : (sys.begin thread task).Invariant := by
  have starts (state : Thread Want) (without : ¬ state.HoldsMutex ())
      (unlocked : ∀ r, ¬ state.HoldsLock r) (fits : state.Fits sys.mgr sys.executed) :
      (sys.goTo thread state).Invariant := by
    refine inv.goTo ?_ (fun r => ?_) ?_ fits
    · rw [idle]; exact iff_of_false without id
    · rw [idle]; exact iff_of_false (unlocked r) id
    · simp [idle, Removes]
  cases task with
  | senderInner caller r =>
    simp only [begin]
    split
    next made =>
      exact starts _ id (fun _ => id) ⟨made, id, False.elim, fun _ => ⟨False.elim, False.elim⟩⟩
    · exact inv
  | cancelWantSender caller isSystemAppCall r =>
    simp only [begin]
    split_ifs
    · exact inv
    · exact starts _ id (fun _ => id) trivial
    · exact inv
  | getWantSender call =>
    simp only [begin]
    split
    · exact starts _ id (fun _ => id) trivial
    · exact inv
  | getPendingWantRecordByCode code => exact starts _ id (fun _ => id) trivial
  | clearPendingWantRecordTask caller bundleName uid => exact starts _ id (fun _ => id) trivial

theorem step_invariant (action : Action Want) : (sys.step api action).Invariant := by
  cases action with
  | begin thread task =>
    simp only [step]
    split
    next idle => exact begin_invariant inv idle task
    · exact inv
  | advance thread managerAlive => exact advance_invariant inv thread managerAlive

end

theorem answer_mgr (ref : Option Nat) (created cancelPresent canceledWhenFound : Bool) :
    (sys.answer ref created cancelPresent canceledWhenFound).mgr = sys.mgr := by
  cases ref <;> rfl

theorem advanceSend_keepsMarks (managerAlive : Bool) (caller : Caller) (r : Nat)
    (canceledAtBegin : Bool) (place : SendPlace) :
    sys.mgr.KeepsMarks
      (sys.advanceSend api thread managerAlive caller r canceledAtBegin place).mgr := by
  cases place with
  | canceling => exact mark_keepsMarks api sys.mgr r
  | marked => exact removeRecord_keepsMarks sys.mgr caller r
  | _ =>
    apply KeepsMarks.of_records
    grind [advanceSend, unlock, goTo, takeMutex]

theorem takeMutex_mgr : (sys.takeMutex thread state).mgr = sys.mgr := by
  unfold takeMutex
  split <;> rfl

theorem advanceGet_keepsMarks (call : GetWantSenderCall Want) :
    sys.mgr.KeepsMarks (sys.advanceGet api thread call).mgr := by
  unfold advanceGet
  split
  · rw [answer_mgr]
    exact createOrReturn_keepsMarks api sys.mgr call none
  next r _ =>
    split_ifs
    · exact mark_keepsMarks api sys.mgr r
    · exact updatePresent_keepsMarks api sys.mgr r call
    · exact .of_records rfl

theorem advance_keepsMarks (thread : Nat) (managerAlive : Bool) :
    sys.mgr.KeepsMarks (sys.advance api thread managerAlive).mgr := by
  unfold advance
  split
  · exact .of_records rfl
  · exact advanceSend_keepsMarks managerAlive _ _ _ _
  · rw [takeMutex_mgr]
    exact .of_records rfl
  next caller r _ => exact mark_keepsMarks api sys.mgr r
  next caller r _ => exact removeRecord_keepsMarks sys.mgr caller r
  · rw [takeMutex_mgr]
    exact .of_records rfl
  next call _ => exact advanceGet_keepsMarks call
  next call r _ _ =>
    rw [answer_mgr]
    exact (removeRecord_keepsMarks sys.mgr call.caller r).trans
      (createOrReturn_keepsMarks api _ call (some r))
  · split
    · rw [answer_mgr]
      exact .of_records rfl
    · exact .of_records rfl
  next caller bundleName uid _ =>
    split
    · exact clear_keepsMarks api sys.mgr caller bundleName uid
    · exact .of_records rfl

theorem step_keepsMarks (action : Action Want) : sys.mgr.KeepsMarks (sys.step api action).mgr := by
  cases action with
  | begin thread task =>
    apply KeepsMarks.of_records
    cases task <;> grind [step, begin, goTo]
  | advance thread managerAlive => exact advance_keepsMarks thread managerAlive

theorem start_invariant : Invariant ({ } : System Want) where
  mutex thread key := iff_of_false id nofun
  lock thread key := iff_of_false id nofun
  live := ⟨nofun, nodup_nil, nofun⟩
  fits _ := trivial
  oneTime r flagged := by simp [executions]
  executed := nofun
  answers := nofun

end System

theorem run_system_invariant (actions : List (Action Want)) :
    ((system api).run actions).Invariant :=
  Machine.run_invariant Invariant start_invariant
    (fun _ action inv => step_invariant inv action) actions

theorem run_system_keepsMarks (earlier later : List (Action Want)) :
    ((system api).run earlier).mgr.KeepsMarks ((system api).run (earlier ++ later)).mgr := by
  induction later using reverseRecOn with
  | nil => simpa using .of_records rfl
  | append_singleton later action ih =>
    rw [<- append_assoc, Machine.run_concat]
    exact ih.trans (step_keepsMarks action)

/-- A one-time record starts once, and a cancelled one starts nothing and is not found again. Only
the call that cancels a record, and may not create another, still hands it out. -/
theorem canceled_records_stay_unused (api : WantApi Want) (actions : List (Action Want)) :
    ((system api).Throughout actions fun sys =>
      (∀ r, sys.mgr.isOneTime r = true -> (sys.executed.countP fun entry => entry.r == r) ≤ 1) ∧
      (∀ entry ∈ sys.executed, entry.canceledAtBegin = false) ∧
      (∀ answer ∈ sys.answers, answer.created = false ->
        answer.canceledWhenFound = false ∧
          (answer.cancelPresent = false -> answer.canceledWhenReturned = false))) ∧
    ∀ (earlier later : List (Action Want)) (r : Nat), actions = earlier ++ later ->
      ((system api).run earlier).mgr.isCanceled r = true ->
        ((system api).run actions).mgr.isCanceled r = true := by
  constructor
  · intro done rest _
    have inv : ((system api).run done).Invariant := run_system_invariant done
    exact ⟨fun r flagged => (inv.oneTime r flagged).2,
      fun entry mem => (inv.executed entry mem).2, inv.answers⟩
  · rintro earlier later r rfl marked
    exact (run_system_keepsMarks earlier later).canceled r marked

def cancelPresentShop : List (Action String) :=
  [.begin 0 (.getWantSender (shopAgent 0)), .advance 0 true, .advance 0 true,
    .begin 0 (.getWantSender (shopAgent (Flags.cancelPresentFlag ||| Flags.noBuildFlag))),
    .advance 0 true, .advance 0 true, .advance 0 true]

theorem canceled_record_returned :
    ¬(system bundleWants).Throughout cancelPresentShop fun sys => ∀ answer ∈ sys.answers,
      answer.created = false -> answer.canceledWhenReturned = false := by
  intro unused
  have last := unused cancelPresentShop [] (by simp)
  exact absurd last (by decide)

end AbilityRuntime.PendingWant
