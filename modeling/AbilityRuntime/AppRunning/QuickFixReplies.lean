import Mathlib.Data.List.Perm.Basic
import AbilityRuntime.Library.KeyedMap
import AbilityRuntime.Library.Runs

set_option autoImplicit false

namespace AbilityRuntime.AppRunning.QuickFix

open List Library Library.Machine Library.Machine.StepsFrom Prod

def errOk : Int := 0

inductive QuickFixKind where
  | loadPatch
  | unloadPatch
  | reloadPage

structure PatchDone where
  kind : QuickFixKind
  resultCode : Int
  recordId : Nat

inductive ReplyPlace where
  | removing
  | storing
  | testing
  | telling
deriving DecidableEq

/-- A reply that is being handled, with what its thread does next. -/
structure Reply where
  kind : QuickFixKind
  resultCode : Int
  recordId : Nat
  place : ReplyPlace

def Reply.Unstored (reply : Reply) : Prop := reply.place = .removing ∨ reply.place = .storing

structure QuickFixCallbackWithRecord where
  recordIds : List Nat := []
  finalResult : Int := 0

namespace QuickFixCallbackWithRecord

section

variable (callback : QuickFixCallbackWithRecord)

def addRecordId (recordId : Nat) : QuickFixCallbackWithRecord :=
  { callback with recordIds := callback.recordIds ++ [recordId] }

def removeRecordId (recordId : Nat) : QuickFixCallbackWithRecord :=
  { callback with recordIds := callback.recordIds.erase recordId }

def isRecordExist (recordId : Nat) : Bool :=
  recordId ∈ callback.recordIds

def isRecordListEmpty : Bool :=
  callback.recordIds.isEmpty

end

def onDone (kind : QuickFixKind) (callback : QuickFixCallbackWithRecord) (resultCode : Int)
    (recordId : Nat) : Reply where
  kind
  resultCode
  recordId
  place := if callback.isRecordExist recordId then .removing else .testing

def onLoadPatchDone := onDone .loadPatch

def onUnloadPatchDone := onDone .unloadPatch

def onReloadPageDone := onDone .reloadPage

-- The lock is taken anew for each of the two lists' uses, and the result is stored without it.
def processCallback (callback : QuickFixCallbackWithRecord) (reply : Reply) :
    QuickFixCallbackWithRecord × Option Reply :=
  match reply.place with
  | .removing => (callback.removeRecordId reply.recordId, some { reply with place := .storing })
  | .storing =>
    (if reply.resultCode ≠ 0 then { callback with finalResult := reply.resultCode } else callback,
      some { reply with place := .testing })
  | .testing =>
    (callback, if callback.isRecordListEmpty then some { reply with place := .telling } else none)
  | .telling => (callback, none)

end QuickFixCallbackWithRecord

structure AppRunningRecord where
  bundleName : String
  notifyResult : Int := errOk

def AppRunningRecord.isNotified (record : AppRunningRecord) : Bool := record.notifyResult = errOk

structure NotifyResult where
  succeed : Bool := false
  result : Int := errOk

def NotifyResult.add (result : NotifyResult) (record : AppRunningRecord) : NotifyResult where
  succeed := record.isNotified || result.succeed
  result := record.notifyResult

def NotifyResult.returnValue (result : NotifyResult) : Int :=
  if result.succeed then errOk else result.result

/-- The loop over the processes with the replies that are being handled; the processes in
`unanswered` have not replied. -/
structure Notification where
  callbackByRecord : QuickFixCallbackWithRecord := {}
  appRunningMap : List (Nat × AppRunningRecord)
  notifying : Option (Nat × AppRunningRecord) := none
  notifyResult : NotifyResult := {}
  unanswered : List Nat := []
  replies : List Int := []
  replying : List Reply := []
  told : List PatchDone := []

inductive QuickFixStep where
  | next
  | notified
  | reply (resultCode : Int) (recordId : Nat)
  | advance (index : Nat)

namespace Notification

-- The record is added before its process is notified, and the process may reply from then on.
def next (bundleName : String) (state : Notification) : Notification :=
  match state.notifying, state.appRunningMap with
  | none, (recordId, record) :: rest =>
    if record.bundleName = bundleName then
      { state with
        callbackByRecord := state.callbackByRecord.addRecordId recordId
        appRunningMap := rest
        notifying := some (recordId, record)
        unanswered :=
          if record.isNotified then state.unanswered ++ [recordId]
          else state.unanswered }
    else { state with appRunningMap := rest }
  | _, _ => state

def notified (state : Notification) : Notification :=
  match state.notifying with
  | none => state
  | some (recordId, record) =>
    { state with
      notifying := none
      notifyResult := state.notifyResult.add record
      callbackByRecord :=
        if record.isNotified then state.callbackByRecord
        else state.callbackByRecord.removeRecordId recordId }

def reply (kind : QuickFixKind) (state : Notification) (resultCode : Int) (recordId : Nat) :
    Notification :=
  { state with
    unanswered := state.unanswered.erase recordId
    replies :=
      if recordId ∈ state.unanswered then state.replies ++ [resultCode]
      else state.replies
    replying := state.replying ++ [
      match kind with
      | .loadPatch => state.callbackByRecord.onLoadPatchDone resultCode recordId
      | .unloadPatch => state.callbackByRecord.onUnloadPatchDone resultCode recordId
      | .reloadPage => state.callbackByRecord.onReloadPageDone resultCode recordId] }

def proceed (state : Notification) (reply : Reply) (others : List Reply) : Notification :=
  let (callbackByRecord, rest) := state.callbackByRecord.processCallback reply
  { state with
    callbackByRecord
    replying := rest.toList ++ others
    told :=
      if reply.place = .telling then
        state.told ++ [⟨reply.kind, state.callbackByRecord.finalResult, reply.recordId⟩]
      else state.told }

def advance (state : Notification) (index : Nat) : Notification :=
  match state.replying[index]? with
  | none => state
  | some reply => state.proceed reply (state.replying.eraseIdx index)

def returned (state : Notification) : Option Int :=
  if state.appRunningMap.isEmpty && state.notifying.isNone then
    some state.notifyResult.returnValue
  else none

def step (kind : QuickFixKind) (bundleName : String) (state : Notification) :
    QuickFixStep -> Notification
  | .next => state.next bundleName
  | .notified => state.notified
  | .reply resultCode recordId => state.reply kind resultCode recordId
  | .advance index => state.advance index

end Notification

def notify (kind : QuickFixKind) (bundleName : String)
    (appRunningMap : KeyedMap Nat AppRunningRecord) : Machine Notification QuickFixStep where
  start := { appRunningMap := appRunningMap.entries.map fun entry => (entry.1, entry.2) }
  step := Notification.step kind bundleName

def notifyHotReloadPage := notify .reloadPage

def notifyUnLoadRepairPatch := notify .unloadPatch

namespace Notification

def coming (bundleName : String) (state : Notification) : List (Nat × AppRunningRecord) :=
  state.appRunningMap.filter fun process => process.2.bundleName = bundleName

/-- The processes whose reply is awaited, with those that are still to be notified successfully. -/
def awaited (bundleName : String) (state : Notification) : List Nat :=
  state.unanswered ++ ((state.coming bundleName).filter (·.2.isNotified)).map fst

def failing (state : Notification) : Option Nat :=
  (state.notifying.filter (!·.2.isNotified)).map fst

def willReturn (bundleName : String) (state : Notification) : Int :=
  (((state.notifying.toList ++ state.coming bundleName).map snd).foldl
    NotifyResult.add state.notifyResult).returnValue

def removing (state : Notification) : List Nat :=
  (state.replying.filter (·.place = .removing)).map Reply.recordId

def telling (state : Notification) : List Reply :=
  state.replying.filter (·.place = .telling)

/-- The caller is told after the last reply, once and truly. -/
structure ToldOnce (bundleName : String) (state : Notification) : Prop where
  last : state.told ≠ [] -> state.awaited bundleName = []
  once : state.told.length ≤ 1
  truly : ∀ done ∈ state.told, (done.resultCode = 0 ↔ ∀ resultCode ∈ state.replies, resultCode = 0)
  atLast : state.awaited bundleName = [] -> state.replying = [] ->
    state.told ≠ []

/-- A process replies once, and only after it was notified; the list of the records is found empty
by the last of the replies and by no other. -/
def KeepsCount (bundleName : String) (state : Notification) : QuickFixStep -> Prop
  | .reply _ recordId =>
    recordId ∈ state.callbackByRecord.recordIds -> recordId ∈ state.unanswered
  | .advance index =>
    ∀ reply ∈ state.replying[index]?, reply.place = .testing ->
      (state.callbackByRecord.recordIds = [] ↔
        state.told = [] ∧ state.awaited bundleName = [] ∧
          state.replying.length = 1)
  | _ => True

instance decidableKeepsCount (bundleName : String) (state : Notification) :
    ∀ step, Decidable (state.KeepsCount bundleName step)
  | .reply _ recordId =>
    inferInstanceAs (Decidable (recordId ∈ state.callbackByRecord.recordIds -> _))
  | .advance index => inferInstanceAs (Decidable (∀ reply ∈ state.replying[index]?, _))
  | .next | .notified => isTrue trivial

structure Waiting (bundleName : String) (state : Notification) : Prop where
  untold : state.told = []
  silent : state.telling = []
  more : state.awaited bundleName ≠ [] ∨ state.replying ≠ []

structure Settled (bundleName : String) (state : Notification) : Prop where
  answered : state.awaited bundleName = []
  stored : ∀ reply ∈ state.replying, ¬reply.Unstored
  once : state.told.length + state.telling.length = 1
  truly : ∀ done ∈ state.told, (done.resultCode = 0 ↔ ∀ resultCode ∈ state.replies, resultCode = 0)

structure Coherent (bundleName : String) (state : Notification) : Prop where
  outstanding : ∀ recordId ∈ state.unanswered, recordId ∈ state.callbackByRecord.recordIds
  distinct : (state.unanswered ++ (state.removing ++
    (state.failing.toList ++ state.appRunningMap.map fst))).Nodup
  final : (state.callbackByRecord.finalResult = 0 ∧
    ∀ reply ∈ state.replying, reply.Unstored -> reply.resultCode = 0) ↔
      ∀ resultCode ∈ state.replies, resultCode = 0
  stage : state.Waiting bundleName ∨ state.Settled bundleName

variable {state : Notification} {bundleName : String} {kind : QuickFixKind}

theorem next_of_match {recordId : Nat} {record : AppRunningRecord}
    {rest : List (Nat × AppRunningRecord)} (idle : state.notifying = none)
    (first : state.appRunningMap = (recordId, record) :: rest) :
    state.next bundleName =
      if record.bundleName = bundleName then
        { state with
          callbackByRecord := state.callbackByRecord.addRecordId recordId
          appRunningMap := rest
          notifying := some (recordId, record)
          unanswered :=
            if record.isNotified then state.unanswered ++ [recordId]
            else state.unanswered }
      else { state with appRunningMap := rest } := by
  unfold next
  rw [idle, first]

theorem notified_of_notifying {recordId : Nat} {record : AppRunningRecord}
    (found : state.notifying = some (recordId, record)) :
    state.notified =
      { state with
        notifying := none
        notifyResult := state.notifyResult.add record
        callbackByRecord :=
          if record.isNotified then state.callbackByRecord
          else state.callbackByRecord.removeRecordId recordId } := by
  unfold notified
  rw [found]

theorem reply_eq (resultCode : Int) (recordId : Nat) :
    state.reply kind resultCode recordId =
      { state with
        unanswered := state.unanswered.erase recordId
        replies :=
          if recordId ∈ state.unanswered then state.replies ++ [resultCode]
          else state.replies
        replying := state.replying ++ [⟨kind, resultCode, recordId,
          if recordId ∈ state.callbackByRecord.recordIds then .removing else .testing⟩] } := by
  have place : (if state.callbackByRecord.isRecordExist recordId then ReplyPlace.removing
      else .testing) =
        if recordId ∈ state.callbackByRecord.recordIds then .removing else .testing := by
    simp [QuickFixCallbackWithRecord.isRecordExist]
  rw [<- place]
  cases kind <;> rfl

theorem advance_cases (index : Nat) :
    state.advance index = state ∨ ∃ reply others,
      state.replying[index]? = some reply ∧
        (reply :: others).Perm state.replying ∧
          state.advance index = state.proceed reply others := by
  unfold advance
  cases found : state.replying[index]? with
  | none => exact .inl rfl
  | some reply =>
    obtain ⟨inside, same⟩ := List.getElem?_eq_some_iff.mp found
    refine .inr ⟨reply, _, rfl, ?_, rfl⟩
    rw [<- same]
    exact getElem_cons_eraseIdx_perm inside

/-- What a finished loop returns was settled by the processes' results. -/
theorem returned_eq_willReturn {value : Int} (returned : state.returned = some value) :
    value = state.willReturn bundleName := by
  unfold Notification.returned at returned
  split at returned
  next finished =>
    rw [Bool.and_eq_true, List.isEmpty_iff, Option.isNone_iff_eq_none] at finished
    unfold willReturn coming
    rw [finished.1, finished.2]
    exact (Option.some.inj returned).symm
  · cases returned

theorem next_awaited :
    (state.next bundleName).awaited bundleName = state.awaited bundleName := by
  unfold next
  split
  next recordId record rest idle first =>
    unfold awaited coming
    rw [first]
    by_cases same : record.bundleName = bundleName <;> cases notified : record.isNotified <;>
      simp [same, notified]
  · rfl

theorem notified_awaited :
    state.notified.awaited bundleName = state.awaited bundleName := by
  unfold notified
  split <;> rfl

theorem failing_of_idle (idle : state.notifying = none) : state.failing = none := by
  unfold failing
  rw [idle]
  rfl

theorem failing_of_notifying {recordId : Nat} {record : AppRunningRecord}
    (found : state.notifying = some (recordId, record)) :
    state.failing = if record.isNotified then none else some recordId := by
  unfold failing
  rw [found]
  cases notified : record.isNotified <;> simp [notified]

theorem next_same :
    (state.next bundleName).told = state.told ∧
      (state.next bundleName).replying = state.replying ∧
        (state.next bundleName).replies = state.replies ∧
          (state.next bundleName).callbackByRecord.finalResult =
            state.callbackByRecord.finalResult := by
  unfold next
  split
  · split <;> exact ⟨rfl, rfl, rfl, rfl⟩
  · exact ⟨rfl, rfl, rfl, rfl⟩

theorem notified_same :
    state.notified.told = state.told ∧
      state.notified.replying = state.replying ∧
        state.notified.replies = state.replies ∧
          state.notified.callbackByRecord.finalResult =
            state.callbackByRecord.finalResult := by
  unfold notified
  split
  · exact ⟨rfl, rfl, rfl, rfl⟩
  · refine ⟨rfl, rfl, rfl, ?_⟩
    dsimp only
    split <;> rfl

section

variable {after : Notification} (told : after.told = state.told)
  (replying : after.replying = state.replying) (replies : after.replies = state.replies)
  (awaited : after.awaited bundleName = state.awaited bundleName)
include told replying replies awaited

theorem stage_of_same (stage : state.Waiting bundleName ∨ state.Settled bundleName) :
    after.Waiting bundleName ∨ after.Settled bundleName := by
  have telling : after.telling = state.telling := by
    unfold Notification.telling
    rw [replying]
  refine stage.imp (fun waiting => ?_) fun settled => ?_
  · exact ⟨by rw [told]; exact waiting.untold, by rw [telling]; exact waiting.silent,
      by rw [awaited, replying]; exact waiting.more⟩
  · exact ⟨by rw [awaited]; exact settled.answered, by rw [replying]; exact settled.stored,
      by rw [told, telling]; exact settled.once, by rw [told, replies]; exact settled.truly⟩

end

section

variable (sound : state.Coherent bundleName)
include sound

theorem Coherent.toldOnce : state.ToldOnce bundleName := by
  cases sound.stage with
  | inl waiting =>
    refine ⟨fun told => absurd waiting.untold told, by simp [waiting.untold], ?_, ?_⟩
    · simp [waiting.untold]
    · intro answered idle
      exact absurd waiting.more (by simp [answered, idle])
  | inr settled =>
    have once := settled.once
    refine ⟨fun _ => settled.answered, by omega, settled.truly, fun _ idle told => ?_⟩
    simp [telling, idle, told] at once

theorem Coherent.next : (state.next bundleName).Coherent bundleName := by
  obtain ⟨told, replying, replies, finalResult⟩ := @next_same state bundleName
  have stage := stage_of_same told replying replies next_awaited sound.stage
  have final := sound.final
  rw [<- replying, <- replies, <- finalResult] at final
  have outstanding := sound.outstanding
  have distinct := sound.distinct
  cases idle : state.notifying with
  | some process =>
    have stays : state.next bundleName = state := by
      unfold Notification.next
      rw [idle]
    rw [stays]
    exact sound
  | none =>
    rw [failing_of_idle idle, Option.toList_none, nil_append] at distinct
    cases first : state.appRunningMap with
    | nil =>
      have stays : state.next bundleName = state := by
        unfold Notification.next
        rw [idle, first]
      rw [stays]
      exact sound
    | cons process rest =>
      obtain ⟨recordId, record⟩ := process
      rw [first, map_cons] at distinct
      refine ⟨?_, ?_, final, stage⟩
      all_goals
        rw [next_of_match idle first]
        by_cases matching : record.bundleName = bundleName
      · rw [if_pos matching]
        intro id asked
        cases asks : record.isNotified <;> simp [asks] at asked <;>
          simp [QuickFixCallbackWithRecord.addRecordId]
        · exact .inl (outstanding id asked)
        · exact asked.imp_left (outstanding id)
      · rw [if_neg matching]
        exact outstanding
      · rw [if_pos matching, @failing_of_notifying _ recordId record rfl]
        cases asks : record.isNotified with
        | true =>
          refine (Perm.nodup_iff ?_).mp distinct
          simp only [↓reduceIte, Option.toList_none, nil_append, append_assoc]
          exact Perm.append_left _ perm_middle
        | false => simpa [removing] using distinct
      · rw [if_neg matching, show failing { state with appRunningMap := rest } = none from
          failing_of_idle idle]
        exact distinct.sublist (Sublist.append_left (Sublist.append_left (sublist_cons_self ..) _) _)

theorem Coherent.notified : state.notified.Coherent bundleName := by
  obtain ⟨told, replying, replies, finalResult⟩ := @notified_same state
  have stage := stage_of_same told replying replies notified_awaited sound.stage
  have final := sound.final
  rw [<- replying, <- replies, <- finalResult] at final
  have outstanding := sound.outstanding
  have distinct := sound.distinct
  cases found : state.notifying with
  | none =>
    have stays : state.notified = state := by
      unfold Notification.notified
      rw [found]
    rw [stays]
    exact sound
  | some process =>
    obtain ⟨recordId, record⟩ := process
    rw [failing_of_notifying found] at distinct
    refine ⟨?_, ?_, final, stage⟩
    all_goals rw [notified_of_notifying found]
    · intro id asked
      cases asks : record.isNotified with
      | true => exact outstanding id asked
      | false =>
        refine (mem_erase_of_ne ?_).mpr (outstanding id asked)
        rintro rfl
        exact (nodup_append.mp distinct).2.2 _ asked id (by simp [asks]) rfl
    · refine distinct.sublist (Sublist.append_left (Sublist.append_left ?_ _) _)
      exact sublist_append_right ..

theorem Coherent.reply_genuine {resultCode : Int} {recordId : Nat}
    (present : recordId ∈ state.unanswered) :
    (state.reply kind resultCode recordId).Coherent bundleName := by
  rw [reply_eq, if_pos present, if_pos (sound.outstanding _ present)]
  refine ⟨fun id asked => sound.outstanding id (mem_of_mem_erase asked), ?_, ?_, .inl ?_⟩
  · refine (Perm.nodup_iff ?_).mp sound.distinct
    refine ((perm_cons_erase present).append_right _).trans ?_
    simp only [removing, filter_append, map_append, cons_append, append_assoc]
    exact perm_middle.symm.trans (Perm.append_left _ perm_middle.symm)
  · have final := sound.final
    simp only [forall_mem_append, forall_mem_singleton, <- final, Reply.Unstored, true_or,
      forall_const, and_assoc]
  · cases sound.stage with
    | inl waiting =>
      refine ⟨waiting.untold, ?_, .inr (by simp)⟩
      have silent := waiting.silent
      unfold telling at silent ⊢
      simp [filter_append, silent]
    | inr settled =>
      have answered := settled.answered
      exact absurd answered (ne_nil_of_mem (mem_append_left _ present))

theorem Coherent.reply_stray {resultCode : Int} {recordId : Nat}
    (stray : recordId ∉ state.unanswered)
    (keeps : state.KeepsCount bundleName (.reply resultCode recordId)) :
    (state.reply kind resultCode recordId).Coherent bundleName := by
  rw [reply_eq, if_neg stray, if_neg fun present => stray (keeps present), erase_of_not_mem stray]
  refine ⟨sound.outstanding, ?_, ?_, sound.stage.imp (fun waiting => ?_) fun settled => ?_⟩
  · simpa [removing, failing, filter_append] using sound.distinct
  · simpa only [forall_mem_append, forall_mem_singleton, Reply.Unstored, reduceCtorEq, or_self,
      false_implies, and_true] using sound.final
  · exact ⟨waiting.untold, by simpa [telling, filter_append] using waiting.silent, .inr (by simp)⟩
  · exact ⟨settled.answered, forall_mem_append.mpr ⟨settled.stored, by simp [Reply.Unstored]⟩,
      by simpa [telling, filter_append] using settled.once, settled.truly⟩

theorem Coherent.reply {resultCode : Int} {recordId : Nat}
    (keeps : state.KeepsCount bundleName (.reply resultCode recordId)) :
    (state.reply kind resultCode recordId).Coherent bundleName := by
  by_cases present : recordId ∈ state.unanswered
  · exact sound.reply_genuine present
  · exact sound.reply_stray present keeps

theorem Coherent.of_perm {replying : List Reply} (perm : replying.Perm state.replying) :
    Coherent bundleName { state with replying } := by
  have telling : (replying.filter (·.place = .telling)).Perm state.telling := perm.filter _
  refine ⟨sound.outstanding, ?_, ?_, sound.stage.imp (fun waiting => ?_) fun settled => ?_⟩
  · refine (Perm.nodup_iff ?_).mpr sound.distinct
    exact Perm.append_left _ (((perm.filter _).map _).append_right _)
  · simpa only [perm.mem_iff] using sound.final
  · refine ⟨waiting.untold, ?_, waiting.more.imp_right fun more empty => ?_⟩
    · rw [waiting.silent] at telling
      exact telling.eq_nil
    · exact more (perm.symm.trans (Perm.of_eq empty)).eq_nil
  · refine ⟨settled.answered, by simpa only [perm.mem_iff] using settled.stored, ?_, settled.truly⟩
    rw [<- settled.once, <- telling.length_eq]
    rfl

section

variable {reply : Reply} {others : List Reply} (split : state.replying = reply :: others)
include split

theorem Coherent.unsettled (unstored : reply.Unstored) : state.Waiting bundleName := by
  refine sound.stage.resolve_right fun settled => settled.stored reply ?_ unstored
  rw [split]
  exact mem_cons_self

theorem Coherent.others_distinct :
    (state.unanswered ++ ((others.filter (·.place = .removing)).map Reply.recordId ++
      (state.failing.toList ++ state.appRunningMap.map fst))).Nodup := by
  refine sound.distinct.sublist (Sublist.append_left (Sublist.append_right ?_ _) _)
  unfold removing
  rw [split]
  exact ((sublist_cons_self ..).filter _).map _

theorem Coherent.removes (place : reply.place = .removing) :
    (state.proceed reply others).Coherent bundleName := by
  have waiting := sound.unsettled split (.inl place)
  have distinct := sound.distinct
  have apart := sound.others_distinct split
  have final := sound.final
  have silent := waiting.silent
  unfold removing at distinct
  unfold telling at silent
  rw [split, filter_cons_of_pos (by simp [place]), map_cons] at distinct
  rw [split] at final silent
  simp only [forall_mem_cons, Reply.Unstored, place] at final
  unfold Notification.proceed QuickFixCallbackWithRecord.processCallback
  rw [place]
  refine ⟨fun id asked => ?_, apart, ?_, .inl ⟨waiting.untold, ?_, .inr (by simp)⟩⟩
  · refine (mem_erase_of_ne ?_).mpr (sound.outstanding id asked)
    rintro rfl
    exact (nodup_append.mp distinct).2.2 _ asked _ (by simp) rfl
  · simpa [Reply.Unstored, QuickFixCallbackWithRecord.removeRecordId] using final
  · simpa [telling, place] using silent

theorem Coherent.stores (place : reply.place = .storing) :
    (state.proceed reply others).Coherent bundleName := by
  have waiting := sound.unsettled split (.inr place)
  have apart := sound.others_distinct split
  have final := sound.final
  have silent := waiting.silent
  unfold telling at silent
  rw [split] at final silent
  simp only [forall_mem_cons, Reply.Unstored, place] at final
  unfold Notification.proceed QuickFixCallbackWithRecord.processCallback
  rw [place]
  refine ⟨?_, apart, ?_, .inl ⟨waiting.untold, ?_, .inr (by simp)⟩⟩
  · dsimp only
    split <;> exact sound.outstanding
  · by_cases failed : reply.resultCode = 0 <;> simpa [Reply.Unstored, failed] using final
  · simpa [telling, place] using silent

theorem Coherent.tests (place : reply.place = .testing)
    (keeps : state.callbackByRecord.recordIds = [] ↔
      state.told = [] ∧ state.awaited bundleName = [] ∧ others = []) :
    (state.proceed reply others).Coherent bundleName := by
  have apart := sound.others_distinct split
  have final := sound.final
  rw [split] at final
  simp only [forall_mem_cons, Reply.Unstored, place] at final
  unfold Notification.proceed QuickFixCallbackWithRecord.processCallback
  rw [place]
  by_cases empty : state.callbackByRecord.recordIds = []
  · obtain ⟨untold, answered, rfl⟩ := keeps.mp empty
    have found : state.callbackByRecord.isRecordListEmpty := by
      simp [QuickFixCallbackWithRecord.isRecordListEmpty, empty]
    rw [if_pos found]
    refine ⟨sound.outstanding, apart,
      by simpa [Reply.Unstored] using final, .inr ⟨answered, ?_, ?_, ?_⟩⟩
    · simp [Reply.Unstored]
    · simp [untold, telling]
    · simp [untold]
  · have found : ¬state.callbackByRecord.isRecordListEmpty := by
      simp [QuickFixCallbackWithRecord.isRecordListEmpty, empty]
    rw [if_neg found]
    refine ⟨sound.outstanding, apart, by simpa [Reply.Unstored] using final, ?_⟩
    refine sound.stage.imp (fun waiting => ?_) fun settled => ?_
    · have silent := waiting.silent
      unfold telling at silent
      rw [split] at silent
      refine ⟨waiting.untold, by simpa [telling, place] using silent, ?_⟩
      by_contra! done
      exact empty (keeps.mpr ⟨waiting.untold, done⟩)
    · have stored := settled.stored
      have once := settled.once
      unfold telling at once
      rw [split] at stored once
      exact ⟨settled.answered, (forall_mem_cons.mp stored).2,
        by simpa [telling, place] using once, settled.truly⟩

theorem Coherent.tells (place : reply.place = .telling) :
    (state.proceed reply others).Coherent bundleName := by
  have settled := sound.stage.resolve_left fun waiting => by
    have silent := waiting.silent
    unfold telling at silent
    simp [split, place] at silent
  have apart := sound.others_distinct split
  have final := sound.final
  have stored := settled.stored
  have once := settled.once
  unfold telling at once
  rw [split] at final stored once
  rw [filter_cons_of_pos (by simp [place]), length_cons] at once
  simp only [forall_mem_cons, Reply.Unstored, place] at final
  have untold : state.told = [] := eq_nil_of_length_eq_zero (by omega)
  have rest := (forall_mem_cons.mp stored).2
  unfold Notification.proceed QuickFixCallbackWithRecord.processCallback
  rw [place]
  refine ⟨sound.outstanding, apart,
    by simpa [Reply.Unstored] using final, .inr ⟨settled.answered, rest, ?_, ?_⟩⟩
  · rw [untold] at once ⊢
    simpa [telling, Nat.add_comm] using once
  · rw [untold]
    refine forall_mem_singleton.mpr ?_
    rw [<- sound.final, and_iff_left]
    exact fun other present unstored => absurd unstored (stored _ (split ▸ present))

theorem Coherent.proceed
    (keeps : reply.place = .testing -> (state.callbackByRecord.recordIds = [] ↔
      state.told = [] ∧ state.awaited bundleName = [] ∧ others = [])) :
    (state.proceed reply others).Coherent bundleName := by
  cases place : reply.place with
  | removing => exact sound.removes split place
  | storing => exact sound.stores split place
  | testing => exact sound.tests split place (keeps place)
  | telling => exact sound.tells split place

end

theorem Coherent.advance {index : Nat}
    (keeps : state.KeepsCount bundleName (.advance index)) :
    (state.advance index).Coherent bundleName := by
  obtain stays | ⟨reply, others, found, perm, moves⟩ := @advance_cases state index
  · rw [stays]
    exact sound
  · rw [moves]
    refine (sound.of_perm perm).proceed rfl fun place => ?_
    rw [keeps reply found place, <- perm.length_eq, length_cons, Nat.add_eq_right,
      length_eq_zero_iff]
    rfl

theorem Coherent.step (step : QuickFixStep) (keeps : state.KeepsCount bundleName step) :
    (state.step kind bundleName step).Coherent bundleName := by
  cases step with
  | next => exact sound.next
  | notified => exact sound.notified
  | reply resultCode recordId => exact sound.reply keeps
  | advance index => exact sound.advance keeps

end

end Notification

open Notification

theorem coherent_start {kind : QuickFixKind} {bundleName : String}
    {appRunningMap : KeyedMap Nat AppRunningRecord}
    (some : (notify kind bundleName appRunningMap).start.awaited bundleName ≠ []) :
    (notify kind bundleName appRunningMap).start.Coherent bundleName where
  outstanding := by simp [notify]
  distinct := by
    change (map Prod.fst (map _ appRunningMap.entries)).Nodup
    rw [List.map_map]
    exact appRunningMap.nodupKeys
  final := by simp [notify]
  stage := .inl ⟨rfl, rfl, .inl some⟩

end AbilityRuntime.AppRunning.QuickFix
