import Mathlib.Data.List.Basic

set_option autoImplicit false

namespace AbilityRuntime.ResultCallers

open Function List

inductive Param where
  | text (value : String)
  | int (value : Int)
deriving DecidableEq

abbrev Want := String -> Option Param

@[ext] structure CallerRecord where
  caller : Nat
  requestCode : Int
deriving DecidableEq

structure AbilityResult where
  requestCode : Int
  resultCode : Int
  resultWant : Want

def SEND_RESULT_CANCELED : Int := -1

/-- The record that has ended, and which of the caller records belong to the broker. -/
structure AbilityRecord where
  name : String
  accessTokenId : Int
  isBroker : Nat -> Bool

structure Results where
  resultWant : Want
  result : Nat -> Option AbilityResult

namespace AbilityRecord

variable (record : AbilityRecord) (resultCode : Int) (resultWant : Want)
  (callers before after : List CallerRecord) (results : Results)

def setCallerParams : Want :=
  update
    (update resultWant "ohos.anco.param.sendResultCallderBundleName" (some (.text record.name)))
    "ohos.anco.param.sendResultCallerTokenId" (some (.int record.accessTokenId))

def wantFor (caller : CallerRecord) : Want :=
  if record.isBroker caller.caller then record.setCallerParams resultWant else resultWant

def saveResult (caller : CallerRecord) : Results :=
  let newWant := record.wantFor results.resultWant caller
  { resultWant := newWant
    result := update results.result caller.caller (some ⟨caller.requestCode, resultCode, newWant⟩) }

def codeFor (latestCaller caller : CallerRecord) : Int :=
  if caller = latestCaller then resultCode else SEND_RESULT_CANCELED

def saveResults (latestCaller : CallerRecord) : Results :=
  callers.foldl (fun results caller =>
    record.saveResult (codeFor resultCode latestCaller caller) results caller) results

def saveResultToCallers : Results :=
  callers.getLast?.elim results fun latestCaller =>
    record.saveResults resultCode callers results latestCaller

/-- The results that were sent, each with the record that it was sent to. -/
abbrev Sent := List (Nat × AbilityResult)

def sendResult (state : (Nat -> Option AbilityResult) × Sent) (caller : CallerRecord) :
    (Nat -> Option AbilityResult) × Sent :=
  match state.1 caller.caller with
  | none => state
  | some result =>
    (update state.1 caller.caller none,
      state.2 ++ if result.requestCode ≠ -1 then [(caller.caller, result)] else [])

def sendResultToCallers (result : Nat -> Option AbilityResult) : Sent :=
  (callers.foldl sendResult (result, [])).2

def sent (result : Nat -> Option AbilityResult) : Sent :=
  sendResultToCallers callers
    (record.saveResultToCallers resultCode callers ⟨resultWant, result⟩).result

/-- Each caller who asked receives one result, and nothing in it depends on the other callers. -/
def Delivers (result : Nat -> Option AbilityResult) : Prop :=
  ∀ latestCaller ∈ callers.getLast?, ∀ caller ∈ callers, caller.requestCode ≠ -1 ->
    (record.sent resultCode resultWant callers result).filter (·.1 = caller.caller) =
      [(caller.caller, ⟨caller.requestCode, codeFor resultCode latestCaller caller,
        record.wantFor resultWant caller⟩)]

/-- The caller is the last entry of its record, and no broker stands before another record with a
want that the broker changes. -/
def Undisturbed (caller : CallerRecord) : Prop :=
  ∃ before after, callers = before ++ caller :: after ∧
    (∀ later ∈ after, later.caller ≠ caller.caller) ∧
      (record.isBroker caller.caller = false -> before.any (record.isBroker ·.caller) = true ->
        record.setCallerParams resultWant = resultWant)

section

variable {record} {resultCode} {resultWant} {callers} {before} {after} {results}
  {latestCaller caller : CallerRecord}

theorem setCallerParams_twice : record.setCallerParams (record.setCallerParams resultWant) =
    record.setCallerParams resultWant := by
  funext key
  simp only [setCallerParams, update_apply]
  split_ifs <;> rfl

theorem saveResults_want :
    (record.saveResults resultCode callers results latestCaller).resultWant =
      if callers.any (record.isBroker ·.caller) then record.setCallerParams results.resultWant
      else results.resultWant := by
  induction callers generalizing results with
  | nil => rfl
  | cons caller rest ih =>
    refine ih.trans ?_
    cases broker : record.isBroker caller.caller
    · simp [saveResult, wantFor, broker]
    · simp [saveResult, wantFor, broker, setCallerParams_twice]

theorem saveResults_kept {other : Nat} (absent : ∀ caller ∈ callers, caller.caller ≠ other) :
    (record.saveResults resultCode callers results latestCaller).result other =
      results.result other := by
  induction callers generalizing results with
  | nil => rfl
  | cons caller rest ih =>
    refine (ih fun later mem => absent later (mem_cons_of_mem _ mem)).trans ?_
    exact update_of_ne (absent caller mem_cons_self).symm _ _

theorem sendResult_eq (result : Nat -> Option AbilityResult) (sent : Sent) (caller : CallerRecord) :
    sendResult (result, sent) caller = (update result caller.caller none, sent ++
      ((result caller.caller).toList.filter (·.requestCode ≠ -1)).map (caller.caller, ·)) := by
  have unchanged (held : result caller.caller = none) :
      update result caller.caller none = result := by
    rw [<- held, update_eq_self]
  unfold sendResult
  cases held : result caller.caller with
  | none => simp [held, unchanged held]
  | some value => by_cases asked : value.requestCode = -1 <;> simp [asked, held]

theorem sendResults_filter (result : Nat -> Option AbilityResult) (sent : Sent) (other : Nat) :
    (callers.foldl sendResult (result, sent)).2.filter (·.1 = other) =
      sent.filter (·.1 = other) ++
        if ∃ caller ∈ callers, caller.caller = other then
          ((result other).toList.filter (·.requestCode ≠ -1)).map (other, ·)
        else [] := by
  induction callers generalizing result sent with
  | nil => simp
  | cons caller rest ih =>
    rw [foldl_cons, sendResult_eq, ih, filter_append, append_assoc]
    by_cases same : caller.caller = other
    · simp [same, filter_map, Function.comp_def]
    · simp [same, Ne.symm same, filter_map, Function.comp_def]

theorem sent_last (last : ∀ later ∈ after, later.caller ≠ caller.caller) :
    (sendResultToCallers (before ++ caller :: after)
      (record.saveResults resultCode (before ++ caller :: after) results
        latestCaller).result).filter (·.1 = caller.caller) =
      if caller.requestCode ≠ -1 then
        [(caller.caller, ⟨caller.requestCode, codeFor resultCode latestCaller caller,
          record.wantFor (if before.any (record.isBroker ·.caller) then
            record.setCallerParams results.resultWant else results.resultWant) caller⟩)]
      else [] := by
  have kept := @saveResults_kept record resultCode after
    (record.saveResult (codeFor resultCode latestCaller caller)
      (record.saveResults resultCode before results latestCaller) caller) latestCaller _ last
  have leaked := @saveResults_want record resultCode before results latestCaller
  rw [sendResultToCallers, sendResults_filter, if_pos ⟨caller, by simp, rfl⟩, <- leaked]
  simp only [saveResults, foldl_append, foldl_cons] at kept ⊢
  rw [kept]
  by_cases asked : caller.requestCode = -1 <;> simp [saveResult, asked]

theorem exists_last {other : Nat} (named : ∃ caller ∈ callers, caller.caller = other) :
    ∃ before caller after, callers = before ++ caller :: after ∧ caller.caller = other ∧
      ∀ later ∈ after, later.caller ≠ other := by
  induction callers with
  | nil => simp at named
  | cons caller rest ih =>
    by_cases again : ∃ caller ∈ rest, caller.caller = other
    · obtain ⟨before, found, after, rfl, last⟩ := ih again
      exact ⟨caller :: before, found, after, rfl, last⟩
    · refine ⟨[], caller, rest, rfl, by simpa [again] using named, ?_⟩
      exact fun later mem same => again ⟨later, mem, same⟩

theorem wantFor_leaked :
    record.wantFor (if before.any (record.isBroker ·.caller) then
      record.setCallerParams resultWant else resultWant) caller = record.wantFor resultWant caller ↔
    (record.isBroker caller.caller = false -> before.any (record.isBroker ·.caller) = true ->
      record.setCallerParams resultWant = resultWant) := by
  unfold wantFor
  split_ifs <;> simp_all [setCallerParams_twice]

theorem delivers_iff (result : Nat -> Option AbilityResult) :
    record.Delivers resultCode resultWant callers result ↔
      ∀ caller ∈ callers, caller.requestCode ≠ -1 ->
        record.Undisturbed resultWant callers caller := by
  constructor
  · intro delivers caller mem asked
    obtain ⟨latest, found⟩ := Option.ne_none_iff_exists'.mp
      (mt getLast?_eq_none_iff.mp (ne_nil_of_mem mem))
    have received := delivers latest found caller mem asked
    obtain ⟨before, final, after, rfl, same, last⟩ := exists_last ⟨caller, mem, rfl⟩
    rw [sent, saveResultToCallers, found, Option.elim_some, <- same,
      sent_last (same ▸ last)] at received
    split at received
    · simp only [cons.injEq, Prod.mk.injEq, AbilityResult.mk.injEq, true_and, and_true] at received
      obtain ⟨code, -, want⟩ := received
      obtain rfl : final = caller := CallerRecord.ext same code
      exact ⟨before, after, rfl, last, wantFor_leaked.mp want⟩
    · cases received
  · intro undisturbed latest found caller mem asked
    obtain ⟨before, after, rfl, last, led⟩ := undisturbed caller mem asked
    rw [sent, saveResultToCallers, found, Option.elim_some, sent_last last, if_pos asked]
    rw [wantFor_leaked.mpr led]

end

theorem broker_leaks : ¬ ∀ (record : AbilityRecord) (resultCode : Int) (resultWant : Want)
    (callers : List CallerRecord) (result : Nat -> Option AbilityResult),
      record.Delivers resultCode resultWant callers result := by
  intro delivers
  have received := delivers ⟨"app", 7, (· = 1)⟩ 0 (fun _ => none) [⟨1, 5⟩, ⟨2, 6⟩] (fun _ => none)
    ⟨2, 6⟩ rfl ⟨2, 6⟩ (by simp) (by decide)
  exact absurd (congrArg (map (·.2.resultWant "ohos.anco.param.sendResultCallerTokenId"))
    received) (by decide)

end AbilityRecord

end AbilityRuntime.ResultCallers
