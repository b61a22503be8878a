import AbilityRuntime.AppExitReason.ExitReasonStore
import AbilityRuntime.Library.Runs

set_option autoImplicit false

namespace AbilityRuntime.AppExitReason

open Library List Json AList Machine Option KvCalls

/-- What a set was called with, and the clock in milliseconds when it was. -/
structure RecordedReason where
  bundleName : String
  accessTokenId : UInt32
  abilityList : List String
  exitReason : ExitReason
  processInfo : RunningProcessInfo
  withKillMsg : Bool
  now : Int64
  named : bundleName ≠ ""
  valid : accessTokenId ≠ invalidTokenId

structure Get where
  abilityName : String
  outputs : Outputs
  cleanFlag : Bool
  now : Int64

inductive Event
  | runPut
  | get (call : Get)

structure State where
  store : KvStore
  pending : Option (String × Json)

variable (recorded : RecordedReason) (store : KvStore)

def RecordedReason.set : ErrCode × Option (String × Json) :=
  setAppExitReason .succeed recorded.now recorded.bundleName recorded.accessTokenId
    recorded.abilityList recorded.exitReason recorded.processInfo recorded.withKillMsg

def Get.run (call : Get) : KvStore × ErrCode × Outputs :=
  getAppExitReason .succeed call.now store recorded.bundleName recorded.accessTokenId
    call.abilityName call.outputs call.cleanFlag

def State.step (state : State) : Event -> State
  | .runPut =>
    match state.pending with
    | some (key, value) => ⟨state.store.insert key value, none⟩
    | none => state
  | .get call => { state with store := (call.run recorded state.store).1 }

def reasonMachine : Machine State Event where
  start := ⟨store, recorded.set.2⟩
  step := State.step recorded

/-- The abilities that are still to be told, and the clock at each answer so far. -/
structure Ledger where
  remaining : List String
  times : List Int64

namespace Ledger

def step (ledger : Ledger) : Event -> Ledger
  | .runPut => ledger
  | .get call =>
    if call.abilityName ∈ ledger.remaining then
      { remaining :=
          if call.cleanFlag then ledger.remaining.filter (· ≠ call.abilityName)
          else ledger.remaining
        times := ledger.times ++ [call.now] }
    else ledger

end Ledger

def ledgerMachine : Machine Ledger Event where
  start := ⟨recorded.abilityList, []⟩
  step := Ledger.step

def PutFirst (events : List Event) : Prop :=
  ∀ done call rest, events = done ++ .get call :: rest -> .runPut ∈ done

/-- Each ability that is still to be told is told what was recorded, the others nothing. -/
structure Obtains (events : List Event) : Prop where
  told : ∀ done call rest, events = done ++ .get call :: rest ->
    call.abilityName ∈ ((ledgerMachine recorded).run done).remaining ->
      let (_, code, outputs) := call.run recorded ((reasonMachine recorded store).run done).store
      code = .errOk ∧ outputs.isSetReason = true ∧ outputs.exitReason = recorded.exitReason ∧
        outputs.processInfo = recorded.processInfo ∧ outputs.timeStamp = recorded.now
  others : ∀ done call rest, events = done ++ .get call :: rest ->
    call.abilityName ∉ ((ledgerMachine recorded).run done).remaining ->
      (call.run recorded ((reasonMachine recorded store).run done).store).2.2.isSetReason =
        call.outputs.isSetReason
  entry : ∀ done call rest, events = done ++ .get call :: rest ->
    ((((reasonMachine recorded store).run (done ++ [.get call])).store.lookup
        (toKey recorded.accessTokenId)).isSome ↔
      ((ledgerMachine recorded).run (done ++ [.get call])).remaining ≠ [])

/-- Whenever an ability is told, those told before it were told at the recorded time. -/
def ToldAtOnce (events : List Event) : Prop :=
  ∀ done call rest, events = done ++ .get call :: rest ->
    call.abilityName ∈ ((ledgerMachine recorded).run done).remaining ->
      ∀ time ∈ ((ledgerMachine recorded).run done).times, time = recorded.now

theorem ofInt_toNat (number : UInt32) : UInt32.ofInt (number.toNat : Int) = number := by
  have below := number.toNat_lt
  rw [UInt32.ofInt, Int.emod_eq_of_lt (Int.natCast_nonneg _) (by exact_mod_cast below),
    Int.toNat_natCast, UInt32.ofNat_toNat]

theorem convertAppExitReasonInfoFromValue_toValue (now : Int64) (abilityList : List String)
    (exitReason : ExitReason) (processInfo : RunningProcessInfo) (withKillMsg : Bool)
    (outputs : Outputs) (held : List String) :
    convertAppExitReasonInfoFromValue
        (convertAppExitReasonInfoToValue now abilityList exitReason processInfo withKillMsg)
        outputs held =
      ({ outputs with
          exitReason
          processInfo
          timeStamp := now
          withKillMsg := if withKillMsg ∧ exitReason.exitMsg ≠ "" then true
            else outputs.withKillMsg },
        abilityList) := by
  have names : (abilityList.map string).filterMap string? = abilityList := by
    rw [filterMap_map]
    exact filterMap_some
  simp only [convertAppExitReasonInfoFromValue, convertReasonFromValue,
    convertAppExitReasonInfoToValue, int32Member, stringMember, integerMember?,
    stringMember?, arrayMember?, member?_ofMembers, reverse_cons,
    reverse_nil, nil_append, cons_append, lookup_entry, String.reduceEq, if_true,
    if_false, bind_some, integer?, string?, array?, elim_some,
    getD_some, Int32.ofInt_toInt, Int64.ofInt_toInt, ofInt_toNat, names]
  obtain ⟨reason, subReason, killId, exitMsg⟩ := exitReason
  cases withKillMsg with
  | false => simp
  | true => by_cases empty : exitMsg = "" <;> simp [empty]

def Ledger.stamp (ledger : Ledger) : Int64 := ledger.times.getLast?.getD recorded.now

def RecordedReason.value (ledger : Ledger) (withKillMsg : Bool) : Json :=
  convertAppExitReasonInfoToValue (ledger.stamp recorded) ledger.remaining recorded.exitReason
    recorded.processInfo withKillMsg

inductive Stands (ledger : Ledger) : Prop
  | held (withKillMsg : Bool) (found : store.lookup (toKey recorded.accessTokenId) =
      some (recorded.value ledger withKillMsg))
  | gone (missing : store.lookup (toKey recorded.accessTokenId) = none)
      (spent : ledger.remaining = [])

variable {recorded store} {ledger : Ledger} (call : Get)

theorem run_of_missing (missing : store.lookup (toKey recorded.accessTokenId) = none) :
    call.run recorded store = (store, .errOk, call.outputs) := by
  simp [Get.run, getAppExitReason, recorded.named, recorded.valid, succeed, missing]

theorem run_of_other {withKillMsg : Bool}
    (found : store.lookup (toKey recorded.accessTokenId) = some (recorded.value ledger withKillMsg))
    (other : call.abilityName ∉ ledger.remaining) :
    (call.run recorded store).1 =
        (if ledger.remaining = [] then store.erase (toKey recorded.accessTokenId) else store) ∧
      (call.run recorded store).2.2.isSetReason = call.outputs.isSetReason := by
  simp [Get.run, getAppExitReason, recorded.named, recorded.valid, succeed, found,
    RecordedReason.value, convertAppExitReasonInfoFromValue_toValue, other,
    innerDeleteAppExitReason]

theorem value_told (listed : call.abilityName ∈ ledger.remaining) (withKillMsg : Bool) :
    recorded.value (ledger.step (.get call)) withKillMsg =
      convertAppExitReasonInfoToValue call.now
        (if call.cleanFlag then ledger.remaining.filter (· ≠ call.abilityName)
          else ledger.remaining) recorded.exitReason recorded.processInfo withKillMsg := by
  simp [RecordedReason.value, Ledger.step, listed, Ledger.stamp]

theorem run_of_listed {withKillMsg : Bool}
    (found : store.lookup (toKey recorded.accessTokenId) = some (recorded.value ledger withKillMsg))
    (listed : call.abilityName ∈ ledger.remaining) :
    let after := ledger.step (.get call)
    let key := toKey recorded.accessTokenId
    ∃ flag, call.run recorded store =
      (if after.remaining = [] then (store.insert key (recorded.value after flag)).erase key
        else store.insert key (recorded.value after flag),
        .errOk,
        ⟨true, recorded.exitReason, recorded.processInfo, ledger.stamp recorded, flag⟩) := by
  simp only [value_told call listed]
  simp [Get.run, getAppExitReason, recorded.named, recorded.valid, succeed, found,
    RecordedReason.value, convertAppExitReasonInfoFromValue_toValue, listed, Ledger.step,
    updateAppExitReason, handleAbilityMatchAndCleanup, innerDeleteAppExitReason]

theorem Stands.get (stands : Stands recorded store ledger) :
    Stands recorded (call.run recorded store).1 (ledger.step (.get call)) ∧
      (((call.run recorded store).1.lookup (toKey recorded.accessTokenId)).isSome ↔
        (ledger.step (.get call)).remaining ≠ []) := by
  cases stands with
  | gone missing spent =>
    have same : ledger.step (.get call) = ledger := by simp [Ledger.step, spent]
    rw [run_of_missing call missing, same]
    exact ⟨.gone missing spent, by simp [missing, spent]⟩
  | held withKillMsg found =>
    by_cases listed : call.abilityName ∈ ledger.remaining
    · obtain ⟨flag, result⟩ := run_of_listed call found listed
      rw [result]
      by_cases spent : (ledger.step (.get call)).remaining = []
      · simp only [if_pos spent, lookup_erase]
        exact ⟨.gone (lookup_erase _ _) spent, by simp [spent]⟩
      · simp only [if_neg spent, lookup_insert]
        exact ⟨.held flag (lookup_insert _), by simp [spent]⟩
    · have same : ledger.step (.get call) = ledger := by simp [Ledger.step, listed]
      rw [(run_of_other call found listed).1, same]
      by_cases spent : ledger.remaining = []
      · simp only [if_pos spent, lookup_erase]
        exact ⟨.gone (lookup_erase _ _) spent, by simp [spent]⟩
      · simp only [if_neg spent]
        exact ⟨.held withKillMsg found, by simp [found, spent]⟩

variable {events done rest : List Event}

theorem State.step_idle (recorded : RecordedReason) {state : State}
    (idle : state.pending = none) : state.step recorded .runPut = state := by
  simp [State.step, idle]

theorem PutFirst.nil (first : PutFirst events) (split : events = done ++ rest)
    (noPut : .runPut ∉ done) : done = [] := by
  cases done with
  | nil => rfl
  | cons event later =>
    cases event with
    | runPut => simp at noPut
    | get call => simpa using first [] call (later ++ rest) split

theorem putFirst_cons (events : List Event) : PutFirst (.runPut :: events) := by
  intro done call rest split
  cases done with
  | nil => cases split
  | cons event done => simp [(List.cons.inj split).1]

theorem run_stands (first : PutFirst events) (split : events = done ++ rest)
    (put : .runPut ∈ done) :
    ((reasonMachine recorded store).run done).pending = none ∧
      Stands recorded ((reasonMachine recorded store).run done).store
        ((ledgerMachine recorded).run done) := by
  induction done using reverseRecOn generalizing rest with
  | nil => cases put
  | append_singleton done event ih =>
    have earlier : events = done ++ event :: rest := by simpa using split
    rw [run_concat, run_concat]
    cases event with
    | get call =>
      obtain ⟨idle, stands⟩ := ih earlier (first done call rest earlier)
      exact ⟨idle, (stands.get call).1⟩
    | runPut =>
      by_cases before : Event.runPut ∈ done
      · obtain ⟨idle, stands⟩ := ih earlier before
        have same : (reasonMachine recorded store).step
            ((reasonMachine recorded store).run done) .runPut =
              (reasonMachine recorded store).run done := State.step_idle recorded idle
        rw [same]
        exact ⟨idle, stands⟩
      · obtain rfl := first.nil earlier before
        have submitted : recorded.set.2 = some (toKey recorded.accessTokenId,
            recorded.value ((ledgerMachine recorded).run []) recorded.withKillMsg) := by
          simp [RecordedReason.set, setAppExitReason, recorded.named, recorded.valid,
            succeed, RecordedReason.value, Ledger.stamp, ledgerMachine, run]
        simp only [reasonMachine, State.step, run, foldl_nil, submitted]
        exact ⟨trivial, .held recorded.withKillMsg (lookup_insert _)⟩

theorem Stands.told (stands : Stands recorded store ledger)
    (listed : call.abilityName ∈ ledger.remaining) :
    let (_, code, outputs) := call.run recorded store
    code = .errOk ∧ outputs.isSetReason = true ∧ outputs.exitReason = recorded.exitReason ∧
      outputs.processInfo = recorded.processInfo ∧
      outputs.timeStamp = ledger.stamp recorded := by
  cases stands with
  | gone missing spent => simp [spent] at listed
  | held withKillMsg found =>
    obtain ⟨flag, result⟩ := run_of_listed call found listed
    rw [result]
    exact ⟨rfl, rfl, rfl, rfl, rfl⟩

theorem Stands.others (stands : Stands recorded store ledger)
    (other : call.abilityName ∉ ledger.remaining) :
    (call.run recorded store).2.2.isSetReason = call.outputs.isSetReason := by
  cases stands with
  | gone missing spent => rw [run_of_missing call missing]
  | held withKillMsg found => exact (run_of_other call found other).2

theorem Ledger.stamp_of_times (each : ∀ time ∈ ledger.times, time = recorded.now) :
    ledger.stamp recorded = recorded.now := by
  unfold Ledger.stamp
  cases last : ledger.times.getLast? with
  | none => rfl
  | some time => exact each time (mem_of_getLast? last)

theorem times_of_stamp
    (atOnce : ∀ done call rest, events = done ++ .get call :: rest ->
      call.abilityName ∈ ((ledgerMachine recorded).run done).remaining ->
        ((ledgerMachine recorded).run done).stamp recorded = recorded.now)
    (split : events = done ++ rest)
    (stamp : ((ledgerMachine recorded).run done).stamp recorded = recorded.now) :
    ∀ time ∈ ((ledgerMachine recorded).run done).times, time = recorded.now := by
  induction done using reverseRecOn generalizing rest with
  | nil => simp [run, ledgerMachine]
  | append_singleton done event ih =>
    have earlier : events = done ++ event :: rest := by simpa using split
    rw [run_concat] at stamp ⊢
    cases event with
    | runPut => exact ih earlier stamp
    | get call =>
      by_cases listed : call.abilityName ∈ ((ledgerMachine recorded).run done).remaining
      · have before := ih earlier (atOnce done call rest earlier listed)
        simp only [ledgerMachine, Ledger.step, Ledger.stamp] at listed stamp ⊢
        simp only [if_pos listed, getLast?_concat, getD_some] at stamp ⊢
        intro time member
        rcases mem_append.mp member with old | new
        · exact before time old
        · rw [mem_singleton.mp new, stamp]
      · simp only [ledgerMachine, Ledger.step] at listed stamp ⊢
        rw [if_neg listed] at stamp ⊢
        exact ih earlier stamp

theorem Obtains.toldAtOnce (obtains : Obtains recorded store events) (first : PutFirst events) :
    ToldAtOnce recorded events := by
  have atOnce : ∀ done call rest, events = done ++ .get call :: rest ->
      call.abilityName ∈ ((ledgerMachine recorded).run done).remaining ->
        ((ledgerMachine recorded).run done).stamp recorded = recorded.now := by
    intro done call rest split listed
    have stands : Stands recorded ((reasonMachine recorded store).run done).store _ :=
      (run_stands first split (first done call rest split)).2
    have stamped := (stands.told call listed).2.2.2.2
    rw [<- stamped]
    exact (obtains.told done call rest split listed).2.2.2.2
  exact fun done call rest split listed =>
    times_of_stamp atOnce split (atOnce done call rest split listed)

theorem ToldAtOnce.obtains (atOnce : ToldAtOnce recorded events) (first : PutFirst events) :
    Obtains recorded store events := by
  have stands : ∀ done call rest, events = done ++ .get call :: rest ->
      Stands recorded ((reasonMachine recorded store).run done).store
        ((ledgerMachine recorded).run done) :=
    fun done call rest split => (run_stands first split (first done call rest split)).2
  refine ⟨fun done call rest split listed => ?_, fun done call rest split other => ?_,
    fun done call rest split => ?_⟩
  · rw [<- Ledger.stamp_of_times (atOnce done call rest split listed)]
    exact (stands done call rest split).told call listed
  · exact (stands done call rest split).others call other
  · rw [run_concat, run_concat]
    exact ((stands done call rest split).get call).2

/-- What was recorded is told as long as only the last answer has another time. -/
theorem obtains_iff (first : PutFirst events) :
    Obtains recorded store events ↔ ToldAtOnce recorded events :=
  ⟨fun obtains => obtains.toldAtOnce first, fun atOnce => atOnce.obtains first⟩

section Asked

def mainKilled : RecordedReason where
  bundleName := "com.demo.mail"
  accessTokenId := 537
  abilityList := ["Main"]
  exitReason := { reason := 7, exitMsg := "low memory" }
  processInfo := { pid := 41, uid := 20010 }
  withKillMsg := false
  now := 1000
  named := by decide
  valid := by decide

def askMain (now : Int64) : Event := .get ⟨"Main", {}, false, now⟩

theorem askedTwice_laterTime : ¬Obtains mainKilled ∅ [.runPut, askMain 5000, askMain 9000] := by
  intro obtains
  have atOnce := obtains.toldAtOnce (putFirst_cons _)
  have late := atOnce [.runPut, askMain 5000] _ [] rfl (by decide) 5000 (by decide)
  exact absurd late (by decide)

theorem askedTwice_thatMoment :
    Obtains mainKilled ∅ [.runPut, askMain 1000, askMain 9000] ↔
      ToldAtOnce mainKilled [.runPut, askMain 1000, askMain 9000] :=
  obtains_iff (putFirst_cons _)

end Asked

end AbilityRuntime.AppExitReason
