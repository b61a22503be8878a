import AbilityRuntime.Library.KeyedMap
import AbilityRuntime.Library.Runs

set_option autoImplicit false

namespace AbilityRuntime.LocalCall

open Library Function KeyedMap AList

inductive CallState where
  | init
  | requesting
  | requested
deriving DecidableEq

structure CallContainer where
  callRecordMap : KeyedMap Nat Nat := ∅
  deathRecipientMap : KeyedMap Nat Unit := ∅
  callState : Nat -> CallState := fun _ => .init
  connCallback : Nat -> Option Nat := fun _ => none
  told : Nat -> Nat := fun _ => 0
  removed : Nat -> Nat := fun _ => 0

inductive ContainerCall where
  | addCallRecord (connect callRecord : Nat)
  | removeCallRecord (connect : Nat)
  | callRequestDone
  | onConnectionDied (remote : Nat)
  | notifyAllCallDisconnect
  | setCallState (callRecord : Nat) (state : CallState)

def addConnectDeathRecipient (recipients : KeyedMap Nat Unit) (connect : Nat) : KeyedMap Nat Unit :=
  if connect ∈ recipients then recipients else recipients.insert connect ()

namespace CallContainer

variable (container : CallContainer) (connect callRecord : Nat)

def addCallRecord : CallContainer :=
  let recipients := if (container.callRecordMap.lookup connect).isSome then
    container.deathRecipientMap.erase connect else container.deathRecipientMap
  { container with
    deathRecipientMap := addConnectDeathRecipient recipients connect
    connCallback := update container.connCallback callRecord (some connect)
    callRecordMap := (container.callRecordMap.erase connect).insert connect callRecord }

-- A record without a callback tells nobody.
def schedulerDisconnectDone : CallContainer :=
  { container with
    told := update container.told callRecord
      (container.told callRecord + if (container.connCallback callRecord).isSome then 1 else 0) }

def removeCallRecord : CallContainer :=
  match container.callRecordMap.lookup connect with
  | none => container
  | some callRecord =>
    { container.schedulerDisconnectDone callRecord with
      callRecordMap := container.callRecordMap.erase connect
      deathRecipientMap := container.deathRecipientMap.erase connect
      removed := update container.removed callRecord (container.removed callRecord + 1) }

def held : List Nat := values container.callRecordMap

def callRequestDone : CallContainer :=
  { container with
    callState := fun callRecord =>
      if callRecord ∈ container.held ∧ container.callState callRecord = .requesting then .requested
      else container.callState callRecord }

-- Only a record that was answered tells its callback; all of them leave the map.
def notifyAllCallDisconnect : CallContainer :=
  { container with
    told := fun callRecord => container.told callRecord +
      if container.callState callRecord = .requested ∧
          (container.connCallback callRecord).isSome then container.held.count callRecord else 0
    removed := fun callRecord => container.removed callRecord + container.held.count callRecord
    callRecordMap := ∅ }

def step : ContainerCall -> CallContainer
  | .addCallRecord connect callRecord => container.addCallRecord connect callRecord
  | .removeCallRecord connect => container.removeCallRecord connect
  | .callRequestDone => container.callRequestDone
  | .onConnectionDied _ => container
  | .notifyAllCallDisconnect => container.notifyAllCallDisconnect
  | .setCallState callRecord state =>
    { container with callState := update container.callState callRecord state }

structure Good : Prop where
  keys : ∀ object, object ∈ container.deathRecipientMap ↔ object ∈ container.callRecordMap
  callback : ∀ object callRecord, container.callRecordMap.lookup object = some callRecord ->
    container.connCallback callRecord = some object
  told : ∀ callRecord, container.told callRecord = container.removed callRecord

/-- A record comes under one callback, and the bulk path finds no record to notify. -/
def Meets : ContainerCall -> Prop
  | .addCallRecord connect callRecord =>
    ∀ object, container.callRecordMap.lookup object = some callRecord -> object = connect
  | .notifyAllCallDisconnect => ∀ object, object ∉ container.callRecordMap
  | _ => True

section

variable {container} {connect callRecord}

theorem mem_addCallRecord {object : Nat} :
    object ∈ (container.addCallRecord connect callRecord).deathRecipientMap ↔
      object = connect ∨ object ∈ container.deathRecipientMap := by
  simp only [addCallRecord, addConnectDeathRecipient]
  by_cases same : object = connect <;> split <;> split <;> simp_all

theorem good_addCallRecord (good : container.Good) :
    (container.addCallRecord connect callRecord).Good ↔
      ∀ object, container.callRecordMap.lookup object = some callRecord -> object = connect := by
  constructor
  · intro after object held
    by_contra other
    have own := after.callback object callRecord (by
      rw [addCallRecord, lookup_insert_ne other, lookup_erase_ne other, held])
    have same : connect = object := by simpa [addCallRecord] using own
    exact other same.symm
  · refine fun once => ⟨fun object => ?_, fun object other held => ?_, good.told⟩
    · rw [mem_addCallRecord, addCallRecord, mem_insert, mem_erase, good.keys]
      tauto
    · rw [addCallRecord, lookup_insert_eq, lookup_erase_eq] at held
      simp only [addCallRecord, update_apply]
      split_ifs at held with same
      · simp [<- Option.some.inj held, same]
      · rw [if_neg, good.callback object other held]
        rintro rfl
        exact same (once object held)

theorem good_step (call : ContainerCall) (good : container.Good) :
    (container.step call).Good ↔ container.Meets call := by
  cases call with
  | addCallRecord connect callRecord => exact good_addCallRecord good
  | removeCallRecord connect =>
    refine iff_of_true ?_ trivial
    simp only [step, removeCallRecord]
    split
    · exact good
    next callRecord found =>
      have own := good.callback _ _ found
      constructor
      · simp [good.keys]
      · intro object other held
        exact good.callback _ _ (lookup_of_erase held)
      · intro other
        simp only [schedulerDisconnectDone, own, update_apply]
        split <;> simp [good.told]
  | callRequestDone => exact iff_of_true { good with } trivial
  | onConnectionDied => exact iff_of_true good trivial
  | setCallState => exact iff_of_true { good with } trivial
  | notifyAllCallDisconnect =>
    constructor
    · exact fun after object held =>
        absurd ((after.keys object).mp ((good.keys object).mpr held)) (notMem_empty object)
    · intro none
      have empty (other : Nat) : container.held.count other = 0 := by
        rw [List.count_eq_zero, held, mem_values]
        exact fun ⟨object, found⟩ => none object (mem_of_lookup found)
      refine ⟨fun object => ?_, nofun, fun other => ?_⟩
      · exact iff_of_false (fun held => none object ((good.keys object).mp held)) nofun
      · simp [step, notifyAllCallDisconnect, empty, good.told]

end

end CallContainer

def callContainer : Machine CallContainer ContainerCall where
  start := {}
  step := CallContainer.step

open CallContainer

theorem callContainer_good_iff (calls : List ContainerCall) :
    callContainer.Throughout calls Good ↔ callContainer.EveryStep calls Meets := by
  have promised : callContainer.EveryStep calls fun _ _ => True := fun _ _ _ _ => trivial
  exact Machine.throughout_iff_everyStep ⟨fun _ => Iff.rfl, nofun, fun _ => rfl⟩
    (fun _ call good _ meets => (good_step call good).mpr meets) (fun _ good => good)
    (fun _ call good _ after => (good_step call good).mp after) promised

theorem notifyAll_leaves_recipient : ¬ ∀ calls, callContainer.Throughout calls Good := by
  intro every
  have good := every [.addCallRecord 1 7, .setCallState 7 .requesting, .notifyAllCallDisconnect]
    _ [] (List.append_nil _).symm
  exact absurd ((good.keys 1).mp (by decide)) (by decide)

end AbilityRuntime.LocalCall
