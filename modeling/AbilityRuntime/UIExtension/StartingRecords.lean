import AbilityRuntime.Library.KeyedMap
import AbilityRuntime.Library.Runs

set_option autoImplicit false

namespace AbilityRuntime.UIExtension

open Library List AList KeyedMap Option

structure StartingKey where
  uid : Int
  pid : Int
  recordId : Int
deriving DecidableEq

-- Stages have the numbers in which they began; one that is in progress has its key there.
structure StartingRecords where
  startingRecordsMap : KeyedMap StartingKey Nat := ∅
  delayedTasks : List (Option StartingKey) := []
  inProgress : List (Option StartingKey) := []

inductive StartingCall where
  | addStartingRecord (key : StartingKey)
  | removeStartingRecord (stage : Nat) (key : StartingKey)
  | runDelayedTask (stage : Nat)

namespace StartingRecords

variable (records : StartingRecords) (key : StartingKey) (stage : Nat)

def isUIExtensionStarting (uid pid : Int) : Bool :=
  let entries := records.startingRecordsMap.keys.filter (·.uid = uid)
  if entries.isEmpty then false
  else if pid ≤ 0 then true
  else entries.any fun entry => entry.pid = pid || entry.pid = 0

def addStartingRecord : StartingRecords where
  inProgress := records.inProgress ++ [some key]
  delayedTasks := records.delayedTasks ++ [if key.uid ≤ 0 then none else some key]
  startingRecordsMap :=
    if key.uid ≤ 0 then records.startingRecordsMap
    else
      records.startingRecordsMap.insert key
        (match records.startingRecordsMap.lookup key with
        | some count => count + 1
        | none => 1)

def removed : KeyedMap StartingKey Nat :=
  match records.startingRecordsMap.lookup key with
  | none => records.startingRecordsMap
  | some count =>
    if count - 1 ≤ 0 then records.startingRecordsMap.erase key
    else records.startingRecordsMap.insert key (count - 1)

def removeStartingRecord : StartingRecords :=
  { records with
    startingRecordsMap := records.removed key
    inProgress := records.inProgress.set stage none }

def step : StartingCall -> StartingRecords
  | .addStartingRecord key => records.addStartingRecord key
  | .removeStartingRecord stage key => records.removeStartingRecord key stage
  | .runDelayedTask stage =>
    match records.delayedTasks[stage]? with
    | some (some key) =>
      { records.removeStartingRecord key stage with
        delayedTasks := records.delayedTasks.set stage none }
    | _ => records

def stages : Nat := records.inProgress.count (some key)

def unlessZero (count : Nat) : Option Nat := if count = 0 then none else some count

structure Good : Prop where
  counted : ∀ key, records.startingRecordsMap.lookup key = unlessZero (records.stages key)
  told : ∀ uid pid, records.isUIExtensionStarting uid pid = true ↔
    ∃ key, some key ∈ records.inProgress ∧ key.uid = uid ∧ (pid ≤ 0 ∨ key.pid = pid ∨ key.pid = 0)

def Removes : Prop :=
  match records.inProgress[stage]? with
  | some (some own) => own = key
  | _ => records.stages key = 0

def Meets : StartingCall -> Prop
  | .addStartingRecord key => 0 < key.uid
  | .removeStartingRecord stage key => records.Removes key stage
  | .runDelayedTask stage => ∀ key, records.delayedTasks[stage]? = some (some key) ->
    records.Removes key stage

section

variable {records} {key other : StartingKey} {stage : Nat}

theorem unlessZero_inj {count other : Nat} :
    unlessZero count = unlessZero other ↔ count = other := by
  unfold unlessZero
  split_ifs <;> simp_all [eq_comm]

theorem good_iff : records.Good ↔
    ∀ key, records.startingRecordsMap.lookup key = unlessZero (records.stages key) := by
  refine ⟨Good.counted, fun counted => ⟨counted, fun uid pid => ?_⟩⟩
  have listed (key : StartingKey) :
      key ∈ records.startingRecordsMap.keys ↔ some key ∈ records.inProgress := by
    rw [<- AList.mem_keys, <- AList.lookup_isSome, counted, unlessZero, stages]
    split
    next none => simpa using count_eq_zero.mp none
    next some => simpa using count_pos_iff.mp (Nat.pos_of_ne_zero some)
  simp only [<- listed, isUIExtensionStarting, List.isEmpty_iff, filter_eq_nil_iff]
  grind

theorem lookup_removed (counted : ∀ key, records.startingRecordsMap.lookup key =
    unlessZero (records.stages key)) :
    (records.removed key).lookup other =
      unlessZero (records.stages other - if other = key then 1 else 0) := by
  unfold removed
  rw [counted, unlessZero]
  by_cases none : records.stages key = 0
  · rw [if_pos none]
    rw [counted]
    split
    next same => rw [same, none]
    · rfl
  · rw [if_neg none]
    dsimp only
    split
    next last =>
      rw [lookup_erase_eq, counted]
      split
      next same => 
        subst same
        rw [unlessZero, if_pos (by omega)]
      · rfl
    next more =>
      rw [lookup_insert_eq, counted]
      split
      next same =>
        subst same
        rw [unlessZero, if_neg (by omega)]
      · rfl

theorem good_removeStartingRecord (good : records.Good) :
    (records.removeStartingRecord key stage).Good ↔ records.Removes key stage := by
  have rest (other : StartingKey) : (records.inProgress.set stage none).count (some other) =
      records.stages other - if records.inProgress[stage]? = some (some other) then 1 else 0 := by
    by_cases inside : stage < records.inProgress.length
    · simp [count_set inside, inside, stages]
    · simp [set_eq_of_length_le (Nat.le_of_not_lt inside), inside, stages]
  have counted : (records.removeStartingRecord key stage).Good ↔ ∀ other,
      records.stages other - (if other = key then 1 else 0) = records.stages other -
        if records.inProgress[stage]? = some (some other) then 1 else 0 := by
    rw [good_iff]
    refine forall_congr' fun other => ?_
    rw [<- unlessZero_inj, <- lookup_removed good.counted, <- rest]
    rfl
  rw [counted, Removes]
  split
  next own found =>
    have held : 0 < records.stages own := count_pos_iff.mpr (mem_of_getElem? found)
    simp only [found, some.injEq]
    refine ⟨fun every => ?_, ?_⟩
    · by_contra ne
      have kept := every own
      rw [if_pos rfl, if_neg ne] at kept
      omega
    · rintro rfl other
      simp only [eq_comm]
  next ended =>
    refine ⟨fun every => ?_, fun none other => ?_⟩
    · have kept := every key
      rw [if_pos rfl, if_neg (ended key)] at kept
      omega
    · rw [if_neg (ended other)]
      split
      next same => rw [same, none]
      · rfl

theorem good_addStartingRecord (good : records.Good) :
    (records.addStartingRecord key).Good ↔ 0 < key.uid := by
  have stages (other : StartingKey) : (records.addStartingRecord key).stages other =
      records.stages other + if other = key then 1 else 0 := by
    rw [StartingRecords.stages, addStartingRecord, count_append, count_singleton]
    by_cases same : other = key
    · simp [same, StartingRecords.stages]
    · simp [same, Ne.symm same, StartingRecords.stages]
  rw [good_iff]
  simp only [stages]
  simp only [addStartingRecord]
  split
  next invalid =>
    refine iff_of_false (fun every => ?_) (by omega)
    have own := every key
    rw [good.counted, unlessZero_inj, if_pos rfl] at own
    omega
  next valid =>
    refine iff_of_true (fun other => ?_) (by omega)
    rw [lookup_insert_eq, good.counted, good.counted]
    by_cases same : other = key
    · rw [if_pos same, if_pos same, same, unlessZero, unlessZero]
      split <;> simp_all
    · rw [if_neg same, if_neg same, Nat.add_zero]

theorem good_step (call : StartingCall) (good : records.Good) :
    (records.step call).Good ↔ records.Meets call := by
  cases call with
  | addStartingRecord => exact good_addStartingRecord good
  | removeStartingRecord => exact good_removeStartingRecord good
  | runDelayedTask stage =>
    simp only [step, Meets]
    split
    next key found =>
      simp only [found, some.injEq, forall_eq']
      rw [<- good_removeStartingRecord good, good_iff, good_iff]
      rfl
    next none => exact iff_of_true good fun key found => absurd found (none key)

end

end StartingRecords

def startingRecords : Machine StartingRecords StartingCall where
  start := {}
  step := StartingRecords.step

open StartingRecords

theorem startingRecords_good_iff (calls : List StartingCall) :
    startingRecords.Throughout calls Good ↔ startingRecords.EveryStep calls Meets := by
  have promised : startingRecords.EveryStep calls fun _ _ => True := fun _ _ _ _ => trivial
  exact Machine.throughout_iff_everyStep (good_iff.mpr fun _ => rfl)
    (fun _ call good _ meets => (good_step call good).mpr meets) (fun _ good => good)
    (fun _ call good _ after => (good_step call good).mp after) promised

theorem staleTask_removes : ¬ ∀ calls, startingRecords.Throughout calls Good := by
  intro every
  have good := every [.addStartingRecord ⟨1, 0, 5⟩, .removeStartingRecord 0 ⟨1, 0, 5⟩,
    .addStartingRecord ⟨1, 0, 5⟩, .runDelayedTask 0] _ [] (List.append_nil _).symm
  exact absurd (good.counted ⟨1, 0, 5⟩) (by decide)

end AbilityRuntime.UIExtension
