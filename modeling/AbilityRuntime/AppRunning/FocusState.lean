import AbilityRuntime.Library.KeyedMap
import AbilityRuntime.Library.Runs

set_option autoImplicit false

namespace AbilityRuntime.AppRunning.Focus

open Library KeyedMap

structure AbilityRunningRecord where
  isFocused : Bool := false

structure AppRunningRecord where
  abilities : KeyedMap Nat AbilityRunningRecord := ∅
  terminateAbilities : KeyedMap Nat AbilityRunningRecord := ∅
  isFocused : Bool := false

inductive FocusCall where
  | addAbility (token : Nat)
  | updateAbilityFocusState (token : Nat) (isFocus : Bool)
  | terminateAbility (token : Nat)
  | abilityTerminated (token : Nat)

namespace AppRunningRecord

variable (record : AppRunningRecord) (token other : Nat) (isFocus : Bool)

def addAbility : AppRunningRecord :=
  if (record.abilities.lookup token).isSome then record
  else { record with abilities := record.abilities.insert token {} }

def updateFocusState : AppRunningRecord :=
  { record with abilities := record.abilities.modify token fun _ => { isFocused := isFocus } }

def abilityFocused : AppRunningRecord × Bool :=
  let record := record.updateFocusState token true
  if record.isFocused then (record, false) else ({ record with isFocused := true }, true)

def abilityUnfocused : AppRunningRecord × Bool :=
  let record := record.updateFocusState token false
  if !record.isFocused then (record, false)
  else if (values record.abilities).any (·.isFocused) then (record, false)
  else ({ record with isFocused := false }, true)

/-- The new record, and whether the focus of the process is said to have changed. -/
def updateAbilityFocusState : AppRunningRecord × Bool :=
  match record.abilities.lookup token with
  | none => (record, false)
  | some ability =>
    if ability.isFocused = isFocus then (record, false)
    else if isFocus then record.abilityFocused token
    else record.abilityUnfocused token

def terminateAbility : AppRunningRecord :=
  match record.abilities.lookup token with
  | none => record
  | some ability =>
    { record with
      abilities := record.abilities.erase token
      terminateAbilities :=
        if token ∈ record.terminateAbilities then record.terminateAbilities
        else record.terminateAbilities.insert token ability }

def abilityTerminated : AppRunningRecord :=
  { record with terminateAbilities := record.terminateAbilities.erase token }

def step : FocusCall -> AppRunningRecord
  | .addAbility token => record.addAbility token
  | .updateAbilityFocusState token isFocus => (record.updateAbilityFocusState token isFocus).1
  | .terminateAbility token => record.terminateAbility token
  | .abilityTerminated token => record.abilityTerminated token

def HasFocus : Prop :=
  ∃ ability, record.abilities.lookup token = some ability ∧ ability.isFocused = true

structure Good : Prop where
  focused : record.isFocused = true ↔ ∃ token, record.HasFocus token
  told : ∀ token isFocus, (record.updateAbilityFocusState token isFocus).2 = true ↔
    (record.updateAbilityFocusState token isFocus).1.isFocused ≠ record.isFocused

def KeepsFocus : FocusCall -> Prop
  | .terminateAbility token => record.HasFocus token -> ∃ other ≠ token, record.HasFocus other
  | _ => True

section

variable {record} {token other} {isFocus}

theorem updateFocusState_hasFocus (listed : (record.abilities.lookup token).isSome) :
    (record.updateFocusState token isFocus).HasFocus other ↔
      if other = token then isFocus = true else record.HasFocus other := by
  obtain ⟨ability, found⟩ := Option.isSome_iff_exists.mp listed
  unfold HasFocus updateFocusState
  rw [lookup_modify]
  split <;> simp [found]

theorem any_values_iff : (values record.abilities).any (·.isFocused) = true ↔
    ∃ token, record.HasFocus token := by
  simp only [List.any_eq_true, mem_values, HasFocus]
  tauto

theorem updateAbilityFocusState_told :
    (record.updateAbilityFocusState token isFocus).2 = true ↔
      (record.updateAbilityFocusState token isFocus).1.isFocused ≠ record.isFocused := by
  unfold updateAbilityFocusState abilityFocused abilityUnfocused updateFocusState
  grind

theorem updateAbilityFocusState_focused
    (agrees : record.isFocused = true ↔ ∃ token, record.HasFocus token) :
    (record.updateAbilityFocusState token isFocus).1.isFocused = true ↔
      ∃ other, (record.updateAbilityFocusState token isFocus).1.HasFocus other := by
  unfold updateAbilityFocusState
  cases found : record.abilities.lookup token with
  | none => exact agrees
  | some ability =>
    have changed (other : Nat) := @updateFocusState_hasFocus record token other isFocus <| by
      simp [found]
    dsimp only
    split
    · exact agrees
    next ne =>
      cases isFocus with
      | true =>
        refine iff_of_true ?_ ⟨token, ?_⟩
        · grind [abilityFocused]
        · have focused := (changed token).mpr (by simp)
          grind [abilityFocused, HasFocus]
      | false =>
        have focused : (record.updateFocusState token false).isFocused = true :=
          agrees.mpr ⟨token, ability, found, by simpa using ne⟩
        simp only [abilityUnfocused, focused, Bool.false_eq_true, Bool.not_true, if_false]
        split
        next others => exact iff_of_true focused (any_values_iff.mp others)
        next alone => exact iff_of_false nofun (mt any_values_iff.mpr alone)

theorem terminateAbility_hasFocus :
    (record.terminateAbility token).HasFocus other ↔ other ≠ token ∧ record.HasFocus other := by
  unfold terminateAbility
  split
  next missing =>
    refine (and_iff_right_of_imp ?_).symm
    rintro ⟨ability, found, -⟩ rfl
    exact nomatch missing.symm.trans found
  · unfold HasFocus
    rw [lookup_erase_eq]
    split <;> simp_all

theorem good_iff : record.Good ↔ (record.isFocused = true ↔ ∃ token, record.HasFocus token) :=
  ⟨Good.focused, fun focused => ⟨focused, fun _ _ => updateAbilityFocusState_told⟩⟩

theorem good_step (call : FocusCall) (good : record.Good) :
    (record.step call).Good ↔ record.KeepsFocus call := by
  rw [good_iff]
  cases call with
  | addAbility token =>
    refine iff_of_true ?_ trivial
    simp only [step, addAbility]
    split
    · exact good.focused
    next free =>
      have kept (other : Nat) :
          HasFocus { record with abilities := record.abilities.insert token {} } other ↔
            record.HasFocus other := by
        rw [Option.not_isSome_iff_eq_none] at free
        unfold HasFocus
        rw [lookup_insert_eq]
        split
        next same =>
          subst same
          simp [free]
        · rfl
      simp only [kept, good.focused]
  | updateAbilityFocusState token isFocus =>
    exact iff_of_true (updateAbilityFocusState_focused good.focused) trivial
  | terminateAbility token =>
    have same : (record.terminateAbility token).isFocused = record.isFocused := by
      unfold terminateAbility
      split <;> rfl
    simp only [step, same, terminateAbility_hasFocus, good.focused, KeepsFocus]
    constructor
    · exact fun kept focused => kept.mp ⟨token, focused⟩
    · refine fun kept => ⟨?_, fun ⟨other, _, focused⟩ => ⟨other, focused⟩⟩
      rintro ⟨other, focused⟩
      by_cases same : other = token
      · exact kept (same ▸ focused)
      · exact ⟨other, same, focused⟩
  | abilityTerminated => exact iff_of_true good.focused trivial

end

end AppRunningRecord

def focusRuns : Machine AppRunningRecord FocusCall where
  start := {}
  step := AppRunningRecord.step

open Focus.AppRunningRecord

theorem focus_good_iff (calls : List FocusCall) :
    focusRuns.Throughout calls Good ↔ focusRuns.EveryStep calls KeepsFocus := by
  have promised : focusRuns.EveryStep calls fun _ _ => True := fun _ _ _ _ => trivial
  exact Machine.throughout_iff_everyStep
    (good_iff.mpr (by simp [HasFocus, focusRuns]))
    (fun _ call good _ keeps => (good_step call good).mpr keeps) (fun _ good => good)
    (fun _ call good _ after => (good_step call good).mp after) promised

theorem terminated_keepsFlag : ¬ ∀ calls, focusRuns.Throughout calls Good := by
  intro every
  have good := every [.addAbility 1, .updateAbilityFocusState 1 true, .terminateAbility 1] _ []
    (List.append_nil _).symm
  obtain ⟨token, ability, found, -⟩ := good.focused.mp (by decide)
  exact nomatch found

end AbilityRuntime.AppRunning.Focus
