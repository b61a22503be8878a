import Mathlib.Data.String.Basic
import AbilityRuntime.ClientConnection.ConnectionManager
import AbilityRuntime.Library.SearchTree

set_option autoImplicit false

namespace AbilityRuntime.ClientConnection

open Library SearchTree

-- The null pointer lies below every other address.
def proxyAddress : Option Nat -> Nat
  | none => 0
  | some address => address + 1

theorem proxyAddress_inj {left right : Option Nat} (same : proxyAddress left = proxyAddress right) :
    left = right := by
  cases left <;> cases right <;> simp_all [proxyAddress]

def ConnectionInfo.less (info that : ConnectionInfo) : Bool :=
  let receiver := info.connectReceiver
  let thatReceiver := that.connectReceiver
  if info.userid < that.userid then true
  else if proxyAddress info.uiServiceExtProxy < proxyAddress that.uiServiceExtProxy then true
  else if info.connectCaller < that.connectCaller then true
  else if info.connectingTime < that.connectingTime then true
  else if info.connectCaller = that.connectCaller ∧
      receiver.bundleName < thatReceiver.bundleName then true
  else if info.connectCaller = that.connectCaller ∧
      receiver.bundleName = thatReceiver.bundleName ∧
      receiver.moduleName < thatReceiver.moduleName then true
  else if info.connectCaller = that.connectCaller ∧
      receiver.bundleName = thatReceiver.bundleName ∧
      receiver.moduleName = thatReceiver.moduleName ∧
      receiver.abilityName < thatReceiver.abilityName then true
  else if info.connectCaller = that.connectCaller ∧
      receiver.bundleName = thatReceiver.bundleName ∧
      receiver.moduleName = thatReceiver.moduleName ∧
      receiver.abilityName = thatReceiver.abilityName ∧
      ¬receiver = thatReceiver then true
  else false

def ConnectionInfo.agrees (info that : ConnectionInfo) : Bool :=
  info.userid == that.userid && info.uiServiceExtProxy == that.uiServiceExtProxy &&
    info.connectCaller == that.connectCaller && info.connectingTime == that.connectingTime &&
    info.connectReceiver == that.connectReceiver

/-- The names of the first receiver come first, or both are the same receiver. -/
def Operation.Before (receiver that : Operation) : Prop :=
  receiver.bundleName < that.bundleName ∨
    receiver.bundleName = that.bundleName ∧ (receiver.moduleName < that.moduleName ∨
      receiver.moduleName = that.moduleName ∧ (receiver.abilityName < that.abilityName ∨
        receiver = that))

structure ConnectionInfo.Before (info that : ConnectionInfo) : Prop where
  userid : info.userid ≤ that.userid
  uiServiceExtProxy : proxyAddress info.uiServiceExtProxy ≤ proxyAddress that.uiServiceExtProxy
  connectCaller : info.connectCaller ≤ that.connectCaller
  connectingTime : info.connectingTime ≤ that.connectingTime
  connectReceiver : info.connectCaller = that.connectCaller ->
    info.connectReceiver.Before that.connectReceiver

def ConnectionInfo.Aligned (info that : ConnectionInfo) : Prop :=
  info.Before that ∨ that.Before info

namespace Operation

variable {first second third : Operation}

theorem Before.refl (receiver : Operation) : receiver.Before receiver :=
  .inr ⟨rfl, .inr ⟨rfl, .inr rfl⟩⟩

theorem Before.trans (below : first.Before second) (above : second.Before third) :
    first.Before third := by
  rcases below with bundle | ⟨bundle, module | ⟨module, ability | rfl⟩⟩
  case inr.inr.inr => exact above
  all_goals
    rcases above with bundle' | ⟨bundle', module' | ⟨module', ability' | rfl⟩⟩
    all_goals
      unfold Before
      grind [String.lt_trans]

theorem Before.antisymm (below : first.Before second) (above : second.Before first) :
    first = second := by
  rcases below with bundle | ⟨bundle, module | ⟨module, ability | rfl⟩⟩
  case inr.inr.inr => rfl
  all_goals
    rcases above with bundle' | ⟨bundle', module' | ⟨module', ability' | rfl⟩⟩
    all_goals
      grind [String.lt_asymm, String.lt_irrefl]

theorem before_iff : first.Before second ↔
    ¬second.bundleName < first.bundleName ∧
      ¬(second.bundleName = first.bundleName ∧ second.moduleName < first.moduleName) ∧
      ¬(second.bundleName = first.bundleName ∧ second.moduleName = first.moduleName ∧
        second.abilityName < first.abilityName) ∧
      ¬(second.bundleName = first.bundleName ∧ second.moduleName = first.moduleName ∧
        second.abilityName = first.abilityName ∧ ¬second = first) := by
  unfold Before
  rcases lt_trichotomy first.bundleName second.bundleName with below | level | above
  · simp [below, below.ne', below.not_gt]
  · rcases lt_trichotomy first.moduleName second.moduleName with below | level' | above
    · simp [level, below, below.ne', below.not_gt]
    · rcases lt_trichotomy first.abilityName second.abilityName with below | level'' | above
      · simp [level, level', below, below.ne', below.not_gt]
      · simp [level, level', level'', eq_comm]
      · have other : first ≠ second := fun same => above.ne (by rw [same])
        simp [level, level', above, above.not_gt, other]
    · simp [level, above, above.not_gt, above.ne']
  · simp [above, above.not_gt, above.ne']

end Operation

namespace ConnectionInfo

variable {info that third : ConnectionInfo}

theorem not_less_iff : that.less info = false ↔ info.Before that := by
  have receivers : info.connectReceiver.Before that.connectReceiver ↔ _ := Operation.before_iff
  unfold less
  dsimp only
  constructor
  case mp =>
    intro notLess
    split_ifs at notLess with userid proxy caller time bundle module ability receiver
    exact ⟨not_lt.mp userid, not_lt.mp proxy, not_lt.mp caller, not_lt.mp time, fun same =>
      receivers.mpr ⟨fun lower => bundle ⟨same.symm, lower⟩, fun lower => module ⟨same.symm, lower⟩,
        fun lower => ability ⟨same.symm, lower⟩, fun lower => receiver ⟨same.symm, lower⟩⟩⟩
  case mpr =>
    intro before
    have names (same : that.connectCaller = info.connectCaller) :=
      receivers.mp (before.connectReceiver same.symm)
    rw [if_neg before.userid.not_gt, if_neg before.uiServiceExtProxy.not_gt,
      if_neg before.connectCaller.not_gt, if_neg before.connectingTime.not_gt,
      if_neg fun lower => (names lower.1).1 lower.2,
      if_neg fun lower => (names lower.1).2.1 lower.2,
      if_neg fun lower => (names lower.1).2.2.1 lower.2,
      if_neg fun lower => (names lower.1).2.2.2 lower.2]

theorem less_iff : that.less info = true ↔ ¬info.Before that := by
  rw [<- not_less_iff, Bool.not_eq_false]

theorem Before.refl (info : ConnectionInfo) : info.Before info :=
  ⟨le_rfl, le_rfl, le_rfl, le_rfl, fun _ => .refl _⟩

theorem Before.trans (below : info.Before that) (above : that.Before third) :
    info.Before third where
  userid := below.userid.trans above.userid
  uiServiceExtProxy := below.uiServiceExtProxy.trans above.uiServiceExtProxy
  connectCaller := below.connectCaller.trans above.connectCaller
  connectingTime := below.connectingTime.trans above.connectingTime
  connectReceiver := by
    intro same
    have first : info.connectCaller = that.connectCaller :=
      le_antisymm below.connectCaller (same ▸ above.connectCaller)
    exact (below.connectReceiver first).trans (above.connectReceiver (first.symm.trans same))

theorem Before.agrees (below : info.Before that) (above : that.Before info) :
    info.agrees that = true := by
  have caller := le_antisymm below.connectCaller above.connectCaller
  have receiver := (below.connectReceiver caller).antisymm (above.connectReceiver caller.symm)
  have proxy := proxyAddress_inj (le_antisymm below.uiServiceExtProxy above.uiServiceExtProxy)
  simp [ConnectionInfo.agrees, caller, receiver, proxy, le_antisymm below.userid above.userid,
    le_antisymm below.connectingTime above.connectingTime]

theorem before_of_agrees (same : info.agrees that = true) : info.Before that := by
  simp only [agrees, Bool.and_eq_true, beq_iff_eq] at same
  obtain ⟨⟨⟨⟨userid, proxy⟩, caller⟩, time⟩, receiver⟩ := same
  exact ⟨userid.le, by rw [proxy], caller.le, time.le, fun _ => receiver ▸ .refl _⟩

theorem equivalent_eq_agrees (info that : ConnectionInfo) :
    equivalent less info that = info.agrees that := by
  rw [Bool.eq_iff_iff, equivalent, Bool.and_eq_true, Bool.not_eq_true',
    Bool.not_eq_true', not_less_iff, not_less_iff]
  constructor
  · rintro ⟨above, below⟩
    exact below.agrees above
  · intro same
    have symm : that.agrees info = true := by
      simp only [agrees, Bool.and_eq_true, beq_iff_eq] at same ⊢
      simp [same]
    exact ⟨before_of_agrees symm, before_of_agrees same⟩

/-- The comparison orders the keys, and each connection is kept and found under its own. -/
structure KeepsConnections (keys : Set ConnectionInfo) : Prop where
  order : IsStrictWeakOrder {info // info ∈ keys} fun info that => less info.1 that.1 = true
  agree : ∀ info ∈ keys, ∀ that ∈ keys, less info that = false -> less that info = false ->
    info.agrees that = true
  kept : ∀ ops : List (Op ConnectionInfo (List Nat)),
    (∀ op ∈ ops, ∀ key ∈ op.keys, key ∈ keys) -> ∀ abilityConnections,
      Reaches less ops abilityConnections ->
        abilityConnections.entries.Perm (held agrees ops) ∧
          ∀ entry ∈ held agrees ops, abilityConnections.find less entry.1 = some entry

variable {keys : Set ConnectionInfo}

theorem order_of_aligned (aligned : ∀ info ∈ keys, ∀ that ∈ keys, info.Aligned that) :
    OrderedOn less keys where
  irrefl info := by
    rw [less_iff, not_not]
    exact .refl _
  trans first second third below above := by
    rw [less_iff] at below above ⊢
    intro circle
    have step := (aligned first.1 first.2 second.1 second.2).resolve_right below
    exact above (circle.trans step)
  incomp_trans first second third left right := by
    simp only [less_iff, not_not] at left right ⊢
    exact ⟨right.1.trans left.1, left.2.trans right.2⟩

theorem keepsConnections_of_aligned
    (aligned : ∀ info ∈ keys, ∀ that ∈ keys, info.Aligned that) : KeepsConnections keys where
  order := order_of_aligned aligned
  agree info _ that _ below above := (not_less_iff.mp above).agrees (not_less_iff.mp below)
  kept ops known abilityConnections reached := by
    have order := order_of_aligned aligned
    have equiv : ∀ info ∈ keys, ∀ that ∈ keys, equivalent less info that = info.agrees that :=
      fun info _ that _ => equivalent_eq_agrees info that
    exact ⟨(reached.refines order equiv known).2.2,
      fun _ listed => reached.find_held order equiv known listed⟩

theorem keepsConnections_iff (keys : Set ConnectionInfo) :
    KeepsConnections keys ↔ ∀ info ∈ keys, ∀ that ∈ keys, info.Aligned that := by
  constructor
  case mp =>
    intro keeps info mem that thatMember
    cases below : info.less that with
    | false => exact .inr (not_less_iff.mp below)
    | true =>
      have asymm := OrderedOn.asymm keeps.order mem thatMember below
      exact .inl (not_less_iff.mp asymm)
  case mpr => exact keepsConnections_of_aligned

def lateOfUser : ConnectionInfo :=
  { connectCaller := 1
    connectReceiver := { bundleName := "com.example.music", abilityName := "ServiceExtAbility" }
    abilityConnection := 1
    userid := 100
    uiServiceExtProxy := none
    connectingTime := 2000 }

def earlyOfNextUser : ConnectionInfo :=
  { lateOfUser with
    abilityConnection := 2
    userid := 101
    connectingTime := 1000 }

theorem earlyOfNextUser_both_below :
    lateOfUser.less earlyOfNextUser = true ∧ earlyOfNextUser.less lateOfUser = true ∧
      ¬KeepsConnections Set.univ := by
  have below : lateOfUser.less earlyOfNextUser = true := by decide
  have above : earlyOfNextUser.less lateOfUser = true := by decide
  refine ⟨below, above, fun keeps => ?_⟩
  have asymm := OrderedOn.asymm keeps.order trivial trivial below
  contradiction

end ConnectionInfo

end AbilityRuntime.ClientConnection
