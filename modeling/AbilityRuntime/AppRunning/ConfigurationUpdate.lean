import AbilityRuntime.Library.KeyedMap
import AbilityRuntime.Library.Runs

set_option autoImplicit false

namespace AbilityRuntime.AppRunning

open Library

abbrev Configuration := KeyedMap String String

namespace Configuration

open AList Option

def compareDifferent (config other : Configuration) : List String :=
  other.keys.filter fun key => config.lookup key ≠ other.lookup key

def merge (config : Configuration) (changeKeyV : List String) (other : Configuration) :
    Configuration :=
  changeKeyV.foldl (fun config key =>
    match other.lookup key with
    | some value => config.insert key value
    | none => config) config

/-- A configuration once the items of another that differ have been taken over. -/
def updated (config other : Configuration) : Configuration :=
  merge config (compareDifferent config other) other

def received (configs : List Configuration) : Configuration := configs.foldl updated ∅

def Within (config other : Configuration) : Prop :=
  ∀ key ∈ config.keys, config.lookup key = other.lookup key

instance (config other : Configuration) : Decidable (Within config other) :=
  inferInstanceAs (Decidable (∀ key ∈ config.keys, _ = _))

theorem Within.or_lookup {config other : Configuration} (within : Within config other)
    (key : String) : (config.lookup key).or (other.lookup key) = other.lookup key := by
  cases found : config.lookup key with
  | none => rfl
  | some value =>
    have same := within key (mem_keys.mp (KeyedMap.mem_of_lookup found))
    rw [<- same, found, some_or]

theorem merge_lookup (config other : Configuration) (key : String) (changeKeyV : List String) :
    (merge config changeKeyV other).lookup key =
      if key ∈ changeKeyV then (other.lookup key).or (config.lookup key) else config.lookup key := by
  induction changeKeyV generalizing config with
  | nil => simp [merge]
  | cons first rest ih =>
    have step : merge config (first :: rest) other =
        merge (match other.lookup first with
          | some value => config.insert first value
          | none => config) rest other := rfl
    rw [step, ih]
    cases found : other.lookup first with
    | none =>
      by_cases same : key = first
      · subst same
        simp [found]
      · simp [same]
    | some value =>
      by_cases same : key = first
      · subst same
        simp [found]
      · simp [same]

theorem mem_compareDifferent {config other : Configuration} {key : String} :
    key ∈ compareDifferent config other ↔ key ∈ other ∧ config.lookup key ≠ other.lookup key := by
  simp [compareDifferent, mem_keys]

theorem compareDifferent_isEmpty (config other : Configuration) :
    (compareDifferent config other).isEmpty = decide (Within other config) := by
  rw [Bool.eq_iff_iff, List.isEmpty_iff, decide_eq_true_eq]
  unfold compareDifferent Within
  rw [List.filter_eq_nil_iff]
  refine forall₂_congr fun key _ => ?_
  rw [decide_eq_true_eq, not_not]
  exact eq_comm

theorem within_iff {config other : Configuration} :
    Within config other ↔ ∀ key, (config.lookup key).or (other.lookup key) = other.lookup key := by
  refine ⟨Within.or_lookup, fun same key present => ?_⟩
  obtain ⟨value, found⟩ := isSome_iff_exists.mp (lookup_isSome.mpr (mem_keys.mpr present))
  rw [<- same key, found, some_or]

@[simp] theorem updated_lookup (config other : Configuration) (key : String) :
    (updated config other).lookup key = (other.lookup key).or (config.lookup key) := by
  rw [updated, merge_lookup]
  split
  · rfl
  next same =>
    rw [mem_compareDifferent, not_and, not_not] at same
    cases found : other.lookup key with
    | none => rfl
    | some value => rw [same (KeyedMap.mem_of_lookup found), found, some_or]

@[simp] theorem received_concat (configs : List Configuration) (config : Configuration) :
    received (configs ++ [config]) = updated (received configs) config := by
  simp [received]

end Configuration

namespace ConfigurationUpdate

open AppRunning.Configuration KeyedMap

inductive ApplicationState where
  | create
  | ready
  | foreground
  | background
deriving DecidableEq, Repr

inductive AbilityType where
  | page
  | uiExtension
  | other
deriving DecidableEq, Repr

/-- An application that is foregrounding has a task of ApplicationForegrounded under way, between
the delayed update and SetState. -/
structure AppRunningRecord where
  uid : Nat
  bundleName : String
  appIndex : Int := 0
  state : ApplicationState := .create
  foregrounding : Bool := false
  abilities : KeyedMap Nat AbilityType := ∅
  delayConfiguration : Configuration := ∅
  isDelayed : Bool := false
  sent : List Configuration := []
  updates : List Configuration := []

structure BackgroundAppInfo where
  bandleName : String
  appIndex : Int := 0

inductive ConfigurationCall where
  | createAppRunningRecord (recordId uid : Nat) (bundleName : String) (appIndex : Int)
  | removeAppRunningRecord (recordId : Nat)
  | launchApplication (recordId : Nat)
  | applicationForegrounded (recordId : Nat)
  | setState (recordId : Nat)
  | applicationBackgrounded (recordId : Nat)
  | addAbility (recordId token : Nat) (type : AbilityType)
  | removeAbility (recordId token : Nat)
  | updateConfiguration (config : Configuration) (userId : Int)
  | executeConfigurationTask (info : BackgroundAppInfo) (userId : Int)
  | updateConfigurationDelayed (recordId : Nat)

def baseUserRange : Nat := 200000

def systemColorMode : String := "ohos.system.colorMode"

namespace AppRunningRecord

section

variable (record : AppRunningRecord)

def isOfUser (userId : Int) : Bool :=
  userId = -1 || record.uid / baseUserRange = 0 || record.uid / baseUserRange = userId

def needUpdateConfigurationBackground : Bool :=
  (values record.abilities).any fun type => type ≠ .page && type ≠ .uiExtension

def send (config : Configuration) : AppRunningRecord :=
  { record with sent := record.sent ++ [config] }

-- An application that is not ready yet is launched with the configuration of then.
def isConcerned (userId : Int) : Bool :=
  record.state ≠ .create && record.isOfUser userId

def isUpdatedDirectly : Bool :=
  record.needUpdateConfigurationBackground || record.state ≠ .background

def updateConfiguration (config : Configuration) (userId : Int) : AppRunningRecord :=
  if !record.isConcerned userId then record
  else
    let record := { record with updates := record.updates ++ [config] }
    if record.isUpdatedDirectly then { record with isDelayed := false }.send config
    else
      { record with
        delayConfiguration := updated record.delayConfiguration config, isDelayed := true }

-- An item without a value is as good as none.
def delayedColorMode : Option String :=
  (record.delayConfiguration.lookup systemColorMode).filter (· ≠ "")

def isOfTask (info : BackgroundAppInfo) (userId : Int) : Bool :=
  record.isOfUser userId && info.bandleName = record.bundleName &&
    info.appIndex = record.appIndex && record.isDelayed && record.state = .background

def executeConfigurationTask (info : BackgroundAppInfo) (userId : Int) : AppRunningRecord :=
  if !record.isOfTask info userId then record
  else
    match record.delayedColorMode with
    | none => record
    | some value =>
      { record with
        delayConfiguration := record.delayConfiguration.erase systemColorMode
        isDelayed := false }.send ((∅ : Configuration).insert systemColorMode value)

def updateConfigurationDelayed : AppRunningRecord :=
  if !record.isDelayed then record
  else { record.send record.delayConfiguration with delayConfiguration := ∅, isDelayed := false }

def launchApplication : AppRunningRecord :=
  if record.state = .create then { record with state := .ready } else record

-- The handler runs its tasks concurrently, and no lock is held until SetState.
def applicationForegrounded : AppRunningRecord :=
  match record.state with
  | .ready => { record with foregrounding := true }
  | .background => { record.updateConfigurationDelayed with foregrounding := true }
  | .create | .foreground => record

def setState : AppRunningRecord :=
  if record.foregrounding then { record with state := .foreground, foregrounding := false }
  else record

def applicationBackgrounded : AppRunningRecord :=
  if record.state = .foreground || record.state = .ready then { record with state := .background }
  else record

def addAbility (token : Nat) (type : AbilityType) : AppRunningRecord :=
  { record with abilities := record.abilities.insert token type }

def removeAbility (token : Nat) : AppRunningRecord :=
  { record with abilities := record.abilities.erase token }

end

end AppRunningRecord

abbrev AppRunningRecordMap := KeyedMap Nat AppRunningRecord

namespace AppRunningRecordMap

def step (records : AppRunningRecordMap) : ConfigurationCall -> AppRunningRecordMap
  | .createAppRunningRecord recordId uid bundleName appIndex =>
    if recordId ∈ records then records
    else records.insert recordId { uid, bundleName, appIndex }
  | .removeAppRunningRecord recordId => records.erase recordId
  | .launchApplication recordId => modify records recordId (·.launchApplication)
  | .applicationForegrounded recordId => modify records recordId (·.applicationForegrounded)
  | .setState recordId => modify records recordId (·.setState)
  | .applicationBackgrounded recordId => modify records recordId (·.applicationBackgrounded)
  | .addAbility recordId token type => modify records recordId (·.addAbility token type)
  | .removeAbility recordId token => modify records recordId (·.removeAbility token)
  | .updateConfiguration config userId =>
    mapValues (·.updateConfiguration config userId) records
  | .executeConfigurationTask info userId =>
    mapValues (·.executeConfigurationTask info userId) records
  | .updateConfigurationDelayed recordId =>
    modify records recordId (·.updateConfigurationDelayed)

end AppRunningRecordMap

end ConfigurationUpdate

end AbilityRuntime.AppRunning
