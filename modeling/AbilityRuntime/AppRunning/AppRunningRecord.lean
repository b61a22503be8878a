import AbilityRuntime.Library.KeyedMap
import AbilityRuntime.Library.Runs

set_option autoImplicit false

namespace AbilityRuntime.AppRunning

open Library

inductive ApplicationState where
  | ready
  | foreground
  | background
  | cached
deriving DecidableEq, Repr

inductive ApplicationPendingState where
  | ready
  | foregrounding
  | backgrounding
deriving DecidableEq, Repr

inductive ApplicationScheduleState where
  | scheduleReady
  | scheduleForegrounding
  | scheduleBackgrounding
deriving DecidableEq, Repr

inductive AbilityState where
  | create
  | ready
  | foreground
  | focus
  | background
  | terminated
  | ended
  | connected
  | disconnected
deriving DecidableEq, Repr

structure AbilityRunningRecord where
  state : AbilityState := .ready
  isUIAbility : Bool := true
deriving DecidableEq, Repr

inductive WindowVisibilityState where
  | visible
  | totallyOcclusion
  | beyond
deriving DecidableEq, Repr

structure WindowVisibilityInfo where
  windowId : Nat
  visibilityState : WindowVisibilityState
  isPidMatched : Bool := true

structure AppRunningRecord where
  state : ApplicationState := .ready
  pendingState : ApplicationPendingState := .ready
  scheduleState : ApplicationScheduleState := .scheduleReady
  abilities : KeyedMap Nat AbilityRunningRecord := ∅
  foregroundingAbilityTokens : List Nat := []
  windowIds : List Nat := []
  isLauncher : Bool := false
  isAllowScbProcessMoveToBackground : Bool := false

inductive AppCall where
  | launchAbility (token : Nat) (isUIAbility : Bool)
  | updateAbilityState (token : Nat) (state : AbilityState)
  | changeWindowVisibility (info : WindowVisibilityInfo)
  | onWindowVisibilityChanged (infos : List WindowVisibilityInfo)
  | applicationForegrounded
  | applicationBackgrounded

namespace AppRunningRecord

section

variable (record : AppRunningRecord)

def scheduleForegroundRunning : AppRunningRecord :=
  { record with scheduleState := .scheduleForegrounding }

def scheduleBackgroundRunning : AppRunningRecord :=
  { record with scheduleState := .scheduleBackgrounding }

def onAbilityStateChanged (token : Nat) (state : AbilityState) : AppRunningRecord :=
  match record.abilities.lookup token with
  | none => record
  | some ability =>
    { record with abilities := record.abilities.insert token { ability with state } }

def launchAbility (token : Nat) (isUIAbility : Bool) : AppRunningRecord :=
  match record.abilities.lookup token with
  | none => { record with abilities := record.abilities.insert token { isUIAbility } }
  | some _ => record.onAbilityStateChanged token .ready

def abilityForeground (token : Nat) (ability : AbilityRunningRecord) : AppRunningRecord :=
  if ability.state ≠ .ready && ability.state ≠ .background then record
  else if record.state = .foreground && record.pendingState ≠ .backgrounding then
    record.onAbilityStateChanged token .foreground
  else if record.state = .ready || record.state = .background || record.state = .foreground then
    let pendingState := record.pendingState
    let record := { record with pendingState := .foregrounding }
    let record :=
      if pendingState = .ready then record.scheduleForegroundRunning else record
    { record with foregroundingAbilityTokens := record.foregroundingAbilityTokens.insert token }
  else record

def hasForegroundAbility : Bool :=
  (KeyedMap.values record.abilities).any fun ability =>
    ability.state = .foreground && ability.isUIAbility

def isAbilitiesBackground : Bool :=
  (KeyedMap.values record.abilities).all fun ability =>
    !ability.isUIAbility || ability.state = .background || ability.state = .terminated ||
      ability.state = .ended

def abilityBackground (token : Nat) (ability : AbilityRunningRecord) : AppRunningRecord :=
  if ability.state ≠ .foreground && ability.state ≠ .ready then record
  else
    let record := record.onAbilityStateChanged token .background
    if record.state ≠ .foreground && record.state ≠ .cached && record.state ≠ .ready then record
    else if !record.hasForegroundAbility &&
        (!record.isLauncher || record.isAllowScbProcessMoveToBackground) &&
        record.windowIds.isEmpty then
      let pendingState := record.pendingState
      let record := { record with pendingState := .backgrounding }
      if pendingState = .ready then record.scheduleBackgroundRunning else record
    else record

def updateAbilityState (token : Nat) (state : AbilityState) : AppRunningRecord :=
  match record.abilities.lookup token with
  | none => record
  | some ability =>
    if state = ability.state then record
    else
      match state with
      | .foreground => record.abilityForeground token ability
      | .background => record.abilityBackground token ability
      | _ => record

def changeWindowVisibility (info : WindowVisibilityInfo) : AppRunningRecord :=
  if !info.isPidMatched then record
  else if info.windowId ∈ record.windowIds then
    if info.visibilityState = .totallyOcclusion then
      { record with windowIds := record.windowIds.erase info.windowId }
    else record
  else if info.visibilityState = .visible then
    { record with windowIds := info.windowId :: record.windowIds }
  else record

def onWindowVisibilityChangedWithPendingState : AppRunningRecord :=
  if record.pendingState = .ready then
    if !record.windowIds.isEmpty then
      if record.state ≠ .foreground then
        { record with pendingState := .foregrounding }.scheduleForegroundRunning
      else record
    else if record.isAbilitiesBackground && record.state = .foreground then
      { record with pendingState := .backgrounding }.scheduleBackgroundRunning
    else record
  else
    let record :=
      if !record.windowIds.isEmpty then { record with pendingState := .foregrounding } else record
    if record.windowIds.isEmpty && record.isAbilitiesBackground &&
        record.foregroundingAbilityTokens.isEmpty then
      { record with pendingState := .backgrounding }
    else record

def onWindowVisibilityChanged (infos : List WindowVisibilityInfo) : AppRunningRecord :=
  if infos.isEmpty then record
  else (infos.foldl changeWindowVisibility record).onWindowVisibilityChangedWithPendingState

def popForegroundingAbilityTokens : AppRunningRecord :=
  { record.foregroundingAbilityTokens.foldl
      (fun record token => record.onAbilityStateChanged token .foreground) record with
    foregroundingAbilityTokens := [] }

def applicationForegrounded : AppRunningRecord :=
  if record.scheduleState ≠ .scheduleForegrounding then record
  else
    let record := { record with scheduleState := .scheduleReady }
    let record :=
      if record.state = .ready || record.state = .background then
        { record with state := .foreground }
      else record
    let record := record.popForegroundingAbilityTokens
    match record.pendingState with
    | .backgrounding => record.scheduleBackgroundRunning
    | .foregrounding => { record with pendingState := .ready }
    | .ready => record

def applicationBackgrounded : AppRunningRecord :=
  if record.scheduleState ≠ .scheduleBackgrounding then record
  else
    let record := { record with scheduleState := .scheduleReady }
    let record :=
      if record.state = .foreground || record.state = .ready then
        { record with state := .background }
      else record
    match record.pendingState with
    | .foregrounding => record.scheduleForegroundRunning
    | .backgrounding => { record with pendingState := .ready }
    | .ready => record

def step : AppCall -> AppRunningRecord
  | .launchAbility token isUIAbility => record.launchAbility token isUIAbility
  | .updateAbilityState token state => record.updateAbilityState token state
  | .changeWindowVisibility info => record.changeWindowVisibility info
  | .onWindowVisibilityChanged infos => record.onWindowVisibilityChanged infos
  | .applicationForegrounded => record.applicationForegrounded
  | .applicationBackgrounded => record.applicationBackgrounded

end

end AppRunningRecord

def appRunning (record : AppRunningRecord) : Machine AppRunningRecord AppCall where
  start := record
  step := AppRunningRecord.step

end AbilityRuntime.AppRunning
