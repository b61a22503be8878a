import AbilityRuntime.Library.Runs

set_option autoImplicit false

namespace AbilityRuntime.SceneBoard

open Library

inductive AbilityState where
  | initial
  | foreground
  | background
  | foregrounding
  | backgrounding
  | terminating
deriving DecidableEq, Repr

inductive AbilityNativeState where
  | none
  | normal
  | init
  | attached
  | created
  | onForeground
deriving DecidableEq, Repr

inductive Transaction where
  | moveToForeground
  | foregroundNew
  | backgroundNew
  | completeBackground
  | delayedBackground
deriving DecidableEq, Repr

structure UIAbilityRecord where
  currentState : AbilityState := .initial
  pendingState : AbilityState := .foreground
  nativeState : AbilityNativeState := .none
  startSelfRequestId : Nat := 0
  isPrelaunch : Bool := false
  isReady : Bool := false
  hasLastWant : Bool := false
  shouldUpdateWant : Bool := false
  inSessionMap : Bool := true
  isTerminating : Bool := false
  accepted : Option AbilityState := some .foreground
  inFlight : List Transaction := []

structure StartRequest where
  valid : Bool := true
  preloadStart : Bool := false
  reuseDelegatorWindow : Bool := false
  specifiedCold : Bool := false
  requestId : Nat := 0
  isNewWant : Bool := false
  skipsNewWant : Bool := false

inductive ForegroundAnswer where
  | foreground
  | foregroundFailed
  | foregroundInvalidMode
  | foregroundWindowFreezed
deriving DecidableEq, Repr

inductive LifecycleCall where
  | attachAbilityThread (toBackground : Bool)
  | startUIAbility (request : StartRequest)
  | minimizeUIAbility
  | changeUIAbilityVisibilityBySCB (isShow : Bool)
  | onAbilityRequestDone
  | foregroundDone (answer : ForegroundAnswer)
  | backgroundDone
  | completeBackground
  | delayedBackground

namespace UIAbilityRecord

def checkStartPendingState (record : UIAbilityRecord) (requestId : Nat) : Bool :=
  record.pendingState = .initial ||
    (record.pendingState = .foreground && record.nativeState = .onForeground &&
      requestId = record.startSelfRequestId)

def post (record : UIAbilityRecord) (transaction : Transaction) : UIAbilityRecord :=
  { record with inFlight := record.inFlight ++ [transaction] }

def foregroundAbility (record : UIAbilityRecord) : UIAbilityRecord :=
  { record with currentState := .foregrounding }.post .foregroundNew

def moveToForeground (record : UIAbilityRecord) : UIAbilityRecord :=
  { record with currentState := .foregrounding }.post .moveToForeground

section

variable (record : UIAbilityRecord)

def moveToBackground : UIAbilityRecord :=
  { record with currentState := .backgrounding }.post .backgroundNew

def processForegroundAbility : UIAbilityRecord :=
  if !record.isReady then { record with isPrelaunch := false }
  else if record.currentState = .foreground then record.foregroundAbility
  else { record with isPrelaunch := false }.moveToForeground

def updateWantByLastWant : UIAbilityRecord × Bool :=
  if !record.shouldUpdateWant then (record, false)
  else if !record.hasLastWant then ({ record with shouldUpdateWant := false }, false)
  else ({ record with shouldUpdateWant := false, hasLastWant := false }, true)

def startUIAbility (request : StartRequest) : UIAbilityRecord :=
  if !record.inSessionMap || !request.valid then record
  else if request.preloadStart || request.reuseDelegatorWindow then record
  else
    let admitted := record.checkStartPendingState request.requestId
    let record := { record with accepted := some .foreground, pendingState := .foreground }
    if request.specifiedCold then record
    else if !admitted then
      { record with
        hasLastWant := record.hasLastWant || (!request.skipsNewWant && request.isNewWant) }
    else record.processForegroundAbility

def minimizeUIAbility : UIAbilityRecord :=
  let record := { record with accepted := some .background }
  if record.pendingState ≠ .initial then { record with pendingState := .background }
  else if record.currentState ≠ .foreground then record
  else { record with pendingState := .background }.moveToBackground

def changeUIAbilityVisibilityBySCB (isShow : Bool) : UIAbilityRecord :=
  if !record.inSessionMap || !isShow then record
  else
    let record := { record with accepted := some .foreground }
    if record.pendingState ≠ .initial then { record with pendingState := .foreground }
    else { record with pendingState := .foreground }.processForegroundAbility

def attachNative : UIAbilityRecord :=
  if record.nativeState = .init then { record with nativeState := .attached } else record

def attachAbilityThread (toBackground : Bool) : UIAbilityRecord :=
  if !record.inSessionMap || record.isReady then record
  else
    let record := { record with isReady := true }.attachNative
    if toBackground then record.moveToBackground else record.moveToForeground

def onAbilityRequestDone : UIAbilityRecord :=
  record.updateWantByLastWant.1.foregroundAbility

def completeForegroundSuccess : UIAbilityRecord :=
  match { record with currentState := .foreground, shouldUpdateWant := true }.updateWantByLastWant with
  | (record, true) => record.foregroundAbility
  | (record, false) =>
    if record.pendingState = .background then
      if record.isPrelaunch then record.post .delayedBackground else record.moveToBackground
    else if record.pendingState = .foreground then { record with pendingState := .initial }
    else record

def handleForegroundFailed : UIAbilityRecord :=
  { record with
    accepted := none, inSessionMap := false, isTerminating := true
    pendingState := .background }.moveToBackground

def dispatchForeground (answer : ForegroundAnswer) : UIAbilityRecord :=
  if record.currentState ≠ .foregrounding then record
  else if record.nativeState = .attached then { record with nativeState := .created }
  else
    let record :=
      if record.nativeState = .onForeground then { record with nativeState := .normal } else record
    match answer with
    | .foreground => record.completeForegroundSuccess
    | .foregroundWindowFreezed => { record with currentState := .background, accepted := none }
    | .foregroundFailed | .foregroundInvalidMode => record.handleForegroundFailed

def dispatchBackground : UIAbilityRecord :=
  if record.currentState ≠ .backgrounding then record else record.post .completeBackground

def completeBackground : UIAbilityRecord :=
  if record.currentState ≠ .backgrounding then record
  else
    let record := { record with currentState := .background }
    let record :=
      if record.pendingState = .foreground then
        { record with shouldUpdateWant := record.hasLastWant }.moveToForeground
      else if record.pendingState = .background then
        { record with pendingState := .initial, hasLastWant := false }
      else record
    if record.isTerminating && record.currentState = .background then
      { record with currentState := .terminating }
    else record

def finish (transaction : Transaction)
    (handle : UIAbilityRecord -> UIAbilityRecord) : UIAbilityRecord :=
  if transaction ∈ record.inFlight then
    handle { record with inFlight := record.inFlight.erase transaction }
  else record

def step : LifecycleCall -> UIAbilityRecord
  | .attachAbilityThread toBackground => record.attachAbilityThread toBackground
  | .startUIAbility request => record.startUIAbility request
  | .minimizeUIAbility => record.minimizeUIAbility
  | .changeUIAbilityVisibilityBySCB isShow => record.changeUIAbilityVisibilityBySCB isShow
  | .onAbilityRequestDone => record.finish .moveToForeground onAbilityRequestDone
  | .foregroundDone answer =>
    record.finish .foregroundNew fun record => record.dispatchForeground answer
  | .backgroundDone => record.finish .backgroundNew dispatchBackground
  | .completeBackground => record.finish .completeBackground completeBackground
  | .delayedBackground => record.finish .delayedBackground moveToBackground

end

end UIAbilityRecord

def uiAbility (record : UIAbilityRecord) : Machine UIAbilityRecord LifecycleCall where
  start := record
  step := UIAbilityRecord.step

end AbilityRuntime.SceneBoard
