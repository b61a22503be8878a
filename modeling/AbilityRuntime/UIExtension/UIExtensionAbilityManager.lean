import AbilityRuntime.Library.KeyedMap
import AbilityRuntime.Library.Runs

set_option autoImplicit false

namespace AbilityRuntime.UIExtension

open Library

inductive AbilityState where
  | initial
  | inactive
  | inactivating
  | foreground
  | background
  | foregrounding
  | backgrounding
deriving DecidableEq, Repr

inductive AbilityWindowState where
  | foreground
  | background
  | foregrounding
  | backgrounding
  | terminating
deriving DecidableEq, Repr

inductive WindowCommand where
  | foreground
  | background
  | destroy
deriving DecidableEq, Repr

structure SessionInfo where
  sessionToken : Nat
  uiExtensionComponentId : UInt64

structure AbilityRequest (Want : Type) where
  want : Want
  sessionInfo : SessionInfo

inductive RequestKind where
  | start
  | background
deriving DecidableEq, Repr

/-- One UI extension's record with its sessions, its starts and what is unanswered. -/
structure UIExtensionRecord (Want : Type) where
  abilityState : AbilityState := .initial
  pendingState : AbilityState := .initial
  isReady : Bool := false
  backgroundAbilityWindowDelayed : Bool := false
  want : Option Want := none
  sessionInfo : Option SessionInfo := none
  abilityWindowStateMap : KeyedMap UInt64 AbilityWindowState := ∅
  uiExtensionMap : List Nat := []
  startServiceReqList : List (AbilityRequest Want) := []
  isLoading : Bool := false
  movesToForeground : Nat := 0
  foregrounds : Nat := 0
  backgrounds : Nat := 0
  windowCommands : List (SessionInfo × WindowCommand) := []
  lastRequest : Option RequestKind := none

inductive UIExtensionStep (Want : Type) where
  | startAbility (request : AbilityRequest Want) (isAllowed : Bool)
  | minimizeUIExtensionAbility (sessionToken : Nat)
  | attachAbilityThread
  | onAbilityRequestDone
  | completeForeground (allows : AbilityRequest Want -> Bool)
  | completeBackground (allows : AbilityRequest Want -> Bool)
  | scheduleCommandAbilityWindowDone (index : Nat) (allows : AbilityRequest Want -> Bool)

namespace UIExtensionRecord

variable {Want : Type} (record : UIExtensionRecord Want)

def isAbilityWindowReady : Bool :=
  record.abilityWindowStateMap.entries.all fun item =>
    item.2 ≠ .backgrounding && item.2 ≠ .terminating

def setAbilityWindowState (session : SessionInfo) (winCmd : WindowCommand) (isFinished : Bool) :
    UIExtensionRecord Want :=
  let id := session.uiExtensionComponentId
  let add (state : AbilityWindowState) : UIExtensionRecord Want :=
    { record with abilityWindowStateMap := record.abilityWindowStateMap.insert id state }
  match winCmd, isFinished with
  | .foreground, true => add .foreground
  | .background, true => add .background
  | .destroy, true =>
    { record with abilityWindowStateMap := record.abilityWindowStateMap.erase id }
  | .foreground, false => add .foregrounding
  | .background, false => add .backgrounding
  | .destroy, false => add .terminating

def commandAbilityWindow (session : SessionInfo) (winCmd : WindowCommand) :
    UIExtensionRecord Want :=
  { record.setAbilityWindowState session winCmd false with
    windowCommands := record.windowCommands ++ [(session, winCmd)] }

def moveToForeground : UIExtensionRecord Want :=
  { record with movesToForeground := record.movesToForeground + 1 }

def enqueueStartServiceReq (request : AbilityRequest Want) : UIExtensionRecord Want :=
  { record with startServiceReqList := record.startServiceReqList ++ [request] }

def doForegroundUIExtension (request : AbilityRequest Want) : UIExtensionRecord Want :=
  if record.isReady && record.abilityState ≠ .inactivating && record.abilityState ≠ .foregrounding &&
      record.abilityState ≠ .backgrounding && record.isAbilityWindowReady then
    if record.abilityState = .foreground then
      { record with want := some request.want }.commandAbilityWindow request.sessionInfo .foreground
    else if record.pendingState = .background && record.abilityState = .background then
      { record with pendingState := .foreground }
    else { record with pendingState := .foreground, want := some request.want }.moveToForeground
  else record.enqueueStartServiceReq request

def startAbilityLocked (request : AbilityRequest Want) (isAllowed : Bool) :
    UIExtensionRecord Want :=
  if isAllowed then
    { record with
      backgroundAbilityWindowDelayed := false
      sessionInfo := some request.sessionInfo
      uiExtensionMap := record.uiExtensionMap.insert request.sessionInfo.sessionToken }
    |>.doForegroundUIExtension request
  else record

def completeStartServiceReq (allows : AbilityRequest Want -> Bool) : UIExtensionRecord Want :=
  record.startServiceReqList.foldl
    (fun record request => record.startAbilityLocked request (allows request))
    { record with startServiceReqList := [] }

def moveToBackground : UIExtensionRecord Want :=
  { record with abilityState := .backgrounding, backgrounds := record.backgrounds + 1 }

def doBackgroundAbilityWindow : UIExtensionRecord Want :=
  let pending := { record with pendingState := .background }
  if record.abilityState = .foreground then pending.moveToBackground
  else if record.abilityState = .initial || record.abilityState = .foregrounding then
    { pending with backgroundAbilityWindowDelayed := true }
  else pending

def foregroundUIExtensionAbility : UIExtensionRecord Want :=
  { record with abilityState := .foregrounding, foregrounds := record.foregrounds + 1 }

def onAbilityRequestDone : UIExtensionRecord Want :=
  if record.abilityState = .foregrounding then record else record.foregroundUIExtensionAbility

def respondPending : UIExtensionRecord Want :=
  if record.pendingState = .background && !record.backgroundAbilityWindowDelayed then
    record.moveToBackground
  else if record.pendingState = .foreground then { record with pendingState := .initial }
  else record

def respondBackground : UIExtensionRecord Want :=
  if record.backgroundAbilityWindowDelayed then
    { record with backgroundAbilityWindowDelayed := false }.doBackgroundAbilityWindow
  else record

def completeForegroundInner (allows : AbilityRequest Want -> Bool) : UIExtensionRecord Want :=
  if record.sessionInfo.isNone then record
  else record.respondPending.respondBackground.completeStartServiceReq allows

def completeForeground (allows : AbilityRequest Want -> Bool) : UIExtensionRecord Want :=
  if record.abilityState ≠ .foregrounding then record
  else { record with abilityState := .foreground }.completeForegroundInner allows

def completeBackgroundInner (allows : AbilityRequest Want -> Bool) : UIExtensionRecord Want :=
  let pending :=
    if record.pendingState = .foreground then
      { record with abilityState := .foregrounding }.moveToForeground
    else if record.pendingState = .background then { record with pendingState := .initial }
    else record
  pending.completeStartServiceReq allows

def completeBackground (allows : AbilityRequest Want -> Bool) : UIExtensionRecord Want :=
  if record.abilityState ≠ .backgrounding then record
  else
    let completed := { record with abilityState := .background }
    if record.sessionInfo.isNone then completed else completed.completeBackgroundInner allows

def attachAbilityThread : UIExtensionRecord Want :=
  { record with isReady := true }.moveToForeground

def scheduleCommandAbilityWindowDone (session : SessionInfo) (winCmd : WindowCommand)
    (allows : AbilityRequest Want -> Bool) : UIExtensionRecord Want :=
  let remaining :=
    if winCmd = .destroy then
      { record with uiExtensionMap := record.uiExtensionMap.erase session.sessionToken }
    else record
  (remaining.setAbilityWindowState session winCmd true).completeStartServiceReq allows

def step : UIExtensionStep Want -> UIExtensionRecord Want
  | .startAbility request isAllowed =>
    if isAllowed then
      { record with lastRequest := some .start }.startAbilityLocked request isAllowed
    else record
  | .minimizeUIExtensionAbility sessionToken =>
    if record.uiExtensionMap.contains sessionToken then
      { record with lastRequest := some .background }.doBackgroundAbilityWindow
    else record
  | .attachAbilityThread =>
    if record.isLoading then { record with isLoading := false }.attachAbilityThread else record
  | .onAbilityRequestDone =>
    if record.movesToForeground = 0 then record
    else { record with movesToForeground := record.movesToForeground - 1 }.onAbilityRequestDone
  | .completeForeground allows =>
    if record.foregrounds = 0 then record
    else { record with foregrounds := record.foregrounds - 1 }.completeForeground allows
  | .completeBackground allows =>
    if record.backgrounds = 0 then record
    else { record with backgrounds := record.backgrounds - 1 }.completeBackground allows
  | .scheduleCommandAbilityWindowDone index allows =>
    match record.windowCommands[index]? with
    | none => record
    | some (session, winCmd) =>
      { record with windowCommands := record.windowCommands.eraseIdx index }
        |>.scheduleCommandAbilityWindowDone session winCmd allows

def loading (request : AbilityRequest Want) : UIExtensionRecord Want where
  pendingState := .foreground
  want := some request.want
  sessionInfo := some request.sessionInfo
  uiExtensionMap := [request.sessionInfo.sessionToken]
  isLoading := true
  lastRequest := some .start

def preloaded : UIExtensionRecord Want where
  abilityState := .inactive
  isReady := true

end UIExtensionRecord

/-- The record of an extension that a first start loads, or that was preloaded before its first start. -/
def uiExtensionRecord {Want : Type} (created : Option (AbilityRequest Want)) :
    Machine (UIExtensionRecord Want) (UIExtensionStep Want) where
  start := created.elim .preloaded .loading
  step := UIExtensionRecord.step

end AbilityRuntime.UIExtension
