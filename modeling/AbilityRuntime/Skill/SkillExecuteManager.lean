import AbilityRuntime.Library.KeyedMap
import AbilityRuntime.Library.Runs

set_option autoImplicit false

namespace AbilityRuntime.Skill

open Library

inductive SkillExecuteState where
  | unknown
  | executing
  | executeDone
  | remoteDied
  | timedOut
  deriving DecidableEq

structure SkillExecuteResult where
  code : Int := 0
  uris : List String := []
  flags : Nat := 0

structure SkillExecuteRecord where
  requestCode : String
  callerToken : Option Nat
  targetBundleName : String
  callerBundleName : String
  callerTokenId : Nat
  requestCodeSeq : Nat
  targetPid : Int := 0
  state : SkillExecuteState := .unknown
  callback : Option Nat
  launchedBy : Nat := 0

structure CallerDeathRecipient where
  callerToken : Nat
  requestCode : String
  owner : Nat
  deriving DecidableEq

structure OnExecuteDone where
  requestCodeSeq : Nat
  callback : Nat
  requestCode : String
  resultCode : Int
  result : SkillExecuteResult

inductive Cause where
  | result
  | launchFailed
  | timeout
  | targetDied
  | callerDied
  deriving DecidableEq

structure Accepted where
  owner : Nat
  record : SkillExecuteRecord
  cause : Cause

structure UriGrant where
  uris : List String
  flags : Nat
  callerBundleName : String
  callerTokenId : Nat

structure SkillExecuteManager where
  requestCodeSeq : Nat := 0
  records : KeyedMap String SkillExecuteRecord := ∅
  seqToRequestCodeMap : KeyedMap Nat String := ∅
  eventHandler : Bool := false
  events : List Nat := []
  recipients : List CallerDeathRecipient := []
  notices : List CallerDeathRecipient := []
  granted : List UriGrant := []
  calls : List OnExecuteDone := []
  executeDone : List OnExecuteDone := []
  accepted : List Accepted := []

inductive SkillStep where
  | init
  | createExecuteRecord (callerToken : Option Nat) (targetBundleName callerBundleName : String)
      (callerTokenId : Nat) (callback : Option Nat) (externalRequestCode : String)
  | executeSkillDone (owner : Nat) (requestCode : String) (resultCode : Int)
      (result : SkillExecuteResult) (callerBundleName : String)
  | onExecuteDone (index : Nat)
  | onLaunchCompleted (owner : Nat) (requestCode : String) (callerPid : Int)
      (bundleName : Option String)
  | onLaunchFailed (owner : Nat) (requestCode : String) (errCode : Int)
  | onTimeout (requestCodeSeq : Nat)
  | callerDies (callerToken : Nat)
  | onCallerDied (index : Nat)
  | onTargetProcessDied (bundleName : String) (pid : Int)

def errTimedOut : Int := 110

def errSkillExecuteTargetDied : Int := 2099221

namespace SkillExecuteManager

variable (mgr : SkillExecuteManager)

def requestCodeOf (externalRequestCode : String) : String :=
  if externalRequestCode.isEmpty then toString (mgr.requestCodeSeq + 1) else externalRequestCode

def postSkillExecuteTimeout (requestCode : String) (requestCodeSeq : Nat) : SkillExecuteManager :=
  if mgr.eventHandler then
    { mgr with
      seqToRequestCodeMap := mgr.seqToRequestCodeMap.insert requestCodeSeq requestCode
      events := mgr.events ++ [requestCodeSeq] }
  else mgr

def removeSkillExecuteTimeoutLocked (requestCodeSeq : Nat) : SkillExecuteManager :=
  { mgr with
    events := if mgr.eventHandler then mgr.events.erase requestCodeSeq else mgr.events
    seqToRequestCodeMap := mgr.seqToRequestCodeMap.erase requestCodeSeq }

def createExecuteRecord (callerToken : Option Nat) (targetBundleName callerBundleName : String)
    (callerTokenId : Nat) (callback : Option Nat) (externalRequestCode : String) :
    SkillExecuteManager :=
  let currentSeq := mgr.requestCodeSeq + 1
  let requestCode := mgr.requestCodeOf externalRequestCode
  let record : SkillExecuteRecord :=
    { requestCode, callerToken, targetBundleName, callerBundleName, callerTokenId, callback
      requestCodeSeq := currentSeq, state := .executing }
  let recipient : List CallerDeathRecipient :=
    (callerToken.map (⟨·, requestCode, currentSeq⟩)).toList
  let created :=
    { mgr with
      requestCodeSeq := currentSeq
      recipients := mgr.recipients ++ recipient
      records := mgr.records.insert requestCode record }
  created.postSkillExecuteTimeout requestCode currentSeq

def removeRecord (requestCode : String) : SkillExecuteManager :=
  match mgr.records.lookup requestCode with
  | none => mgr
  | some record =>
    let recipients := match record.callerToken with
      | none => mgr.recipients
      | some token => mgr.recipients.erase ⟨token, record.requestCode, record.requestCodeSeq⟩
    { mgr with recipients, records := mgr.records.erase requestCode }

def accept (event : Accepted) : SkillExecuteManager :=
  { mgr with accepted := mgr.accepted ++ [event] }

def setState (requestCode : String) (state : SkillExecuteState) : SkillExecuteManager :=
  { mgr with
    records := KeyedMap.modify mgr.records requestCode fun record => { record with state } }

def grantUriPermission (record : SkillExecuteRecord) (result : SkillExecuteResult) :
    SkillExecuteManager :=
  if result.uris.isEmpty || record.callerBundleName.isEmpty then mgr
  else
    { mgr with
      granted := mgr.granted ++
        [⟨result.uris, result.flags, record.callerBundleName, record.callerTokenId⟩] }

def doneOf (record : SkillExecuteRecord) (requestCode : String) (resultCode : Int)
    (result : SkillExecuteResult) : List OnExecuteDone :=
  (record.callback.map (⟨record.requestCodeSeq, ·, requestCode, resultCode, result⟩)).toList

def callLater (record : SkillExecuteRecord) (requestCode : String) (resultCode : Int)
    (result : SkillExecuteResult) : SkillExecuteManager :=
  { mgr with calls := mgr.calls ++ doneOf record requestCode resultCode result }

def callNow (record : SkillExecuteRecord) (requestCode : String) (resultCode : Int)
    (result : SkillExecuteResult) : SkillExecuteManager :=
  { mgr with
    executeDone := mgr.executeDone ++ doneOf record requestCode resultCode result }

def executeSkillDone (owner : Nat) (requestCode : String) (resultCode : Int)
    (result : SkillExecuteResult) (callerBundleName : String) : SkillExecuteManager :=
  match mgr.records.lookup requestCode with
  | none => mgr
  | some record =>
    if record.targetBundleName ≠ callerBundleName then mgr
    else if record.state ≠ .executing then mgr
    else
      let granted := mgr.grantUriPermission record result
      let removed := (granted.setState requestCode .executeDone).removeRecord requestCode
      (removed.accept ⟨owner, record, .result⟩).callLater record requestCode resultCode result

def onCallerDied (owner : Nat) (requestCode : String) : SkillExecuteManager :=
  match mgr.records.lookup requestCode with
  | none => mgr
  | some record =>
    let unarmed := mgr.removeSkillExecuteTimeoutLocked record.requestCodeSeq
    let removed := (unarmed.setState requestCode .remoteDied).removeRecord requestCode
    removed.accept ⟨owner, record, .callerDied⟩

def onTimeout (requestCodeSeq : Nat) : SkillExecuteManager :=
  let mgr := { mgr with events := mgr.events.erase requestCodeSeq }
  match mgr.seqToRequestCodeMap.lookup requestCodeSeq with
  | none => mgr
  | some requestCode =>
    let found :=
      { mgr with seqToRequestCodeMap := mgr.seqToRequestCodeMap.erase requestCodeSeq }
    match found.records.lookup requestCode with
    | none => found
    | some record =>
      if record.state ≠ .executing then found
      else
        let removed := (found.setState requestCode .timedOut).removeRecord requestCode
        (removed.accept ⟨requestCodeSeq, record, .timeout⟩).callLater record requestCode errTimedOut
          { code := errTimedOut }

def onLaunchCompleted (owner : Nat) (requestCode : String) (callerPid : Int)
    (bundleName : Option String) : SkillExecuteManager :=
  match bundleName with
  | none => mgr
  | some bundleName =>
    match mgr.records.lookup requestCode with
    | none => mgr
    | some record =>
      if record.targetBundleName ≠ bundleName then mgr
      else
        let launched :=
          { mgr with
            records := KeyedMap.modify mgr.records requestCode fun record =>
              { record with targetPid := callerPid, launchedBy := owner } }
        launched.removeSkillExecuteTimeoutLocked record.requestCodeSeq

def onLaunchFailed (owner : Nat) (requestCode : String) (errCode : Int) : SkillExecuteManager :=
  match mgr.records.lookup requestCode with
  | none => mgr
  | some record =>
    let unarmed := mgr.removeSkillExecuteTimeoutLocked record.requestCodeSeq
    if record.state ≠ .executing then unarmed
    else
      let told := (unarmed.setState requestCode .remoteDied).callNow record requestCode errCode
        { code := errCode }
      (told.removeRecord requestCode).accept ⟨owner, record, .launchFailed⟩

def targetDied (requestCode : String) : SkillExecuteManager :=
  match mgr.records.lookup requestCode with
  | none => mgr
  | some record =>
    let told := (mgr.setState requestCode .remoteDied).callNow record requestCode
      errSkillExecuteTargetDied { code := errSkillExecuteTargetDied }
    (told.removeRecord requestCode).accept ⟨record.launchedBy, record, .targetDied⟩

def isHit (bundleName : String) (pid : Int) (record : SkillExecuteRecord) : Bool :=
  record.targetBundleName == bundleName && record.targetPid != 0 && record.targetPid == pid &&
    record.state == .executing

def hitCodes (bundleName : String) (pid : Int) : List String :=
  (mgr.records.entries.filter fun entry => isHit bundleName pid entry.2).map Sigma.fst

def onTargetProcessDied (bundleName : String) (pid : Int) : SkillExecuteManager :=
  (mgr.hitCodes bundleName pid).foldl targetDied mgr

def callerDies (callerToken : Nat) : SkillExecuteManager :=
  { mgr with
    recipients := mgr.recipients.filter (·.callerToken != callerToken)
    notices := mgr.notices ++ mgr.recipients.filter (·.callerToken == callerToken) }

def step : SkillStep -> SkillExecuteManager
  | .init => { mgr with eventHandler := true }
  | .createExecuteRecord callerToken targetBundleName callerBundleName callerTokenId callback
      externalRequestCode =>
    mgr.createExecuteRecord callerToken targetBundleName callerBundleName callerTokenId
      callback externalRequestCode
  | .executeSkillDone owner requestCode resultCode result callerBundleName =>
    mgr.executeSkillDone owner requestCode resultCode result callerBundleName
  | .onExecuteDone index =>
    match mgr.calls[index]? with
    | none => mgr
    | some call =>
      { mgr with
        calls := mgr.calls.eraseIdx index, executeDone := mgr.executeDone ++ [call] }
  | .onLaunchCompleted owner requestCode callerPid bundleName =>
    mgr.onLaunchCompleted owner requestCode callerPid bundleName
  | .onLaunchFailed owner requestCode errCode => mgr.onLaunchFailed owner requestCode errCode
  | .onTimeout requestCodeSeq => mgr.onTimeout requestCodeSeq
  | .callerDies callerToken => mgr.callerDies callerToken
  | .onCallerDied index =>
    match mgr.notices[index]? with
    | none => mgr
    | some notice =>
      { mgr with notices := mgr.notices.eraseIdx index }.onCallerDied notice.owner
        notice.requestCode
  | .onTargetProcessDied bundleName pid => mgr.onTargetProcessDied bundleName pid

end SkillExecuteManager

def skillExecuteManager : Machine SkillExecuteManager SkillStep where
  start := {}
  step := SkillExecuteManager.step

end AbilityRuntime.Skill
