import Mathlib.Data.List.Perm.Basic
import AbilityRuntime.Library.Runs

set_option autoImplicit false

namespace AbilityRuntime.PendingWant

/-- What the manager uses of the Want class, which another repository defines. -/
structure WantApi (Want : Type) where
  empty : Want
  isEquals : Want -> Want -> Bool
  getBundleNameRef : Want -> String
  removeParam : Want -> String -> Want
  closeAllFd : Want -> Want

inductive OperationType where
  | unknownType
  | startAbility
  | startAbilities
  | startService
  | sendCommonEvent
  | startForegroundService
  | startServiceExtension

def OperationType.toInt32 : OperationType -> Int32
  | .unknownType => 0
  | .startAbility => 1
  | .startAbilities => 2
  | .startService => 3
  | .sendCommonEvent => 4
  | .startForegroundService => 5
  | .startServiceExtension => 6

namespace Flags

def oneTimeFlag : UInt32 := (1 : UInt32) <<< 30
def noBuildFlag : UInt32 := (1 : UInt32) <<< 29
def cancelPresentFlag : UInt32 := (1 : UInt32) <<< 28
def updatePresentFlag : UInt32 := (1 : UInt32) <<< 27

def has (flags flag : UInt32) : Bool := flags &&& flag != 0

end Flags

structure WantsInfo (Want : Type) where
  want : Want
  resolvedTypes : String

structure WantSenderInfo (Want : Type) where
  type : Int32
  requestCode : Int32
  flags : UInt32
  userId : Int32 := -1
  bundleName : String
  resultWho : String
  allWants : List (WantsInfo Want)

structure PendingWantKey (Want : Type) where
  type : Int32
  requestCode : Int32
  flags : UInt32
  code : Int32 := 0
  userId : Int32 := -1
  appIndex : Int32 := 0
  requestResolvedType : String := ""
  bundleName : String
  requestWho : String
  allWantsInfos : List (WantsInfo Want) := []
  requestWant : Want

structure PendingWantRecord (Want : Type) where
  uid : Int32
  callerTokenId : Int32
  key : PendingWantKey Want
  mCancelCallbacks : List Nat := []
  callerUid : Int32 := 0
  publisherUid : Int32 := 0
  canceled : Bool := false

structure AgentCount where
  currentNumber : Int32 := 1
  latestMinNumber : Int32 := 1
  dfxFlag : Bool := false

def wantagentNumberThreshold : Int32 := 288
def wantagentFloatThreshold : Int32 := 40
def dfxInterval : Int32 := 10

structure Caller where
  isSACall : Bool := false
  isSystemAppCall : Bool := false
  callingTokenID : Int32 := 0

/-- The arguments of one GetWantSender, and what decides about its new record. -/
structure GetWantSenderCall (Want : Type) where
  caller : Caller
  callingUid : Int32
  uid : Int32
  isSystemApp : Bool
  wantSenderInfo : WantSenderInfo Want
  appIndex : Int32 := 0
  publisherUid : Int32 := 0
  allocated : Bool := true
  place : Nat := 0

/-- The map holds its records in the order of their keys' addresses. -/
structure PendingWantManager (Want : Type) where
  wantAgentCount : String -> Option AgentCount := fun _ => none
  wantRecords : List Nat := []
  lastCode : Int32 := 0
  records : List (PendingWantRecord Want) := []
  canceledSent : List (Nat × Int32) := []
  numberEvents : List (String × Int32 × Int32) := []

namespace PendingWantKey

variable {Want : Type} (api : WantApi Want)

def clearAllWantsInfosFd (key : PendingWantKey Want) : PendingWantKey Want :=
  { key with
    allWantsInfos := key.allWantsInfos.map fun info => { info with want := api.closeAllFd info.want } }

def getAllBundleNames (key : PendingWantKey Want) : List String :=
  key.allWantsInfos.map fun info => api.getBundleNameRef info.want

end PendingWantKey

namespace GetWantSenderCall

variable {Want : Type} (api : WantApi Want)

def isPermitted (call : GetWantSenderCall Want) : Bool :=
  let type := call.wantSenderInfo.type
  if type != OperationType.sendCommonEvent.toInt32 &&
      (call.callingUid != call.uid && !call.isSystemApp && !call.caller.isSACall) then false
  else if type == OperationType.startServiceExtension.toInt32 && !call.isSystemApp &&
      !call.caller.isSACall then false
  else true

def info (call : GetWantSenderCall Want) : WantSenderInfo Want :=
  let info := call.wantSenderInfo
  if info.type != OperationType.sendCommonEvent.toInt32 && !call.isSystemApp &&
      !call.caller.isSACall then
    { info with
      allWants := info.allWants.filterMap fun wantsInfo =>
        if info.bundleName != api.getBundleNameRef wantsInfo.want then none
        else some { wantsInfo with
          want := api.removeParam wantsInfo.want "ohos.extra.param.key.appCloneIndex" } }
  else info

def needCreate (call : GetWantSenderCall Want) : Bool :=
  !Flags.has call.wantSenderInfo.flags Flags.noBuildFlag

def needCancel (call : GetWantSenderCall Want) : Bool :=
  Flags.has call.wantSenderInfo.flags Flags.cancelPresentFlag

def needUpdate (call : GetWantSenderCall Want) : Bool :=
  Flags.has call.wantSenderInfo.flags Flags.updatePresentFlag

def pendingKey (call : GetWantSenderCall Want) : PendingWantKey Want :=
  let info := call.info api
  let key : PendingWantKey Want :=
    { type := info.type
      requestCode := info.requestCode
      flags := info.flags
      userId := info.userId
      appIndex := call.appIndex
      bundleName := info.bundleName
      requestWho := info.resultWho
      requestWant := api.empty }
  match info.allWants.getLast? with
  | none => key
  | some back =>
    { key with
      requestWant := back.want
      requestResolvedType := back.resolvedTypes
      allWantsInfos := info.allWants }

end GetWantSenderCall

def checkPendingWantRecordByKey {Want : Type} (api : WantApi Want)
    (inputKey key : PendingWantKey Want) : Bool :=
  if inputKey.appIndex != key.appIndex then false
  else if inputKey.bundleName != key.bundleName then false
  else if inputKey.type != key.type then false
  else if inputKey.requestWho != key.requestWho then false
  else if inputKey.requestCode != key.requestCode then false
  else if inputKey.requestResolvedType != key.requestResolvedType then false
  else if inputKey.userId != key.userId then false
  else if !api.isEquals inputKey.requestWant key.requestWant then false
  else true

namespace PendingWantManager

variable {Want : Type} (api : WantApi Want)

section

variable (mgr : PendingWantManager Want)

def sendWantAgentNumberEvent (key : PendingWantKey Want)
    (wantAgentNumber : Int32) : PendingWantManager Want :=
  { mgr with numberEvents := mgr.numberEvents ++ [(key.bundleName, key.appIndex, wantAgentNumber)] }

def setAgentCount (bundleName : String) (count : Option AgentCount) : PendingWantManager Want :=
  { mgr with wantAgentCount := Function.update mgr.wantAgentCount bundleName count }

def handleAddWantAgentNumber (key : PendingWantKey Want) : PendingWantManager Want :=
  match mgr.wantAgentCount key.bundleName with
  | none => mgr.setAgentCount key.bundleName (some { })
  | some count =>
    let count := { count with currentNumber := count.currentNumber + 1 }
    let mgr' := mgr.setAgentCount key.bundleName (some count)
    if count.dfxFlag then
      if count.currentNumber > wantagentNumberThreshold &&
          count.currentNumber - count.latestMinNumber > wantagentFloatThreshold &&
          count.currentNumber % dfxInterval == 0 then
        mgr'.sendWantAgentNumberEvent key count.currentNumber
      else mgr'
    else if count.currentNumber > wantagentNumberThreshold then
      (mgr.setAgentCount key.bundleName
        (some { count with dfxFlag := true })).sendWantAgentNumberEvent key count.currentNumber
    else mgr'

def addWantAgentNumber (caller : Caller) (key : PendingWantKey Want) : PendingWantManager Want :=
  if caller.isSystemAppCall || caller.isSACall then mgr else mgr.handleAddWantAgentNumber key

def handleReduceWantAgentNumber (key : PendingWantKey Want) : PendingWantManager Want :=
  match mgr.wantAgentCount key.bundleName with
  | none => mgr
  | some count =>
    if count.currentNumber = 1 then mgr.setAgentCount key.bundleName none
    else
      let number := count.currentNumber - 1
      mgr.setAgentCount key.bundleName
        (some { count with currentNumber := number, latestMinNumber := number })

def reduceWantAgentNumber (caller : Caller) (key : PendingWantKey Want) : PendingWantManager Want :=
  if caller.isSystemAppCall || caller.isSACall then mgr else mgr.handleReduceWantAgentNumber key

def getPendingWantRecordByKey (key : PendingWantKey Want) : Option Nat :=
  mgr.wantRecords.find? fun r =>
    mgr.records[r]?.any fun record => checkPendingWantRecordByKey api record.key key

def getPendingWantRecordByCode (code : Int32) : Option Nat :=
  mgr.wantRecords.find? fun r => mgr.records[r]?.any fun record => record.key.code == code

def modifyRecord (r : Nat)
    (change : PendingWantRecord Want -> PendingWantRecord Want) : PendingWantManager Want :=
  { mgr with records := mgr.records.modify r change }

def makeWantSenderCanceledLocked (r : Nat) : PendingWantManager Want :=
  match mgr.records[r]? with
  | none => mgr
  | some record =>
    { mgr.modifyRecord r (fun record => { record with
          canceled := true
          key := if record.key.code > 0 then record.key.clearAllWantsInfosFd api else record.key }) with
      canceledSent := mgr.canceledSent ++
        record.mCancelCallbacks.map fun receiver => (receiver, record.key.requestCode) }

def removeRecord (caller : Caller) (r : Nat) : PendingWantManager Want :=
  let mgr :=
    match mgr.records[r]? with
    | none => mgr
    | some record => mgr.reduceWantAgentNumber caller record.key
  { mgr with wantRecords := mgr.wantRecords.erase r }

def cancelWantSenderLocked (caller : Caller) (r : Nat)
    (cleanAbility : Bool) : PendingWantManager Want :=
  let mgr := mgr.makeWantSenderCanceledLocked api r
  if cleanAbility then mgr.removeRecord caller r else mgr

-- The in-place change that UPDATE_PRESENT_FLAG asks for.
def updatePresent (r : Nat) (call : GetWantSenderCall Want) : PendingWantManager Want :=
  match (call.info api).allWants.getLast? with
  | none => mgr
  | some back =>
    mgr.modifyRecord r fun record => { record with
      key := { record.key with
        requestWant := back.want
        requestResolvedType := back.resolvedTypes
        allWantsInfos := (call.info api).allWants }
      callerUid := call.callingUid
      publisherUid := call.publisherUid }

def newRecord (call : GetWantSenderCall Want) : PendingWantRecord Want :=
  { uid := call.uid
    callerTokenId := call.caller.callingTokenID
    key := { call.pendingKey api with code := mgr.lastCode + 1 }
    callerUid := call.callingUid
    publisherUid := call.publisherUid }

def createRecord (call : GetWantSenderCall Want) : PendingWantManager Want × Option Nat :=
  if call.allocated then
    let r := mgr.records.length
    let record := mgr.newRecord api call
    let mgr := mgr.addWantAgentNumber call.caller record.key
    ({ mgr with
        lastCode := mgr.lastCode + 1
        records := mgr.records ++ [record]
        wantRecords := mgr.wantRecords.take call.place ++ r :: mgr.wantRecords.drop call.place },
      some r)
  else (mgr, none)

def createOrReturn (call : GetWantSenderCall Want)
    (ref : Option Nat) : PendingWantManager Want × Option Nat :=
  if call.needCreate then mgr.createRecord api call else (mgr, ref)

def getWantSenderLocked (call : GetWantSenderCall Want) : PendingWantManager Want × Option Nat :=
  match mgr.getPendingWantRecordByKey api (call.pendingKey api) with
  | none => mgr.createOrReturn api call none
  | some r =>
    if call.needCancel then
      ((mgr.makeWantSenderCanceledLocked api r).removeRecord call.caller r).createOrReturn api call
        (some r)
    else if call.needUpdate then (mgr.updatePresent api r call, some r)
    else (mgr, some r)

def getWantSender (call : GetWantSenderCall Want) : PendingWantManager Want × Option Nat :=
  if call.isPermitted then mgr.getWantSenderLocked api call else (mgr, none)

def cancelWantSender (caller : Caller) (isSystemAppCall : Bool)
    (sender : Option Nat) : PendingWantManager Want :=
  match sender with
  | none => mgr
  | some r =>
    if !caller.isSACall && !isSystemAppCall then mgr
    else mgr.cancelWantSenderLocked api caller r true

-- What SenderInner does to the manager; the operation it starts is not the manager's.
def senderInner (caller : Caller) (r : Nat) (managerAlive : Bool) : PendingWantManager Want :=
  match mgr.records[r]? with
  | none => mgr
  | some record =>
    if record.canceled then mgr
    else if !managerAlive then mgr
    else if Flags.has record.key.flags Flags.oneTimeFlag then
      mgr.cancelWantSenderLocked api caller r true
    else mgr

def registerCancelListener (sender receiver : Nat) : PendingWantManager Want :=
  match mgr.records[sender]?.bind fun target => mgr.getPendingWantRecordByCode target.key.code with
  | none => mgr
  | some r =>
    mgr.modifyRecord r fun record =>
      if record.canceled then record
      else { record with mCancelCallbacks := record.mCancelCallbacks ++ [receiver] }

def unregisterCancelListener (sender receiver : Nat) : PendingWantManager Want :=
  match mgr.records[sender]?.bind fun target => mgr.getPendingWantRecordByCode target.key.code with
  | none => mgr
  | some r =>
    mgr.modifyRecord r fun record =>
      { record with mCancelCallbacks := record.mCancelCallbacks.erase receiver }

def hasBundle (bundleName : String) (uid : Int32) (r : Nat) : Bool :=
  mgr.records[r]?.any fun record =>
    (record.key.getAllBundleNames api).any fun bundleItem =>
      bundleItem == bundleName && uid == record.uid

def clearPendingWantRecordTask (caller : Caller) (bundleName : String)
    (uid : Int32) : PendingWantManager Want :=
  mgr.wantRecords.foldl (fun mgr r =>
    if mgr.hasBundle api bundleName uid r then mgr.removeRecord caller r else mgr) mgr

end

section

variable (mgr : PendingWantManager Want)

section

variable (caller : Caller)
include caller

section

variable (key : PendingWantKey Want)
include key

@[simp] theorem addWantAgentNumber_records :
    (mgr.addWantAgentNumber caller key).records = mgr.records := by
  unfold addWantAgentNumber handleAddWantAgentNumber
  grind [setAgentCount, sendWantAgentNumberEvent]

@[simp] theorem addWantAgentNumber_wantRecords :
    (mgr.addWantAgentNumber caller key).wantRecords = mgr.wantRecords := by
  unfold addWantAgentNumber handleAddWantAgentNumber
  grind [setAgentCount, sendWantAgentNumberEvent]

@[simp] theorem reduceWantAgentNumber_records :
    (mgr.reduceWantAgentNumber caller key).records = mgr.records := by
  unfold reduceWantAgentNumber handleReduceWantAgentNumber
  grind [setAgentCount]

@[simp] theorem reduceWantAgentNumber_wantRecords :
    (mgr.reduceWantAgentNumber caller key).wantRecords = mgr.wantRecords := by
  unfold reduceWantAgentNumber handleReduceWantAgentNumber
  grind [setAgentCount]

end

@[simp] theorem removeRecord_records (r : Nat) :
    (mgr.removeRecord caller r).records = mgr.records := by
  unfold removeRecord
  cases mgr.records[r]? <;> simp

@[simp] theorem removeRecord_wantRecords (r : Nat) :
    (mgr.removeRecord caller r).wantRecords = mgr.wantRecords.erase r := by
  unfold removeRecord
  cases mgr.records[r]? <;> simp

end

@[simp] theorem makeWantSenderCanceledLocked_wantRecords (r : Nat) :
    (mgr.makeWantSenderCanceledLocked api r).wantRecords = mgr.wantRecords := by
  unfold makeWantSenderCanceledLocked
  cases mgr.records[r]? <;> rfl

theorem makeWantSenderCanceledLocked_records (r : Nat) :
    (mgr.makeWantSenderCanceledLocked api r).records = mgr.records.modify r fun record =>
      { record with
        canceled := true
        key := if record.key.code > 0 then record.key.clearAllWantsInfosFd api else record.key } := by
  unfold makeWantSenderCanceledLocked
  cases found : mgr.records[r]? with
  | none =>
    rw [List.modify_eq_self]
    exact List.getElem?_eq_none_iff.mp found
  | some record => rfl

theorem placed_perm (live : List Nat) (place r : Nat) :
    (live.take place ++ r :: live.drop place).Perm (r :: live) := by
  have whole := List.take_append_drop place live
  exact List.perm_middle.trans (List.Perm.cons r (by rw [whole]))

variable {mgr}

theorem clear_induction (motive : PendingWantManager Want -> Prop) (caller : Caller)
    (bundleName : String) (uid : Int32) (start : motive mgr)
    (remove : ∀ mgr r, motive mgr -> motive (mgr.removeRecord caller r)) :
    motive (mgr.clearPendingWantRecordTask api caller bundleName uid) := by
  have fold (live : List Nat) (current : PendingWantManager Want) (holds : motive current) :
      motive (live.foldl (fun mgr r =>
        if mgr.hasBundle api bundleName uid r then mgr.removeRecord caller r else mgr) current) := by
    induction live generalizing current with
    | nil => exact holds
    | cons r rest ih =>
      rw [List.foldl_cons]
      apply ih
      split
      · exact remove current r holds
      · exact holds
  exact fold mgr.wantRecords mgr start

end

end PendingWantManager

inductive Call (Want : Type) where
  | getWantSender (call : GetWantSenderCall Want)
  | cancelWantSender (caller : Caller) (isSystemAppCall : Bool) (sender : Option Nat)
  | senderInner (caller : Caller) (record : Nat) (managerAlive : Bool)
  | registerCancelListener (sender receiver : Nat)
  | unregisterCancelListener (sender receiver : Nat)
  | clearPendingWantRecordTask (caller : Caller) (bundleName : String) (uid : Int32)

def PendingWantManager.apply {Want : Type} (api : WantApi Want) (mgr : PendingWantManager Want) :
    Call Want -> PendingWantManager Want
  | .getWantSender call => (mgr.getWantSender api call).1
  | .cancelWantSender caller isSystemAppCall sender =>
    mgr.cancelWantSender api caller isSystemAppCall sender
  | .senderInner caller record managerAlive => mgr.senderInner api caller record managerAlive
  | .registerCancelListener sender receiver => mgr.registerCancelListener sender receiver
  | .unregisterCancelListener sender receiver => mgr.unregisterCancelListener sender receiver
  | .clearPendingWantRecordTask caller bundleName uid =>
    mgr.clearPendingWantRecordTask api caller bundleName uid

def machine {Want : Type} (api : WantApi Want) :
    Library.Machine (PendingWantManager Want) (Call Want) where
  start := { }
  step := PendingWantManager.apply api

end AbilityRuntime.PendingWant
