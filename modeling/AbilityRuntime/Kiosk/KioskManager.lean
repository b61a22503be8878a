import AbilityRuntime.Library.Runs

set_option autoImplicit false

namespace AbilityRuntime.Kiosk

open Library Function

inductive ErrCode where
  | errOk
  | errKioskModeNotInWhitelist
  | errAlreadyInKioskMode
  | errNotInKioskMode
  | innerErr
  | other (code : Int)
deriving DecidableEq, Repr

structure KioskStatus where
  isKioskMode : Bool := false
  kioskBundleName : String := ""
  kioskBundleUid : Int := 0
  kioskToken : Option Nat := none

inductive Listener where
  | interceptor
  | commonEvent
  | sceneSession
deriving DecidableEq, Repr

structure KioskChange where
  number : Nat
  isEnter : Bool
  bundleName : String
  uid : Int
  token : Option Nat

inductive ExitOrigin where
  | caller
  | stop
  | update (appList : List String)
deriving DecidableEq, Repr

inductive Stage where
  | onAppStop (bundleName : String)
  | updateKioskApplicationList (appList : List String)
  | enterKioskMode (bundleName : String) (uid : Int) (callerToken : Option Nat)
  | exitKioskModeInner (bundleName : String) (callerToken : Option Nat) (isFoundation : Bool)
      (callingUid : Int) (origin : ExitOrigin)
  | tell (listener : Listener) (change : KioskChange) (origin : Option ExitOrigin)
  | updateKioskAppList (appList : List String)
  | setWhitelist (appList : List String)

inductive KioskStep where
  | onAppStop (bundleName : String) (isStopped : Bool)
  | updateKioskApplicationList (appList : List String)
  | enterKioskMode (bundleName : String) (uid : Int) (callerToken : Option Nat)
  | exitKioskMode (bundleName : String) (callerToken : Option Nat) (isFoundation : Bool)
      (callingUid : Int)
  | proceed (op : Nat) (isThere : Bool) (result : ErrCode)

/-- The manager with its operations in progress and with what its listeners last heard. -/
structure KioskManager where
  whitelist : List String := []
  kioskStatus : KioskStatus := {}
  hasInterceptor : Bool := false
  lastEvent : Option (Bool × String × Int) := none
  lastSessionCall : Option (Bool × Option Nat) := none
  operation : Nat -> Option Stage := fun _ => none
  nextOperation : Nat := 0
  returned : Nat -> Option ErrCode := fun _ => none
  changes : Nat := 0
  told : Listener -> Nat := fun _ => 0
  updated : Option (List String) := none

namespace KioskManager

section

variable (mgr : KioskManager)

def go (op : Nat) (stage : Stage) : KioskManager :=
  { mgr with operation := update mgr.operation op (some stage) }

def finish (op : Nat) (code : ErrCode) : KioskManager :=
  { mgr with
    operation := update mgr.operation op none
    returned := update mgr.returned op (some code) }

def startOperation (stage : Stage) : KioskManager :=
  { mgr.go mgr.nextOperation stage with nextOperation := mgr.nextOperation + 1 }

-- The bundle and the token of the session that is to be left.
def onAppStop (op : Nat) (bundleName : String) : KioskManager :=
  if mgr.kioskStatus.isKioskMode && bundleName = mgr.kioskStatus.kioskBundleName then
    mgr.go op (.exitKioskModeInner bundleName mgr.kioskStatus.kioskToken true 0 .stop)
  else mgr.finish op .errOk

def updateKioskApplicationList (op : Nat) (appList : List String) : KioskManager :=
  let status := mgr.kioskStatus
  if status.isKioskMode && !appList.contains status.kioskBundleName then
    mgr.go op
      (.exitKioskModeInner status.kioskBundleName status.kioskToken true 0 (.update appList))
  else mgr.go op (.updateKioskAppList appList)

end

def change (mgr : KioskManager) (op : Nat) (status : KioskStatus)
    (change : KioskChange) (origin : Option ExitOrigin) : KioskManager :=
  { mgr.go op (.tell .interceptor change origin) with
    kioskStatus := status
    changes := change.number }

section

variable (mgr : KioskManager)

def enterKioskMode (op : Nat) (bundleName : String) (uid : Int)
    (callerToken : Option Nat) : KioskManager :=
  if !mgr.whitelist.contains bundleName then
    mgr.finish op .errKioskModeNotInWhitelist
  else if mgr.kioskStatus.isKioskMode then mgr.finish op .errAlreadyInKioskMode
  else
    mgr.change op ⟨true, bundleName, uid, callerToken⟩
      ⟨mgr.changes + 1, true, bundleName, uid, callerToken⟩ none

def exitKioskModeInner (op : Nat) (bundleName : String) (callerToken : Option Nat)
    (isFoundation : Bool) (callingUid : Int) (origin : ExitOrigin) : KioskManager :=
  if !mgr.whitelist.contains bundleName then
    mgr.finish op .errKioskModeNotInWhitelist
  else if !mgr.kioskStatus.isKioskMode then mgr.finish op .errNotInKioskMode
  else if !isFoundation && mgr.kioskStatus.kioskBundleUid ≠ callingUid then
    mgr.finish op .errNotInKioskMode
  else
    mgr.change op {}
      ⟨mgr.changes + 1, false, mgr.kioskStatus.kioskBundleName,
        mgr.kioskStatus.kioskBundleUid, callerToken⟩ (some origin)

-- AddKioskInterceptor and RemoveKioskInterceptor do nothing without the executer.
def callback (change : KioskChange) (isThere : Bool) : KioskManager :=
  if isThere then { mgr with hasInterceptor := change.isEnter } else mgr

def notifyKioskModeChanged (change : KioskChange) (isPublished : Bool) : KioskManager :=
  if isPublished then
    { mgr with lastEvent := some (change.isEnter, change.bundleName, change.uid) }
  else mgr

def callSession (change : KioskChange) (isThere : Bool) : KioskManager :=
  if isThere then { mgr with lastSessionCall := some (change.isEnter, change.token) }
  else mgr

def hear (listener : Listener) (change : KioskChange) : KioskManager :=
  { mgr with told := update mgr.told listener change.number }

def sessionCalled (op : Nat) (origin : Option ExitOrigin) (isThere : Bool) : KioskManager :=
  match origin with
  | some (.update appList) =>
    if isThere then mgr.go op (.updateKioskAppList appList)
    else mgr.finish op .innerErr
  | some .stop => mgr.finish op .errOk
  | some .caller | none => mgr.finish op (if isThere then .errOk else .innerErr)

end

def tell (mgr : KioskManager) (op : Nat) (listener : Listener) (change : KioskChange)
    (origin : Option ExitOrigin) (isThere : Bool) : KioskManager :=
  match listener with
  | .interceptor =>
    ((mgr.callback change isThere).hear .interceptor change).go op
      (.tell .commonEvent change origin)
  | .commonEvent =>
    ((mgr.notifyKioskModeChanged change isThere).hear .commonEvent change).go op
      (.tell .sceneSession change origin)
  | .sceneSession =>
    ((mgr.callSession change isThere).hear .sceneSession change).sessionCalled op origin isThere

def updateKioskAppList (mgr : KioskManager) (op : Nat) (appList : List String)
    (isThere : Bool) (result : ErrCode) : KioskManager :=
  if !isThere then mgr.finish op .innerErr
  else if result ≠ .errOk then mgr.finish op result
  else mgr.go op (.setWhitelist appList)

def setWhitelist (mgr : KioskManager) (op : Nat) (appList : List String) :
    KioskManager :=
  { mgr.finish op .errOk with whitelist := appList, updated := some appList }

def proceed (mgr : KioskManager) (op : Nat) (isThere : Bool) (result : ErrCode) :
    KioskManager :=
  match mgr.operation op with
  | none => mgr
  | some (.onAppStop bundleName) => mgr.onAppStop op bundleName
  | some (.updateKioskApplicationList appList) =>
    mgr.updateKioskApplicationList op appList
  | some (.enterKioskMode bundleName uid callerToken) =>
    mgr.enterKioskMode op bundleName uid callerToken
  | some (.exitKioskModeInner bundleName callerToken isFoundation callingUid origin) =>
    mgr.exitKioskModeInner op bundleName callerToken isFoundation callingUid origin
  | some (.tell listener change origin) => mgr.tell op listener change origin isThere
  | some (.updateKioskAppList appList) =>
    mgr.updateKioskAppList op appList isThere result
  | some (.setWhitelist appList) => mgr.setWhitelist op appList

def step (mgr : KioskManager) : KioskStep -> KioskManager
  | .onAppStop bundleName isStopped =>
    if isStopped then mgr.startOperation (.onAppStop bundleName) else mgr
  | .updateKioskApplicationList appList => mgr.startOperation (.updateKioskApplicationList appList)
  | .enterKioskMode bundleName uid callerToken =>
    mgr.startOperation (.enterKioskMode bundleName uid callerToken)
  | .exitKioskMode bundleName callerToken isFoundation callingUid =>
    mgr.startOperation (.exitKioskModeInner bundleName callerToken isFoundation callingUid .caller)
  | .proceed op isThere result => mgr.proceed op isThere result

end KioskManager

def kioskManager : Machine KioskManager KioskStep where
  start := {}
  step := KioskManager.step

end AbilityRuntime.Kiosk
