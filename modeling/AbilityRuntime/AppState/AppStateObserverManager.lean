import Mathlib.Data.List.Sort
import AbilityRuntime.Library.Runs

set_option autoImplicit false

namespace AbilityRuntime.AppState

open Library Function

inductive ErrCode where
  | errOk
  | errInvalidValue
  | errPermissionDenied

inductive ObserverType where
  | applicationState
  | appForegroundState
  | abilityForegroundState
  | imageProcessState
deriving DecidableEq, Repr

def bundleNameListMaxSize : Nat := 128

structure Registration where
  observer : Nat
  uid : Int
  bundleNames : List String := []

/-- The recipient unregisters from the map of one type. It is linked unless the remote object was dead. -/
structure DeathRecipient where
  type : ObserverType
  isLinked : Bool

/-- The four observer maps, with the insertions and the deaths that are to be handled. -/
structure AppStateObserverManager where
  observerMap : ObserverType -> List Registration := fun _ => []
  recipientMap : Nat -> Option DeathRecipient := fun _ => none
  observerCountMap : Int -> Option Int := fun _ => none
  observerAmount : Int := 0
  registering : List (ObserverType × Registration) := []
  died : List Nat := []
  deaths : List (Nat × ObserverType) := []

inductive ObserverStep where
  | registerApplicationState (observer : Option Nat) (uid : Int) (bundleNameList : List String)
      (isPermitted : Bool)
  | registerImageProcessState (observer : Option Nat) (uid : Int) (isPermitted : Bool)
  | registerAppForegroundState (observer : Option Nat) (uid : Int) (isPermitted : Bool)
  | registerAbilityForegroundState (observer : Option Nat) (uid : Int) (isPermitted : Bool)
  | emplaceObserver (index : Nat)
  | unregister (type : ObserverType) (observer : Option Nat) (isPermitted : Bool)
  | die (object : Nat)
  | onObserverDied (index : Nat) (isPermitted : Bool)

-- Several proxies may stand for one remote object.
variable (asObject : Nat -> Nat)

def Registration.isOf (object : Nat) (reg : Registration) : Bool :=
  asObject reg.observer = object

namespace AppStateObserverManager

variable (mgr : AppStateObserverManager)

def isObserverExist (type : ObserverType) (observer : Nat) : Bool :=
  (mgr.observerMap type).any (Registration.isOf asObject (asObject observer))

def addObserverCount (uid : Int) : AppStateObserverManager :=
  let count : Option Int := match mgr.observerCountMap uid with
    | none => some 1
    | some count => some (count + 1)
  { mgr with
    observerAmount := mgr.observerAmount + 1
    observerCountMap := update mgr.observerCountMap uid count }

def decreaseObserverCount (uid : Int) : AppStateObserverManager :=
  match mgr.observerCountMap uid with
  | none => mgr
  | some count =>
    { mgr with
      observerAmount := mgr.observerAmount - 1
      observerCountMap := update mgr.observerCountMap uid
        (if count - 1 ≤ 0 then none else some (count - 1)) }

def addObserverDeathRecipient (type : ObserverType) (object : Nat) : AppStateObserverManager :=
  match mgr.recipientMap object with
  | some _ => mgr
  | none =>
    let recipient : DeathRecipient := ⟨type, !mgr.died.contains object⟩
    { mgr with
      recipientMap := update mgr.recipientMap object (some recipient) }

def removeObserverDeathRecipient (object : Nat) : AppStateObserverManager :=
  { mgr with recipientMap := update mgr.recipientMap object none }

def emplace (type : ObserverType) (reg : Registration) : AppStateObserverManager :=
  if (mgr.observerMap type).any (·.observer = reg.observer) then mgr
  else
    { mgr with
      observerMap := update mgr.observerMap type
        ((mgr.observerMap type).orderedInsert (·.observer ≤ ·.observer) reg) }

def emplaceObserver (type : ObserverType) (reg : Registration) : AppStateObserverManager :=
  let object := asObject reg.observer
  match type with
  | .applicationState =>
    ((mgr.emplace type reg).addObserverCount reg.uid
      ).addObserverDeathRecipient type object
  | .appForegroundState | .abilityForegroundState | .imageProcessState =>
    ((mgr.emplace type reg).addObserverDeathRecipient type object
      ).addObserverCount reg.uid

def registerObserver (type : ObserverType) (reg : Registration) (existCode : ErrCode) :
    AppStateObserverManager × ErrCode :=
  if mgr.isObserverExist asObject type reg.observer then (mgr, existCode)
  else ({ mgr with registering := mgr.registering ++ [(type, reg)] }, .errOk)

def registerApplicationStateObserver (observer : Option Nat) (uid : Int)
    (bundleNameList : List String) (isPermitted : Bool) : AppStateObserverManager × ErrCode :=
  if bundleNameListMaxSize < bundleNameList.length then (mgr, .errInvalidValue)
  else if !isPermitted then (mgr, .errPermissionDenied)
  else match observer with
    | none => (mgr, .errInvalidValue)
    | some observer =>
      mgr.registerObserver asObject .applicationState ⟨observer, uid, bundleNameList⟩
        .errInvalidValue

def registerImageProcessStateObserver (observer : Option Nat) (uid : Int) (isPermitted : Bool) :
    AppStateObserverManager × ErrCode :=
  if !isPermitted then (mgr, .errPermissionDenied)
  else match observer with
    | none => (mgr, .errInvalidValue)
    | some observer =>
      mgr.registerObserver asObject .imageProcessState ⟨observer, uid, []⟩ .errInvalidValue

def registerAppForegroundStateObserver (observer : Option Nat) (uid : Int) (isPermitted : Bool) :
    AppStateObserverManager × ErrCode :=
  match observer with
  | none => (mgr, .errInvalidValue)
  | some observer =>
    if !isPermitted then (mgr, .errPermissionDenied)
    else mgr.registerObserver asObject .appForegroundState ⟨observer, uid, []⟩ .errInvalidValue

def registerAbilityForegroundStateObserver (observer : Option Nat) (uid : Int)
    (isPermitted : Bool) : AppStateObserverManager × ErrCode :=
  match observer with
  | none => (mgr, .errInvalidValue)
  | some observer =>
    if !isPermitted then (mgr, .errPermissionDenied)
    else mgr.registerObserver asObject .abilityForegroundState ⟨observer, uid, []⟩ .errOk

def eraseObserver (type : ObserverType) (object : Nat) : AppStateObserverManager :=
  { mgr with
    observerMap := update mgr.observerMap type
      ((mgr.observerMap type).eraseP (Registration.isOf asObject object)) }

def unregisterObject (type : ObserverType) (object : Nat) : AppStateObserverManager × ErrCode :=
  match (mgr.observerMap type).find? (Registration.isOf asObject object) with
  | none => (mgr, .errInvalidValue)
  | some reg =>
    (((mgr.decreaseObserverCount reg.uid).eraseObserver asObject type object
      ).removeObserverDeathRecipient object, .errOk)

-- The application state observer is checked for null after the permission, the others before it.
def unregisterObserver (type : ObserverType) (observer : Option Nat) (isPermitted : Bool) :
    AppStateObserverManager × ErrCode :=
  match type, observer with
  | .applicationState, none =>
    (mgr, if isPermitted then .errInvalidValue else .errPermissionDenied)
  | .appForegroundState, none | .abilityForegroundState, none | .imageProcessState, none =>
    (mgr, .errInvalidValue)
  | type, some observer =>
    if !isPermitted then (mgr, .errPermissionDenied)
    else mgr.unregisterObject asObject type (asObject observer)

def die (object : Nat) : AppStateObserverManager :=
  if mgr.died.contains object then mgr
  else
    let calls := match mgr.recipientMap object with
      | some ⟨type, true⟩ => [(object, type)]
      | some ⟨_, false⟩ | none => []
    { mgr with died := object :: mgr.died, deaths := mgr.deaths ++ calls }

def onObserverDied (object : Nat) (type : ObserverType) (isPermitted : Bool) :
    AppStateObserverManager :=
  if !isPermitted then mgr else (mgr.unregisterObject asObject type object).1

def step : ObserverStep -> AppStateObserverManager
  | .registerApplicationState observer uid bundleNameList isPermitted =>
    (mgr.registerApplicationStateObserver asObject observer uid bundleNameList isPermitted).1
  | .registerImageProcessState observer uid isPermitted =>
    (mgr.registerImageProcessStateObserver asObject observer uid isPermitted).1
  | .registerAppForegroundState observer uid isPermitted =>
    (mgr.registerAppForegroundStateObserver asObject observer uid isPermitted).1
  | .registerAbilityForegroundState observer uid isPermitted =>
    (mgr.registerAbilityForegroundStateObserver asObject observer uid isPermitted).1
  | .emplaceObserver index =>
    match mgr.registering[index]? with
    | none => mgr
    | some (type, reg) =>
      { mgr with registering := mgr.registering.eraseIdx index }
        |>.emplaceObserver asObject type reg
  | .unregister type observer isPermitted =>
    (mgr.unregisterObserver asObject type observer isPermitted).1
  | .die object => mgr.die object
  | .onObserverDied index isPermitted =>
    match mgr.deaths[index]? with
    | none => mgr
    | some (object, type) =>
      { mgr with deaths := mgr.deaths.eraseIdx index }
        |>.onObserverDied asObject object type isPermitted

end AppStateObserverManager

def appStateObserverManager : Machine AppStateObserverManager ObserverStep where
  start := {}
  step := AppStateObserverManager.step asObject

end AbilityRuntime.AppState
