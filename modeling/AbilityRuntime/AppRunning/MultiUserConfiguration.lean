import AbilityRuntime.AppRunning.ConfigurationUpdate

set_option autoImplicit false

namespace AbilityRuntime.AppRunning.MultiUser

open Library AppRunning.Configuration ConfigurationUpdate KeyedMap List

def systemLanguage : String := "ohos.system.language"

def theme : String := "ohos.system.theme"

-- What the account service and the language service say while a request is handled.
structure Accounts where
  foregroundOsAccountLocalId : Option Int := some 100
  getLanguageFromUserId : Int -> String := fun _ => ""

def Accounts.getForegroundOsAccountLocalId (accounts : Accounts) : Int :=
  accounts.foregroundOsAccountLocalId.getD 100

structure MultiUserConfigurationMgr where
  multiUserConfiguration : KeyedMap Int Configuration := ∅
  globalConfiguration : Configuration

namespace MultiUserConfigurationMgr

section

variable (mgr : MultiUserConfigurationMgr)

def getConfigurationByUserId (userId : Int) : Configuration :=
  (mgr.multiUserConfiguration.lookup userId).getD mgr.globalConfiguration

def userConfiguration (userId : Int) (accounts : Accounts) : Configuration :=
  match mgr.multiUserConfiguration.lookup userId with
  | some config => config
  | none =>
    let language := accounts.getLanguageFromUserId userId
    if language ≠ "" then mgr.globalConfiguration.insert systemLanguage language
    else mgr.globalConfiguration

def setOrUpdateConfigByUserId (userId : Int) (config : Configuration)
    (accounts : Accounts) : MultiUserConfigurationMgr × List String :=
  let userConfig := mgr.userConfiguration userId accounts
  let changeKeyV := compareDifferent userConfig config
  ({ mgr with
    multiUserConfiguration :=
      mgr.multiUserConfiguration.insert userId (merge userConfig changeKeyV config) }, changeKeyV)

def updateMultiUserConfiguration (config : Configuration) : MultiUserConfigurationMgr :=
  { mgr with
    multiUserConfiguration :=
      mapValues (fun userConfig => updated userConfig config) mgr.multiUserConfiguration }

-- The update of the foreground account is one of user 0 as well.
def handleConfiguration (userId : Int) (config : Configuration)
    (accounts : Accounts) : MultiUserConfigurationMgr × List String × Bool :=
  if userId = -1 then
    let changeKeyV := compareDifferent mgr.globalConfiguration config
    ({ mgr with
      globalConfiguration := merge mgr.globalConfiguration changeKeyV config
        }.updateMultiUserConfiguration config, changeKeyV, false)
  else
    let (mgr, changeKeyV) := mgr.setOrUpdateConfigByUserId userId config accounts
    if userId ≠ 0 && userId = accounts.getForegroundOsAccountLocalId then
      let (mgr, diff) := mgr.setOrUpdateConfigByUserId 0 config accounts
      (mgr, changeKeyV, !diff.isEmpty)
    else (mgr, changeKeyV, false)

end

end MultiUserConfigurationMgr

def hasTheme (config : Configuration) : Bool := (config.lookup theme).getD "" ≠ ""

structure Process where
  record : ConfigurationUpdate.AppRunningRecord
  launchConfiguration : Configuration

def Process.userId (process : Process) : Int := process.record.uid / baseUserRange

def Process.configurations (process : Process) : List Configuration :=
  process.launchConfiguration :: process.record.sent

structure AppMgrServiceInner where
  multiUserConfigurationMgr : MultiUserConfigurationMgr
  processes : KeyedMap Nat Process := ∅

inductive ServiceStep where
  | launchApplication (recordId uid : Nat) (bundleName : String)
  | applicationForegrounded (recordId : Nat)
  | updateForUser (config : Configuration) (userId : Int) (accounts : Accounts)

inductive ServiceCall where
  | launchApplication (recordId uid : Nat) (bundleName : String)
  | applicationForegrounded (recordId : Nat)
  | updateConfiguration (config : Configuration) (userId : Int) (accounts : Accounts)
  | updateConfigurationByUserIds (config : Configuration) (userIds : List Int)
      (foregroundOsAccounts : Option (List Int)) (accounts : Accounts)

namespace AppMgrServiceInner

def dealWithUserConfiguration (mgr : MultiUserConfigurationMgr) (config : Configuration)
    (userId : Int) (accounts : Accounts) : MultiUserConfigurationMgr × Option Int :=
  let (mgr, changeKeyV, isNotifyUser0) := mgr.handleConfiguration userId config accounts
  if hasTheme config || !changeKeyV.isEmpty then (mgr, some userId)
  else if isNotifyUser0 then (mgr, some 0)
  else (mgr, none)

def updateForUser (service : AppMgrServiceInner) (config : Configuration) (userId : Int)
    (accounts : Accounts) : AppMgrServiceInner :=
  match dealWithUserConfiguration service.multiUserConfigurationMgr config userId accounts with
  | (mgr, none) => { service with multiUserConfigurationMgr := mgr }
  | (mgr, some notifyUserId) =>
    { multiUserConfigurationMgr := mgr
      processes := mapValues (fun process =>
        { process with record := process.record.updateConfiguration config notifyUserId })
          service.processes }

def launchApplication (service : AppMgrServiceInner) (recordId uid : Nat) (bundleName : String) :
    AppMgrServiceInner :=
  if recordId ∈ service.processes then service
  else
    let record : ConfigurationUpdate.AppRunningRecord := { uid, bundleName }
    let process : Process := {
      record := record.launchApplication
      launchConfiguration :=
        service.multiUserConfigurationMgr.getConfigurationByUserId (uid / baseUserRange) }
    { service with processes := service.processes.insert recordId process }

def applicationForegrounded (service : AppMgrServiceInner) (recordId : Nat) : AppMgrServiceInner :=
  { service with
    processes := modify service.processes recordId fun process =>
      { process with record := process.record.applicationForegrounded.setState } }

def step (service : AppMgrServiceInner) : ServiceStep -> AppMgrServiceInner
  | .launchApplication recordId uid bundleName => service.launchApplication recordId uid bundleName
  | .applicationForegrounded recordId => service.applicationForegrounded recordId
  | .updateForUser config userId accounts => service.updateForUser config userId accounts

def updateConfiguration (service : AppMgrServiceInner) (config : Configuration) (userId : Int)
    (accounts : Accounts) : AppMgrServiceInner :=
  service.updateForUser config userId accounts

def updateConfigurationByUserIds (service : AppMgrServiceInner) (config : Configuration)
    (userIds : List Int) (foregroundOsAccounts : Option (List Int)) (accounts : Accounts) :
    AppMgrServiceInner :=
  match if userIds.isEmpty then foregroundOsAccounts else some userIds with
  | none => service
  | some effectiveUserIds =>
    effectiveUserIds.foldl (fun service userId => service.updateForUser config userId accounts) service

def call (service : AppMgrServiceInner) : ServiceCall -> AppMgrServiceInner
  | .launchApplication recordId uid bundleName => service.launchApplication recordId uid bundleName
  | .applicationForegrounded recordId => service.applicationForegrounded recordId
  | .updateConfiguration config userId accounts =>
    service.updateConfiguration config userId accounts
  | .updateConfigurationByUserIds config userIds foregroundOsAccounts accounts =>
    service.updateConfigurationByUserIds config userIds foregroundOsAccounts accounts

end AppMgrServiceInner

def ServiceCall.steps : ServiceCall -> List ServiceStep
  | .launchApplication recordId uid bundleName => [.launchApplication recordId uid bundleName]
  | .applicationForegrounded recordId => [.applicationForegrounded recordId]
  | .updateConfiguration config userId accounts => [.updateForUser config userId accounts]
  | .updateConfigurationByUserIds config userIds foregroundOsAccounts accounts =>
    ((if userIds.isEmpty then foregroundOsAccounts else some userIds).getD []).map
      fun userId => .updateForUser config userId accounts

def appMgrService (mgr : MultiUserConfigurationMgr) : Machine AppMgrServiceInner ServiceStep where
  start := { multiUserConfigurationMgr := mgr }
  step := AppMgrServiceInner.step

theorem steps_foldl (service : AppMgrServiceInner) (call : ServiceCall) :
    call.steps.foldl AppMgrServiceInner.step service = service.call call := by
  cases call with
  | launchApplication _ _ _ | applicationForegrounded _ | updateConfiguration _ _ _ => rfl
  | updateConfigurationByUserIds config userIds foregroundOsAccounts accounts =>
    simp only [ServiceCall.steps, AppMgrServiceInner.call,
      AppMgrServiceInner.updateConfigurationByUserIds]
    cases (if userIds.isEmpty then foregroundOsAccounts else some userIds) with
    | none => rfl
    | some effectiveUserIds =>
      rw [Option.getD_some, foldl_map]
      rfl

theorem appMgrService_run (mgr : MultiUserConfigurationMgr) (calls : List ServiceCall) :
    (appMgrService mgr).run (calls.flatMap ServiceCall.steps) =
      calls.foldl AppMgrServiceInner.call { multiUserConfigurationMgr := mgr } := by
  have general (service : AppMgrServiceInner) :
      (calls.flatMap ServiceCall.steps).foldl AppMgrServiceInner.step service =
        calls.foldl AppMgrServiceInner.call service := by
    induction calls generalizing service with
    | nil => rfl
    | cons first rest ih =>
      rw [flatMap_cons, foldl_append, steps_foldl, ih, foldl_cons]
  exact general _

end AbilityRuntime.AppRunning.MultiUser
