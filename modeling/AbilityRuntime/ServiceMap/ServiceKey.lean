import Mathlib.Data.String.Basic
import AbilityRuntime.Library.KeyedMap
import AbilityRuntime.Library.Runs

set_option autoImplicit false

namespace AbilityRuntime.ServiceMap

open Library

inductive ExtensionAbilityType where
  | service
  | agent
  | modularObject
  | workScheduler
  | backup
  | share
  | push
  | remoteLocation
  | remoteNotification
  | voip
  | faultLog
  | embeddedUi
  | window
  | other (code : Nat)
deriving DecidableEq, Repr

namespace ExtensionAbilityType

def isSupportAppClone : ExtensionAbilityType -> Bool
  | .workScheduler | .backup | .share | .push | .remoteLocation | .remoteNotification | .voip
  | .faultLog | .embeddedUi | .modularObject => true
  | .service | .agent | .window | .other _ => false

def isSupportedExtensionType : ExtensionAbilityType -> Bool
  | .workScheduler | .backup | .share => true
  | .service | .agent | .modularObject | .push | .remoteLocation | .remoteNotification | .voip
  | .faultLog | .embeddedUi | .window | .other _ => false

end ExtensionAbilityType

inductive AbilityState where
  | active
  | terminating
  | other
deriving DecidableEq, Repr

def lowCode : Int := 2
def frsBundleName : String := "com.ohos.formrenderservice"
def appInstanceKey0 : String := "app_instance_0"

structure Want where
  abilityName : String
  frsAppIndex : Option Int := none
  agentId : Option String := none
  agentCardType : Option Int := none
  appCloneIndex : Option Int := none
  dlpIndex : Option Int := none
  appInstanceKey : String := ""
deriving DecidableEq, Repr

structure ApplicationInfo where
  accessTokenId : Nat := 0
  appIndex : Int := 0
  isMultiInstanceApp : Bool := false
deriving DecidableEq, Repr

structure AbilityInfo where
  deviceId : String := ""
  bundleName : String
  name : String
  moduleName : String
  extensionAbilityType : ExtensionAbilityType
  applicationInfo : ApplicationInfo := { }
deriving DecidableEq, Repr

structure ElementName where
  deviceId : String
  bundleName : String
  abilityName : String
  moduleName : String

/-- A request, whose application info is that of its ability. -/
structure AbilityRequest where
  abilityInfo : AbilityInfo
  want : Want
  isWebSandBoxClone : Bool := false
  selfCallerInstanceKey : String := ""

structure RequestId where
  digits : String
  written : digits ≠ ""
  noUnderscore : '_' ∉ digits.toList

structure BaseExtensionRecord where
  abilityInfo : AbilityInfo
  want : Want
  appIndex : Int
  instanceKey : String := ""
  requestId : String := ""
  connectWant : Option Want := none
  abilityState : AbilityState := .other
  isTerminating : Bool := false
deriving DecidableEq, Repr

/-- What the bundle framework and the configuration of the device decide. -/
structure Setting where
  getURI : ElementName -> String
  isCacheExtensionAbilityByInfo : AbilityInfo -> Bool
  isSceneBoard : AbilityInfo -> Bool

def AbilityInfo.element (info : AbilityInfo) (bundleName : String) : ElementName :=
  ⟨info.deviceId, bundleName, info.name, info.moduleName⟩

namespace AbilityRequest

def getValidExtensionInstanceKey (request : AbilityRequest) : String :=
  if !request.abilityInfo.extensionAbilityType.isSupportedExtensionType then appInstanceKey0
  else if !request.want.appInstanceKey.isEmpty then request.want.appInstanceKey
  else if request.selfCallerInstanceKey.isEmpty then appInstanceKey0
  else request.selfCallerInstanceKey

def generateBundleName (request : AbilityRequest) : String :=
  let bundleName := request.abilityInfo.bundleName
  if request.abilityInfo.applicationInfo.isMultiInstanceApp then
    bundleName ++ "-" ++ request.getValidExtensionInstanceKey
  else if request.abilityInfo.extensionAbilityType.isSupportAppClone then
    let appCloneIndex := request.want.appCloneIndex.getD 0
    if appCloneIndex > 0 then toString appCloneIndex ++ bundleName else bundleName
  else bundleName

end AbilityRequest

def keySuffix (info : AbilityInfo) (want : Want) (modularSuffix : String) : String :=
  if info.bundleName = frsBundleName then toString (want.frsAppIndex.getD 0)
  else if info.extensionAbilityType = .agent ∧ want.agentCardType.getD (-1) ≠ lowCode then
    want.agentId.getD ""
  else if info.extensionAbilityType = .modularObject then modularSuffix
  else ""

namespace BaseExtensionRecord

variable (setting : Setting)

def getURI (record : BaseExtensionRecord) : String :=
  let info := record.abilityInfo
  let bundleName :=
    if info.applicationInfo.isMultiInstanceApp then info.bundleName ++ "-" ++ record.instanceKey
    else if info.extensionAbilityType.isSupportAppClone then
      if record.appIndex > 0 then toString record.appIndex ++ info.bundleName else info.bundleName
    else info.bundleName
  setting.getURI (info.element bundleName)

def getServiceKey (record : BaseExtensionRecord) : String :=
  record.getURI setting ++ keySuffix record.abilityInfo record.want
    (if record.requestId.isEmpty then "" else "_" ++ record.requestId)

def setWant (record : BaseExtensionRecord) (want : Want) : BaseExtensionRecord :=
  { record with want := { want with agentId := none, agentCardType := none } }

def saveConnectWant (record : BaseExtensionRecord) (want : Want) : BaseExtensionRecord :=
  { record with connectWant := record.connectWant <|> some want }

def updateConnectWant (record : BaseExtensionRecord) : BaseExtensionRecord :=
  match record.connectWant with
  | none => record
  | some want => record.setWant want

end BaseExtensionRecord

def AbilityRequest.getServiceKey (setting : Setting) (request : AbilityRequest)
    (requestId : RequestId) : String :=
  setting.getURI (request.abilityInfo.element request.generateBundleName) ++
    keySuffix request.abilityInfo request.want ("_" ++ requestId.digits)

def AbilityRequest.getAppIndex (request : AbilityRequest) : Int :=
  if request.isWebSandBoxClone then request.abilityInfo.applicationInfo.appIndex
  else
    match request.want.dlpIndex with
    | some index => index
    | none => request.want.appCloneIndex.getD 0

def createBaseExtensionRecord (request : AbilityRequest) : BaseExtensionRecord where
  abilityInfo := request.abilityInfo
  want := request.want
  appIndex := request.getAppIndex
  instanceKey :=
    if request.abilityInfo.applicationInfo.isMultiInstanceApp then request.getValidExtensionInstanceKey
    else ""

def afterLastUnderscore (text : String) : Option String :=
  if '_' ∈ text.toList then
    some (String.ofList (text.toList.reverse.takeWhile fun letter => letter ≠ '_').reverse)
  else none

def setupNewRecord (record : BaseExtensionRecord) (serviceKey : String) : BaseExtensionRecord :=
  match afterLastUnderscore serviceKey with
  | none => record
  | some requestId => { record with requestId := requestId }

theorem afterLastUnderscore_append (front : String) (requestId : RequestId) :
    afterLastUnderscore (front ++ ("_" ++ requestId.digits)) = some requestId.digits := by
  have clean : ∀ letter ∈ requestId.digits.toList.reverse, (!decide (letter = '_')) = true := by
    intro letter mem
    have ne : letter ≠ '_' := by
      rintro rfl
      exact requestId.noUnderscore (List.mem_reverse.mp mem)
    simpa using ne
  simp [afterLastUnderscore, List.takeWhile_append_of_pos clean]

end AbilityRuntime.ServiceMap
