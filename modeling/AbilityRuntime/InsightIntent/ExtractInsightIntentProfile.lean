import Mathlib.Data.List.Basic

set_option autoImplicit false

namespace AbilityRuntime.InsightIntent

inductive ExecuteMode where
  | uiAbilityForeground
  | uiAbilityBackground
  | uiExtensionAbility
  | serviceExtensionAbility
  deriving DecidableEq

structure LinkIntentParamMapping where
  paramName : String := ""
  paramMappingName : String := ""
  paramCategory : String := ""
  deriving DecidableEq

inductive GenericData where
  | link (uri : String) (paramMapping : List LinkIntentParamMapping) (parameters : String)
  | page (uiAbility pagePath navigationId navDestinationName parameters : String)
  | entry (abilityName : String) (executeMode : List ExecuteMode) (parameters : String)
  | function (functionName functionReturnType : String) (functionParams : List String)
      (parameters : String)
  | form (abilityName formName parameters : String)
  | monostate
  deriving DecidableEq

structure ExtractInsightIntentGenericInfo where
  bundleName : String := ""
  moduleName : String := ""
  intentName : String := ""
  displayName : String := ""
  decoratorType : String := ""
  data : GenericData := .monostate
  deriving DecidableEq

structure InsightIntentEntityInfo where
  decoratorFile : String := ""
  className : String := ""
  decoratorType : String := ""
  entityId : String := ""
  entityCategory : String := ""
  parameters : String := ""
  parentClassName : String := ""
  supportedQueryProperties : List String := []

def InsightIntentEntityInfo.isQueryable (entity : InsightIntentEntityInfo) : Bool :=
  entity.parentClassName == "insightIntent.AppIntentEntity"

structure ExtractInsightIntentProfileInfo where
  entities : List InsightIntentEntityInfo := []
  executeMode : List String := []
  functionParams : List String := []
  keywords : List String := []
  paramMapping : List LinkIntentParamMapping := []
  decoratorFile : String := ""
  decoratorClass : String := ""
  decoratorType : String := ""
  bundleName : String := ""
  moduleName : String := ""
  intentName : String := ""
  domain : String := ""
  intentVersion : String := ""
  displayName : String := ""
  displayDescription : String := ""
  schema : String := ""
  icon : String := ""
  llmDescription : String := ""
  parameters : String := ""
  result : String := ""
  example' : String := ""
  uri : String := ""
  uiAbility : String := ""
  pagePath : String := ""
  navigationId : String := ""
  navDestinationName : String := ""
  abilityName : String := ""
  functionName : String := ""
  functionReturnType : String := ""
  formName : String := ""
  arkTSMode : String := ""

inductive DecoratorType where
  | link
  | page
  | entry
  | function
  | form
  | unknown

def stringToEnum (input : String) : DecoratorType :=
  if input = "@InsightIntentLink" then .link
  else if input = "@InsightIntentPage" then .page
  else if input = "@InsightIntentEntry" then .entry
  else if input = "@InsightIntentFunctionMethod" then .function
  else if input = "@InsightIntentForm" then .form
  else .unknown

def executeModeOf (mode : String) : Option ExecuteMode :=
  if mode = "foreground" then some .uiAbilityForeground
  else if mode = "background" then some .uiAbilityBackground
  else if mode = "uiextension" then some .uiExtensionAbility
  else if mode = "serviceextension" then some .serviceExtensionAbility
  else none

section

variable (insightIntent : ExtractInsightIntentProfileInfo)

def checkProfileSubIntentInfo : Bool :=
  match stringToEnum insightIntent.decoratorType with
  | .link =>
    !insightIntent.uri.isEmpty && insightIntent.paramMapping.all (!·.paramName.isEmpty)
  | .page => !insightIntent.pagePath.isEmpty
  | .entry => !insightIntent.abilityName.isEmpty
  | .function => !insightIntent.functionName.isEmpty
  | .form => !insightIntent.formName.isEmpty && !insightIntent.abilityName.isEmpty
  | .unknown => false

def checkProfileInfo : Bool :=
  let named :=
    [insightIntent.decoratorFile, insightIntent.decoratorClass, insightIntent.decoratorType,
      insightIntent.bundleName, insightIntent.moduleName, insightIntent.intentName,
      insightIntent.domain, insightIntent.intentVersion, insightIntent.displayName]
  named.all (!·.isEmpty) &&
    insightIntent.entities.all (fun entity =>
      !(entity.className.isEmpty || (entity.entityId.isEmpty && !entity.isQueryable))) &&
    checkProfileSubIntentInfo insightIntent

def genericDataOf : GenericData :=
  match stringToEnum insightIntent.decoratorType with
  | .link => .link insightIntent.uri insightIntent.paramMapping insightIntent.parameters
  | .page =>
    .page insightIntent.uiAbility insightIntent.pagePath insightIntent.navigationId
      insightIntent.navDestinationName insightIntent.parameters
  | .entry =>
    .entry insightIntent.abilityName (insightIntent.executeMode.filterMap executeModeOf)
      insightIntent.parameters
  | .function =>
    .function insightIntent.functionName insightIntent.functionReturnType
      insightIntent.functionParams insightIntent.parameters
  | .form => .form insightIntent.abilityName insightIntent.formName insightIntent.parameters
  | .unknown => .monostate

/-- The generic info that ProfileInfoFormat fills in; it stays as it was made when a check fails. -/
def profileInfoFormat : ExtractInsightIntentGenericInfo :=
  if checkProfileInfo insightIntent then
    { bundleName := insightIntent.bundleName
      moduleName := insightIntent.moduleName
      intentName := insightIntent.intentName
      displayName := insightIntent.displayName
      decoratorType := insightIntent.decoratorType
      data := genericDataOf insightIntent }
  else {}

end

structure InsightIntentInfo where
  inputParams : List String := []
  outputParams : List String := []
  keywords : List String := []
  uiAbilityName : String := ""
  supportExecuteMode : List ExecuteMode := []
  uiExtensionAbilityName : String := ""
  serviceExtensionAbilityName : String := ""
  formAbilityName : String := ""
  formName : String := ""
  intentName : String := ""
  intentDomain : String := ""
  intentVersion : String := ""
  srcEntry : String := ""
  arkTSMode : String := ""
  cfgEntities : String := ""
  displayName : String := ""
  icon : String := ""
  displayDescription : String := ""
  bundleName : String := ""
  moduleName : String := ""

/-- The JSON of the two kinds of intents, as far as its fields have their types. -/
structure IntentJson where
  dumpProfile : ExtractInsightIntentProfileInfo -> Option String
  readProfiles : String -> Option (List ExtractInsightIntentProfileInfo)
  dumpConfig : InsightIntentInfo -> Option String
  readConfigs : String -> Option (List InsightIntentInfo)

namespace IntentJson

variable (json : IntentJson)

def transformTo (profileStr : String) : Option (List ExtractInsightIntentProfileInfo) :=
  match json.readProfiles profileStr with
  | none => none
  | some intentInfos => if intentInfos.all checkProfileInfo then some intentInfos else none

def transformToConfigs (profileStr : String) : Option (List InsightIntentInfo) :=
  match json.readConfigs profileStr with
  | none => none
  | some infos => if infos.all (!·.intentName.isEmpty) then some infos else none

end IntentJson

end AbilityRuntime.InsightIntent
