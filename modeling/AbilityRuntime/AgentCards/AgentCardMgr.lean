import AbilityRuntime.AgentCards.AgentCard
import AbilityRuntime.AgentCards.SemVer
import AbilityRuntime.Library.KeyedMap
import AbilityRuntime.Library.Runs

set_option autoImplicit false

namespace AbilityRuntime.AgentCards

open Library

def BASE_USER_RANGE : Int := 200000
def MAX_AGENT_CARD_SIZE : Nat := 1000
def MAX_ICON_URL_LENGTH : Nat := 512

inductive ErrCode where
  | innerErr
  | invalidParametersErr
  | resolveAbilityErr
  | errBundleNotExist
  | errWrongInterfaceCall
  | errNotSystemApp
  | errInvalidAgentCardVersion
  | errAgentCardDuplicateRegister
  | errAgentCardListOutOfRange
  | errInvalidAgentCardId
  | errAgentCardVersionTooOld
  | errNameNotFound
  | other (code : Int)

def require (condition : Prop) [Decidable condition] (error : ErrCode) : Except ErrCode Unit :=
  if condition then .ok () else .error error

@[simp] theorem require_eq_ok {condition : Prop} [Decidable condition] {error : ErrCode}
    {value : Unit} : require condition error = .ok value ↔ condition := by
  unfold require
  split
  next holds => simp [holds]
  next fails => simp [fails]

theorem bind_eq_ok {Value Next : Type} {first : Except ErrCode Value}
    {rest : Value -> Except ErrCode Next} {next : Next} :
    (first >>= rest) = .ok next ↔ ∃ value, first = .ok value ∧ rest value = .ok next := by
  cases first with
  | error error =>
    constructor
    · exact fun equal => nomatch equal
    · exact fun ⟨_, equal, _⟩ => nomatch equal
  | ok value =>
    constructor
    · exact fun equal => ⟨value, rfl, equal⟩
    · rintro ⟨_, equal, result⟩
      cases equal
      exact result

def orError {Value : Type} (value : Option Value) (error : ErrCode) : Except ErrCode Value :=
  match value with
  | none => .error error
  | some value => .ok value

theorem orError_eq_ok {Value : Type} {found : Option Value} {error : ErrCode} {value : Value} :
    orError found error = .ok value ↔ found = some value := by
  cases found <;> simp [orError]

/-! ### What the bundle manager tells -/

inductive ExtensionAbilityType where
  | agent
  | other (value : Nat)
deriving DecidableEq, Repr

/-- The profiles are the texts that are found for the extension under "ohos.extension.agent". -/
structure ExtensionAbilityInfo where
  name : String
  moduleName : String
  type : ExtensionAbilityType
  profileInfos : List String

structure HapModuleInfo where
  moduleName : String
  deviceTypes : List String
  extensionInfos : List ExtensionAbilityInfo

structure ApplicationInfo where
  isSystemApp : Bool

structure BundleInfo where
  hapModuleInfos : List HapModuleInfo
  applicationInfo : ApplicationInfo

inductive GetBundleInfoFlag where
  | withHapModule
  | withApplication
  | withExtensionAbility
  | withMetadata

structure BundleMgrHelper where
  getBundleInfoV9 : String -> List GetBundleInfoFlag -> Int -> Except Int BundleInfo

def GET_AGENT_CARD_BUNDLE_INFO_FLAGS : List GetBundleInfoFlag :=
  [.withExtensionAbility, .withHapModule, .withMetadata, .withApplication]

def GET_AGENT_EXTENSION_BUNDLE_INFO_FLAGS : List GetBundleInfoFlag :=
  [.withExtensionAbility, .withHapModule]

def GET_AGENT_APPLICATION_BUNDLE_INFO_FLAGS : List GetBundleInfoFlag := [.withApplication]

def GET_BUNDLE_INFO_DEFAULT : List GetBundleInfoFlag := []

/-- What a call finds around it. A failing store answers nothing, and a corrupted entry is left out.
-/
structure Surroundings where
  callingUid : Int
  bundleMgrHelper : Option BundleMgrHelper
  queryFailure : Option Int
  writeFailure : Option Int
  uninitialized : AgentCapabilities
  hashOrder : HashOrder AgentCard

def Surroundings.userId (around : Surroundings) : Int := around.callingUid.tdiv BASE_USER_RANGE

/-! ### Checks of a card -/

section Utils

variable (around : Surroundings)

def findAgentExtensionInfo (bundleInfo : BundleInfo) (abilityName : String) :
    Option ExtensionAbilityInfo :=
  bundleInfo.hapModuleInfos.findSome? fun hapModuleInfo =>
    hapModuleInfo.extensionInfos.find? (·.name = abilityName)

def getBundleInfo (bundleName : String) (flags : List GetBundleInfoFlag) (userId : Int) :
    Except ErrCode BundleInfo :=
  match around.bundleMgrHelper with
  | none => .error .errBundleNotExist
  | some bundleMgrHelper =>
    match bundleMgrHelper.getBundleInfoV9 bundleName flags userId with
    | .ok bundleInfo => .ok bundleInfo
    | .error _ => .error .errBundleNotExist

def validateBundleAbility (bundleName abilityName : String) (userId : Int) :
    Except ErrCode Unit := do
  let bundleInfo <- getBundleInfo around bundleName GET_AGENT_EXTENSION_BUNDLE_INFO_FLAGS userId
  let extensionInfo <- orError (findAgentExtensionInfo bundleInfo abilityName) .resolveAbilityErr
  require (extensionInfo.type = .agent) .errWrongInterfaceCall

def validateSystemAppRequirement (card : AgentCard) (userId : Int) : Except ErrCode Unit :=
  match card.appInfo with
  | none => .ok ()
  | some appInfo =>
    if card.type ≠ .lowCode ∨ appInfo.bundleName = "" then .ok ()
    else do
      let bundleInfo <-
        getBundleInfo around appInfo.bundleName GET_AGENT_APPLICATION_BUNDLE_INFO_FLAGS userId
      require (bundleInfo.applicationInfo.isSystemApp = true) .errNotSystemApp

def isCardOwnedByAbility (card : AgentCard) (bundleName abilityName : String) : Bool :=
  card.appInfo.any fun appInfo =>
    appInfo.bundleName = bundleName && appInfo.abilityName = abilityName

def hasValidIconUrl (iconUrl : String) : Bool :=
  iconUrl ≠ "" && iconUrl.utf8ByteSize ≤ MAX_ICON_URL_LENGTH

def hasRequiredRegisterFields (card : AgentCard) : Bool :=
  card.agentId ≠ "" && card.name ≠ "" && card.description ≠ "" && card.version ≠ "" &&
    !card.defaultInputModes.isEmpty && !card.defaultOutputModes.isEmpty && !card.skills.isEmpty &&
    card.category ≠ "" && card.appInfo.isSome && hasValidIconUrl card.iconUrl

def shouldValidateAppInfo (card : AgentCard) : Bool :=
  card.type = .app || card.type = .atomicService || card.type = .lowCode

def bundleExists (bundleName : String) (userId : Int) : Bool :=
  bundleName ≠ "" &&
    (getBundleInfo around bundleName GET_BUNDLE_INFO_DEFAULT userId).toOption.isSome

def shouldValidateBundleAbility (card : AgentCard) (userId : Int) : Bool :=
  if !shouldValidateAppInfo card then false
  else if card.type ≠ .atomicService then true
  else card.appInfo.any fun appInfo => bundleExists around appInfo.bundleName userId

def applyDeviceTypes (hapDeviceTypes : List String) (card : AgentCard) : AgentCard :=
  let appInfo := card.appInfo.getD {}
  let filtered := appInfo.deviceTypes.filter (· ∈ hapDeviceTypes)
  let deviceTypes := if filtered = [] then hapDeviceTypes else filtered
  { card with appInfo := some { appInfo with deviceTypes } }

def shouldKeepStoredCard (incomingCard storedCard : AgentCard) : Bool :=
  if !isValidSemVer incomingCard.version then true
  else if !isValidSemVer storedCard.version then true
  else
    let result := compareSemVer incomingCard.version storedCard.version
    result = .invalid || result = .less

def findHapDeviceTypes (bundleInfo : BundleInfo) (moduleName : String) : List String :=
  ((bundleInfo.hapModuleInfos.find? (·.moduleName = moduleName)).map (·.deviceTypes)).getD []

end Utils

/-! ### The store -/

abbrev CardKey := String × Int

abbrev CardStore := KeyedMap CardKey (List StoredAgentCardEntry)

namespace CardStore

variable (store : CardStore) (around : Surroundings)

def queryData (key : CardKey) : Except ErrCode (List StoredAgentCardEntry) :=
  match around.queryFailure with
  | some status => .error (.other status)
  | none =>
    match store.lookup key with
    | none => .error .errNameNotFound
    | some entries => .ok entries

def queryDataOrNone (key : CardKey) : Except ErrCode (List StoredAgentCardEntry) :=
  match queryData store around key with
  | .error .errNameNotFound => .ok []
  | result => result

def queryCards (key : CardKey) : Except ErrCode (List StoredAgentCardEntry) :=
  match queryData store around key with
  | .error .errNameNotFound => .error .errInvalidAgentCardId
  | result => result

def insertData (key : CardKey) (entries : List StoredAgentCardEntry) : Except ErrCode CardStore :=
  match around.writeFailure with
  | some code => .error (.other code)
  | none => .ok (store.insert key entries)

def deleteData (key : CardKey) : Except ErrCode CardStore :=
  match around.writeFailure with
  | some code => .error (.other code)
  | none => .ok (store.erase key)

end CardStore

/-! ### Cards of an installed bundle -/

section Install

variable (text : JsonText) (around : Surroundings)

def collectExtensionInfos (bundleInfo : BundleInfo) : List ExtensionAbilityInfo :=
  bundleInfo.hapModuleInfos.flatMap (·.extensionInfos)

def documentItems : Json -> List Json
  | .null => []
  | .array elements => elements
  | .object members => members.map Prod.snd
  | json => [json]

def incomingCard (bundleName : String) (bundleInfo : BundleInfo)
    (extensionInfo : ExtensionAbilityInfo) (cardStr : Json) : Option AgentCard := do
  let card <- AgentCard.fromJson (accepts text) around.uninitialized cardStr
  let appInfo :=
    { card.appInfo.getD {} with
      bundleName
      moduleName := extensionInfo.moduleName
      abilityName := extensionInfo.name }
  guard (¬(card.type = .lowCode ∧ bundleInfo.applicationInfo.isSystemApp = false))
  return applyDeviceTypes (findHapDeviceTypes bundleInfo extensionInfo.moduleName)
    { card with appInfo := some appInfo }

abbrev IncomingCardMap := KeyedMap String AgentCard

def IncomingCardMap.full (cards : IncomingCardMap) : Bool :=
  MAX_AGENT_CARD_SIZE ≤ cards.entries.length

def addIncomingCard (bundleName : String) (bundleInfo : BundleInfo)
    (extensionInfo : ExtensionAbilityInfo) (cards : IncomingCardMap) (cardStr : Json) :
    IncomingCardMap :=
  if cards.full then cards
  else
    match incomingCard text around bundleName bundleInfo extensionInfo cardStr with
    | none => cards
    | some card => cards.insert card.agentId card

def addProfile (bundleName : String) (bundleInfo : BundleInfo)
    (extensionInfo : ExtensionAbilityInfo) (cards : IncomingCardMap) (profileInfo : String) :
    Except ErrCode IncomingCardMap :=
  if cards.full then .ok cards
  else
    match (text.parse profileInfo).bind (·.member? "agentCards") with
    | none => .error .innerErr
    | some agentCards =>
      .ok ((documentItems agentCards).foldl
        (addIncomingCard text around bundleName bundleInfo extensionInfo) cards)

def addExtension (bundleName : String) (bundleInfo : BundleInfo) (cards : IncomingCardMap)
    (extensionInfo : ExtensionAbilityInfo) : Except ErrCode IncomingCardMap :=
  if cards.full then .ok cards
  else if extensionInfo.type ≠ .agent then .ok cards
  else
    extensionInfo.profileInfos.foldlM
      (addProfile text around bundleName bundleInfo extensionInfo) cards

def incomingCardMap (bundleName : String) (bundleInfo : BundleInfo) :
    Except ErrCode IncomingCardMap :=
  (collectExtensionInfos bundleInfo).foldlM (addExtension text around bundleName bundleInfo) ∅

def shouldKeepStoredBundleEntry (incomingCard : AgentCard) (storedEntry : StoredAgentCardEntry) :
    Bool :=
  if storedEntry.updateSource = .api ∧ isValidSemVer incomingCard.version ∧
      isValidSemVer storedEntry.card.version ∧
      compareSemVer incomingCard.version storedEntry.card.version = .equal then true
  else shouldKeepStoredCard incomingCard storedEntry.card

def installEntry (incoming : AgentCard) (storedEntry : StoredAgentCardEntry) :
    StoredAgentCardEntry :=
  if shouldKeepStoredBundleEntry incoming storedEntry then
    { storedEntry with card := { storedEntry.card with type := incoming.type } }
  else { card := incoming, updateSource := .bundle }

def mergeCard (storedEntries finalEntries : List StoredAgentCardEntry) (incoming : AgentCard) :
    List StoredAgentCardEntry :=
  match storedEntries.findIdx? (·.card.agentId = incoming.agentId) with
  | none => finalEntries ++ [{ card := incoming, updateSource := .bundle }]
  | some index => finalEntries.modify index (installEntry incoming)

def mergeCards (storedEntries : List StoredAgentCardEntry) (incoming : List AgentCard) :
    List StoredAgentCardEntry :=
  incoming.foldl (mergeCard storedEntries) storedEntries

def handleBundleInfo (store : CardStore) (bundleName : String) (bundleInfo : BundleInfo)
    (userId : Int) : Except ErrCode CardStore := do
  let cards <- incomingCardMap text around bundleName bundleInfo
  let storedEntries <- store.queryDataOrNone around (bundleName, userId)
  store.insertData around (bundleName, userId)
    (mergeCards storedEntries (around.hashOrder.arrange (KeyedMap.values cards)))

def installedBundleInfo (bundleName : String) (userId : Int) : Except ErrCode BundleInfo :=
  match around.bundleMgrHelper with
  | none => .error .innerErr
  | some bundleMgrHelper =>
    match bundleMgrHelper.getBundleInfoV9 bundleName GET_AGENT_CARD_BUNDLE_INFO_FLAGS userId with
    | .ok bundleInfo => .ok bundleInfo
    | .error code => .error (.other code)

def handleBundleInstall (store : CardStore) (bundleName : String) (userId : Int) :
    Except ErrCode CardStore := do
  require (bundleName ≠ "") .invalidParametersErr
  let bundleInfo <- installedBundleInfo around bundleName userId
  handleBundleInfo text around store bundleName bundleInfo userId

def handleBundleUpdate (store : CardStore) (bundleName : String) (userId : Int) :
    Except ErrCode CardStore :=
  handleBundleInstall text around store bundleName userId

def handleBundleRemove (store : CardStore) (bundleName : String) (userId : Int) :
    Except ErrCode CardStore := do
  require (bundleName ≠ "") .invalidParametersErr
  store.deleteData around (bundleName, userId)

end Install

/-! ### Cards of the interface -/

section Interface

variable (around : Surroundings) (store : CardStore)

def validateRegisteredAbility (card : AgentCard) (appInfo : AgentAppInfo) : Except ErrCode Unit :=
  if shouldValidateBundleAbility around card around.userId then do
    validateBundleAbility around appInfo.bundleName appInfo.abilityName around.userId
    validateSystemAppRequirement around card around.userId
  else .ok ()

def validateUpdatedAbility (card : AgentCard) (appInfo : AgentAppInfo) : Except ErrCode Unit :=
  if shouldValidateBundleAbility around card around.userId then
    validateBundleAbility around appInfo.bundleName appInfo.abilityName around.userId
  else .ok ()

def registerAgentCard (card : AgentCard) : Except ErrCode CardStore := do
  require (hasRequiredRegisterFields card) .invalidParametersErr
  require (isValidSemVer card.version) .errInvalidAgentCardVersion
  let appInfo := card.appInfo.getD {}
  require (¬(shouldValidateAppInfo card = true ∧
    (appInfo.bundleName = "" ∨ appInfo.abilityName = ""))) .invalidParametersErr
  validateRegisteredAbility around card appInfo
  let entries <- store.queryDataOrNone around (appInfo.bundleName, around.userId)
  require (∀ item ∈ entries, item.card.agentId ≠ card.agentId) .errAgentCardDuplicateRegister
  require (entries.length < MAX_AGENT_CARD_SIZE) .errAgentCardListOutOfRange
  store.insertData around (appInfo.bundleName, around.userId)
    (entries ++ [{ card, updateSource := .api }])

def checkUpdatedVersion (card storedCard : AgentCard) : Except ErrCode Unit :=
  if !isValidSemVer storedCard.version then .ok ()
  else
    match compareSemVer card.version storedCard.version with
    | .invalid => .error .errInvalidAgentCardVersion
    | .less => .error .errAgentCardVersionTooOld
    | _ => .ok ()

def updateAgentCard (card : AgentCard) : Except ErrCode CardStore := do
  let appInfo := card.appInfo.getD {}
  require (card.agentId ≠ "" ∧ card.appInfo ≠ none ∧ appInfo.bundleName ≠ "" ∧
    appInfo.abilityName ≠ "" ∧ hasValidIconUrl card.iconUrl = true) .invalidParametersErr
  require (isValidSemVer card.version) .errInvalidAgentCardVersion
  validateUpdatedAbility around card appInfo
  let entries <- store.queryCards around (appInfo.bundleName, around.userId)
  let it <- orError (entries.find? (·.card.agentId = card.agentId)) .errInvalidAgentCardId
  require (isCardOwnedByAbility it.card appInfo.bundleName appInfo.abilityName)
    .invalidParametersErr
  validateSystemAppRequirement around card around.userId
  checkUpdatedVersion card it.card
  store.insertData around (appInfo.bundleName, around.userId)
    (entries.set (entries.findIdx (·.card.agentId = card.agentId)) { card, updateSource := .api })

def deleteAgentCard (bundleName agentId : String) : Except ErrCode CardStore := do
  require (bundleName ≠ "" ∧ agentId ≠ "") .invalidParametersErr
  let bundleCards <- store.queryCards around (bundleName, around.userId)
  let kept := bundleCards.filter (·.card.agentId ≠ agentId)
  require (kept.length ≠ bundleCards.length) .errInvalidAgentCardId
  if kept = [] then store.deleteData around (bundleName, around.userId)
  else store.insertData around (bundleName, around.userId) kept

end Interface

end AbilityRuntime.AgentCards
