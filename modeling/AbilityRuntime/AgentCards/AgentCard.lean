import AbilityRuntime.Library.ByteStream
import AbilityRuntime.Library.Json

set_option autoImplicit false

namespace AbilityRuntime.AgentCards

open Library UInt32

def SKILLS_MAX_SIZE : Nat := 100
def MAX_AGENT_CARD_COUNT : Nat := 200000
def LENGTH_32 : Nat := 32
def LENGTH_64 : Nat := 64
def LENGTH_128 : Nat := 128
def LENGTH_256 : Nat := 256
def LENGTH_512 : Nat := 512
def LENGTH_1024 : Nat := 1024
def LENGTH_5120 : Nat := 5120

inductive AgentCardType where
  | app
  | atomicService
  | lowCode
deriving DecidableEq, Repr

structure AgentProvider where
  organization : String
  url : String
deriving DecidableEq, Repr

structure AgentCapabilities where
  streaming : Bool
  pushNotifications : Bool
  stateTransitionHistory : Bool
  extension : String
  extendedAgentCard : Bool
deriving DecidableEq, Repr

structure AgentSkill where
  id : String
  name : String
  description : String
  tags : List String
  examples : List String
  inputModes : List String
  outputModes : List String
  extension : String
deriving DecidableEq, Repr

structure AgentAppInfo where
  bundleName : String := ""
  moduleName : String := ""
  abilityName : String := ""
  deviceTypes : List String := []
  minAppVersion : String := ""
deriving DecidableEq, Repr

-- A skill that was sent between processes may be null.
structure AgentCard where
  agentId : String
  type : AgentCardType
  name : String
  description : String
  provider : Option AgentProvider
  version : String
  documentationUrl : String
  capabilities : Option AgentCapabilities
  defaultInputModes : List String
  defaultOutputModes : List String
  skills : List (Option AgentSkill)
  iconUrl : String
  extension : String
  category : String
  appInfo : Option AgentAppInfo
deriving DecidableEq, Repr

section Members

variable (json : Json)

def inLimit (most : Nat) (text : String) : Bool :=
  1 ≤ text.utf8ByteSize && text.utf8ByteSize ≤ most

def filledMember (name : String) (most : Nat) : Option String :=
  (json.stringMember? name).filter (inLimit most)

def texts (name : String) (most : Nat) : List String :=
  (((json.arrayMember? name).getD []).filterMap Json.string?).filter (inLimit most)

def extensionMember (accept : String -> Bool) (most : Nat) : String :=
  ((json.stringMember? "extension").filter fun text => inLimit most text && accept text).getD ""

end Members

def textArray (values : List String) : Json := .array (values.map Json.string)

def optional (name : String) (value : Option Json) : List (String × Json) :=
  (value.map (name, ·)).toList

namespace AgentProvider

def toJson (provider : AgentProvider) : Json :=
  .ofMembers [("organization", .string provider.organization), ("url", .string provider.url)]

def fromJson (json : Json) : Option AgentProvider := do
  let organization <- filledMember json "organization" LENGTH_128
  let url <- filledMember json "url" LENGTH_512
  return { organization, url }

end AgentProvider

namespace AgentCapabilities

def toJson (capabilities : AgentCapabilities) : Json :=
  .ofMembers
    [("streaming", .boolean capabilities.streaming),
      ("pushNotifications", .boolean capabilities.pushNotifications),
      ("stateTransitionHistory", .boolean capabilities.stateTransitionHistory),
      ("extension", .string capabilities.extension),
      ("extendedAgentCard", .boolean capabilities.extendedAgentCard)]

/-- Flags that are not in the document are not initialized; what they hold is given. -/
def fromJson (accept : String -> Bool) (uninitialized : AgentCapabilities) (json : Json) :
    AgentCapabilities where
  streaming := (json.booleanMember? "streaming").getD uninitialized.streaming
  pushNotifications :=
    (json.booleanMember? "pushNotifications").getD uninitialized.pushNotifications
  stateTransitionHistory :=
    (json.booleanMember? "stateTransitionHistory").getD uninitialized.stateTransitionHistory
  extension := extensionMember json accept LENGTH_1024
  extendedAgentCard := (json.booleanMember? "extendedAgentCard").getD false

end AgentCapabilities

namespace AgentSkill

def toJson (skill : AgentSkill) : Json :=
  .ofMembers
    [("id", .string skill.id), ("name", .string skill.name),
      ("description", .string skill.description), ("tags", textArray skill.tags),
      ("examples", textArray skill.examples), ("inputModes", textArray skill.inputModes),
      ("outputModes", textArray skill.outputModes), ("extension", .string skill.extension)]

def fromJson (accept : String -> Bool) (json : Json) : Option AgentSkill := do
  let id <- filledMember json "id" LENGTH_64
  let name <- filledMember json "name" LENGTH_128
  let description <- filledMember json "description" LENGTH_512
  let _ <- json.arrayMember? "tags"
  let tags := texts json "tags" LENGTH_32
  guard (tags.length ≠ 0 ∧ tags.length ≤ SKILLS_MAX_SIZE)
  return {
    id
    name
    description
    tags
    examples := texts json "examples" LENGTH_256
    inputModes := texts json "inputModes" LENGTH_32
    outputModes := texts json "outputModes" LENGTH_32
    extension := extensionMember json accept LENGTH_1024 }

end AgentSkill

def setSkill (skill : AgentSkill) : List AgentSkill -> List AgentSkill
  | [] => [skill]
  | first :: rest =>
    if skill.id < first.id then skill :: first :: rest
    else if skill.id = first.id then skill :: rest
    else first :: setSkill skill rest

namespace AgentAppInfo

def toJson (appInfo : AgentAppInfo) : Json :=
  .ofMembers
    [("bundleName", .string appInfo.bundleName), ("moduleName", .string appInfo.moduleName),
      ("abilityName", .string appInfo.abilityName), ("deviceTypes", textArray appInfo.deviceTypes),
      ("minAppVersion", .string appInfo.minAppVersion)]

def fromJson (json : Json) : AgentAppInfo where
  bundleName := (json.stringMember? "bundleName").getD ""
  moduleName := (json.stringMember? "moduleName").getD ""
  abilityName := (json.stringMember? "abilityName").getD ""
  deviceTypes := texts json "deviceTypes" LENGTH_32
  minAppVersion := (filledMember json "minAppVersion" LENGTH_32).getD ""

end AgentAppInfo

namespace AgentCardType

def value : AgentCardType -> Int
  | app => 0
  | atomicService => 1
  | lowCode => 2

def ofValue (value : Int32) : Option AgentCardType :=
  if value = 0 then some app
  else if value = 1 then some atomicService
  else if value = 2 then some lowCode
  else none

def ofName : String -> Option AgentCardType
  | "APP" => some app
  | "ATOMIC_SERVICE" => some atomicService
  | "LOW_CODE" => some lowCode
  | _ => none

end AgentCardType

def parseAgentCardType : Json -> Option AgentCardType
  | .integer value => AgentCardType.ofValue (Int32.ofInt value)
  | .string name => AgentCardType.ofName name
  | _ => none

namespace AgentCard

def toJson (card : AgentCard) : Json :=
  .ofMembers
    ([("agentId", .string card.agentId), ("type", .integer card.type.value),
      ("name", .string card.name), ("description", .string card.description),
      ("version", .string card.version), ("documentationUrl", .string card.documentationUrl),
      ("defaultInputModes", textArray card.defaultInputModes),
      ("defaultOutputModes", textArray card.defaultOutputModes)] ++
    optional "provider" (card.provider.map AgentProvider.toJson) ++
    optional "capabilities" (card.capabilities.map AgentCapabilities.toJson) ++
    optional "skills" (if card.skills = [] then none
      else some (.array (card.skills.filterMap (·.map AgentSkill.toJson)))) ++
    optional "iconUrl" (if card.iconUrl = "" then none else some (.string card.iconUrl)) ++
    optional "extension" (if card.extension = "" then none else some (.string card.extension)) ++
    optional "category" (if card.category = "" then none else some (.string card.category)) ++
    optional "appInfo" (card.appInfo.map AgentAppInfo.toJson))

def typeMember (json : Json) : Option AgentCardType :=
  match json.member? "type" with
  | none => some .app
  | some type => parseAgentCardType type

def documentationUrlMember (json : Json) : String :=
  ((json.stringMember? "documentationUrl").filter (·.utf8ByteSize ≤ LENGTH_512)).getD ""

def modesMember (json : Json) (name : String) : Option (List String) := do
  let _ <- json.arrayMember? name
  let modes := texts json name LENGTH_32
  guard (modes ≠ [])
  return modes

def skillsMember (accept : String -> Bool) (json : Json) : List AgentSkill :=
  (((json.arrayMember? "skills").getD []).filterMap fun skillJson =>
    skillJson.object?.bind (AgentSkill.fromJson accept)).foldl
      (fun skills skill => setSkill skill skills) []

def fromJson (accept : String -> Bool) (uninitialized : AgentCapabilities) (json : Json) :
    Option AgentCard := do
  let agentId <- filledMember json "agentId" LENGTH_64
  let type <- typeMember json
  let name <- filledMember json "name" LENGTH_64
  let category <- filledMember json "category" LENGTH_64
  let appInfo := (json.objectMember? "appInfo").map AgentAppInfo.fromJson
  let description <- filledMember json "description" LENGTH_512
  let version <- filledMember json "version" LENGTH_32
  let documentationUrl := documentationUrlMember json
  let defaultInputModes <- modesMember json "defaultInputModes"
  let defaultOutputModes <- modesMember json "defaultOutputModes"
  let provider := (json.objectMember? "provider").bind AgentProvider.fromJson
  let capabilities :=
    (json.objectMember? "capabilities").map (AgentCapabilities.fromJson accept uninitialized)
  let skills := skillsMember accept json
  guard (skills ≠ [])
  let iconUrl <- filledMember json "iconUrl" LENGTH_512
  let extension := extensionMember json accept LENGTH_5120
  return {
    agentId
    type
    name
    description
    provider
    version
    documentationUrl
    capabilities
    defaultInputModes
    defaultOutputModes
    skills := skills.map some
    iconUrl
    extension
    category
    appInfo }

end AgentCard

/-! ### Lists of cards between processes -/

inductive AgentCardError where
  | agentCardListOutOfRange
  | invalidAgentCardData

section RawData

variable (text : JsonText)

def accepts (document : String) : Bool := (text.parse document).isSome

def dumpBytes (json : Json) : Bytes := (text.dump json).toUTF8.data.toList

-- A text that is not in UTF-8 is no document.
def parseBytes (bytes : Bytes) : Option Json :=
  (String.fromUTF8? ⟨bytes.toArray⟩).bind text.parse

def writeCard (card : AgentCard) : Bytes :=
  let dumped := dumpBytes text card.toJson
  let strLen := ofNat dumped.length
  leBytes 4 strLen.toNat ++ dumped.take strLen.toNat

def fromAgentCardVec (cards : List AgentCard) : Bytes :=
  let count := ofNat cards.length
  leBytes 4 count.toNat ++ (cards.take count.toNat).flatMap (writeCard text)

/-- A number that is 0 until the bytes that are there are read. -/
def readNumber (stream : StringStream) : UInt32 × StringStream :=
  let (bytes, stream) := stream.read 4
  (ofNat (leValue bytes), stream)

-- The bytes that cannot be read stay 0; a stream that failed is at -1.
def readCard (uninitialized : AgentCapabilities) (ssLength : UInt32) (stream : StringStream) :
    Except AgentCardError AgentCard × StringStream :=
  let (cardSize, stream) := readNumber stream
  if cardSize > ssLength - ofInt stream.tellg then (.error .invalidAgentCardData, stream)
  else
    let (bytes, stream) := stream.read cardSize.toNat
    let cardStr := bytes ++ List.replicate (cardSize.toNat - bytes.length) 0
    match (parseBytes text cardStr).bind (AgentCard.fromJson (accepts text) uninitialized) with
    | none => (.error .invalidAgentCardData, stream)
    | some card => (.ok card, stream)

def toAgentCardVec (uninitialized : AgentCapabilities) (data : Bytes) :
    Except AgentCardError (List AgentCard) :=
  let (count, stream) := readNumber { written := data }
  if count.toNat > MAX_AGENT_CARD_COUNT then .error .agentCardListOutOfRange
  else
    (readEach (readCard text uninitialized (ofNat data.length)) count.toNat stream []).1

end RawData

/-! ### Stored cards -/

inductive AgentCardUpdateSource where
  | bundle
  | api
deriving DecidableEq, Repr

structure StoredAgentCardEntry where
  card : AgentCard
  updateSource : AgentCardUpdateSource := .bundle

def updateSourceToString : AgentCardUpdateSource -> String
  | .api => "api"
  | .bundle => "bundle"

def parseUpdateSource : Json -> AgentCardUpdateSource
  | .string source => if source = "api" then .api else .bundle
  | _ => .bundle

section Stored

variable (text : JsonText) (uninitialized : AgentCapabilities)

def parseStoredEntry (item : Json) : Option StoredAgentCardEntry :=
  match item.member? "card" with
  | some cardJson =>
    (AgentCard.fromJson (accepts text) uninitialized cardJson).map fun card =>
      { card
        updateSource :=
          ((item.member? "lastUpdateSource").map parseUpdateSource).getD .bundle }
  | none =>
    (AgentCard.fromJson (accepts text) uninitialized item).map fun card =>
      { card, updateSource := .bundle }

def storedItems : Json -> Option (List Json)
  | .object members => (members.lookup "cards").bind Json.array?
  | .array items => some items
  | _ => none

def parseStoredEntries (rawValue : String) : Option (List StoredAgentCardEntry) :=
  ((text.parse rawValue).bind storedItems).map (·.filterMap (parseStoredEntry text uninitialized))

def entryJson (entry : StoredAgentCardEntry) : Json :=
  .ofMembers [("card", entry.card.toJson),
    ("lastUpdateSource", .string (updateSourceToString entry.updateSource))]

def convertValue (entries : List StoredAgentCardEntry) : String :=
  text.dump (.ofMembers [("cards", .array (entries.map entryJson))])

end Stored

end AbilityRuntime.AgentCards
