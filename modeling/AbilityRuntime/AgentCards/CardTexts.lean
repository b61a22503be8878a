import AbilityRuntime.AgentCards.AgentCard
import Mathlib.Algebra.GroupWithZero.Nat
import Mathlib.Algebra.Order.BigOperators.Group.List
import Mathlib.Data.Option.Basic

set_option autoImplicit false

namespace AbilityRuntime.AgentCards

open Library Option UInt32 List Json AgentSkill AgentCard Nat

variable {accept : String -> Bool}

/-! ### What is read is within the limits -/

def Limited (most : Nat) (values : List String) : Prop := ∀ value ∈ values, inLimit most value = true

def ValidExtension (accept : String -> Bool) (most : Nat) (extension : String) : Prop :=
  extension = "" ∨ inLimit most extension = true ∧ accept extension = true

structure AgentProvider.WellFormed (provider : AgentProvider) : Prop where
  organization : inLimit LENGTH_128 provider.organization = true
  url : inLimit LENGTH_512 provider.url = true

structure AgentSkill.WellFormed (accept : String -> Bool) (skill : AgentSkill) : Prop where
  id : inLimit LENGTH_64 skill.id = true
  name : inLimit LENGTH_128 skill.name = true
  description : inLimit LENGTH_512 skill.description = true
  tags : Limited LENGTH_32 skill.tags
  tagCount : skill.tags.length ≠ 0 ∧ skill.tags.length ≤ SKILLS_MAX_SIZE
  examples : Limited LENGTH_256 skill.examples
  inputModes : Limited LENGTH_32 skill.inputModes
  outputModes : Limited LENGTH_32 skill.outputModes
  extension : ValidExtension accept LENGTH_1024 skill.extension

structure AgentAppInfo.WellFormed (appInfo : AgentAppInfo) : Prop where
  deviceTypes : Limited LENGTH_32 appInfo.deviceTypes
  minAppVersion : appInfo.minAppVersion = "" ∨ inLimit LENGTH_32 appInfo.minAppVersion = true

structure SkillList (accept : String -> Bool) (skills : List AgentSkill) : Prop where
  each : ∀ skill ∈ skills, skill.WellFormed accept
  sorted : skills.Pairwise (·.id < ·.id)

structure AgentCard.WellFormed (accept : String -> Bool) (card : AgentCard) : Prop where
  agentId : inLimit LENGTH_64 card.agentId = true
  name : inLimit LENGTH_64 card.name = true
  category : inLimit LENGTH_64 card.category = true
  appInfo : ∀ appInfo ∈ card.appInfo, appInfo.WellFormed
  description : inLimit LENGTH_512 card.description = true
  version : inLimit LENGTH_32 card.version = true
  documentationUrl : card.documentationUrl.utf8ByteSize ≤ LENGTH_512
  defaultInputModes : Limited LENGTH_32 card.defaultInputModes ∧ card.defaultInputModes ≠ []
  defaultOutputModes : Limited LENGTH_32 card.defaultOutputModes ∧ card.defaultOutputModes ≠ []
  provider : ∀ provider ∈ card.provider, provider.WellFormed
  capabilities : ∀ capabilities ∈ card.capabilities,
    ValidExtension accept LENGTH_1024 capabilities.extension
  skills : ∃ skills, SkillList accept skills ∧ skills ≠ [] ∧ card.skills = skills.map some
  iconUrl : inLimit LENGTH_512 card.iconUrl = true
  extension : ValidExtension accept LENGTH_5120 card.extension

variable {json : Json} {name : String} {most : Nat}

theorem inLimit_of_filledMember {text : String} (read : filledMember json name most = some text) :
    inLimit most text = true :=
  (filter_eq_some_iff.1 read).2

theorem limited_texts (json : Json) (name : String) (most : Nat) :
    Limited most (texts json name most) :=
  fun _ member => (mem_filter.1 member).2

theorem valid_extensionMember (json : Json) (accept : String -> Bool) (most : Nat) :
    ValidExtension accept most (extensionMember json accept most) := by
  unfold extensionMember
  cases read : (json.stringMember? "extension").filter fun text =>
      inLimit most text && accept text with
  | none => exact .inl rfl
  | some text => exact .inr (Bool.and_eq_true_iff.1 (filter_eq_some_iff.1 read).2)

theorem AgentProvider.wellFormed_fromJson {provider : AgentProvider}
    (read : fromJson json = some provider) : provider.WellFormed := by
  simp only [fromJson, bind_eq_bind, bind_eq_some_iff] at read
  obtain ⟨organization, first, url, second, last⟩ := read
  cases last
  exact ⟨inLimit_of_filledMember first, inLimit_of_filledMember second⟩

variable {skill : AgentSkill}

theorem AgentSkill.wellFormed_fromJson
    (read : fromJson accept json = some skill) : skill.WellFormed accept := by
  simp only [fromJson, bind_eq_bind, bind_eq_some_iff, guard_eq_some'] at read
  obtain ⟨id, first, name, second, description, third, _, _, _, count, last⟩ := read
  cases last
  exact {
    id := inLimit_of_filledMember first
    name := inLimit_of_filledMember second
    description := inLimit_of_filledMember third
    tags := limited_texts _ _ _
    tagCount := count
    examples := limited_texts _ _ _
    inputModes := limited_texts _ _ _
    outputModes := limited_texts _ _ _
    extension := valid_extensionMember _ _ _ }

theorem AgentAppInfo.wellFormed_fromJson (json : Json) : (fromJson json).WellFormed := by
  refine ⟨limited_texts _ _ _, ?_⟩
  change (filledMember json "minAppVersion" LENGTH_32).getD "" = "" ∨ _
  cases read : filledMember json "minAppVersion" LENGTH_32 with
  | none => exact .inl rfl
  | some version => exact .inr (by simpa [fromJson, read] using inLimit_of_filledMember read)

variable {skills : List AgentSkill}

theorem mem_setSkill {other : AgentSkill}
    (member : other ∈ setSkill skill skills) : other = skill ∨ other ∈ skills := by
  induction skills with
  | nil => exact .inl (mem_singleton.1 member)
  | cons first rest ih =>
    unfold setSkill at member
    split at member
    · exact (mem_cons.1 member).imp id id
    · split at member
      · exact (mem_cons.1 member).imp id (mem_cons_of_mem _)
      · rcases mem_cons.1 member with same | later
        · exact .inr (same ▸ mem_cons_self)
        · exact (ih later).imp id (mem_cons_of_mem _)

theorem sorted_setSkill (skill : AgentSkill)
    (sorted : skills.Pairwise (·.id < ·.id)) : (setSkill skill skills).Pairwise (·.id < ·.id) := by
  induction skills with
  | nil => exact pairwise_singleton _ _
  | cons first rest ih =>
    rw [pairwise_cons] at sorted
    unfold setSkill
    split
    next before =>
      rw [pairwise_cons, pairwise_cons]
      refine ⟨fun other member => ?_, sorted⟩
      rcases mem_cons.1 member with rfl | later
      exacts [before, before.trans (sorted.1 other later)]
    next notBefore =>
      split
      next same =>
        rw [pairwise_cons]
        exact ⟨fun other member => same ▸ sorted.1 other member, sorted.2⟩
      next apart =>
        rw [pairwise_cons]
        refine ⟨fun other member => ?_, ih sorted.2⟩
        rcases mem_setSkill member with rfl | earlier
        exacts [lt_of_le_of_ne (not_lt.1 notBefore) (Ne.symm apart), sorted.1 other earlier]

theorem SkillList.setSkill (valid : skill.WellFormed accept) (list : SkillList accept skills) :
    SkillList accept (setSkill skill skills) where
  each := fun other member => (mem_setSkill member).elim (· ▸ valid) (list.each other)
  sorted := sorted_setSkill skill list.sorted

theorem skillList_skillsMember (accept : String -> Bool) (json : Json) :
    SkillList accept (skillsMember accept json) := by
  have each : ∀ skill ∈ ((json.arrayMember? "skills").getD []).filterMap fun skillJson =>
      skillJson.object?.bind (fromJson accept), skill.WellFormed accept := by
    intro skill member
    obtain ⟨skillJson, _, read⟩ := mem_filterMap.1 member
    obtain ⟨_, _, read⟩ := bind_eq_some_iff.1 read
    exact wellFormed_fromJson read
  have general : ∀ (more all : List AgentSkill), (∀ skill ∈ more, skill.WellFormed accept) ->
      SkillList accept all ->
      SkillList accept (more.foldl (fun skills skill => setSkill skill skills) all) := by
    intro more
    induction more with
    | nil => exact fun all _ list => list
    | cons skill rest ih =>
      intro all each list
      rw [forall_mem_cons] at each
      exact ih _ each.2 (list.setSkill each.1)
  exact general _ [] each ⟨nofun, Pairwise.nil⟩

theorem short_documentationUrlMember (json : Json) :
    (documentationUrlMember json).utf8ByteSize ≤ LENGTH_512 := by
  unfold documentationUrlMember
  cases read : (json.stringMember? "documentationUrl").filter (·.utf8ByteSize ≤ LENGTH_512) with
  | none => exact zero_le _
  | some url => exact of_decide_eq_true (filter_eq_some_iff.1 read).2

theorem AgentCard.wellFormed_fromJson {uninitialized : AgentCapabilities} {card : AgentCard}
    (read : fromJson accept uninitialized json = some card) : card.WellFormed accept := by
  simp only [fromJson, modesMember, bind_eq_bind, bind_eq_some_iff, guard_eq_some'] at read
  obtain ⟨agentId, hasId, type, _, name, hasName, category, hasCategory, description,
    hasDescription, version, hasVersion, input, ⟨_, _, _, inputs, isInput⟩, output,
    ⟨_, _, _, outputs, isOutput⟩, _, skills, iconUrl, hasIcon, last⟩ := read
  cases last
  cases isInput
  cases isOutput
  exact {
    agentId := inLimit_of_filledMember hasId
    name := inLimit_of_filledMember hasName
    category := inLimit_of_filledMember hasCategory
    appInfo := by
      intro appInfo member
      obtain ⟨_, _, rfl⟩ := map_eq_some_iff.1 member
      exact AgentAppInfo.wellFormed_fromJson _
    description := inLimit_of_filledMember hasDescription
    version := inLimit_of_filledMember hasVersion
    documentationUrl := short_documentationUrlMember json
    defaultInputModes := ⟨limited_texts _ _ _, inputs⟩
    defaultOutputModes := ⟨limited_texts _ _ _, outputs⟩
    provider := by
      intro provider member
      obtain ⟨_, _, read⟩ := bind_eq_some_iff.1 member
      exact AgentProvider.wellFormed_fromJson read
    capabilities := by
      intro capabilities member
      obtain ⟨_, _, rfl⟩ := map_eq_some_iff.1 member
      exact valid_extensionMember _ _ _
    skills := ⟨_, skillList_skillsMember accept json, skills, rfl⟩
    iconUrl := inLimit_of_filledMember hasIcon
    extension := valid_extensionMember _ _ _ }

/-! ### What is within the limits is read back -/

theorem filledMember_of_limit {text : String} (member : json.member? name = some (.string text))
    (limit : inLimit most text = true) : filledMember json name most = some text := by
  simp [filledMember, stringMember?, member, string?, limit]

theorem texts_of_limited {values : List String}
    (member : json.member? name = some (textArray values)) (limited : Limited most values) :
    texts json name most = values := by
  have strings : (values.map string).filterMap string? = values := by
    rw [filterMap_map]
    exact filterMap_some
  simp only [texts, arrayMember?, member, textArray, bind_some, array?, getD_some, strings]
  exact filter_eq_self.2 limited

theorem extensionMember_of_valid {extension : String}
    (member : json.member? "extension" = some (.string extension))
    (valid : ValidExtension accept most extension) :
    extensionMember json accept most = extension := by
  rcases valid with rfl | ⟨limit, accepted⟩
  · simp [extensionMember, stringMember?, member, string?, filter_some, inLimit]
  · simp [extensionMember, stringMember?, member, string?, filter_some, limit, accepted]

/-! Each member is found where it was written. -/

theorem lookup_optional (name other : String) (value : Option Json) :
    (optional name value).lookup other = if other = name then value else none := by
  cases value with
  | none => simp [optional]
  | some value => exact lookup_entry name other value []

@[simp] theorem reverse_optional (name : String) (value : Option Json) :
    (optional name value).reverse = optional name value := by
  cases value <;> rfl

theorem AgentProvider.fromJson_toJson {provider : AgentProvider} (formed : provider.WellFormed) :
    fromJson provider.toJson = some provider := by
  have organization : provider.toJson.member? "organization" =
      some (.string provider.organization) := by
    simp [toJson, member?_ofMembers, lookup_cons]
  have url : provider.toJson.member? "url" = some (.string provider.url) := by
    simp [toJson, member?_ofMembers]
  simp [fromJson, filledMember_of_limit organization formed.organization,
    filledMember_of_limit url formed.url]

theorem AgentCapabilities.fromJson_toJson {capabilities : AgentCapabilities}
    (valid : ValidExtension accept LENGTH_1024 capabilities.extension)
    (uninitialized : AgentCapabilities) :
    fromJson accept uninitialized capabilities.toJson = capabilities := by
  have extension : capabilities.toJson.member? "extension" =
      some (.string capabilities.extension) := by
    simp [toJson, member?_ofMembers, lookup_cons]
  rw [fromJson, extensionMember_of_valid extension valid]
  simp [toJson, booleanMember?, member?_ofMembers, lookup_cons, boolean?]

theorem AgentSkill.fromJson_toJson (formed : skill.WellFormed accept) :
    fromJson accept skill.toJson = some skill := by
  have id : skill.toJson.member? "id" = some (.string skill.id) := by
    simp [toJson, member?_ofMembers, lookup_cons]
  have name : skill.toJson.member? "name" = some (.string skill.name) := by
    simp [toJson, member?_ofMembers, lookup_cons]
  have description : skill.toJson.member? "description" = some (.string skill.description) := by
    simp [toJson, member?_ofMembers, lookup_cons]
  have tags : skill.toJson.member? "tags" = some (textArray skill.tags) := by
    simp [toJson, member?_ofMembers, lookup_cons]
  have examples : skill.toJson.member? "examples" = some (textArray skill.examples) := by
    simp [toJson, member?_ofMembers, lookup_cons]
  have inputModes : skill.toJson.member? "inputModes" = some (textArray skill.inputModes) := by
    simp [toJson, member?_ofMembers, lookup_cons]
  have outputModes : skill.toJson.member? "outputModes" = some (textArray skill.outputModes) := by
    simp [toJson, member?_ofMembers, lookup_cons]
  have extension : skill.toJson.member? "extension" = some (.string skill.extension) := by
    simp [toJson, member?_ofMembers]
  have array : skill.toJson.arrayMember? "tags" = some (skill.tags.map string) := by
    rw [arrayMember?, tags]
    rfl
  simp only [fromJson, filledMember_of_limit id formed.id, filledMember_of_limit name formed.name,
    filledMember_of_limit description formed.description, array, texts_of_limited tags formed.tags,
    texts_of_limited examples formed.examples, texts_of_limited inputModes formed.inputModes,
    texts_of_limited outputModes formed.outputModes,
    extensionMember_of_valid extension formed.extension]
  simp [formed.tagCount]

theorem AgentAppInfo.fromJson_toJson {appInfo : AgentAppInfo} (formed : appInfo.WellFormed) :
    fromJson appInfo.toJson = appInfo := by
  have deviceTypes : appInfo.toJson.member? "deviceTypes" = some (textArray appInfo.deviceTypes) := by
    simp [toJson, member?_ofMembers, lookup_cons]
  have minAppVersion : appInfo.toJson.member? "minAppVersion" =
      some (.string appInfo.minAppVersion) := by
    simp [toJson, member?_ofMembers]
  have version : (filledMember appInfo.toJson "minAppVersion" LENGTH_32).getD "" =
      appInfo.minAppVersion := by
    rcases formed.minAppVersion with empty | limit
    · simp [filledMember, stringMember?, minAppVersion, empty, string?, filter_some, inLimit]
    · rw [filledMember_of_limit minAppVersion limit, getD_some]
  rw [fromJson, texts_of_limited deviceTypes formed.deviceTypes, version]
  simp [toJson, stringMember?, member?_ofMembers, lookup_cons, string?]

theorem foldl_setSkill {more all : List AgentSkill}
    (sorted : (all ++ more).Pairwise (·.id < ·.id)) :
    more.foldl (fun skills skill => setSkill skill skills) all = all ++ more := by
  have last : ∀ (skill : AgentSkill) (all : List AgentSkill), (∀ other ∈ all, other.id < skill.id) →
      setSkill skill all = all ++ [skill] := by
    intro skill all
    induction all with
    | nil => exact fun _ => rfl
    | cons first rest ih =>
      intro before
      rw [forall_mem_cons] at before
      rw [setSkill, if_neg before.1.asymm, if_neg before.1.ne', ih before.2, cons_append]
  induction more generalizing all with
  | nil => simp
  | cons skill rest ih =>
    have before : ∀ other ∈ all, other.id < skill.id := fun other member =>
      (pairwise_append.1 sorted).2.2 other member skill mem_cons_self
    rw [append_cons] at sorted
    rw [foldl_cons, last skill all before, ih sorted, <- append_cons]

namespace AgentCard

theorem skillsMember_of_list {skills : List AgentSkill} (list : SkillList accept skills)
    (member : json.member? "skills" = some (.array (skills.map AgentSkill.toJson))) :
    skillsMember accept json = skills := by
  have read : (skills.map AgentSkill.toJson).filterMap (fun skillJson =>
      skillJson.object?.bind (AgentSkill.fromJson accept)) = skills := by
    rw [filterMap_map]
    refine (filterMap_congr fun skill held => ?_).trans filterMap_some
    have object : skill.toJson.object? = some skill.toJson := rfl
    rw [Function.comp_apply, object, bind_some, fromJson_toJson (list.each skill held)]
  simp only [skillsMember, arrayMember?, member, bind_some, array?, getD_some, read]
  exact foldl_setSkill list.sorted

theorem typeMember_of_value {type : AgentCardType}
    (member : json.member? "type" = some (.integer type.value)) : typeMember json = some type := by
  rw [typeMember, member]
  cases type <;> decide

theorem modesMember_of_limited {modes : List String}
    (member : json.member? name = some (textArray modes))
    (limited : Limited LENGTH_32 modes ∧ modes ≠ []) : modesMember json name = some modes := by
  have array : json.arrayMember? name = some (modes.map string) := by
    rw [arrayMember?, member]
    rfl
  simp [modesMember, array, texts_of_limited member limited.1, limited.2]

section Members

variable (card : AgentCard)

theorem members_toJson :
    card.toJson.member? "agentId" = some (.string card.agentId) ∧
    card.toJson.member? "type" = some (.integer card.type.value) ∧
    card.toJson.member? "name" = some (.string card.name) ∧
    card.toJson.member? "description" = some (.string card.description) ∧
    card.toJson.member? "version" = some (.string card.version) ∧
    card.toJson.member? "documentationUrl" = some (.string card.documentationUrl) ∧
    card.toJson.member? "defaultInputModes" = some (textArray card.defaultInputModes) ∧
    card.toJson.member? "defaultOutputModes" = some (textArray card.defaultOutputModes) := by
  simp [toJson, member?_ofMembers, lookup_append, lookup_optional, lookup_cons]

theorem optionals_toJson :
    card.toJson.member? "provider" = card.provider.map AgentProvider.toJson ∧
    card.toJson.member? "capabilities" = card.capabilities.map AgentCapabilities.toJson ∧
    card.toJson.member? "skills" = (if card.skills = [] then none
      else some (.array (card.skills.filterMap (·.map AgentSkill.toJson)))) ∧
    card.toJson.member? "iconUrl" =
      (if card.iconUrl = "" then none else some (.string card.iconUrl)) ∧
    card.toJson.member? "extension" =
      (if card.extension = "" then none else some (.string card.extension)) ∧
    card.toJson.member? "category" =
      (if card.category = "" then none else some (.string card.category)) ∧
    card.toJson.member? "appInfo" = card.appInfo.map AgentAppInfo.toJson := by
  simp [toJson, member?_ofMembers, lookup_append, lookup_optional, lookup_cons]

end Members

theorem ne_empty_of_inLimit {text : String} (limit : inLimit most text = true) : text ≠ "" := by
  rintro rfl
  simp [inLimit] at limit

section Optional

variable {card : AgentCard} (formed : card.WellFormed accept)
include formed

theorem provider_toJson :
    (card.toJson.objectMember? "provider").bind AgentProvider.fromJson = card.provider := by
  rw [objectMember?, (optionals_toJson card).1]
  cases held : card.provider with
  | none => rfl
  | some provider => exact AgentProvider.fromJson_toJson (formed.provider provider held)

theorem capabilities_toJson (uninitialized : AgentCapabilities) :
    (card.toJson.objectMember? "capabilities").map
      (AgentCapabilities.fromJson accept uninitialized) = card.capabilities := by
  rw [objectMember?, (optionals_toJson card).2.1]
  cases held : card.capabilities with
  | none => rfl
  | some capabilities =>
    exact congrArg some (AgentCapabilities.fromJson_toJson (formed.capabilities _ held) _)

theorem appInfo_toJson :
    (card.toJson.objectMember? "appInfo").map AgentAppInfo.fromJson = card.appInfo := by
  rw [objectMember?, (optionals_toJson card).2.2.2.2.2.2]
  cases held : card.appInfo with
  | none => rfl
  | some appInfo => exact congrArg some (AgentAppInfo.fromJson_toJson (formed.appInfo _ held))

theorem skills_toJson :
    skillsMember accept card.toJson ≠ [] ∧
      (skillsMember accept card.toJson).map some = card.skills := by
  obtain ⟨skills, list, filled, same⟩ := formed.skills
  have given : card.skills ≠ [] := by
    rw [same]
    exact fun empty => filled (map_eq_nil_iff.1 empty)
  have written : card.skills.filterMap (·.map AgentSkill.toJson) =
      skills.map AgentSkill.toJson := by
    rw [same, filterMap_map]
    exact congrFun filterMap_eq_map' skills
  have member := (optionals_toJson card).2.2.1
  rw [if_neg given, written] at member
  rw [skillsMember_of_list list member]
  exact ⟨filled, same.symm⟩

theorem extension_toJson : extensionMember card.toJson accept LENGTH_5120 = card.extension := by
  have member := (optionals_toJson card).2.2.2.2.1
  by_cases empty : card.extension = ""
  · rw [extensionMember, stringMember?, member, empty]
    rfl
  · rw [if_neg empty] at member
    exact extensionMember_of_valid member formed.extension

theorem documentationUrl_toJson : documentationUrlMember card.toJson = card.documentationUrl := by
  obtain ⟨_, _, _, _, _, url, _⟩ := members_toJson card
  simp [documentationUrlMember, stringMember?, url, string?, filter_some, formed.documentationUrl]

theorem fromJson_toJson (uninitialized : AgentCapabilities) :
    fromJson accept uninitialized card.toJson = some card := by
  obtain ⟨agentId, type, name, description, version, _, inputs, outputs⟩ := members_toJson card
  obtain ⟨_, _, _, icon, _, category, _⟩ := optionals_toJson card
  rw [if_neg (ne_empty_of_inLimit formed.iconUrl)] at icon
  rw [if_neg (ne_empty_of_inLimit formed.category)] at category
  simp only [fromJson, filledMember_of_limit agentId formed.agentId, typeMember_of_value type,
    filledMember_of_limit name formed.name, filledMember_of_limit category formed.category,
    appInfo_toJson formed, filledMember_of_limit description formed.description,
    filledMember_of_limit version formed.version, documentationUrl_toJson formed,
    modesMember_of_limited inputs formed.defaultInputModes,
    modesMember_of_limited outputs formed.defaultOutputModes, provider_toJson formed,
    capabilities_toJson formed, (skills_toJson formed).2, filledMember_of_limit icon formed.iconUrl,
    extension_toJson formed]
  simp [(skills_toJson formed).1]

end Optional

end AgentCard

/-! ### Documents that are written have their members once and in order -/

theorem canonical_textArray (values : List String) : (textArray values).Canonical :=
  canonical_array fun element member => by
    obtain ⟨_, _, rfl⟩ := mem_map.1 member
    trivial

theorem AgentSkill.canonical_toJson (skill : AgentSkill) : skill.toJson.Canonical := by
  refine canonical_ofMembers ?_
  simp [Canonical, canonical_textArray]

theorem canonical_optional {name : String} {value : Option Json}
    (canonical : ∀ json ∈ value, json.Canonical) :
    ∀ entry ∈ optional name value, entry.2.Canonical := by
  cases value with
  | none => nofun
  | some json => simpa [optional] using canonical json rfl

theorem AgentCard.canonical_toJson (card : AgentCard) : card.toJson.Canonical := by
  refine canonical_ofMembers ?_
  simp only [forall_mem_append]
  refine ⟨⟨⟨⟨⟨⟨⟨?_, ?_⟩, ?_⟩, ?_⟩, ?_⟩, ?_⟩, ?_⟩, ?_⟩
  · simp [Canonical, canonical_textArray]
  · refine canonical_optional fun json member => ?_
    obtain ⟨provider, _, rfl⟩ := map_eq_some_iff.1 member
    exact canonical_ofMembers (by simp [Canonical])
  · refine canonical_optional fun json member => ?_
    obtain ⟨capabilities, _, rfl⟩ := map_eq_some_iff.1 member
    exact canonical_ofMembers (by simp [Canonical])
  · refine canonical_optional fun json member => ?_
    split at member
    · cases member
    · cases member
      refine canonical_array fun element held => ?_
      obtain ⟨_, _, written⟩ := mem_filterMap.1 held
      obtain ⟨skill, _, rfl⟩ := map_eq_some_iff.1 written
      exact skill.canonical_toJson
  · refine canonical_optional fun json member => ?_
    split at member <;> cases member
    trivial
  · refine canonical_optional fun json member => ?_
    split at member <;> cases member
    trivial
  · refine canonical_optional fun json member => ?_
    split at member <;> cases member
    trivial
  · refine canonical_optional fun json member => ?_
    obtain ⟨appInfo, _, rfl⟩ := map_eq_some_iff.1 member
    exact canonical_ofMembers (by simp [Canonical, canonical_textArray])

theorem canonical_entryJson (entry : StoredAgentCardEntry) : (entryJson entry).Canonical := by
  refine canonical_ofMembers ?_
  simp [Json.Canonical, AgentCard.canonical_toJson]

variable {text : JsonText}

/-! ### Lists of cards -/

theorem parseBytes_dumpBytes {json : Json} (canonical : json.Canonical)
    (lossless : text.Lossless json) : parseBytes text (dumpBytes text json) = some json := by
  have bytes : String.fromUTF8? ⟨(dumpBytes text json).toArray⟩ = some (text.dump json) :=
    dif_pos (text.dump json).isValidUTF8
  rw [parseBytes, bytes, bind_some, lossless canonical]

def Readable (text : JsonText) (card : AgentCard) : Prop :=
  ∃ uninitialized json, AgentCard.fromJson (accepts text) uninitialized json = some card

theorem Readable.fromJson_toJson {card : AgentCard} (readable : Readable text card)
    (uninitialized : AgentCapabilities) :
    AgentCard.fromJson (accepts text) uninitialized card.toJson = some card := by
  obtain ⟨_, _, read⟩ := readable
  exact AgentCard.fromJson_toJson (AgentCard.wellFormed_fromJson read) uninitialized

def encodingSize (text : JsonText) (cards : List AgentCard) : Nat :=
  4 + (cards.map fun card => 4 + (dumpBytes text card.toJson).length).sum

theorem readNumber_written {stream : StringStream} {value : Nat} {tail : Bytes}
    (small : value < 2 ^ 32) (holds : stream.Holds (leBytes 4 value ++ tail)) :
    ∃ next, readNumber stream = (ofNat value, next) ∧ next.Holds tail ∧
      next.written = stream.written := by
  refine ⟨_, ?_, holds.next, rfl⟩
  have read := holds.read
  rw [length_leBytes] at read
  simp only [readNumber, read, leValue_leBytes, length_leBytes]
  rw [mod_eq_of_lt (by omega)]

theorem readCard_written {card : AgentCard} (readable : Readable text card)
    (lossless : text.Lossless card.toJson) (uninitialized : AgentCapabilities)
    {stream : StringStream} {tail : Bytes} (size : stream.written.length < 2 ^ 32)
    (short : (dumpBytes text card.toJson).length < 2 ^ 32)
    (holds : stream.Holds (writeCard text card ++ tail)) :
    ∃ next, readCard text uninitialized (UInt32.ofNat stream.written.length) stream =
      (.ok card, next) ∧ next.Holds tail ∧ next.written = stream.written := by
  have strLen : (UInt32.ofNat (dumpBytes text card.toJson).length).toNat =
      (dumpBytes text card.toJson).length := UInt32.toNat_ofNat_of_lt' short
  rw [writeCard, strLen, List.take_length, List.append_assoc] at holds
  obtain ⟨next, number, after, written⟩ := readNumber_written short holds
  have room : ¬(UInt32.ofNat (dumpBytes text card.toJson).length >
      UInt32.ofNat stream.written.length - UInt32.ofInt next.tellg) := by
    have total := after.length
    rw [List.length_append, written] at total
    have within : next.position < 2 ^ 32 := by omega
    have position : (UInt32.ofInt next.position).toNat = next.position := by
      rw [UInt32.ofInt, Int.emod_eq_of_lt (Int.natCast_nonneg _) (by omega), Int.toNat_natCast]
      exact UInt32.toNat_ofNat_of_lt' within
    have length : (UInt32.ofNat stream.written.length).toNat = stream.written.length :=
      UInt32.toNat_ofNat_of_lt' size
    rw [after.tellg, gt_iff_lt, UInt32.lt_iff_toNat_lt, UInt32.toNat_sub_of_le,
      position, length, strLen]
    · omega
    · rw [UInt32.le_iff_toNat_le, position, length]; omega
  refine ⟨_, ?_, after.next, written⟩
  rw [readCard, number]
  simp only [room, if_false, strLen, after.read, Nat.sub_self, List.replicate_zero,
    List.append_nil, parseBytes_dumpBytes card.canonical_toJson lossless, Option.bind_some,
    readable.fromJson_toJson uninitialized]

def Leaves (data : Bytes) (stream : StringStream) (bytes : Bytes) : Prop :=
  stream.Holds bytes ∧ stream.written = data

theorem fromAgentCardVec_eq {cards : List AgentCard} (count : cards.length ≤ MAX_AGENT_CARD_COUNT) :
    fromAgentCardVec text cards = leBytes 4 cards.length ++ cards.flatMap (writeCard text) := by
  have same : (ofNat cards.length).toNat = cards.length :=
    toNat_ofNat_of_lt' (Nat.lt_of_le_of_lt count (by decide))
  rw [fromAgentCardVec, same, take_length]

theorem length_writeCard_le (card : AgentCard) :
    (writeCard text card).length ≤ 4 + (dumpBytes text card.toJson).length := by
  rw [writeCard, length_append, length_leBytes, length_take]
  omega

theorem toAgentCardVec_fromAgentCardVec {cards : List AgentCard}
    (readable : ∀ card ∈ cards, Readable text card)
    (lossless : ∀ card ∈ cards, text.Lossless card.toJson)
    (count : cards.length ≤ MAX_AGENT_CARD_COUNT) (size : encodingSize text cards < 2 ^ 32)
    (uninitialized : AgentCapabilities) :
    toAgentCardVec text uninitialized (fromAgentCardVec text cards) = .ok cards := by
  have fits : (fromAgentCardVec text cards).length ≤ encodingSize text cards := by
    rw [fromAgentCardVec_eq count, length_append, length_leBytes, length_flatMap, encodingSize]
    exact Nat.add_le_add_left (sum_le_sum fun card _ => length_writeCard_le card) 4
  have short : ∀ card ∈ cards, (dumpBytes text card.toJson).length < 2 ^ 32 := by
    intro card member
    have part := le_sum_of_mem (mem_map_of_mem
      (f := fun card => 4 + (dumpBytes text card.toJson).length) member)
    rw [encodingSize] at size
    omega
  have start : StringStream.Holds { written := fromAgentCardVec text cards }
      (leBytes 4 cards.length ++ cards.flatMap (writeCard text)) :=
    ⟨rfl, Nat.zero_le _, fromAgentCardVec_eq count⟩
  obtain ⟨stream, number, after, written⟩ :=
    readNumber_written (Nat.lt_of_le_of_lt count (by decide)) start
  have length : (ofNat cards.length).toNat = cards.length :=
    toNat_ofNat_of_lt' (lt_of_le_of_lt count (by decide))
  have reads : ∀ card ∈ cards, ∀ (state : StringStream) (tail : Bytes),
      Leaves (fromAgentCardVec text cards) state (writeCard text card ++ tail) ->
      ∃ next, readCard text uninitialized (ofNat (fromAgentCardVec text cards).length)
        state = (.ok card, next) ∧ Leaves (fromAgentCardVec text cards) next tail := by
    rintro card member state tail ⟨holds, same⟩
    have room : state.written.length < 2 ^ 32 := by
      rw [same]
      exact lt_of_le_of_lt fits size
    obtain ⟨next, read, later, kept⟩ := readCard_written (readable card member)
      (lossless card member) uninitialized room (short card member) holds
    rw [same] at read
    exact ⟨next, read, later, kept.trans same⟩
  have left : Leaves (fromAgentCardVec text cards) stream
      (cards.flatMap (writeCard text) ++ []) := ⟨by rwa [append_nil], written⟩
  obtain ⟨last, all, _⟩ := readEach_written reads left []
  simp only [toAgentCardVec, number, length]
  rw [if_neg (not_lt.2 count), all]
  rfl

/-! ### Stored entries -/

theorem parseStoredEntry_entryJson {entry : StoredAgentCardEntry}
    (readable : Readable text entry.card) (uninitialized : AgentCapabilities) :
    parseStoredEntry text uninitialized (entryJson entry) = some entry := by
  have card : (entryJson entry).member? "card" = some entry.card.toJson := by
    simp [entryJson, member?_ofMembers, lookup_cons]
  have source : (entryJson entry).member? "lastUpdateSource" =
      some (.string (updateSourceToString entry.updateSource)) := by
    simp [entryJson, member?_ofMembers]
  have same : parseUpdateSource (.string (updateSourceToString entry.updateSource)) =
      entry.updateSource := by
    cases entry.updateSource <;> decide
  simp [parseStoredEntry, card, source, readable.fromJson_toJson uninitialized, same]

theorem parseStoredEntry_toJson {card : AgentCard} (readable : Readable text card)
    (uninitialized : AgentCapabilities) :
    parseStoredEntry text uninitialized card.toJson = some { card, updateSource := .bundle } := by
  have none : card.toJson.member? "card" = none := by
    simp [AgentCard.toJson, member?_ofMembers, lookup_append, lookup_optional, lookup_cons]
  simp [parseStoredEntry, none, readable.fromJson_toJson uninitialized]

def storedDocument (entries : List StoredAgentCardEntry) : Json :=
  .ofMembers [("cards", .array (entries.map entryJson))]

def bareEntries (entries : List StoredAgentCardEntry) : Json := .array (entries.map entryJson)

def bareCards (entries : List StoredAgentCardEntry) : Json :=
  .array (entries.map fun entry => entry.card.toJson)

theorem parseStoredEntries_dump {json : Json} {items : List Json}
    (canonical : json.Canonical) (lossless : text.Lossless json)
    (stored : storedItems json = some items) (uninitialized : AgentCapabilities) :
    parseStoredEntries text uninitialized (text.dump json) =
      some (items.filterMap (parseStoredEntry text uninitialized)) := by
  simp [parseStoredEntries, lossless canonical, stored]

def documents (cards : List AgentCard) (entries : List StoredAgentCardEntry) : List Json :=
  cards.map AgentCard.toJson ++ [storedDocument entries, bareEntries entries, bareCards entries]

/-- Cards read from documents are read back as they are, wherever they were kept. -/
theorem cards_readBack (text : JsonText) (uninitialized : AgentCapabilities)
    (cards : List AgentCard) (entries : List StoredAgentCardEntry)
    (readable : ∀ card ∈ cards, Readable text card)
    (stored : ∀ entry ∈ entries, Readable text entry.card)
    (count : cards.length ≤ MAX_AGENT_CARD_COUNT) (size : encodingSize text cards < 2 ^ 32)
    (lossless : ∀ json ∈ documents cards entries, text.Lossless json) :
    (∀ card, Readable text card ->
        AgentCard.fromJson (accepts text) uninitialized card.toJson = some card) ∧
      toAgentCardVec text uninitialized (fromAgentCardVec text cards) = .ok cards ∧
      parseStoredEntries text uninitialized (convertValue text entries) = some entries ∧
      parseStoredEntries text uninitialized (text.dump (bareEntries entries)) = some entries ∧
      parseStoredEntries text uninitialized (text.dump (bareCards entries)) =
        some (entries.map fun entry => { card := entry.card, updateSource := .bundle }) := by
  rw [documents, List.forall_mem_append, List.forall_mem_map] at lossless
  obtain ⟨losslessCards, losslessStored⟩ := lossless
  have parsed : (entries.map entryJson).filterMap (parseStoredEntry text uninitialized) =
      entries := by
    rw [filterMap_map]
    refine (filterMap_congr fun entry member => ?_).trans filterMap_some
    exact parseStoredEntry_entryJson (stored entry member) uninitialized
  have canonical : (bareEntries entries).Canonical :=
    canonical_array fun element member => by
      obtain ⟨entry, _, rfl⟩ := mem_map.1 member
      exact canonical_entryJson entry
  refine ⟨fun card readable => readable.fromJson_toJson uninitialized,
    toAgentCardVec_fromAgentCardVec readable losslessCards count size uninitialized, ?_, ?_, ?_⟩
  · have items : storedItems (storedDocument entries) = some (entries.map entryJson) := by
      simp [storedItems, storedDocument, ofMembers, setMember, array?]
    refine (parseStoredEntries_dump ?_ (losslessStored _ mem_cons_self) items
      uninitialized).trans (congrArg some parsed)
    exact canonical_ofMembers (by simpa [bareEntries] using canonical)
  · refine (parseStoredEntries_dump canonical (losslessStored _ (by simp)) rfl
      uninitialized).trans (congrArg some parsed)
  · refine (parseStoredEntries_dump ?_ (losslessStored _ (by simp)) rfl uninitialized).trans ?_
    · exact canonical_array fun element member => by
        obtain ⟨entry, _, rfl⟩ := mem_map.1 member
        exact entry.card.canonical_toJson
    · rw [filterMap_map, <- congrFun filterMap_eq_map' entries]
      refine congrArg some (filterMap_congr fun entry member => ?_)
      exact parseStoredEntry_toJson (stored entry member) uninitialized

def weatherCard : AgentCard where
  agentId := "weather"
  type := .app
  name := "Weather"
  description := "Tells the weather"
  provider := some ⟨"Sky", "sky.org"⟩
  version := "1.0.0"
  documentationUrl := ""
  capabilities := some ⟨true, false, false, "", false⟩
  defaultInputModes := ["text"]
  defaultOutputModes := ["text"]
  skills := [some ⟨"today", "Today", "The weather today", ["now"], [], [], [], ""⟩]
  iconUrl := "icon.png"
  extension := "[]"
  category := "tools"
  appInfo := none

def weatherDocument : String :=
  "\x7b\"agentId\":\"weather\",\"capabilities\":\x7b\"extendedAgentCard\":false," ++
  "\"extension\":\"\",\"pushNotifications\":false,\"stateTransitionHistory\":false," ++
  "\"streaming\":true\x7d,\"category\":\"tools\",\"defaultInputModes\":[\"text\"]," ++
  "\"defaultOutputModes\":[\"text\"],\"description\":\"Tells the weather\"," ++
  "\"documentationUrl\":\"\",\"extension\":\"[]\",\"iconUrl\":\"icon.png\",\"name\":\"Weather\"," ++
  "\"provider\":\x7b\"organization\":\"Sky\",\"url\":\"sky.org\"\x7d,\"skills\":[\x7b" ++
  "\"description\":\"The weather today\",\"examples\":[],\"extension\":\"\",\"id\":\"today\"," ++
  "\"inputModes\":[],\"name\":\"Today\",\"outputModes\":[],\"tags\":[\"now\"]\x7d]," ++
  "\"type\":0,\"version\":\"1.0.0\"\x7d"

def weatherEntry : String :=
  "\x7b\"card\":" ++ weatherDocument ++ ",\"lastUpdateSource\":\"api\"\x7d"

def weatherStored : String := "\x7b\"cards\":[" ++ weatherEntry ++ "]\x7d"

def weatherEntries : String := "[" ++ weatherEntry ++ "]"

def weatherCards : String := "[" ++ weatherDocument ++ "]"

def weatherText : JsonText where
  dump
    | .array items =>
      if items.any fun item => (item.member? "card").isSome then weatherEntries else weatherCards
    | json => if (json.member? "cards").isSome then weatherStored else weatherDocument
  parse document :=
    if document = weatherDocument then some weatherCard.toJson
    else if document = weatherStored then some (storedDocument [⟨weatherCard, .api⟩])
    else if document = weatherEntries then some (bareEntries [⟨weatherCard, .api⟩])
    else if document = weatherCards then some (bareCards [⟨weatherCard, .api⟩])
    else if document = "[]" then some (.array [])
    else none

def noCapabilities : AgentCapabilities := ⟨false, false, false, "", false⟩

theorem weatherCard_readBack :
    toAgentCardVec weatherText noCapabilities (fromAgentCardVec weatherText [weatherCard]) =
        .ok [weatherCard] ∧
      parseStoredEntries weatherText noCapabilities
        (convertValue weatherText [⟨weatherCard, .api⟩]) = some [⟨weatherCard, .api⟩] := by
  have readable : Readable weatherText weatherCard :=
    ⟨noCapabilities, weatherCard.toJson, by decide +kernel⟩
  have texts : weatherText.dump weatherCard.toJson = weatherDocument ∧
      weatherText.dump (storedDocument [⟨weatherCard, .api⟩]) = weatherStored ∧
      weatherText.dump (bareEntries [⟨weatherCard, .api⟩]) = weatherEntries ∧
      weatherText.dump (bareCards [⟨weatherCard, .api⟩]) = weatherCards := by decide +kernel
  have apart : weatherStored ≠ weatherDocument ∧ weatherEntries ≠ weatherDocument ∧
      weatherEntries ≠ weatherStored ∧ weatherCards ≠ weatherDocument ∧
      weatherCards ≠ weatherStored ∧ weatherCards ≠ weatherEntries := by decide +kernel
  have lossless : ∀ json ∈ documents [weatherCard] [⟨weatherCard, .api⟩],
      weatherText.Lossless json := by
    simp only [documents, map_cons, map_nil, singleton_append, forall_mem_cons,
      JsonText.Lossless, texts]
    simp only [weatherText, apart, if_true, if_false, implies_true, true_and]
    nofun
  have all := cards_readBack weatherText noCapabilities [weatherCard] [⟨weatherCard, .api⟩]
    (by simpa using readable) (by simpa using readable) (by decide) (by decide +kernel) lossless
  exact ⟨all.2.1, all.2.2.1⟩

end AbilityRuntime.AgentCards
