import AbilityRuntime.InsightIntent.IntentRows

set_option autoImplicit false

namespace AbilityRuntime.InsightIntent

open Library KeyedMap RowName Option AList List Prod

/-- The row is one of the module; those of the bundle are meant when no module is named. -/
def RowName.Within (row : RowName) (userId : Int) (bundleName moduleName : String) : Prop :=
  row.userId = userId ∧ row.bundleName = bundleName ∧
    (moduleName = "" ∨ row.moduleName = moduleName)

instance (row : RowName) (userId : Int) (bundleName moduleName : String) :
    Decidable (row.Within userId bundleName moduleName) :=
  inferInstanceAs (Decidable (_ ∧ _ ∧ (_ ∨ _)))

namespace IntentRdb

def otherModules (rdb : IntentRdb) (userId : Int) (bundleName moduleName : String) : List String :=
  rdb.keys.filter fun key =>
    beginsWith (bundleKey userId bundleName) key &&
      !beginsWith (moduleKey userId bundleName moduleName) key

variable {json : IntentJson} {rdb : IntentRdb} {userId : Int} {bundleName moduleName : String}

variable {row : RowName}

theorem mem_otherModules (free : row.SlashFree) (bundle : '/' ∉ bundleName.toList)
    (module : '/' ∉ moduleName.toList) :
    row.key ∈ rdb.otherModules userId bundleName moduleName ↔
      rdb.Has row ∧ row.userId = userId ∧ row.bundleName = bundleName ∧
        row.moduleName ≠ moduleName := by
  rw [otherModules, mem_filter, Bool.and_eq_true, Bool.not_eq_true', <- Bool.not_eq_true,
    beginsWith_bundleKey free userId bundle,
    beginsWith_moduleKey free userId bundle module, <- AList.mem_keys]
  constructor
  · rintro ⟨present, ⟨rfl, rfl⟩, outside⟩
    exact ⟨⟨free, present⟩, rfl, rfl, fun same => outside ⟨rfl, rfl, same.symm⟩⟩
  · rintro ⟨⟨-, present⟩, rfl, rfl, ne⟩
    exact ⟨present, ⟨rfl, rfl⟩, fun same => ne same.2.2.symm⟩

variable {key : String}

theorem WellKept.otherModule (kept : rdb.WellKept json)
    (mem : key ∈ rdb.otherModules userId bundleName moduleName) :
    ∃ row : RowName, row.SlashFree ∧ row.key = key := by
  have present : key ∈ rdb := (mem_filter.1 mem).1
  obtain ⟨text, found⟩ := isSome_iff_exists.1 (lookup_isSome.2 present)
  obtain ⟨row, whole, keeps⟩ := kept.named _ _ found
  exact ⟨row, keeps.free, whole⟩

theorem otherModules_ne_nil (kept : rdb.WellKept json) (bundle : '/' ∉ bundleName.toList)
    (module : '/' ∉ moduleName.toList) :
    rdb.otherModules userId bundleName moduleName ≠ [] ↔
      ∃ row, rdb.Has row ∧ row.userId = userId ∧ row.bundleName = bundleName ∧
        row.moduleName ≠ moduleName := by
  constructor
  · intro filled
    obtain ⟨key, mem⟩ := exists_mem_of_ne_nil _ filled
    obtain ⟨row, free, rfl⟩ := kept.otherModule mem
    exact ⟨row, (mem_otherModules free bundle module).1 mem⟩
  · rintro ⟨row, has, rest⟩
    exact ne_nil_of_mem ((mem_otherModules has.1 bundle module).2 ⟨has, rest⟩)

theorem lookup_delete (free : row.SlashFree) (bundle : '/' ∉ bundleName.toList)
    (module : '/' ∉ moduleName.toList) :
    (rdb.deleteStorageInsightIntentData bundleName moduleName userId).lookup row.key =
      if row.Within userId bundleName moduleName then none else rdb.lookup row.key := by
  have chosen : beginsWith (if moduleName.isEmpty then bundleKey userId bundleName
      else moduleKey userId bundleName moduleName) row.key = true ↔
        row.Within userId bundleName moduleName := by
    by_cases whole : moduleName = ""
    · rw [if_pos (by simp [whole]), beginsWith_bundleKey free userId bundle]
      exact ⟨fun same => ⟨same.1.symm, same.2.symm, .inl whole⟩,
        fun within => ⟨within.1.symm, within.2.1.symm⟩⟩
    · rw [if_neg (by simpa using whole), beginsWith_moduleKey free userId bundle module]
      exact ⟨fun same => ⟨same.1.symm, same.2.1.symm, .inr same.2.2.symm⟩,
        fun within => ⟨within.1.symm, within.2.1.symm, (within.2.2.resolve_left whole).symm⟩⟩
  rw [deleteStorageInsightIntentData, deleteDataBeginWithKey, lookup_without]
  simp only [chosen]

theorem lookup_of_delete {text : String}
    (found : (rdb.deleteStorageInsightIntentData bundleName moduleName userId).lookup key =
      some text) : rdb.lookup key = some text :=
  lookup_of_without found

theorem has_of_delete
    (has : (rdb.deleteStorageInsightIntentData bundleName moduleName userId).Has row) :
    rdb.Has row := by
  obtain ⟨text, found⟩ := isSome_iff_exists.1 (lookup_isSome.2 has.2)
  exact ⟨has.1, mem_of_lookup (lookup_of_delete found)⟩

theorem has_delete_iff (free : row.SlashFree) (bundle : '/' ∉ bundleName.toList)
    (module : '/' ∉ moduleName.toList) :
    (rdb.deleteStorageInsightIntentData bundleName moduleName userId).Has row ↔
      rdb.Has row ∧ ¬row.Within userId bundleName moduleName := by
  rw [Has, Has, <- lookup_isSome, lookup_delete free bundle module, <- lookup_isSome]
  split
  next within => simp [within]
  next outside => simp [outside]

theorem hasInfo_delete_iff {info : ExtractInsightIntentGenericInfo}
    (bundle : '/' ∉ bundleName.toList) (module : '/' ∉ moduleName.toList) :
    (rdb.deleteStorageInsightIntentData bundleName moduleName userId).HasInfo json row info ↔
      rdb.HasInfo json row info ∧ ¬row.Within userId bundleName moduleName := by
  rw [HasInfo, HasInfo]
  by_cases free : row.SlashFree
  · rw [lookup_delete free bundle module]
    split
    next within => simp [within]
    next outside => simp [outside]
  · simp [free]

theorem WellKept.delete (kept : rdb.WellKept json) (bundleName moduleName : String)
    (userId : Int) :
    (rdb.deleteStorageInsightIntentData bundleName moduleName userId).WellKept json where
  named := fun key text found => kept.named key text (lookup_of_delete found)
  oneVersion := fun row other has otherHas =>
    kept.oneVersion row other (has_of_delete has) (has_of_delete otherHas)

theorem lookup_insertAll_of_notMem (rdb : IntentRdb) {rows : List (String × Option String)}
    (other : key ∉ rows.map fst) :
    (rdb.insertAll rows).lookup key = rdb.lookup key := by
  induction rows generalizing rdb with
  | nil => rfl
  | cons row rest ih =>
    obtain ⟨first, text⟩ := row
    rw [map_cons, mem_cons, not_or] at other
    cases text with
    | none => rfl
    | some text => rw [insertAll, ih _ other.2, lookup_insert_eq, if_neg other.1]

theorem lookup_insertAll {rows : List (String × Option String)} {text : String}
    (found : (rdb.insertAll rows).lookup key = some text) :
    (key, some text) ∈ rows ∨ rdb.lookup key = some text := by
  induction rows generalizing rdb with
  | nil => exact .inr found
  | cons row rest ih =>
    obtain ⟨first, value⟩ := row
    cases value with
    | none => exact .inr found
    | some value =>
      rcases ih found with later | before
      · exact .inl (mem_cons_of_mem _ later)
      · rw [lookup_insert_eq] at before
        split at before
        next same =>
          cases before
          exact .inl (same ▸ mem_cons_self)
        · exact .inr before

theorem mem_insertAll (present : key ∈ rdb) (rows : List (String × Option String)) :
    key ∈ rdb.insertAll rows := by
  induction rows generalizing rdb with
  | nil => exact present
  | cons row rest ih =>
    obtain ⟨first, value⟩ := row
    cases value with
    | none => exact present
    | some value => exact ih ((mem_insert _).2 (.inr present))

theorem lookup_insertAll_last (rdb : IntentRdb) {before after : List (String × Option String)}
    (text : String) (written : ∀ row ∈ before, row.2 ≠ none) (later : key ∉ after.map fst) :
    (rdb.insertAll (before ++ (key, some text) :: after)).lookup key = some text := by
  induction before generalizing rdb with
  | nil =>
    rw [nil_append, insertAll, lookup_insertAll_of_notMem _ later, lookup_insert]
  | cons row rest ih =>
    obtain ⟨first, value⟩ := row
    cases value with
    | none => exact absurd rfl (written (first, none) mem_cons_self)
    | some value => exact ih _ fun one inside => written one (mem_cons_of_mem _ inside)

end IntentRdb

def RowName.At (row : RowName) (userId : Int) (bundleName moduleName : String) : Prop :=
  row.userId = userId ∧ row.bundleName = bundleName ∧ row.moduleName = moduleName

section

variable (json : IntentJson)

def IntentJson.StoresProfile (bundleName moduleName : String)
    (profileInfo : ExtractInsightIntentProfileInfo) : Prop :=
  profileInfo.bundleName = bundleName ∧ profileInfo.moduleName = moduleName ∧
    ∃ text ∈ json.dumpProfile profileInfo, json.Readable text ∧
      json.infosIn text = [profileInfoFormat profileInfo]

def IntentJson.StoresConfig (bundleName moduleName : String) (configInfo : InsightIntentInfo) :
    Prop :=
  ∀ text ∈ json.dumpConfig { configInfo with moduleName, bundleName },
    json.Readable text ∧ json.infosIn text = []

structure IntentRdb.Storable (rdb : IntentRdb) (bundleName moduleName : String) (userId : Int)
    (versionCode : Nat) (profileInfos : List ExtractInsightIntentProfileInfo)
    (configInfos : List InsightIntentInfo) : Prop where
  owned : userId ≠ -1
  whole : moduleName = "" -> rdb.otherModules userId bundleName moduleName = []
  profiles : ∀ profileInfo ∈ profileInfos, json.StoresProfile bundleName moduleName profileInfo
  configs : ∀ configInfo ∈ configInfos, json.StoresConfig bundleName moduleName configInfo
  names : (profileInfos.map (·.intentName)).Nodup
  apart : ∀ configInfo ∈ configInfos, configInfo.intentName ∉ profileInfos.map (·.intentName)
  oneVersion : ∀ key ∈ rdb.otherModules userId bundleName moduleName,
    (splitStringBySlash key)[4]? = some (toString versionCode)
  filled : profileInfos ≠ [] ∨
    (∃ configInfo ∈ configInfos.head?,
      json.dumpConfig { configInfo with moduleName, bundleName } ≠ none) ∨
    rdb.otherModules userId bundleName moduleName ≠ []

instance (text : String) : Decidable (json.Readable text) := inferInstanceAs (Decidable (_ ∧ _))

instance (bundleName moduleName : String) (profileInfo : ExtractInsightIntentProfileInfo) :
    Decidable (json.StoresProfile bundleName moduleName profileInfo) :=
  inferInstanceAs (Decidable (_ ∧ _ ∧ ∃ text ∈ json.dumpProfile profileInfo,
    json.Readable text ∧ json.infosIn text = [profileInfoFormat profileInfo]))

instance (bundleName moduleName : String) (configInfo : InsightIntentInfo) :
    Decidable (json.StoresConfig bundleName moduleName configInfo) :=
  inferInstanceAs (Decidable (∀ text ∈ json.dumpConfig { configInfo with moduleName, bundleName },
    json.Readable text ∧ json.infosIn text = []))

instance (rdb : IntentRdb) (bundleName moduleName : String) (userId : Int) (versionCode : Nat)
    (profileInfos : List ExtractInsightIntentProfileInfo) (configInfos : List InsightIntentInfo) :
    Decidable
      (rdb.Storable json bundleName moduleName userId versionCode profileInfos configInfos) :=
  decidable_of_iff (_ ∧ _ ∧ _ ∧ _ ∧ _ ∧ _ ∧ _ ∧ _)
    ⟨fun ⟨owned, whole, profiles, configs, names, apart, oneVersion, filled⟩ =>
      { owned, whole, profiles, configs, names, apart, oneVersion, filled },
    fun storable => ⟨storable.owned, storable.whole, storable.profiles, storable.configs,
      storable.names, storable.apart, storable.oneVersion, storable.filled⟩⟩

end

structure SlashFreeSave (bundleName moduleName : String)
    (profileInfos : List ExtractInsightIntentProfileInfo) (configInfos : List InsightIntentInfo) :
    Prop where
  bundle : '/' ∉ bundleName.toList
  module : '/' ∉ moduleName.toList
  profiles : ∀ profileInfo ∈ profileInfos, '/' ∉ profileInfo.intentName.toList
  configs : ∀ configInfo ∈ configInfos, '/' ∉ configInfo.intentName.toList

instance (bundleName moduleName : String) (profileInfos : List ExtractInsightIntentProfileInfo)
    (configInfos : List InsightIntentInfo) :
    Decidable (SlashFreeSave bundleName moduleName profileInfos configInfos) :=
  decidable_of_iff (_ ∧ _ ∧ _ ∧ _)
    ⟨fun ⟨bundle, module, profiles, configs⟩ => { bundle, module, profiles, configs },
    fun names => ⟨names.bundle, names.module, names.profiles, names.configs⟩⟩

variable {profileInfo : ExtractInsightIntentProfileInfo}

theorem checked_format (checked : checkProfileInfo profileInfo = true) :
    (profileInfoFormat profileInfo).bundleName = profileInfo.bundleName ∧
      (profileInfoFormat profileInfo).moduleName = profileInfo.moduleName ∧
      (profileInfoFormat profileInfo).intentName = profileInfo.intentName := by
  rw [profileInfoFormat, if_pos checked]
  exact ⟨rfl, rfl, rfl⟩

theorem checked_bundle
    (checked : checkProfileInfo profileInfo = true) : profileInfo.bundleName ≠ "" := by
  rintro empty
  simp [checkProfileInfo, empty] at checked

theorem IntentJson.StoresProfile.checked {json : IntentJson} {bundleName moduleName : String}
    (stores : json.StoresProfile bundleName moduleName profileInfo) :
    checkProfileInfo profileInfo = true := by
  obtain ⟨-, -, text, -, -, infos⟩ := stores
  by_contra failed
  have blank : profileInfoFormat profileInfo = {} := if_neg failed
  cases read : json.readProfiles text with
  | none => simp [infosIn, transformTo, read] at infos
  | some intentInfos =>
    by_cases checked : intentInfos.all checkProfileInfo = true
    · rw [infosIn, transformTo, read] at infos
      simp only [checked, if_true, getD_some] at infos
      obtain ⟨one, rfl, same⟩ := map_eq_singleton_iff.1 infos
      have passed : checkProfileInfo one = true := by simpa using checked
      rw [blank] at same
      have bundle := (checked_format passed).1
      rw [same] at bundle
      exact checked_bundle passed bundle.symm
    · simp [infosIn, transformTo, read, checked] at infos

namespace IntentRdb

variable {json : IntentJson} {rdb : IntentRdb} {userId : Int} {bundleName moduleName : String}
  {versionCode : Nat} {profileInfos : List ExtractInsightIntentProfileInfo}
  {configInfos : List InsightIntentInfo}

theorem lookup_cleared (names : SlashFreeSave bundleName moduleName profileInfos configInfos)
    {row : RowName} (free : row.SlashFree) (inside : row.At userId bundleName moduleName) :
    (rdb.deleteStorageInsightIntentData bundleName moduleName userId).lookup row.key = none := by
  rw [lookup_delete free names.bundle names.module]
  exact if_pos ⟨inside.1, inside.2.1, .inr inside.2.2⟩

theorem Storable.lookup_kept
    (storable : rdb.Storable json bundleName moduleName userId versionCode profileInfos configInfos)
    (names : SlashFreeSave bundleName moduleName profileInfos configInfos) {row : RowName}
    (free : row.SlashFree) (outside : ¬row.At userId bundleName moduleName) :
    (rdb.deleteStorageInsightIntentData bundleName moduleName userId).lookup row.key =
      rdb.lookup row.key := by
  rw [lookup_delete free names.bundle names.module]
  split
  next within =>
    obtain ⟨user, bundle, rfl | same⟩ := within
    · have ne : row.moduleName ≠ "" := fun same => outside ⟨user, bundle, same⟩
      by_contra present
      obtain ⟨text, found⟩ := ne_none_iff_exists'.1 (Ne.symm present)
      have mem := (mem_otherModules free names.bundle names.module).2
        ⟨⟨free, mem_of_lookup found⟩, user, bundle, ne⟩
      simp [storable.whole rfl] at mem
    · exact absurd ⟨user, bundle, same⟩ outside
  · rfl

def savedName (bundleName moduleName : String) (userId : Int) (versionCode : Nat)
    (intentName : String) : RowName :=
  { userId, bundleName, moduleName, intentName, versionCode }

theorem savedName_free (names : SlashFreeSave bundleName moduleName profileInfos configInfos)
    {intentName : String} (free : '/' ∉ intentName.toList) :
    (savedName bundleName moduleName userId versionCode intentName).SlashFree :=
  { names with intent := free }

def savedRows (json : IntentJson) (bundleName moduleName : String) (userId : Int)
    (versionCode : Nat) (profileInfos : List ExtractInsightIntentProfileInfo)
    (configInfos : List InsightIntentInfo) : List (String × Option String) :=
  profileInfos.map (profileRow json bundleName moduleName userId versionCode) ++
    configInfos.map (configRow json bundleName moduleName userId versionCode)

theorem mem_savedRows {key : String} {value : Option String} :
    (key, value) ∈ savedRows json bundleName moduleName userId versionCode profileInfos
        configInfos ↔
      (∃ profileInfo ∈ profileInfos,
        key = (savedName bundleName moduleName userId versionCode profileInfo.intentName).key ∧
          value = json.dumpProfile profileInfo) ∨
      ∃ configInfo ∈ configInfos,
        key = (savedName bundleName moduleName userId versionCode configInfo.intentName).key ∧
          value = json.dumpConfig { configInfo with moduleName, bundleName } := by
  simp only [savedRows, mem_append, List.mem_map, profileRow, configRow, Prod.mk.injEq,
    savedName, RowName.key, eq_comm]

theorem savedRows_named (names : SlashFreeSave bundleName moduleName profileInfos configInfos)
    {key : String}
    (mem : key ∈ (savedRows json bundleName moduleName userId versionCode profileInfos
      configInfos).map fst) :
    ∃ row : RowName, row.key = key ∧ row.SlashFree ∧ row.At userId bundleName moduleName ∧
      row.versionCode = versionCode := by
  obtain ⟨⟨_, value⟩, inside, rfl⟩ := mem_map.1 mem
  rcases mem_savedRows.1 inside with ⟨profileInfo, held, rfl, -⟩ | ⟨configInfo, held, rfl, -⟩
  · exact ⟨_, rfl, savedName_free names (names.profiles _ held), ⟨rfl, rfl, rfl⟩, rfl⟩
  · exact ⟨_, rfl, savedName_free names (names.configs _ held), ⟨rfl, rfl, rfl⟩, rfl⟩

def saved (json : IntentJson) (rdb : IntentRdb) (bundleName moduleName : String) (userId : Int)
    (versionCode : Nat) (profileInfos : List ExtractInsightIntentProfileInfo)
    (configInfos : List InsightIntentInfo) : IntentRdb :=
  (rdb.deleteStorageInsightIntentData bundleName moduleName userId).saveStorageInsightIntentData
    json bundleName moduleName userId versionCode profileInfos configInfos

theorem saved_eq :
    saved json rdb bundleName moduleName userId versionCode profileInfos configInfos =
      (rdb.deleteStorageInsightIntentData bundleName moduleName userId).insertAll
        (savedRows json bundleName moduleName userId versionCode profileInfos configInfos) := rfl

namespace Storable

variable
  (storable : rdb.Storable json bundleName moduleName userId versionCode profileInfos configInfos)
  (names : SlashFreeSave bundleName moduleName profileInfos configInfos)

include storable names

theorem lookup_outside {row : RowName} (free : row.SlashFree)
    (outside : ¬row.At userId bundleName moduleName) :
    (saved json rdb bundleName moduleName userId versionCode profileInfos configInfos).lookup
        row.key = rdb.lookup row.key := by
  rw [saved_eq, lookup_insertAll_of_notMem, storable.lookup_kept names free outside]
  intro mem
  obtain ⟨other, same, otherFree, inside, -⟩ := savedRows_named names mem
  exact outside (key_inj otherFree free same ▸ inside)

omit storable in
theorem written {row : RowName} (free : row.SlashFree) (inside : row.At userId bundleName moduleName)
    {text : String}
    (found : (saved json rdb bundleName moduleName userId versionCode profileInfos
      configInfos).lookup row.key = some text) :
    (row.key, some text) ∈
      savedRows json bundleName moduleName userId versionCode profileInfos configInfos := by
  rcases lookup_insertAll (saved_eq ▸ found) with wrote | before
  · exact wrote
  · rw [lookup_cleared names free inside] at before
    cases before

omit storable in
theorem version_of_written {row : RowName} (free : row.SlashFree)
    (inside : row.At userId bundleName moduleName)
    (present : row.key ∈
      saved json rdb bundleName moduleName userId versionCode profileInfos configInfos) :
    row.versionCode = versionCode := by
  obtain ⟨text, found⟩ := isSome_iff_exists.1 (lookup_isSome.2 present)
  have wrote : row.key ∈ (savedRows json bundleName moduleName userId versionCode profileInfos
      configInfos).map fst := mem_map_of_mem (written names free inside found)
  obtain ⟨other, same, otherFree, -, version⟩ := savedRows_named names wrote
  rw [<- key_inj otherFree free same, version]

theorem profile_saved {profileInfo : ExtractInsightIntentProfileInfo}
    (mem : profileInfo ∈ profileInfos) :
    ∃ text, (saved json rdb bundleName moduleName userId versionCode profileInfos
        configInfos).lookup
        (savedName bundleName moduleName userId versionCode profileInfo.intentName).key =
          some text ∧
      json.infosIn text = [profileInfoFormat profileInfo] := by
  obtain ⟨-, -, text, dumped, -, infos⟩ := storable.profiles _ mem
  refine ⟨text, ?_, infos⟩
  obtain ⟨before, after, whole⟩ := append_of_mem mem
  have split : savedRows json bundleName moduleName userId versionCode profileInfos configInfos =
      before.map (profileRow json bundleName moduleName userId versionCode) ++
        ((savedName bundleName moduleName userId versionCode profileInfo.intentName).key, some text) ::
          savedRows json bundleName moduleName userId versionCode after configInfos := by
    rw [savedRows, whole, map_append, map_cons, append_assoc, cons_append,
      profileRow, mem_def.1 dumped]
    rfl
  rw [saved_eq, split]
  refine lookup_insertAll_last _ text ?_ ?_
  · intro row held
    obtain ⟨earlier, inside, rfl⟩ := mem_map.1 held
    obtain ⟨-, -, other, otherDumped, -⟩ := storable.profiles earlier (by simp [whole, inside])
    rw [profileRow, mem_def.1 otherDumped]
    exact some_ne_none _
  · intro later
    have free := @savedName_free userId _ _ versionCode _ _ names _ (names.profiles _ mem)
    have apart : profileInfo.intentName ∉ after.map (·.intentName) := by
      have distinct := storable.names
      rw [whole, map_append, map_cons] at distinct
      exact (nodup_cons.1 (nodup_append.1 distinct).2.1).1
    obtain ⟨⟨_, value⟩, held, same⟩ := mem_map.1 later
    rcases mem_savedRows.1 held with ⟨other, inside, rfl, -⟩ | ⟨other, inside, rfl, -⟩
    · have otherFree := names.profiles other (by simp [whole, inside])
      have equal := key_inj (savedName_free names otherFree) free same
      exact apart (mem_map.2 ⟨other, inside, congrArg intentName equal⟩)
    · have otherFree := names.configs other inside
      have equal := key_inj (savedName_free names otherFree) free same
      refine storable.apart other inside (mem_map.2 ⟨profileInfo, mem, ?_⟩)
      exact (congrArg intentName equal).symm

theorem version_at_bundle {row : RowName}
    (has : (saved json rdb bundleName moduleName userId versionCode profileInfos configInfos).Has
      row) (user : row.userId = userId) (bundle : row.bundleName = bundleName) :
    row.versionCode = versionCode := by
  by_cases module : row.moduleName = moduleName
  · exact version_of_written names has.1 ⟨user, bundle, module⟩ has.2
  · have present := has.2
    rw [<- lookup_isSome, storable.lookup_outside names has.1 fun inside => module inside.2.2,
      lookup_isSome] at present
    have listed := (mem_otherModules has.1 names.bundle names.module).2
      ⟨⟨has.1, present⟩, user, bundle, module⟩
    have version := storable.oneVersion _ listed
    rw [splitStringBySlash_key has.1] at version
    exact Nat.repr_injective (Option.some.inj version)

theorem row_of_bundle (kept : rdb.WellKept json) :
    ∃ row, (saved json rdb bundleName moduleName userId versionCode profileInfos configInfos).Has
      row ∧ row.userId = userId ∧ row.bundleName = bundleName := by
  by_cases empty : profileInfos = []
  · rcases storable.filled.resolve_left (not_not_intro empty) with ⟨configInfo, first, dumps⟩ | others
    · obtain ⟨rest, rfl⟩ := head?_eq_some_iff.1 first
      obtain ⟨text, dumped⟩ := ne_none_iff_exists'.1 dumps
      have free := @savedName_free userId _ _ versionCode _ _ names _
        (names.configs _ mem_cons_self)
      refine ⟨_, ⟨free, ?_⟩, rfl, rfl⟩
      rw [saved_eq, savedRows, empty, map_nil, nil_append, map_cons, configRow, dumped]
      exact mem_insertAll ((mem_insert _).2 (.inl rfl)) _
    · obtain ⟨row, has, user, bundle, module⟩ :=
        (otherModules_ne_nil kept names.bundle names.module).1 others
      refine ⟨row, ⟨has.1, ?_⟩, user, bundle⟩
      rw [<- lookup_isSome, storable.lookup_outside names has.1 fun inside => module inside.2.2,
        lookup_isSome]
      exact has.2
  · obtain ⟨profileInfo, held⟩ := exists_mem_of_ne_nil _ empty
    obtain ⟨text, found, -⟩ := storable.profile_saved names held
    exact ⟨_, ⟨savedName_free names (names.profiles _ held), mem_of_lookup found⟩, rfl, rfl⟩

theorem wellKept (kept : rdb.WellKept json) :
    (saved json rdb bundleName moduleName userId versionCode profileInfos configInfos).WellKept
      json where
  named := by
    intro key text found
    rcases lookup_insertAll (saved_eq ▸ found) with wrote | before
    · rcases mem_savedRows.1 wrote with ⟨profileInfo, held, rfl, dumped⟩ | ⟨configInfo, held, rfl, dumped⟩
      · have stores := storable.profiles _ held
        have named := checked_format stores.checked
        obtain ⟨bundle, module, other, otherDumped, readable, infos⟩ := stores
        obtain rfl : text = other := Option.some.inj (dumped.trans otherDumped)
        refine ⟨_, rfl, {
          free := savedName_free names (names.profiles _ held)
          owned := storable.owned
          readable
          single := by simp [infos]
          described := ?_ }⟩
        intro info inside
        rw [infos, mem_singleton] at inside
        subst inside
        exact ⟨named.1.trans bundle, named.2.1.trans module, named.2.2⟩
      · obtain ⟨readable, infos⟩ := storable.configs _ held text dumped.symm
        exact ⟨_, rfl, {
          free := savedName_free names (names.configs _ held)
          owned := storable.owned
          readable
          single := by simp [infos]
          described := by simp [infos] }⟩
    · exact kept.named key text (lookup_of_delete before)
  oneVersion := by
    intro row other has otherHas user bundle
    by_cases here : row.userId = userId ∧ row.bundleName = bundleName
    · rw [storable.version_at_bundle names has here.1 here.2,
        storable.version_at_bundle names otherHas (user ▸ here.1) (bundle ▸ here.2)]
    · have old : ∀ one : RowName, (saved json rdb bundleName moduleName userId versionCode
          profileInfos configInfos).Has one -> one.userId = row.userId ->
            one.bundleName = row.bundleName -> rdb.Has one := by
        rintro one ⟨free, present⟩ sameUser sameBundle
        rw [<- lookup_isSome, storable.lookup_outside names free fun inside =>
          here ⟨sameUser ▸ inside.1, sameBundle ▸ inside.2.1⟩, lookup_isSome] at present
        exact ⟨free, present⟩
      exact kept.oneVersion row other (old row has rfl rfl) (old other otherHas user.symm bundle.symm)
        user bundle

end Storable

end IntentRdb

end AbilityRuntime.InsightIntent
