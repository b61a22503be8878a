import AbilityRuntime.InsightIntent.IntentKeys
import Mathlib.Data.Prod.Lex

set_option autoImplicit false

namespace AbilityRuntime.InsightIntent

open Library InsightIntentDbCache KeyedMap List Option IntentRdb RowName Prod AList

section

variable (json : IntentJson)

def IntentJson.infosIn (text : String) : List ExtractInsightIntentGenericInfo :=
  ((json.transformTo text).getD []).map profileInfoFormat

def IntentJson.Readable (text : String) : Prop :=
  json.transformTo text ≠ none ∧ json.transformToConfigs text ≠ none

def RowName.Describes (row : RowName) (info : ExtractInsightIntentGenericInfo) : Prop :=
  info.bundleName = row.bundleName ∧ info.moduleName = row.moduleName ∧
    info.intentName = row.intentName

/-- The row of a profile has the generic info of its names, the row of a configuration none. -/
structure RowName.Keeps (row : RowName) (text : String) : Prop where
  free : row.SlashFree
  owned : row.userId ≠ -1
  readable : json.Readable text
  single : (json.infosIn text).length ≤ 1
  described : ∀ info ∈ json.infosIn text, row.Describes info

namespace IntentRdb

def Has (rdb : IntentRdb) (row : RowName) : Prop := row.SlashFree ∧ row.key ∈ rdb

def HasInfo (rdb : IntentRdb) (row : RowName) (info : ExtractInsightIntentGenericInfo) : Prop :=
  row.SlashFree ∧ ∃ text, rdb.lookup row.key = some text ∧ json.infosIn text = [info]

structure WellKept (rdb : IntentRdb) : Prop where
  named : ∀ key text, rdb.lookup key = some text -> ∃ row : RowName, row.key = key ∧ row.Keeps json text
  oneVersion : ∀ row other, rdb.Has row -> rdb.Has other -> row.userId = other.userId ->
    row.bundleName = other.bundleName -> row.versionCode = other.versionCode

end IntentRdb

def Distinct (infos : List ExtractInsightIntentGenericInfo) : Prop :=
  infos.Pairwise fun first second =>
    ¬(first.moduleName = second.moduleName ∧ first.intentName = second.intentName)

theorem Distinct.eq_of_names {infos : List ExtractInsightIntentGenericInfo}
    (distinct : Distinct infos) {first second : ExtractInsightIntentGenericInfo}
    (held : first ∈ infos) (otherHeld : second ∈ infos)
    (module : first.moduleName = second.moduleName) (intent : first.intentName = second.intentName) :
    first = second := by
  induction infos with
  | nil => cases held
  | cons head rest ih =>
    obtain ⟨apart, later⟩ := pairwise_cons.1 distinct
    rcases mem_cons.1 held with rfl | inRest <;>
      rcases mem_cons.1 otherHeld with rfl | otherInRest
    · rfl
    · exact absurd ⟨module, intent⟩ (apart _ otherInRest)
    · exact absurd ⟨module.symm, intent.symm⟩ (apart _ inRest)
    · exact ih later inRest otherInRest

theorem Distinct.nodup {infos : List ExtractInsightIntentGenericInfo} (distinct : Distinct infos) :
    infos.Nodup := by
  refine Pairwise.imp ?_ distinct
  rintro first _ apart rfl
  exact apart ⟨rfl, rfl⟩

structure InsightIntentDbCache.Mirrors (cache : InsightIntentDbCache) (rdb : IntentRdb)
    (userId : Int) (bundleName : String) : Prop where
  distinct : Distinct (cache.infosOf bundleName)
  infos : ∀ info, info ∈ cache.infosOf bundleName ↔
    ∃ row, rdb.HasInfo json row info ∧ row.userId = userId ∧ row.bundleName = bundleName
  versions : ∀ version, cache.bundleVersionMap.lookup bundleName = some version ↔
    ∃ row, rdb.Has row ∧ row.userId = userId ∧ row.bundleName = bundleName ∧
      version = toString row.versionCode

end

namespace InsightIntentDbCache

theorem notAfter_iff (first second : ExtractInsightIntentGenericInfo) :
    notAfter first second = true ↔
      toLex (first.moduleName, first.intentName) ≤ toLex (second.moduleName, second.intentName) := by
  rw [Lex.toLex_le_toLex, notAfter]
  split
  next same => simp [same]
  next ne => simp [ne, lt_iff_le_and_ne]

theorem sorted (infos : List ExtractInsightIntentGenericInfo) :
    (infos.mergeSort notAfter).Pairwise fun first second => notAfter first second = true := by
  refine pairwise_mergeSort ?_ ?_ infos
  · intro first second third
    simp only [notAfter_iff]
    exact le_trans
  · intro first second
    rw [Bool.or_eq_true, notAfter_iff, notAfter_iff]
    exact le_total _ _

theorem sorted_filter_eq {infos others : List ExtractInsightIntentGenericInfo}
    {picks : ExtractInsightIntentGenericInfo -> Bool}
    (same : (infos.filter picks).Perm (others.filter picks)) (distinct : Distinct infos) :
    (infos.mergeSort notAfter).filter picks = (others.mergeSort notAfter).filter picks := by
  have infosPerm := (mergeSort_perm infos notAfter).filter picks
  have othersPerm := (mergeSort_perm others notAfter).filter picks
  refine Perm.eq_of_pairwise ?_ ((sorted infos).filter _) ((sorted others).filter _)
    (infosPerm.trans (same.trans othersPerm.symm))
  intro first second mem other before after
  rw [notAfter_iff] at before after
  obtain ⟨module, intent⟩ := Prod.mk.inj (toLex.injective (le_antisymm before after))
  have held := (mem_filter.1 (infosPerm.subset mem)).1
  have otherHeld := (mem_filter.1 (same.symm.subset (othersPerm.subset other))).1
  exact distinct.eq_of_names held otherHeld module intent

theorem mem_of_findRev {A : Type} {holds : A -> Bool} {list : List A} {found : A}
    (search : list.findRev? holds = some found) : found ∈ list ∧ holds found = true := by
  rw [findRev?_eq_findRev?TR] at search
  exact ⟨mem_reverse.1 (mem_of_find?_eq_some search), find?_some search⟩

theorem findRev_eq_none {A : Type} {holds : A -> Bool} {list : List A}
    (search : list.findRev? holds = none) {one : A} (held : one ∈ list) : holds one = false := by
  rw [findRev?_eq_findRev?TR] at search
  simpa using find?_eq_none.1 search one (mem_reverse.2 held)

theorem findRev_eq {infos others : List ExtractInsightIntentGenericInfo}
    {moduleName intentName : String} (distinct : Distinct infos)
    (same : ∀ info, info.moduleName = moduleName -> (info ∈ infos ↔ info ∈ others)) :
    (infos.findRev? fun info => info.moduleName == moduleName && info.intentName == intentName) =
      others.findRev? fun info => info.moduleName == moduleName && info.intentName == intentName := by
  have names : ∀ info : ExtractInsightIntentGenericInfo,
      (info.moduleName == moduleName && info.intentName == intentName) = true ->
        info.moduleName = moduleName ∧ info.intentName = intentName := by
    intro info named
    rwa [Bool.and_eq_true, beq_iff_eq, beq_iff_eq] at named
  cases search : infos.findRev? _ with
  | none =>
    cases otherSearch : others.findRev? _ with
    | none => rfl
    | some other =>
      obtain ⟨held, named⟩ := mem_of_findRev otherSearch
      rw [findRev_eq_none search ((same other (names other named).1).2 held)] at named
      cases named
  | some info =>
    obtain ⟨held, named⟩ := mem_of_findRev search
    cases otherSearch : others.findRev? _ with
    | none =>
      rw [findRev_eq_none otherSearch ((same info (names info named).1).1 held)] at named
      cases named
    | some other =>
      obtain ⟨otherHeld, otherNamed⟩ := mem_of_findRev otherSearch
      obtain ⟨module, intent⟩ := names info named
      obtain ⟨otherModule, otherIntent⟩ := names other otherNamed
      exact congrArg some (distinct.eq_of_names held ((same other otherModule).2 otherHeld)
        (module.trans otherModule.symm) (intent.trans otherIntent.symm))

end InsightIntentDbCache

section

variable {json : IntentJson} {rdb : IntentRdb}

variable {items : List (String × String)}

theorem IntentRdb.transformProfiles_readable (rdb : IntentRdb)
    (readable : ∀ item ∈ items, json.transformTo item.2 ≠ none) :
    rdb.transformProfiles json items = (rdb, items.flatMap fun item => json.infosIn item.2) := by
  induction items with
  | nil => rfl
  | cons item rest ih =>
    have later := ih fun one inside => readable one (mem_cons_of_mem _ inside)
    cases read : json.transformTo item.2 with
    | none => exact absurd read (readable item mem_cons_self)
    | some profileInfos =>
      rw [transformProfiles, read]
      simp only [later, flatMap_cons, IntentJson.infosIn, read, getD_some]

theorem IntentRdb.transformConfigs_readable (rdb : IntentRdb)
    (readable : ∀ item ∈ items, json.transformToConfigs item.2 ≠ none) :
    rdb.transformConfigs json items = rdb := by
  induction items with
  | nil => rfl
  | cons item rest ih =>
    have later := ih fun one inside => readable one (mem_cons_of_mem _ inside)
    cases read : json.transformToConfigs item.2 with
    | none => exact absurd read (readable item mem_cons_self)
    | some configInfos =>
      rw [transformConfigs, read]
      exact later

theorem lookup_pushInfos (totalInfos : List ExtractInsightIntentGenericInfo) (bundleName : String) :
    ((pushInfos totalInfos).lookup bundleName).getD [] =
      totalInfos.filter fun info => info.bundleName == bundleName := by
  induction totalInfos using reverseRecOn with
  | nil => rfl
  | append_singleton infos info ih =>
    rw [pushInfos, foldl_concat]
    rw [pushInfos] at ih
    rw [lookup_insert_eq, filter_append, <- ih]
    by_cases same : bundleName = info.bundleName
    · subst same
      simp
    · simp [same, Ne.symm same]

def AllNamed (items : List (String × String)) : Prop :=
  ∀ item ∈ items, ∃ row : RowName, row.SlashFree ∧ row.key = item.1

theorem versionsOf_concat {row : RowName} (free : row.SlashFree) (items : List (String × String))
    (text : String) :
    versionsOf (items ++ [(row.key, text)]) =
      (versionsOf items).insert row.bundleName (toString row.versionCode) := by
  rw [versionsOf, foldl_concat]
  rw [splitStringBySlash_key free]
  rfl

variable {bundleName : String}

theorem row_of_versionsOf (named : AllNamed items) {version : String}
    (found : (versionsOf items).lookup bundleName = some version) :
    ∃ row : RowName, row.SlashFree ∧ row.key ∈ items.map fst ∧
      row.bundleName = bundleName ∧ version = toString row.versionCode := by
  induction items using reverseRecOn with
  | nil => cases found
  | append_singleton items item ih =>
    obtain ⟨key, text⟩ := item
    obtain ⟨row, free, rfl⟩ : ∃ row : RowName, row.SlashFree ∧ row.key = key :=
      named (key, text) (by simp)
    rw [versionsOf_concat free, lookup_insert_eq] at found
    split at found
    next same => exact ⟨row, free, by simp, same.symm, (some.inj found).symm⟩
    · obtain ⟨one, slashFree, inside, rest⟩ := ih (fun one inside => named one (by simp [inside])) found
      exact ⟨one, slashFree, by simp_all, rest⟩

theorem versionsOf_of_row (named : AllNamed items) {row : RowName} (free : row.SlashFree)
    (mem : row.key ∈ items.map fst) :
    ∃ version, (versionsOf items).lookup row.bundleName = some version := by
  induction items using reverseRecOn with
  | nil => cases mem
  | append_singleton items item ih =>
    obtain ⟨key, text⟩ := item
    obtain ⟨last, lastFree, rfl⟩ : ∃ row : RowName, row.SlashFree ∧ row.key = key :=
      named (key, text) (by simp)
    rw [versionsOf_concat lastFree, lookup_insert_eq]
    split
    · exact ⟨_, rfl⟩
    next ne =>
      rw [map_append, mem_append] at mem
      rcases mem with before | new
      · exact ih (fun one inside => named one (by simp [inside])) before
      · have same := key_inj free lastFree (by simpa using new)
        exact absurd (congrArg bundleName same) ne

namespace IntentRdb

variable {iteration : Iteration} {userId : Int}

theorem mem_queryDataBeginWithKey {key : String} {item : String × String} :
    item ∈ rdb.queryDataBeginWithKey iteration key ↔
      rdb.lookup item.1 = some item.2 ∧ beginsWith key item.1 = true := by
  rw [queryDataBeginWithKey, (iteration.perm _).mem_iff, mem_filter, List.mem_map]
  refine and_congr_left' ?_
  rw [<- mem_def, mem_lookup_iff]
  constructor
  · rintro ⟨entry, held, rfl⟩
    exact held
  · exact fun held => ⟨_, held, rfl⟩

theorem query_keys_distinct (rdb : IntentRdb) (iteration : Iteration) (key : String) :
    (rdb.queryDataBeginWithKey iteration key).Pairwise fun first second => first.1 ≠ second.1 := by
  have keys : (rdb.entries.map fun entry => (entry.1, entry.2)).Pairwise
      fun first second => first.1 ≠ second.1 :=
    pairwise_map.2 (nodupKeys_iff_pairwise.1 rdb.nodupKeys)
  exact (Perm.pairwise_iff Ne.symm (iteration.perm _)).2 (keys.filter _)

theorem WellKept.loaded (kept : rdb.WellKept json) {item : String × String}
    (mem : item ∈ rdb.queryDataBeginWithKey iteration (userKey userId)) :
    ∃ row : RowName, row.key = item.1 ∧ row.Keeps json item.2 ∧ row.userId = userId := by
  obtain ⟨found, user⟩ := mem_queryDataBeginWithKey.1 mem
  obtain ⟨row, whole, keeps⟩ := kept.named _ _ found
  rw [<- whole] at user
  exact ⟨row, whole, keeps, ((row.beginsWith_userKey userId).1 user).symm⟩

theorem mem_loaded_iff {row : RowName} (user : row.userId = userId) {text : String} :
    (row.key, text) ∈ rdb.queryDataBeginWithKey iteration (userKey userId) ↔
      rdb.lookup row.key = some text := by
  rw [mem_queryDataBeginWithKey]
  exact and_iff_left ((row.beginsWith_userKey userId).2 user.symm)

theorem WellKept.described (kept : rdb.WellKept json) {row : RowName}
    {info : ExtractInsightIntentGenericInfo} (has : rdb.HasInfo json row info) :
    row.Describes info := by
  obtain ⟨free, text, found, infos⟩ := has
  obtain ⟨same, whole, keeps⟩ := kept.named _ _ found
  obtain rfl := key_inj keeps.free free whole
  exact keeps.described info (by simp [infos])

theorem WellKept.loaded_apart (kept : rdb.WellKept json) (iteration : Iteration) (userId : Int) :
    ((rdb.queryDataBeginWithKey iteration (userKey userId)).flatMap
      fun item => json.infosIn item.2).Pairwise fun first second =>
        ¬(first.bundleName = second.bundleName ∧ first.moduleName = second.moduleName ∧
          first.intentName = second.intentName) := by
  refine pairwise_flatMap.2 ⟨?_, ?_⟩
  · intro item mem
    obtain ⟨row, -, keeps, -⟩ := kept.loaded mem
    have single := keeps.single
    match infos : json.infosIn item.2 with
    | [] => exact Pairwise.nil
    | [info] => exact pairwise_singleton _ _
    | first :: second :: rest => simp [infos] at single
  · refine Pairwise.imp_of_mem ?_ (rdb.query_keys_distinct iteration (userKey userId))
    rintro ⟨_, text⟩ ⟨_, otherText⟩ mem otherMember ne info held other otherHeld
      ⟨bundle, module, intent⟩
    obtain ⟨row, rfl, keeps, user⟩ := kept.loaded mem
    obtain ⟨otherRow, rfl, otherKeeps, otherUser⟩ := kept.loaded otherMember
    have described := keeps.described info held
    have otherDescribed := otherKeeps.described other otherHeld
    have sameBundle : row.bundleName = otherRow.bundleName :=
      described.1.symm.trans (bundle.trans otherDescribed.1)
    have version := kept.oneVersion row otherRow
      ⟨keeps.free, mem_of_lookup ((mem_loaded_iff user).1 mem)⟩
      ⟨otherKeeps.free, mem_of_lookup ((mem_loaded_iff otherUser).1 otherMember)⟩
      (user.trans otherUser.symm) sameBundle
    refine ne (congrArg key ?_)
    cases row
    cases otherRow
    simp only [RowName.mk.injEq]
    exact ⟨user.trans otherUser.symm, sameBundle,
      described.2.1.symm.trans (module.trans otherDescribed.2.1),
      described.2.2.symm.trans (intent.trans otherDescribed.2.2), version⟩

theorem WellKept.load (kept : rdb.WellKept json) (iteration : Iteration) (userId : Int) :
    rdb.loadInsightIntentInfos json iteration userId =
      (rdb, versionsOf (rdb.queryDataBeginWithKey iteration (userKey userId)),
        (rdb.queryDataBeginWithKey iteration (userKey userId)).flatMap
          fun item => json.infosIn item.2) := by
  have readable : ∀ item ∈ rdb.queryDataBeginWithKey iteration (userKey userId),
      json.Readable item.2 := by
    intro item mem
    obtain ⟨_, -, keeps, -⟩ := kept.loaded mem
    exact keeps.readable
  rw [loadInsightIntentInfos]
  rw [transformProfiles_readable rdb fun item mem => (readable item mem).1]
  dsimp only
  rw [transformConfigs_readable rdb fun item mem => (readable item mem).2]

end IntentRdb

variable {userId : Int}

theorem IntentRdb.WellKept.mirrors (kept : rdb.WellKept json) (iteration : Iteration)
    (userId : Int) (bundleName : String) :
    Mirrors json
      { userId
        bundleVersionMap := (rdb.loadInsightIntentInfos json iteration userId).2.1
        intentGenericInfos :=
          pushInfos (rdb.loadInsightIntentInfos json iteration userId).2.2 }
      rdb userId bundleName where
  distinct := by
    rw [kept.load, infosOf, lookup_pushInfos]
    refine Pairwise.imp_of_mem ?_ ((kept.loaded_apart iteration userId).filter _)
    intro first second held otherHeld apart same
    have bundle := beq_iff_eq.1 (mem_filter.1 held).2
    have otherBundle := beq_iff_eq.1 (mem_filter.1 otherHeld).2
    exact apart ⟨bundle.trans otherBundle.symm, same⟩
  infos := by
    intro info
    rw [kept.load, infosOf, lookup_pushInfos, mem_filter, mem_flatMap, beq_iff_eq]
    constructor
    · rintro ⟨⟨⟨_, text⟩, mem, held⟩, rfl⟩
      obtain ⟨row, rfl, keeps, user⟩ := kept.loaded mem
      have single : json.infosIn text = [info] := by
        have bound := keeps.single
        match infos : json.infosIn text with
        | [] => simp [infos] at held
        | [one] => simpa [infos, eq_comm] using held
        | first :: second :: rest => simp [infos] at bound
      exact ⟨row, ⟨keeps.free, text, (mem_loaded_iff user).1 mem, single⟩, user,
        (keeps.described info held).1.symm⟩
    · rintro ⟨row, has, user, rfl⟩
      have described := kept.described has
      obtain ⟨-, text, found, infos⟩ := has
      exact ⟨⟨(row.key, text), (mem_loaded_iff user).2 found, by simp [infos]⟩, described.1⟩
  versions := by
    intro version
    rw [kept.load]
    have listed : ∀ row : RowName, row.SlashFree ->
        (row.key ∈ (rdb.queryDataBeginWithKey iteration (userKey userId)).map fst ↔
          rdb.Has row ∧ row.userId = userId) := by
      intro row free
      rw [List.mem_map]
      constructor
      · rintro ⟨⟨_, text⟩, mem, rfl⟩
        obtain ⟨found, user⟩ := mem_queryDataBeginWithKey.1 mem
        exact ⟨⟨free, mem_of_lookup found⟩, ((row.beginsWith_userKey userId).1 user).symm⟩
      · rintro ⟨⟨-, present⟩, user⟩
        obtain ⟨text, found⟩ := isSome_iff_exists.1 (lookup_isSome.2 present)
        exact ⟨(row.key, text), (mem_loaded_iff user).2 found, rfl⟩
    have named : AllNamed (rdb.queryDataBeginWithKey iteration (userKey userId)) := by
      intro item mem
      obtain ⟨row, whole, keeps, -⟩ := kept.loaded mem
      exact ⟨row, keeps.free, whole⟩
    constructor
    · intro found
      obtain ⟨row, free, mem, bundle, rest⟩ := row_of_versionsOf named found
      obtain ⟨has, user⟩ := (listed row free).1 mem
      exact ⟨row, has, user, bundle, rest⟩
    · rintro ⟨row, has, user, rfl, rfl⟩
      obtain ⟨version, found⟩ := versionsOf_of_row named has.1 ((listed row has.1).2 ⟨has, user⟩)
      obtain ⟨other, free, mem, bundle, rfl⟩ := row_of_versionsOf named found
      obtain ⟨otherHas, otherUser⟩ := (listed other free).1 mem
      rw [found, kept.oneVersion row other has otherHas (user.trans otherUser.symm) bundle.symm]

/-- What callers learn from two caches about the modules that are chosen. -/
structure AgreesAbout (chosen : String -> String -> Bool) (cache other : InsightIntentDbCache) :
    Prop where
  byName : ∀ bundleName,
    ((cache.getInsightIntentGenericInfoByName bundleName).filter fun info =>
        chosen info.bundleName info.moduleName) =
      (other.getInsightIntentGenericInfoByName bundleName).filter fun info =>
        chosen info.bundleName info.moduleName
  single : ∀ bundleName moduleName intentName, chosen bundleName moduleName = true ->
    cache.getInsightIntentGenericInfo bundleName moduleName intentName =
      other.getInsightIntentGenericInfo bundleName moduleName intentName
  all :
    (cache.getAllInsightIntentGenericInfo.filter fun info =>
        chosen info.bundleName info.moduleName).Perm
      (other.getAllInsightIntentGenericInfo.filter fun info =>
        chosen info.bundleName info.moduleName)
  has : ∀ versionCode bundleName, (∀ moduleName, chosen bundleName moduleName = true) ->
    cache.hasInsightIntentByName versionCode bundleName =
      other.hasInsightIntentByName versionCode bundleName

def SameRows (chosen : String -> String -> Bool) (rdb other : IntentRdb) (userId : Int) : Prop :=
  ∀ row : RowName, row.SlashFree -> row.userId = userId ->
    chosen row.bundleName row.moduleName = true -> rdb.lookup row.key = other.lookup row.key

variable {other : IntentRdb} {cache otherCache : InsightIntentDbCache}
  {chosen : String -> String -> Bool}

theorem SameRows.symm (same : SameRows chosen rdb other userId) :
    SameRows chosen other rdb userId :=
  fun row free user picked => (same row free user picked).symm

theorem SameRows.infos (same : SameRows chosen rdb other userId) (kept : rdb.WellKept json)
    (mirrors : cache.Mirrors json rdb userId bundleName)
    (otherMirrors : otherCache.Mirrors json other userId bundleName)
    {info : ExtractInsightIntentGenericInfo} (held : info ∈ cache.infosOf bundleName)
    (picked : chosen bundleName info.moduleName = true) :
    info ∈ otherCache.infosOf bundleName := by
  obtain ⟨row, has, user, rfl⟩ := (mirrors.infos info).1 held
  rw [(kept.described has).2.1] at picked
  obtain ⟨free, text, found, infos⟩ := has
  rw [same row free user picked] at found
  exact (otherMirrors.infos info).2 ⟨row, ⟨free, text, found, infos⟩, user, rfl⟩

theorem IntentRdb.WellKept.bundle (kept : rdb.WellKept json)
    (mirrors : cache.Mirrors json rdb userId bundleName) {info : ExtractInsightIntentGenericInfo}
    (held : info ∈ cache.infosOf bundleName) :
    info.bundleName = bundleName := by
  obtain ⟨row, has, -, rfl⟩ := (mirrors.infos info).1 held
  exact (kept.described has).1

theorem SameRows.has (same : SameRows chosen rdb other userId) {version : String}
    (mirrors : cache.Mirrors json rdb userId bundleName)
    (otherMirrors : otherCache.Mirrors json other userId bundleName)
    (picked : ∀ moduleName, chosen bundleName moduleName = true)
    (found : cache.bundleVersionMap.lookup bundleName = some version) :
    otherCache.bundleVersionMap.lookup bundleName = some version := by
  obtain ⟨row, ⟨free, present⟩, user, rfl, rest⟩ := (mirrors.versions version).1 found
  rw [<- lookup_isSome, same row free user (picked _), lookup_isSome] at present
  exact (otherMirrors.versions version).2 ⟨row, ⟨free, present⟩, user, rfl, rest⟩

theorem SameRows.agreesAbout (same : SameRows chosen rdb other userId) (kept : rdb.WellKept json)
    (otherKept : other.WellKept json)
    (mirrors : ∀ bundleName, cache.Mirrors json rdb userId bundleName)
    (otherMirrors : ∀ bundleName, otherCache.Mirrors json other userId bundleName) :
    AgreesAbout chosen cache otherCache := by
  have moves : ∀ bundleName info, chosen bundleName info.moduleName = true ->
      (info ∈ cache.infosOf bundleName ↔ info ∈ otherCache.infosOf bundleName) :=
    fun bundleName info picked =>
      ⟨fun held => same.infos kept (mirrors _) (otherMirrors _) held picked,
        fun held => same.symm.infos otherKept (otherMirrors _) (mirrors _) held picked⟩
  have infos : ∀ bundleName,
      ((cache.infosOf bundleName).filter fun info =>
        chosen info.bundleName info.moduleName).Perm
      ((otherCache.infosOf bundleName).filter fun info =>
        chosen info.bundleName info.moduleName) := by
    intro bundleName
    refine (perm_ext_iff_of_nodup ((mirrors bundleName).distinct.nodup.filter _)
      ((otherMirrors bundleName).distinct.nodup.filter _)).2 fun info => ?_
    rw [mem_filter, mem_filter]
    constructor
    · rintro ⟨held, picked⟩
      have bundle := kept.bundle (mirrors _) held
      exact ⟨(moves bundleName info (bundle ▸ picked)).1 held, picked⟩
    · rintro ⟨held, picked⟩
      have bundle := otherKept.bundle (otherMirrors _) held
      exact ⟨(moves bundleName info (bundle ▸ picked)).2 held, picked⟩
  exact {
    byName := fun bundleName =>
      sorted_filter_eq (infos bundleName) (mirrors _).distinct
    single := fun bundleName moduleName intentName picked =>
      findRev_eq (mirrors _).distinct fun info module => moves bundleName info (module ▸ picked)
    all := by
      rw [getAllInsightIntentGenericInfo,
        getAllInsightIntentGenericInfo, filter_flatten,
        filter_flatten, <- values_mapValues, <- values_mapValues]
      refine values_flatten_perm fun bundleName => ?_
      rw [lookup_mapValues, lookup_mapValues, <- filter_nil, Option.getD_map, Option.getD_map]
      exact infos bundleName
    has := by
      intro versionCode bundleName picked
      have version : cache.bundleVersionMap.lookup bundleName =
          otherCache.bundleVersionMap.lookup bundleName :=
        ext fun version =>
          ⟨fun found => same.has (mirrors _) (otherMirrors _) picked found,
            fun found => same.symm.has (otherMirrors _) (mirrors _) picked found⟩
      rw [hasInsightIntentByName, hasInsightIntentByName, version] }

end

end AbilityRuntime.InsightIntent
