import AbilityRuntime.InsightIntent.IntentStorage

set_option autoImplicit false

namespace AbilityRuntime.InsightIntent

open Library InsightIntentDbCache List.Pairwise IntentRdb KeyedMap List AList Option Machine

section

variable {json : IntentJson} {system : IntentSystem} {bundleName moduleName : String} {userId : Int}
  {versionCode : Nat} {profileInfos : List ExtractInsightIntentProfileInfo}
  {configInfos : List InsightIntentInfo}

theorem save_userId :
    (saveInsightIntentTotalInfo json system bundleName moduleName userId versionCode profileInfos
      configInfos).cache.userId = system.cache.userId := by
  unfold saveInsightIntentTotalInfo
  split <;> rfl

theorem save_rdb (user : userId = system.cache.userId) :
    (saveInsightIntentTotalInfo json system bundleName moduleName userId versionCode profileInfos
      configInfos).rdb =
        IntentRdb.saved json system.rdb bundleName moduleName userId versionCode profileInfos
          configInfos := by
  rw [saveInsightIntentTotalInfo, if_neg (not_not_intro user)]
  rfl

theorem infosOf_save (user : userId = system.cache.userId) (other : String) :
    (saveInsightIntentTotalInfo json system bundleName moduleName userId versionCode profileInfos
      configInfos).cache.infosOf other =
        if other = bundleName then
          withoutModule moduleName (system.cache.infosOf bundleName) ++
            profileInfos.map profileInfoFormat
        else system.cache.infosOf other := by
  rw [saveInsightIntentTotalInfo, if_neg (not_not_intro user)]
  simp only [infosOf, lookup_insert_eq]
  split
  · cases system.cache.intentGenericInfos.lookup bundleName with
    | none => rfl
    | some infos => rfl
  · rfl

theorem version_save (user : userId = system.cache.userId) (other : String) :
    (saveInsightIntentTotalInfo json system bundleName moduleName userId versionCode profileInfos
      configInfos).cache.bundleVersionMap.lookup other =
        if other = bundleName then some (toString versionCode)
        else system.cache.bundleVersionMap.lookup other := by
  rw [saveInsightIntentTotalInfo, if_neg (not_not_intro user)]
  exact lookup_insert_eq _ _ _ _

variable {cache : InsightIntentDbCache}

theorem infosOf_eraseModule (other : String) :
    (cache.eraseModule bundleName moduleName).infosOf other =
      if other = bundleName then
        if moduleName = "" then [] else withoutModule moduleName (cache.infosOf bundleName)
      else cache.infosOf other := by
  unfold eraseModule
  by_cases whole : moduleName = ""
  · simp [whole, infosOf, lookup_erase_eq, apply_ite (Option.getD · [])]
  · rw [if_neg (by simpa using whole), if_neg whole]
    cases found : cache.intentGenericInfos.lookup bundleName with
    | none =>
      dsimp only
      split
      next same =>
        subst same
        simp [infosOf, found, withoutModule]
      · rfl
    | some infos =>
      dsimp only
      by_cases empty : (withoutModule moduleName infos).isEmpty = true
      · rw [if_pos empty]
        simp only [infosOf, lookup_erase_eq, found]
        split
        · exact (isEmpty_iff.1 empty).symm
        · rfl
      · rw [if_neg empty]
        simp only [infosOf, lookup_insert_eq, found]
        split <;> rfl

end

/-- A delete of a module takes the version with it when no other module is left. -/
def VersionFollows (system : IntentSystem) (bundleName moduleName : String) (userId : Int) : Prop :=
  (system.cache.intentGenericInfos.lookup bundleName = none ->
    system.cache.bundleVersionMap.lookup bundleName ≠ none ->
      system.rdb.otherModules userId bundleName moduleName ≠ []) ∧
  ∀ infos ∈ system.cache.intentGenericInfos.lookup bundleName,
    system.rdb.otherModules userId bundleName moduleName ≠ [] -> withoutModule moduleName infos ≠ []

namespace IntentStep

def SlashFree : IntentStep -> Prop
  | .initInsightIntentCache .. => True
  | .saveInsightIntentTotalInfo bundleName moduleName _ _ profileInfos configInfos =>
    SlashFreeSave bundleName moduleName profileInfos configInfos
  | .deleteInsightIntentTotalInfo bundleName moduleName _ =>
    '/' ∉ bundleName.toList ∧ '/' ∉ moduleName.toList

/-- The steps that leave the cache and the storage in step with each other. -/
def Keeps (json : IntentJson) (system : IntentSystem) : IntentStep -> Prop
  | .initInsightIntentCache .. => True
  | .saveInsightIntentTotalInfo bundleName moduleName userId versionCode profileInfos configInfos =>
    userId = system.cache.userId ->
      system.rdb.Storable json bundleName moduleName userId versionCode profileInfos configInfos
  | .deleteInsightIntentTotalInfo bundleName moduleName userId =>
    userId = system.cache.userId -> moduleName ≠ "" ->
      VersionFollows system bundleName moduleName userId

instance : ∀ step : IntentStep, Decidable step.SlashFree
  | .initInsightIntentCache .. => isTrue trivial
  | .saveInsightIntentTotalInfo bundleName moduleName _ _ profileInfos configInfos =>
    inferInstanceAs (Decidable (SlashFreeSave bundleName moduleName profileInfos configInfos))
  | .deleteInsightIntentTotalInfo .. => inferInstanceAs (Decidable (_ ∧ _))

instance (json : IntentJson) (system : IntentSystem) :
    ∀ step : IntentStep, Decidable (step.Keeps json system)
  | .initInsightIntentCache .. => isTrue trivial
  | .saveInsightIntentTotalInfo .. => inferInstanceAs (Decidable (_ -> _))
  | .deleteInsightIntentTotalInfo .. => inferInstanceAs (Decidable (_ -> _ -> _ ∧ _))

end IntentStep

structure Coherent (json : IntentJson) (system : IntentSystem) : Prop where
  kept : system.rdb.WellKept json
  mirrors : ∀ bundleName, system.cache.Mirrors json system.rdb system.cache.userId bundleName

section

variable {json : IntentJson} {cache other : InsightIntentDbCache} {rdb otherRdb : IntentRdb}
  {userId : Int} {bundleName moduleName : String}

theorem InsightIntentDbCache.Mirrors.carry (mirrors : cache.Mirrors json rdb userId bundleName)
    (infos : other.infosOf bundleName = cache.infosOf bundleName)
    (version : other.bundleVersionMap.lookup bundleName = cache.bundleVersionMap.lookup bundleName)
    (rows : ∀ row : RowName, row.SlashFree -> row.userId = userId -> row.bundleName = bundleName ->
      otherRdb.lookup row.key = rdb.lookup row.key) :
    other.Mirrors json otherRdb userId bundleName where
  distinct := infos ▸ mirrors.distinct
  infos := by
    intro info
    rw [infos, mirrors.infos]
    refine exists_congr fun row => and_congr_left fun here => ?_
    refine and_congr_right fun free => ?_
    rw [rows row free here.1 here.2]
  versions := by
    intro one
    rw [version, mirrors.versions]
    refine exists_congr fun row => and_congr_left fun here => ?_
    refine and_congr_right fun free => ?_
    rw [<- lookup_isSome, <- lookup_isSome, rows row free here.1 here.2.1]

theorem mem_withoutModule {infos : List ExtractInsightIntentGenericInfo}
    {info : ExtractInsightIntentGenericInfo} :
    info ∈ withoutModule moduleName infos ↔ info ∈ infos ∧ info.moduleName ≠ moduleName := by
  rw [withoutModule, mem_filter, bne_iff_ne]

end

namespace Coherent

variable {json : IntentJson} {system : IntentSystem} {bundleName moduleName : String}
  {userId : Int} {versionCode : Nat} {profileInfos : List ExtractInsightIntentProfileInfo}
  {configInfos : List InsightIntentInfo}

theorem initial : Coherent json {} where
  kept := { named := nofun, oneVersion := nofun }
  mirrors := by
    intro bundleName
    exact {
      distinct := nil
      infos := fun info => ⟨nofun, by rintro ⟨row, ⟨-, _, ⟨⟩, -⟩, -⟩⟩
      versions := fun version => ⟨nofun, by rintro ⟨row, ⟨-, ⟨⟩⟩, -⟩⟩ }

theorem saved_mirrors (sound : Coherent json system) (user : userId = system.cache.userId)
    (names : SlashFreeSave bundleName moduleName profileInfos configInfos)
    (storable : system.rdb.Storable json bundleName moduleName userId versionCode profileInfos
      configInfos) :
    (saveInsightIntentTotalInfo json system bundleName moduleName userId versionCode profileInfos
      configInfos).cache.Mirrors json
        (saved json system.rdb bundleName moduleName userId versionCode profileInfos
          configInfos) userId bundleName := by
  have mirrors := sound.mirrors bundleName
  rw [<- user] at mirrors
  have described : ∀ profileInfo ∈ profileInfos,
      (profileInfoFormat profileInfo).moduleName = moduleName ∧
        (profileInfoFormat profileInfo).intentName = profileInfo.intentName := by
    intro profileInfo held
    have stores := storable.profiles _ held
    have named := checked_format stores.checked
    exact ⟨named.2.1.trans stores.2.1, named.2.2⟩
  exact {
    distinct := by
      rw [infosOf_save user, if_pos rfl]
      refine pairwise_append.2 ⟨mirrors.distinct.filter _, ?_, ?_⟩
      · refine pairwise_map.2 (imp_of_mem ?_ (pairwise_map.1 storable.names))
        intro first second held otherHeld apart same
        rw [(described _ held).2, (described _ otherHeld).2] at same
        exact apart same.2
      · intro first held second saved same
        obtain ⟨profileInfo, inside, rfl⟩ := mem_map.1 saved
        exact (mem_withoutModule.1 held).2 (same.1.trans (described _ inside).1)
    infos := by
      intro info
      rw [infosOf_save user, if_pos rfl, mem_append, mem_withoutModule, mirrors.infos, List.mem_map]
      constructor
      · rintro (⟨⟨row, has, here, bundle⟩, other⟩ | ⟨profileInfo, held, rfl⟩)
        · rw [(sound.kept.described has).2.1] at other
          obtain ⟨free, text, found, infos⟩ := has
          rw [<- storable.lookup_outside names free fun inside => other inside.2.2] at found
          exact ⟨row, ⟨free, text, found, infos⟩, here, bundle⟩
        · obtain ⟨text, found, infos⟩ := storable.profile_saved names held
          exact ⟨_, ⟨savedName_free names (names.profiles _ held), text, found, infos⟩, rfl, rfl⟩
      · rintro ⟨row, ⟨free, text, found, infos⟩, here, bundle⟩
        by_cases module : row.moduleName = moduleName
        · have wrote := Storable.written names free ⟨here, bundle, module⟩ found
          rcases mem_savedRows.1 wrote with
            ⟨profileInfo, held, -, dumped⟩ | ⟨configInfo, held, -, dumped⟩
          · obtain ⟨-, -, other, otherDumped, -, otherInfos⟩ := storable.profiles _ held
            obtain rfl : text = other := some.inj (dumped.trans otherDumped)
            rw [infos] at otherInfos
            exact .inr ⟨profileInfo, held, (head_eq_of_cons_eq otherInfos).symm⟩
          · rw [(storable.configs _ held text dumped.symm).2] at infos
            cases infos
        · rw [storable.lookup_outside names free fun inside => module inside.2.2] at found
          have has : system.rdb.HasInfo json row info := ⟨free, text, found, infos⟩
          refine .inl ⟨⟨row, has, here, bundle⟩, ?_⟩
          rwa [(sound.kept.described has).2.1]
    versions := by
      intro version
      rw [version_save user, if_pos rfl, some.injEq]
      constructor
      · rintro rfl
        obtain ⟨row, has, here, bundle⟩ := storable.row_of_bundle names sound.kept
        exact ⟨row, has, here, bundle,
          congrArg toString (storable.version_at_bundle names has here bundle).symm⟩
      · rintro ⟨row, has, here, bundle, rfl⟩
        rw [storable.version_at_bundle names has here bundle] }

theorem saveCurrent (sound : Coherent json system) (user : userId = system.cache.userId)
    (names : SlashFreeSave bundleName moduleName profileInfos configInfos)
    (storable : system.rdb.Storable json bundleName moduleName userId versionCode profileInfos
      configInfos) :
    Coherent json
      (saveInsightIntentTotalInfo json system bundleName moduleName userId versionCode profileInfos
        configInfos) where
  kept := by
    rw [save_rdb user]
    exact storable.wellKept names sound.kept
  mirrors := by
    intro other
    rw [save_rdb user, save_userId]
    by_cases same : other = bundleName
    · subst same
      exact user ▸ sound.saved_mirrors user names storable
    · refine (sound.mirrors other).carry ?_ ?_ ?_
      · rw [infosOf_save user, if_neg same]
      · rw [version_save user, if_neg same]
      · intro row free _ bundle
        exact storable.lookup_outside names free fun inside => same (bundle ▸ inside.2.1)

theorem version_eraseModule (sound : Coherent json system) (user : userId = system.cache.userId)
    (named : moduleName ≠ "") (bundle : '/' ∉ bundleName.toList) (module : '/' ∉ moduleName.toList)
    (follows : VersionFollows system bundleName moduleName userId) (version : String) :
    (system.cache.eraseModule bundleName moduleName).bundleVersionMap.lookup bundleName =
        some version ↔
      system.cache.bundleVersionMap.lookup bundleName = some version ∧
        system.rdb.otherModules userId bundleName moduleName ≠ [] := by
  have mirrors := sound.mirrors bundleName
  rw [<- user] at mirrors
  unfold eraseModule
  rw [if_neg (by simpa using named)]
  cases found : system.cache.intentGenericInfos.lookup bundleName with
  | none =>
    refine ⟨fun held => ⟨held, follows.1 found ?_⟩, And.left⟩
    rw [held]
    exact some_ne_none _
  | some infos =>
    dsimp only
    have listed : system.cache.infosOf bundleName = infos := by rw [infosOf, found]; rfl
    by_cases empty : withoutModule moduleName infos = []
    · rw [if_pos (List.isEmpty_iff.2 empty), lookup_erase]
      exact ⟨by simp, fun held => absurd empty (follows.2 infos found held.2)⟩
    · rw [if_neg (mt List.isEmpty_iff.1 empty)]
      refine ⟨fun held => ⟨held, ?_⟩, And.left⟩
      obtain ⟨info, mem⟩ := List.exists_mem_of_ne_nil _ empty
      obtain ⟨inside, other⟩ := mem_withoutModule.1 mem
      obtain ⟨row, has, here, same⟩ := (mirrors.infos info).1 (listed ▸ inside)
      rw [(sound.kept.described has).2.1] at other
      obtain ⟨free, text, stored, -⟩ := has
      exact (otherModules_ne_nil sound.kept bundle module).2
        ⟨row, ⟨free, KeyedMap.mem_of_lookup stored⟩, here, same, other⟩

theorem version_eraseModule_other (cache : InsightIntentDbCache) {bundleName other : String}
    (ne : other ≠ bundleName) (moduleName : String) :
    (cache.eraseModule bundleName moduleName).bundleVersionMap.lookup other =
      cache.bundleVersionMap.lookup other := by
  unfold eraseModule
  split
  · exact lookup_erase_ne ne
  · split
    · rfl
    · dsimp only
      split
      · exact lookup_erase_ne ne
      · rfl

theorem eraseModule_userId (cache : InsightIntentDbCache) (bundleName moduleName : String) :
    (cache.eraseModule bundleName moduleName).userId = cache.userId := by
  unfold eraseModule
  split
  · rfl
  · split
    · rfl
    · dsimp only
      split <;> rfl

section

variable (sound : Coherent json system)
include sound

theorem erased_mirrors (user : userId = system.cache.userId) (bundle : '/' ∉ bundleName.toList)
    (module : '/' ∉ moduleName.toList)
    (follows : moduleName ≠ "" -> VersionFollows system bundleName moduleName userId) :
    (system.cache.eraseModule bundleName moduleName).Mirrors json
      (system.rdb.deleteStorageInsightIntentData bundleName moduleName userId) userId bundleName := by
  have mirrors := sound.mirrors bundleName
  rw [<- user] at mirrors
  by_cases whole : moduleName = ""
  · have infos : (system.cache.eraseModule bundleName moduleName).infosOf bundleName = [] := by
      rw [infosOf_eraseModule, if_pos rfl, if_pos whole]
    have version : (system.cache.eraseModule bundleName moduleName).bundleVersionMap.lookup
        bundleName = none := by
      rw [eraseModule, if_pos (by simp [whole])]
      exact lookup_erase _ _
    have within : ∀ row : RowName, row.userId = userId -> row.bundleName = bundleName ->
        row.Within userId bundleName moduleName :=
      fun row here same => ⟨here, same, .inl whole⟩
    exact {
      distinct := infos ▸ nil
      infos := by
        intro info
        rw [infos]
        refine ⟨nofun, ?_⟩
        rintro ⟨row, has, here, same⟩
        exact absurd (within row here same) ((hasInfo_delete_iff bundle module).1 has).2
      versions := by
        intro one
        rw [version]
        refine ⟨nofun, ?_⟩
        rintro ⟨row, has, here, same, -⟩
        exact absurd (within row here same) ((has_delete_iff has.1 bundle module).1 has).2 }
  · have infos : (system.cache.eraseModule bundleName moduleName).infosOf bundleName =
        withoutModule moduleName (system.cache.infosOf bundleName) := by
      rw [infosOf_eraseModule, if_pos rfl, if_neg whole]
    have within : ∀ row : RowName, row.userId = userId -> row.bundleName = bundleName ->
        (row.Within userId bundleName moduleName ↔ row.moduleName = moduleName) :=
      fun row here same =>
        ⟨fun inside => inside.2.2.resolve_left whole, fun one => ⟨here, same, .inr one⟩⟩
    exact {
      distinct := by
        rw [infos]
        exact mirrors.distinct.filter _
      infos := by
        intro info
        rw [infos, mem_withoutModule, mirrors.infos]
        constructor
        · rintro ⟨⟨row, has, here, same⟩, other⟩
          rw [(sound.kept.described has).2.1] at other
          exact ⟨row, (hasInfo_delete_iff bundle module).2
            ⟨has, mt (within row here same).1 other⟩, here, same⟩
        · rintro ⟨row, has, here, same⟩
          obtain ⟨before, outside⟩ := (hasInfo_delete_iff bundle module).1 has
          rw [(sound.kept.described before).2.1]
          exact ⟨⟨row, before, here, same⟩, mt (within row here same).2 outside⟩
      versions := by
        intro version
        rw [sound.version_eraseModule user whole bundle module (follows whole),
          otherModules_ne_nil sound.kept bundle module, mirrors.versions]
        constructor
        · rintro ⟨⟨row, has, here, same, rfl⟩, other, otherHas, otherHere, otherSame, ne⟩
          rw [sound.kept.oneVersion row other has otherHas (here.trans otherHere.symm)
            (same.trans otherSame.symm)]
          exact ⟨other, (has_delete_iff otherHas.1 bundle module).2
            ⟨otherHas, mt (within other otherHere otherSame).1 ne⟩, otherHere, otherSame, rfl⟩
        · rintro ⟨row, has, here, same, rest⟩
          obtain ⟨before, outside⟩ := (has_delete_iff has.1 bundle module).1 has
          exact ⟨⟨row, before, here, same, rest⟩, row, before, here, same,
            mt (within row here same).2 outside⟩ }

theorem deleteCurrent (user : userId = system.cache.userId) (bundle : '/' ∉ bundleName.toList)
    (module : '/' ∉ moduleName.toList)
    (follows : moduleName ≠ "" -> VersionFollows system bundleName moduleName userId) :
    Coherent json (deleteInsightIntentTotalInfo system bundleName moduleName userId) := by
  rw [deleteInsightIntentTotalInfo, if_neg (not_not_intro user)]
  refine { kept := sound.kept.delete bundleName moduleName userId, mirrors := ?_ }
  intro other
  rw [eraseModule_userId]
  by_cases same : other = bundleName
  · subst same
    exact user ▸ sound.erased_mirrors user bundle module follows
  · refine (sound.mirrors other).carry ?_ ?_ ?_
    · rw [infosOf_eraseModule, if_neg same]
    · exact version_eraseModule_other _ same moduleName
    · intro row free _ otherBundle
      rw [lookup_delete free bundle module]
      exact if_neg fun within => same (otherBundle ▸ within.2.1)

theorem loaded (iteration : Iteration) (userId : Int) :
    Coherent json (initInsightIntentCache json system iteration userId) := by
  unfold initInsightIntentCache
  split
  · exact sound
  · have load := sound.kept.load iteration userId
    have mirrors := sound.kept.mirrors iteration userId
    rw [load] at mirrors
    rw [load]
    exact { kept := sound.kept, mirrors }

theorem perform {step : IntentStep} (names : step.SlashFree)
    (keeps : step.Keeps json system) : Coherent json (system.step json step) := by
  cases step with
  | initInsightIntentCache iteration userId => exact sound.loaded iteration userId
  | saveInsightIntentTotalInfo bundleName moduleName userId versionCode profileInfos configInfos =>
    by_cases user : userId = system.cache.userId
    · exact sound.saveCurrent user names (keeps user)
    · rw [IntentSystem.step, saveInsightIntentTotalInfo, if_pos user]
      exact sound
  | deleteInsightIntentTotalInfo bundleName moduleName userId =>
    by_cases user : userId = system.cache.userId
    · exact sound.deleteCurrent user names.1 names.2 (keeps user)
    · rw [IntentSystem.step, deleteInsightIntentTotalInfo, if_pos user]
      exact sound

end

end Coherent

/-- A cache that is initialised for the user from the storage as it is. -/
def IntentSystem.fresh (json : IntentJson) (system : IntentSystem) (iteration : Iteration) :
    InsightIntentDbCache :=
  (initInsightIntentCache json { rdb := system.rdb } iteration system.cache.userId).cache

/-- The cache answers as one that is initialised from the storage at that moment. -/
structure Refines (json : IntentJson) (system : IntentSystem) (iteration : Iteration) : Prop where
  byName : ∀ bundleName, system.cache.getInsightIntentGenericInfoByName bundleName =
    (system.fresh json iteration).getInsightIntentGenericInfoByName bundleName
  single : ∀ bundleName moduleName intentName,
    system.cache.getInsightIntentGenericInfo bundleName moduleName intentName =
      (system.fresh json iteration).getInsightIntentGenericInfo bundleName moduleName intentName
  all : system.cache.getAllInsightIntentGenericInfo.Perm
    (system.fresh json iteration).getAllInsightIntentGenericInfo
  has : ∀ versionCode bundleName, system.cache.hasInsightIntentByName versionCode bundleName =
    (system.fresh json iteration).hasInsightIntentByName versionCode bundleName

theorem Coherent.refines {json : IntentJson} {system : IntentSystem}
    (sound : Coherent json system) (iteration : Iteration) : Refines json system iteration := by
  have empty : Coherent json { rdb := system.rdb, cache := { userId := -1 } } := {
    kept := sound.kept
    mirrors := by
      intro bundleName
      have owned : ∀ row : RowName, system.rdb.Has row -> row.userId ≠ -1 := by
        rintro row ⟨free, present⟩
        obtain ⟨text, found⟩ := Option.isSome_iff_exists.1 (AList.lookup_isSome.2 present)
        obtain ⟨same, whole, keeps⟩ := sound.kept.named _ _ found
        exact RowName.key_inj keeps.free free whole ▸ keeps.owned
      exact {
        distinct := nil
        infos := by
          refine fun info => ⟨nofun, ?_⟩
          rintro ⟨row, ⟨free, text, found, -⟩, user, -⟩
          exact absurd user (owned row ⟨free, mem_of_lookup found⟩)
        versions := by
          refine fun version => ⟨nofun, ?_⟩
          rintro ⟨row, has, user, -⟩
          exact absurd user (owned row has) } }
  have fresh := empty.loaded iteration system.cache.userId
  have storage : (initInsightIntentCache json { rdb := system.rdb } iteration
      system.cache.userId).rdb = system.rdb := by
    unfold initInsightIntentCache
    split
    · rfl
    · rw [sound.kept.load]
  have user : (system.fresh json iteration).userId = system.cache.userId := by
    unfold IntentSystem.fresh initInsightIntentCache
    split
    next same => exact same
    · rfl
  have mirrors : ∀ bundleName, (system.fresh json iteration).Mirrors json system.rdb
      system.cache.userId bundleName := by
    intro bundleName
    have freshMirrors := fresh.mirrors bundleName
    rw [storage] at freshMirrors
    exact user ▸ freshMirrors
  have same : SameRows (fun _ _ => true) system.rdb system.rdb system.cache.userId :=
    fun _ _ _ _ => rfl
  have agrees := same.agreesAbout sound.kept sound.kept sound.mirrors mirrors
  exact {
    byName := by simpa only [filter_true] using agrees.byName
    single := fun bundleName moduleName intentName => agrees.single _ _ _ rfl
    all := by simpa only [filter_true] using agrees.all
    has := fun versionCode bundleName => agrees.has _ _ fun _ => rfl }

namespace IntentStep

def others : IntentStep -> String -> String -> Bool
  | .initInsightIntentCache .., _, _ => false
  | .saveInsightIntentTotalInfo bundleName moduleName _ _ _ _, otherBundle, otherModule =>
    !(otherBundle == bundleName && otherModule == moduleName)
  | .deleteInsightIntentTotalInfo bundleName moduleName _, otherBundle, otherModule =>
    !(otherBundle == bundleName && (moduleName.isEmpty || otherModule == moduleName))

def user : IntentStep -> Int
  | .initInsightIntentCache _ userId => userId
  | .saveInsightIntentTotalInfo _ _ userId _ _ _ => userId
  | .deleteInsightIntentTotalInfo _ _ userId => userId

end IntentStep

/-- A step leaves the answers about other modules, and the rows of other modules and users. -/
structure LeavesOthers (json : IntentJson) (system : IntentSystem) (step : IntentStep) : Prop where
  answers : AgreesAbout step.others system.cache (system.step json step).cache
  rows : ∀ row : RowName, row.SlashFree ->
    row.userId ≠ step.user ∨ step.others row.bundleName row.moduleName = true ->
      system.rdb.lookup row.key = (system.step json step).rdb.lookup row.key

namespace Coherent

variable {json : IntentJson} {system : IntentSystem}

theorem step_rows (sound : Coherent json system) {step : IntentStep} (names : step.SlashFree)
    (keeps : step.Keeps json system) (row : RowName) (free : row.SlashFree)
    (other : row.userId ≠ step.user ∨ step.others row.bundleName row.moduleName = true) :
    system.rdb.lookup row.key = (system.step json step).rdb.lookup row.key := by
  cases step with
  | initInsightIntentCache iteration userId =>
    rw [IntentSystem.step, initInsightIntentCache]
    split
    · rfl
    · rw [sound.kept.load]
  | saveInsightIntentTotalInfo bundleName moduleName userId versionCode profileInfos configInfos =>
    by_cases user : userId = system.cache.userId
    · have outside : ¬row.At userId bundleName moduleName := by
        rintro ⟨sameUser, sameBundle, sameModule⟩
        rcases other with ne | ne
        · exact ne sameUser
        · simp [IntentStep.others, sameBundle, sameModule] at ne
      rw [IntentSystem.step, save_rdb user]
      exact ((keeps user).lookup_outside names free outside).symm
    · rw [IntentSystem.step, saveInsightIntentTotalInfo, if_pos user]
  | deleteInsightIntentTotalInfo bundleName moduleName userId =>
    by_cases user : userId = system.cache.userId
    · have outside : ¬row.Within userId bundleName moduleName := by
        rintro ⟨sameUser, sameBundle, sameModule⟩
        rcases other with ne | ne
        · exact ne sameUser
        · have apart : moduleName ≠ "" ∧ row.moduleName ≠ moduleName := by
            simpa [IntentStep.others, sameBundle] using ne
          exact sameModule.elim apart.1 apart.2
      rw [IntentSystem.step, deleteInsightIntentTotalInfo, if_neg (not_not_intro user),
        lookup_delete free names.1 names.2, if_neg outside]
    · rw [IntentSystem.step, deleteInsightIntentTotalInfo, if_pos user]

theorem leavesOthers (sound : Coherent json system) {step : IntentStep} (names : step.SlashFree)
    (keeps : step.Keeps json system) : LeavesOthers json system step where
  rows := sound.step_rows names keeps
  answers := by
    have after := sound.perform names keeps
    cases step with
    | initInsightIntentCache iteration userId =>
      exact {
        byName := fun bundleName => by simp [IntentStep.others]
        single := nofun
        all := by simp [IntentStep.others]
        has := fun versionCode bundleName picked => nomatch picked "" }
    | saveInsightIntentTotalInfo bundleName moduleName userId versionCode profileInfos configInfos =>
      have mirrors := after.mirrors
      rw [IntentSystem.step, save_userId] at mirrors
      have rows : SameRows (IntentStep.saveInsightIntentTotalInfo bundleName moduleName userId
          versionCode profileInfos configInfos).others system.rdb _ system.cache.userId :=
        fun row free _ picked => sound.step_rows names keeps row free (.inr picked)
      exact rows.agreesAbout sound.kept after.kept sound.mirrors mirrors
    | deleteInsightIntentTotalInfo bundleName moduleName userId =>
      have mirrors := after.mirrors
      have user : (deleteInsightIntentTotalInfo system bundleName moduleName userId).cache.userId =
          system.cache.userId := by
        unfold deleteInsightIntentTotalInfo
        split
        · rfl
        · exact eraseModule_userId _ _ _
      rw [IntentSystem.step, user] at mirrors
      have rows : SameRows (IntentStep.deleteInsightIntentTotalInfo bundleName moduleName
          userId).others system.rdb _ system.cache.userId :=
        fun row free _ picked => sound.step_rows names keeps row free (.inr picked)
      exact rows.agreesAbout sound.kept after.kept sound.mirrors mirrors

end Coherent

/-- While the storage is kept in step, the cache answers as one initialised anew. -/
theorem insightIntentDbCache_refines (json : IntentJson) {steps : List IntentStep}
    (names : (intentSystem json).EveryStep steps fun _ step => step.SlashFree)
    (keeps : (intentSystem json).EveryStep steps fun system step => step.Keeps json system) :
    (intentSystem json).Throughout steps
        (fun system => ∀ iteration, Refines json system iteration) ∧
      (intentSystem json).EveryStep steps (LeavesOthers json) := by
  have both : (intentSystem json).EveryStep steps fun system step =>
      step.SlashFree ∧ step.Keeps json system :=
    fun done step rest split => ⟨names done step rest split, keeps done step rest split⟩
  have sound : (intentSystem json).Throughout steps (Coherent json) :=
    both.throughout Coherent.initial fun _ _ before met => before.perform met.1 met.2
  constructor
  · exact fun done rest split iteration => (sound done rest split).refines iteration
  · intro done step rest split
    exact (sound done (step :: rest) split).leavesOthers (names done step rest split)
      (keeps done step rest split)

def quoted (text : String) : String := "\"" ++ text ++ "\""

def objectText (fields : List (String × String)) : String :=
  "\x7b" ++ String.intercalate "," (fields.map fun field => quoted field.1 ++ ":" ++ field.2) ++
    "\x7d"

def profileText (profileInfo : ExtractInsightIntentProfileInfo) : String :=
  objectText [("extractInsightIntents", "[" ++ objectText
    [("abilityName", quoted profileInfo.abilityName), ("arkTSMode", quoted profileInfo.arkTSMode),
      ("bundleName", quoted profileInfo.bundleName),
      ("decoratorClass", quoted profileInfo.decoratorClass),
      ("decoratorFile", quoted profileInfo.decoratorFile),
      ("decoratorType", quoted profileInfo.decoratorType),
      ("displayDescription", quoted profileInfo.displayDescription),
      ("displayName", quoted profileInfo.displayName), ("domain", quoted profileInfo.domain),
      ("entities", "[]"), ("example", quoted profileInfo.example'), ("executeMode", "[]"),
      ("formName", quoted profileInfo.formName), ("functionName", quoted profileInfo.functionName),
      ("functionParamList", "[]"), ("functionReturnType", quoted profileInfo.functionReturnType),
      ("icon", quoted profileInfo.icon), ("intentName", quoted profileInfo.intentName),
      ("intentVersion", quoted profileInfo.intentVersion), ("keywords", "[]"),
      ("llmDescription", quoted profileInfo.llmDescription),
      ("moduleName", quoted profileInfo.moduleName),
      ("navDestinationName", quoted profileInfo.navDestinationName),
      ("navigationId", quoted profileInfo.navigationId), ("pagePath", quoted profileInfo.pagePath),
      ("paramMappings", "[]"), ("schema", quoted profileInfo.schema),
      ("uiAbility", quoted profileInfo.uiAbility), ("uri", quoted profileInfo.uri)] ++ "]")]

def configText (configInfo : InsightIntentInfo) : String :=
  objectText [("insightIntents", "[" ++ objectText
    [("arkTSMode", quoted configInfo.arkTSMode), ("bundleName", quoted configInfo.bundleName),
      ("displayDescription", quoted configInfo.displayDescription),
      ("displayName", quoted configInfo.displayName), ("domain", quoted configInfo.intentDomain),
      ("form", objectText [("ability", quoted configInfo.formAbilityName),
        ("formName", quoted configInfo.formName)]),
      ("icon", quoted configInfo.icon), ("inputParams", "[]"),
      ("intentName", quoted configInfo.intentName),
      ("intentVersion", quoted configInfo.intentVersion), ("keywords", "[]"),
      ("moduleName", quoted configInfo.moduleName), ("outputParams", "[]"),
      ("serviceExtension", objectText [("ability", quoted configInfo.serviceExtensionAbilityName)]),
      ("srcEntry", quoted configInfo.srcEntry),
      ("uiAbility",
        objectText [("ability", quoted configInfo.uiAbilityName), ("executeMode", "[]")]),
      ("uiExtension", objectText [("ability", quoted configInfo.uiExtensionAbilityName)])] ++ "]")]

def showRoute : ExtractInsightIntentProfileInfo :=
  { decoratorFile := "ets/pages/Route", decoratorClass := "RoutePage"
    decoratorType := "@InsightIntentPage", bundleName := "com.example.map", moduleName := "entry"
    intentName := "ShowRoute", domain := "travel", intentVersion := "1.0.1", displayName := "Route"
    pagePath := "pages/Route" }

def findPlace : InsightIntentInfo :=
  { intentName := "FindPlace", intentDomain := "travel", intentVersion := "1.0.1"
    srcEntry := "ets/FindPlace", bundleName := "com.example.map" }

def mapJson : IntentJson where
  dumpProfile profileInfo := some (profileText profileInfo)
  readProfiles text := some ([showRoute].filter fun profileInfo => profileText profileInfo = text)
  dumpConfig configInfo := some (configText configInfo)
  readConfigs text :=
    some ([{ findPlace with moduleName := "entry" }, { findPlace with moduleName := "feature" }].filter
      fun configInfo => configText configInfo = text)

def inOrder : Iteration where
  arrange items := items
  perm _ := .refl _

def mapSteps : List IntentStep :=
  [.initInsightIntentCache inOrder 100,
    .saveInsightIntentTotalInfo "com.example.map" "entry" 100 7 [showRoute] [findPlace],
    .saveInsightIntentTotalInfo "com.example.map" "feature" 100 7 [] [findPlace],
    .initInsightIntentCache inOrder 101,
    .saveInsightIntentTotalInfo "com.example.map" "entry" 100 8 [showRoute] [],
    .initInsightIntentCache inOrder 100,
    .deleteInsightIntentTotalInfo "com.example.map" "feature" 100,
    .saveInsightIntentTotalInfo "com.example.map" "entry" 100 8 [showRoute] []]

theorem mapSteps_refine :
    (intentSystem mapJson).Throughout mapSteps
        (fun system => ∀ iteration, Refines mapJson system iteration) ∧
      (intentSystem mapJson).EveryStep mapSteps (LeavesOthers mapJson) :=
  insightIntentDbCache_refines mapJson (StepsFrom.everyStep (by decide +kernel))
    (StepsFrom.everyStep (by decide +kernel))

def configSteps : List IntentStep :=
  [.initInsightIntentCache inOrder 100,
    .saveInsightIntentTotalInfo "com.example.map" "entry" 100 7 [] [findPlace],
    .saveInsightIntentTotalInfo "com.example.map" "feature" 100 7 [] [findPlace],
    .deleteInsightIntentTotalInfo "com.example.map" "feature" 100]

theorem configSteps_loseVersion :
    ((intentSystem mapJson).EveryStep configSteps fun _ step => step.SlashFree) ∧
      ((intentSystem mapJson).run configSteps).cache.hasInsightIntentByName 7 "com.example.map" =
        false ∧
      (((intentSystem mapJson).run configSteps).fresh mapJson inOrder).hasInsightIntentByName 7
        "com.example.map" = true ∧
      ¬(intentSystem mapJson).Throughout configSteps
        (fun system => ∀ iteration, Refines mapJson system iteration) := by
  have answers :
      ((intentSystem mapJson).run configSteps).cache.hasInsightIntentByName 7 "com.example.map" =
          false ∧
        (((intentSystem mapJson).run configSteps).fresh mapJson inOrder).hasInsightIntentByName 7
          "com.example.map" = true := by decide +kernel
  refine ⟨StepsFrom.everyStep (by decide +kernel), answers.1, answers.2, fun good => ?_⟩
  have same := (good configSteps [] (by simp) inOrder).has 7 "com.example.map"
  rw [answers.1, answers.2] at same
  cases same

end AbilityRuntime.InsightIntent
