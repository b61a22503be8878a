import AbilityRuntime.Mission.MissionInfoMgr

set_option autoImplicit false

namespace AbilityRuntime.Mission.MissionInfoMgr

open Std.ExtTreeMap List InnerMissionInfo

def missionId (info : InnerMissionInfo) : Int := info.missionInfo.id

structure Sound (mgr : MissionInfoMgr) : Prop where
  saved : ∀ id : Int, mgr.missionIdMap[id]? = some true ↔ id ∈ mgr.missionInfoList.map missionId
  unique : (mgr.missionInfoList.map missionId).Nodup
  sorted : mgr.missionInfoList.Pairwise fun before after =>
    after.missionInfo.time ≤ before.missionInfo.time

theorem initial_sound : Sound {} := by
  constructor <;> simp

theorem freeMissionId_absent {missionIdMap : Std.ExtTreeMap Int Bool} {index : Int} {left : Nat}
    {found : Int} (free : freeMissionId missionIdMap index left = some found) :
    missionIdMap[found]? = none := by
  induction left generalizing index with
  | zero => simp [freeMissionId] at free
  | succ left ih =>
    simp only [freeMissionId] at free
    split at free
    · exact ih free
    next absent => cases free; simpa using absent

variable {mgr : MissionInfoMgr}

theorem generateMissionId_sound (sound : mgr.Sound) : mgr.generateMissionId.1.Sound := by
  simp only [generateMissionId]
  split
  next found free =>
    have absent := freeMissionId_absent free
    refine { sound with saved := ?_ }
    intro id
    rw [<- sound.saved, Std.ExtTreeMap.getElem?_insert]
    by_cases same : found = id
    · simp [<- same, absent]
    · simp [same]
  · exact { sound with }

theorem loadAllMissionInfo_unique (storage : MissionDataStorage) (fileNameVec : List Int) :
    ((storage.loadAllMissionInfo fileNameVec).map missionId).Nodup := by
  rw [MissionDataStorage.loadAllMissionInfo, map_filterMap]
  refine List.Nodup.filterMap ?_ (nodup_dedup fileNameVec)
  have own : ∀ id loaded : Int, loaded ∈ ((storage.files[id]?.filter fun missionInfo =>
      !missionInfo.isTemporary).map missionId) -> loaded = id := by
    intro id loaded mem
    obtain ⟨info, found, rfl⟩ := Option.map_eq_some_iff.mp mem
    exact storage.ownFile id info (Option.filter_eq_some_iff.mp found).1
  intro first second loaded here there
  exact (own first loaded here).symm.trans (own second loaded there)

theorem foldl_insert_saved (infos : List InnerMissionInfo) (map : Std.ExtTreeMap Int Bool) (id : Int) :
    (infos.foldl (fun map info => map.insert info.missionInfo.id true) map)[id]? = some true ↔
      map[id]? = some true ∨ id ∈ infos.map missionId := by
  induction infos generalizing map with
  | nil => simp
  | cons info rest ih =>
    rw [foldl_cons, ih, Std.ExtTreeMap.getElem?_insert, map_cons, mem_cons, missionId]
    by_cases same : info.missionInfo.id = id
    · simp [same]
    · simp [same, Ne.symm same]

theorem mergeSort_sorted (infos : List InnerMissionInfo) :
    (infos.mergeSort notLater).Pairwise fun before after =>
      after.missionInfo.time ≤ before.missionInfo.time := by
  have sorted : (infos.mergeSort notLater).Pairwise fun before after => notLater before after :=
    pairwise_mergeSort ?_ ?_ infos
  · simpa only [notLater, decide_eq_true_eq] using sorted
  · intro first second third later latest
    simp only [notLater, decide_eq_true_eq] at *
    exact latest.trans later
  · intro first second
    simpa [notLater] using le_total second.missionInfo.time first.missionInfo.time

theorem init_sound (sound : mgr.Sound) (persistenceInit : Bool)
    (storage : Option MissionDataStorage) (fileNameVec : List Int) :
    (mgr.init persistenceInit storage fileNameVec).1.Sound := by
  simp only [init]
  split
  · exact sound
  · split
    · constructor <;> simp
    next storage =>
      have perm := mergeSort_perm (storage.loadAllMissionInfo fileNameVec) notLater
      refine ⟨?_, ?_, mergeSort_sorted _⟩
      · intro id; rw [foldl_insert_saved]; simp
      · exact (perm.map missionId).nodup_iff.mpr (loadAllMissionInfo_unique storage fileNameVec)

variable {infos : List InnerMissionInfo}

theorem orderedInsert_sorted (missionInfo : InnerMissionInfo)
    (sorted : infos.Pairwise fun before after =>
      after.missionInfo.time ≤ before.missionInfo.time) :
    (infos.orderedInsert (fun new item => item.missionInfo.time < new.missionInfo.time)
      missionInfo).Pairwise fun before after =>
        after.missionInfo.time ≤ before.missionInfo.time := by
  induction infos with
  | nil => simp
  | cons item rest ih =>
    obtain ⟨first, others⟩ := pairwise_cons.mp sorted
    rw [orderedInsert_cons]
    split
    next earlier =>
      refine List.Pairwise.cons ?_ sorted
      intro after mem
      rcases mem_cons.mp mem with rfl | later
      · exact earlier.le
      · exact (first after later).trans earlier.le
    next notEarlier =>
      refine List.Pairwise.cons ?_ (ih others)
      intro after mem
      rcases (mem_orderedInsert _).mp mem with rfl | later
      · exact not_lt.mp notEarlier
      · exact first after later

theorem addMissionInfo_sound (sound : mgr.Sound) (missionInfo : InnerMissionInfo) (saved : Bool) :
    (mgr.addMissionInfo missionInfo saved).1.Sound := by
  simp only [addMissionInfo]
  split
  · exact sound
  next unsaved =>
    split
    · exact sound
    · have perm := perm_orderedInsert
        (fun new item : InnerMissionInfo => item.missionInfo.time < new.missionInfo.time)
        missionInfo mgr.missionInfoList
      have ids := perm.map missionId
      have new : missionId missionInfo ∉ mgr.missionInfoList.map missionId :=
        fun mem => unsaved ((sound.saved _).mpr mem)
      refine ⟨?_, ?_, orderedInsert_sorted missionInfo sound.sorted⟩
      · intro id
        rw [ids.mem_iff, map_cons, mem_cons, <- sound.saved,
          Std.ExtTreeMap.getElem?_insert, missionId]
        by_cases same : missionInfo.missionInfo.id = id
        · simp [same]
        · simp [same, Ne.symm same]
      · exact ids.nodup_iff.mpr (nodup_cons.mpr ⟨new, sound.unique⟩)

theorem erase_sound (sound : mgr.Sound) (id : Int) :
    Sound { mgr with
      missionInfoList := mgr.missionInfoList.eraseP fun item => item.missionInfo.id == id
      missionIdMap := mgr.missionIdMap.erase id } := by
  have shorter : (mgr.missionInfoList.eraseP fun item => item.missionInfo.id == id).Sublist
      mgr.missionInfoList := eraseP_sublist
  have ids : (mgr.missionInfoList.eraseP fun item => item.missionInfo.id == id).map missionId =
      (mgr.missionInfoList.map missionId).erase id := by
    rw [erase_eq_eraseP', eraseP_map]
    rfl
  refine ⟨?_, sound.unique.sublist (shorter.map _), sound.sorted.sublist shorter⟩
  intro other
  rw [ids, sound.unique.mem_erase_iff, <- sound.saved, getElem?_erase]
  by_cases same : id = other
  · simp [same]
  · simp [same, Ne.symm same]

def keys (infos : List InnerMissionInfo) : List (Int × String) :=
  infos.map fun info => (missionId info, info.missionInfo.time)

theorem sound_of_keys (sound : mgr.Sound) (same : keys infos = keys mgr.missionInfoList) :
    Sound { mgr with missionInfoList := infos } := by
  have ids : infos.map missionId = mgr.missionInfoList.map missionId := by
    simpa [keys, Function.comp_def] using congrArg (List.map Prod.fst) same
  have times : infos.map (fun info => info.missionInfo.time) =
      mgr.missionInfoList.map fun info => info.missionInfo.time := by
    simpa [keys, Function.comp_def] using congrArg (List.map Prod.snd) same
  have sorted : (mgr.missionInfoList.map fun info => info.missionInfo.time).Pairwise
      fun before after => after ≤ before := pairwise_map.mpr sound.sorted
  rw [<- times] at sorted
  exact ⟨fun id => by rw [sound.saved, ids], ids ▸ sound.unique, pairwise_map.mp sorted⟩

theorem replace_keys {missionInfo item : InnerMissionInfo}
    (found : infos.find? (fun item => item.missionInfo.id == missionInfo.missionInfo.id) = some item)
    (sameTime : missionInfo.missionInfo.time = item.missionInfo.time) :
    keys (infos.replaceF fun item =>
      if item.missionInfo.id = missionInfo.missionInfo.id then some missionInfo else none) =
        keys infos := by
  induction infos with
  | nil => rfl
  | cons first rest ih =>
    by_cases same : first.missionInfo.id = missionInfo.missionInfo.id
    · obtain rfl : first = item := by simpa [same] using found
      simp [keys, missionId, same, sameTime]
    · have later := ih (by simpa [same] using found)
      simp only [keys] at later
      simp [keys, same, later]

theorem updateMissionInfo_sound (sound : mgr.Sound) (missionInfo : InnerMissionInfo)
    (saved : Bool) :
    (mgr.updateMissionInfo missionInfo saved).1.Sound := by
  simp only [updateMissionInfo]
  split
  · exact sound
  · split
    · exact sound
    next item found =>
      split
      next sameTime => exact sound_of_keys sound (replace_keys found sameTime)
      · exact addMissionInfo_sound (erase_sound sound _) missionInfo saved

theorem deleteMissionInfo_sound (sound : mgr.Sound) (id : Int)
    (persistence : Option Bool) : (mgr.deleteMissionInfo id persistence).1.Sound := by
  simp only [deleteMissionInfo]
  split
  · exact sound
  next unsaved =>
    refine { sound with saved := ?_ }
    intro other
    rw [<- sound.saved, getElem?_erase]
    by_cases same : id = other
    · simp [<- same, unsaved]
    · simp [same]
  · split
    · exact sound
    · exact erase_sound sound id

theorem foldl_erase_saved (infos : List InnerMissionInfo) (map : Std.ExtTreeMap Int Bool) (id : Int) :
    (infos.foldl (fun map info => map.erase info.missionInfo.id) map)[id]? = some true ↔
      map[id]? = some true ∧ id ∉ infos.map missionId := by
  induction infos generalizing map with
  | nil => simp
  | cons info rest ih =>
    rw [foldl_cons, ih, getElem?_erase, map_cons, mem_cons, missionId]
    by_cases same : info.missionInfo.id = id
    · simp [same]
    · simp [same, Ne.symm same]

theorem deleteAllMissionInfos_sound (sound : mgr.Sound) (isBackgroundTaskUid : Int -> Bool)
    (persistence : Bool) :
    (mgr.deleteAllMissionInfos isBackgroundTaskUid persistence).1.Sound := by
  simp only [deleteAllMissionInfos]
  split
  · exact sound
  · have shorter : (mgr.missionInfoList.filter fun info =>
        !clearable isBackgroundTaskUid info).Sublist mgr.missionInfoList := filter_sublist
    refine ⟨?_, sound.unique.sublist (shorter.map _), sound.sorted.sublist shorter⟩
    intro id
    rw [foldl_erase_saved, sound.saved]
    constructor
    · rintro ⟨mem, kept⟩
      obtain ⟨info, listed, rfl⟩ := mem_map.mp mem
      refine mem_map_of_mem (mem_filter.mpr ⟨listed, ?_⟩)
      by_contra cleared
      exact kept (mem_map_of_mem (mem_filter.mpr ⟨listed, by simpa using cleared⟩))
    · intro mem
      obtain ⟨info, remaining, rfl⟩ := mem_map.mp mem
      obtain ⟨listed, kept⟩ := mem_filter.mp remaining
      refine ⟨mem_map_of_mem listed, ?_⟩
      intro again
      obtain ⟨other, removed, same⟩ := mem_map.mp again
      obtain ⟨otherListed, cleared⟩ := mem_filter.mp removed
      obtain rfl := inj_on_of_nodup_map sound.unique otherListed listed same
      simp [cleared] at kept

theorem apply_sound (sound : mgr.Sound) (call : Call) : (mgr.apply call).Sound := by
  cases call with
  | generateMissionId => exact generateMissionId_sound sound
  | init persistenceInit storage fileNameVec =>
    exact init_sound sound persistenceInit storage fileNameVec
  | addMissionInfo missionInfo saved => exact addMissionInfo_sound sound missionInfo saved
  | updateMissionInfo missionInfo saved => exact updateMissionInfo_sound sound missionInfo saved
  | deleteMissionInfo id persistence => exact deleteMissionInfo_sound sound id persistence
  | deleteAllMissionInfos isBackgroundTaskUid persistence =>
    exact deleteAllMissionInfos_sound sound isBackgroundTaskUid persistence

theorem Sound.saved_once (sound : mgr.Sound) (id : Int) :
    mgr.missionIdMap[id]? = some true ↔
      mgr.missionInfoList.countP (fun info => info.missionInfo.id == id) = 1 := by
  have counts : mgr.missionInfoList.countP (fun info => info.missionInfo.id == id) =
      (mgr.missionInfoList.map missionId).count id := by
    rw [count_eq_countP, countP_map]
    rfl
  rw [sound.saved, counts, sound.unique.count]
  simp

theorem collectMissionInfos_take (numMax : Nat) (missions : List InnerMissionInfo)
    (missionInfos : List MissionInfo) :
    collectMissionInfos numMax missions missionInfos =
      missionInfos ++ ((missions.filter fun mission =>
        !doesNotShowInTheMissionList mission).map missionInfo).take
          (numMax - missionInfos.length) := by
  induction missions generalizing missionInfos with
  | nil => simp [collectMissionInfos]
  | cons mission rest ih =>
    rw [collectMissionInfos]
    split
    next enough => simp [Nat.sub_eq_zero_of_le enough]
    next more =>
      split
      next hidden => rw [ih]; simp [hidden]
      next visible =>
        have room : numMax - missionInfos.length = (numMax - (missionInfos.length + 1)) + 1 := by omega
        rw [ih]
        simp [visible, room]

theorem Sound.getMissionInfos_recent (sound : mgr.Sound) {numMax : Int} (valid : 0 ≤ numMax) :
    let visible := (mgr.missionInfoList.filter fun mission =>
      !doesNotShowInTheMissionList mission).map missionInfo
    (mgr.getMissionInfos numMax []).1 = visible.take numMax.toNat ∧
      ∀ shown ∈ visible.take numMax.toNat, ∀ left ∈ visible.drop numMax.toNat,
        left.time ≤ shown.time := by
  intro visible
  constructor
  · simp [getMissionInfos, Int.not_lt.mpr valid, collectMissionInfos_take, visible]
  · have sorted : visible.Pairwise fun before after => after.time ≤ before.time :=
      pairwise_map.mpr (sound.sorted.filter _)
    rw [<- take_append_drop numMax.toNat visible, pairwise_append] at sorted
    exact sorted.2.2

theorem Sound.findReusedMissionInfo_recent (sound : mgr.Sound) {missionName flag : String}
    {isFindRecentStandard : Bool} {info : InnerMissionInfo}
    (found : mgr.findReusedMissionInfo missionName flag isFindRecentStandard = some info) :
    info ∈ mgr.missionInfoList ∧ isReused missionName flag isFindRecentStandard info = true ∧
      ∀ other ∈ mgr.missionInfoList, isReused missionName flag isFindRecentStandard other = true ->
        other.missionInfo.time ≤ info.missionInfo.time := by
  simp only [findReusedMissionInfo] at found
  split at found
  · cases found
  · obtain ⟨reused, earlier, later, list, skipped⟩ := find?_eq_some_iff_append.mp found
    have sorted := sound.sorted
    rw [list, pairwise_append, pairwise_cons] at sorted
    refine ⟨list ▸ mem_append_cons_self, reused, ?_⟩
    intro other mem same
    rw [list, mem_append, mem_cons] at mem
    rcases mem with before | rfl | after
    · simpa [same] using skipped other before
    · exact le_refl _
    · exact sorted.2.1.1 other after

theorem findReusedMissionInfo_none {missionName flag : String} {isFindRecentStandard : Bool}
    (named : missionName ≠ "")
    (missing : mgr.findReusedMissionInfo missionName flag isFindRecentStandard = none) :
    ∀ other ∈ mgr.missionInfoList, isReused missionName flag isFindRecentStandard other = false := by
  simpa [findReusedMissionInfo, named] using missing

theorem run_keeps_ids_and_order (calls : List Call) :
    let mgr := machine.run calls
    (∀ id : Int, mgr.missionIdMap[id]? = some true ↔
        mgr.missionInfoList.countP (fun info => info.missionInfo.id == id) = 1) ∧
      (mgr.missionInfoList.map fun info => info.missionInfo.id).Nodup ∧
      (mgr.missionInfoList.Pairwise fun before after =>
        after.missionInfo.time ≤ before.missionInfo.time) ∧
      (∀ numMax : Int, 0 ≤ numMax ->
        let visible := (mgr.missionInfoList.filter fun mission =>
          !doesNotShowInTheMissionList mission).map missionInfo
        (mgr.getMissionInfos numMax []).1 = visible.take numMax.toNat ∧
          ∀ shown ∈ visible.take numMax.toNat, ∀ left ∈ visible.drop numMax.toNat,
            left.time ≤ shown.time) ∧
      ∀ (missionName flag : String) (isFindRecentStandard : Bool), missionName ≠ "" ->
        match mgr.findReusedMissionInfo missionName flag isFindRecentStandard with
        | none => ∀ other ∈ mgr.missionInfoList,
            isReused missionName flag isFindRecentStandard other = false
        | some info => info ∈ mgr.missionInfoList ∧
            isReused missionName flag isFindRecentStandard info = true ∧
            ∀ other ∈ mgr.missionInfoList,
              isReused missionName flag isFindRecentStandard other = true ->
                other.missionInfo.time ≤ info.missionInfo.time := by
  have sound : (machine.run calls).Sound := Library.Machine.run_invariant Sound initial_sound
    (fun _ call sound => apply_sound sound call) calls
  refine ⟨sound.saved_once, sound.unique, sound.sorted,
    fun numMax valid => sound.getMissionInfos_recent valid, ?_⟩
  intro missionName flag isFindRecentStandard named
  split
  next missing => exact findReusedMissionInfo_none named missing
  next info found => exact sound.findReusedMissionInfo_recent found

end AbilityRuntime.Mission.MissionInfoMgr
