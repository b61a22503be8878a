import AbilityRuntime.Library.Decimal
import AbilityRuntime.Library.FirstMatch
import AbilityRuntime.Mission.MissionInfoOrder

set_option autoImplicit false
set_option linter.dupNamespace false

namespace AbilityRuntime.Mission

open List Library MissionInfoMgr

def NANO_SECOND_PER_SEC : UInt64 := 1000000000

structure Timespec where
  tv_sec : Int64
  tv_nsec : Int64

def Timespec.uTime (tn : Timespec) : UInt64 :=
  tn.tv_sec.toUInt64 * NANO_SECOND_PER_SEC + tn.tv_nsec.toUInt64

def getCurrentTime (tn : Timespec) : String := tn.uTime.toNat.repr

namespace MissionList

structure Mission where
  missionName : String
  launchMode : Option LaunchMode
  missionTime : String

def Mission.isStandardAbility (mission : Mission) : Bool := mission.launchMode == some .STANDARD

def Mission.isNamedStandard (missionName : String) (mission : Mission) : Bool :=
  mission.isStandardAbility && mission.missionName == missionName

def laterStandard (missionName : String) (found : String × Option Mission) :
    Option Mission -> String × Option Mission
  | none => found
  | some mission =>
    if mission.isNamedStandard missionName && found.1 ≤ mission.missionTime then
      (mission.missionTime, some mission)
    else found

-- A pointer of the list may be null.
def getRecentStandardMission (missions : List (Option Mission)) (missionName : String) :
    Option Mission :=
  if missionName.isEmpty then none
  else (missions.foldl (laterStandard missionName) ("0", none)).2

end MissionList

/-- A mission that is given the current time and then added or, when it is known, updated. -/
structure Stamp where
  info : InnerMissionInfo
  clock : Timespec
  saved : Bool

namespace Stamp

def id (stamp : Stamp) : Int := stamp.info.missionInfo.id

def stamped (stamp : Stamp) : InnerMissionInfo :=
  { stamp.info with
    missionInfo := { stamp.info.missionInfo with time := getCurrentTime stamp.clock } }

/-- The earlier clock value is within the leading digits of the later. -/
def KeepsOrder (earlier later : Stamp) : Prop :=
  earlier.clock.uTime.toNat ≤ later.clock.uTime.toNat /
    10 ^ (later.clock.uTime.toNat.repr.length - earlier.clock.uTime.toNat.repr.length)

instance (earlier later : Stamp) : Decidable (earlier.KeepsOrder later) :=
  inferInstanceAs (Decidable (_ ≤ _))

def newest : List Stamp -> List Stamp
  | [] => []
  | stamp :: rest =>
    if rest.any (·.id == stamp.id) then newest rest else stamp :: newest rest

end Stamp

namespace MissionInfoMgr

def stamp (mgr : MissionInfoMgr) (stamp : Stamp) : MissionInfoMgr :=
  if mgr.missionIdMap[stamp.id]? = some true then
    (mgr.updateMissionInfo stamp.stamped stamp.saved).1
  else (mgr.addMissionInfo stamp.stamped stamp.saved).1

def stamping : Machine MissionInfoMgr Stamp := ⟨{}, stamp⟩

end MissionInfoMgr

open MissionInfoMgr (stamping missionId)
open MissionList (Mission getRecentStandardMission laterStandard)

/-- The saved missions are listed from the last stamped on, and the query finds that one. -/
structure TimesKept (stamps : List Stamp) : Prop where
  listed : (stamping.run stamps).missionInfoList =
    (((Stamp.newest stamps).filter (·.saved)).map Stamp.stamped).reverse
  recent : ∀ (missions : List (Option Mission)) (missionName : String), missionName ≠ "" ->
    (∀ mission, some mission ∈ missions ->
      ∃ stamp ∈ Stamp.newest stamps, mission.missionTime = getCurrentTime stamp.clock) ->
    match getRecentStandardMission missions missionName with
    | none => ∀ mission, some mission ∈ missions -> mission.isNamedStandard missionName = false
    | some result => some result ∈ missions ∧ result.isNamedStandard missionName = true ∧
      ∀ other, some other ∈ missions -> other.isNamedStandard missionName = true ->
        ∀ stamp ∈ Stamp.newest stamps, ∀ resultStamp ∈ Stamp.newest stamps,
          other.missionTime = getCurrentTime stamp.clock ->
          result.missionTime = getCurrentTime resultStamp.clock ->
            stamp.clock.uTime ≤ resultStamp.clock.uTime

theorem getCurrentTime_lt_iff {earlier later : Stamp}
    (less : earlier.clock.uTime < later.clock.uTime) :
    getCurrentTime earlier.clock < getCurrentTime later.clock ↔ earlier.KeepsOrder later :=
  Decimal.repr_lt_repr_iff (UInt64.lt_iff_toNat_lt.mp less)

theorem getCurrentTime_inj {one other : Timespec} :
    getCurrentTime one = getCurrentTime other ↔ one.uTime = other.uTime := by
  rw [getCurrentTime, getCurrentTime, Library.Decimal.repr_inj, UInt64.toNat_inj]

theorem zero_le_getCurrentTime (tn : Timespec) : "0" ≤ getCurrentTime tn := by
  rcases Nat.eq_zero_or_pos tn.uTime.toNat with zero | positive
  · rw [getCurrentTime, zero]; exact le_refl _
  · exact ((Decimal.repr_lt_repr_iff positive).mpr (Nat.zero_le _)).le

theorem getRecentStandardMission_recent (missions : List (Option Mission)) {missionName : String}
    (named : missionName ≠ "") :
    match getRecentStandardMission missions missionName with
    | none => ∀ mission, some mission ∈ missions -> mission.isNamedStandard missionName = true ->
        mission.missionTime < "0"
    | some result => some result ∈ missions ∧ result.isNamedStandard missionName = true ∧
        ∀ other, some other ∈ missions -> other.isNamedStandard missionName = true ->
          other.missionTime ≤ result.missionTime := by
  have general : ∀ missions : List (Option Mission),
      match missions.foldl (laterStandard missionName) ("0", none) with
      | (time, none) => time = "0" ∧
          ∀ mission, some mission ∈ missions -> mission.isNamedStandard missionName = true ->
            mission.missionTime < "0"
      | (time, some result) => time = result.missionTime ∧
          some result ∈ missions ∧ result.isNamedStandard missionName = true ∧
          ∀ other, some other ∈ missions -> other.isNamedStandard missionName = true ->
            other.missionTime ≤ result.missionTime := by
    intro missions
    induction missions using reverseRecOn with
    | nil => simp
    | append_singleton done mission ih =>
      rw [foldl_concat]
      generalize done.foldl (laterStandard missionName) ("0", none) = found at ih ⊢
      obtain ⟨time, result⟩ := found
      cases mission with
      | none =>
        cases result with
        | none => simpa [laterStandard] using ih
        | some result => simpa [laterStandard] using ih
      | some mission =>
        by_cases later : mission.isNamedStandard missionName && time ≤ mission.missionTime
        · rw [laterStandard, if_pos later]
          rw [Bool.and_eq_true, decide_eq_true_eq] at later
          obtain ⟨standard, later⟩ := later
          refine ⟨rfl, by simp, standard, fun other mem otherStandard => ?_⟩
          rcases mem_append.mp mem with before | last
          · cases result with
            | none => exact ((ih.2 other before otherStandard).trans_le (ih.1 ▸ later)).le
            | some result => exact (ih.2.2.2 other before otherStandard).trans (ih.1 ▸ later)
          · obtain rfl : other = mission := by simpa using last
            exact le_refl _
        · rw [laterStandard, if_neg later]
          have notLater : mission.isNamedStandard missionName = true -> mission.missionTime < time := by
            intro standard
            simpa [standard] using later
          cases result with
          | none =>
            refine ⟨ih.1, fun other mem otherStandard => ?_⟩
            rcases mem_append.mp mem with before | last
            · exact ih.2 other before otherStandard
            · obtain rfl : other = mission := by simpa using last
              exact ih.1 ▸ notLater otherStandard
          | some result =>
            refine ⟨ih.1, by simp [ih.2.1], ih.2.2.1, fun other mem otherStandard => ?_⟩
            rcases mem_append.mp mem with before | last
            · exact ih.2.2.2 other before otherStandard
            · obtain rfl : other = mission := by simpa using last
              exact (ih.1 ▸ notLater otherStandard).le
  have spec := general missions
  rw [getRecentStandardMission, if_neg (by simpa using named)]
  generalize missions.foldl (laterStandard missionName) ("0", none) = found at spec
  obtain ⟨time, result⟩ := found
  cases result with
  | none => exact spec.2
  | some result => exact spec.2

namespace MissionInfoMgr

theorem addMissionInfo_perm (mgr : MissionInfoMgr) (missionInfo : InnerMissionInfo) (saved : Bool)
    (unknown : mgr.missionIdMap[missionInfo.missionInfo.id]? ≠ some true) :
    (mgr.addMissionInfo missionInfo saved).1.missionInfoList.Perm
      (mgr.missionInfoList ++ [missionInfo].filter fun _ => saved) := by
  rw [addMissionInfo, if_neg unknown]
  cases saved with
  | false => simp
  | true => simpa using (perm_orderedInsert _ _ _).trans (perm_append_singleton _ _).symm

theorem stamp_perm {mgr : MissionInfoMgr} (sound : mgr.Sound) (stamp : Stamp)
    (earlier : ∀ info ∈ mgr.missionInfoList, info.missionInfo.time ≠ getCurrentTime stamp.clock) :
    (mgr.stamp stamp).missionInfoList.Perm
      (mgr.missionInfoList.filter (missionId · ≠ stamp.id) ++
        [stamp.stamped].filter fun _ => stamp.saved) := by
  rw [MissionInfoMgr.stamp]
  by_cases known : mgr.missionIdMap[stamp.id]? = some true
  · obtain ⟨info, listed, sameId⟩ := mem_map.mp ((sound.saved stamp.id).mp known)
    have found : (mgr.missionInfoList.find? fun item =>
        item.missionInfo.id == stamp.stamped.missionInfo.id).isSome := by
      rw [find?_isSome]
      exact ⟨info, listed, beq_iff_eq.mpr sameId⟩
    obtain ⟨item, found⟩ := Option.isSome_iff_exists.mp found
    have otherTime : stamp.stamped.missionInfo.time ≠ item.missionInfo.time :=
      (earlier item (mem_of_find?_eq_some found)).symm
    have knownStamped : mgr.missionIdMap[stamp.stamped.missionInfo.id]? = some true := known
    have erased : (mgr.missionInfoList.eraseP fun item =>
        item.missionInfo.id == stamp.stamped.missionInfo.id) =
        mgr.missionInfoList.filter (missionId · ≠ stamp.stamped.missionInfo.id) :=
      eraseP_of_nodup sound.unique stamp.stamped.missionInfo.id
    rw [if_pos known, updateMissionInfo, if_neg (not_not_intro knownStamped), found]
    dsimp only
    rw [if_neg otherTime, erased]
    exact addMissionInfo_perm _ stamp.stamped stamp.saved (by simp)
  · have absent : ∀ info ∈ mgr.missionInfoList, missionId info ≠ stamp.id := by
      intro info listed sameId
      exact known ((sound.saved stamp.id).mpr (mem_map.mpr ⟨info, listed, sameId⟩))
    have kept : mgr.missionInfoList.filter (missionId · ≠ stamp.id) = mgr.missionInfoList :=
      filter_eq_self.mpr fun info listed => decide_eq_true (absent info listed)
    rw [if_neg known, kept]
    exact addMissionInfo_perm mgr stamp.stamped stamp.saved known

theorem stamp_sound {mgr : MissionInfoMgr} (sound : mgr.Sound) (stamp : Stamp) :
    (mgr.stamp stamp).Sound := by
  rw [MissionInfoMgr.stamp]
  split
  · exact updateMissionInfo_sound sound _ _
  · exact addMissionInfo_sound sound _ _

theorem stamping_sound (stamps : List Stamp) : (stamping.run stamps).Sound :=
  Machine.run_invariant Sound initial_sound (fun _ stamp sound => stamp_sound sound stamp) stamps

end MissionInfoMgr

namespace Stamp

theorem newest_sublist (stamps : List Stamp) : (newest stamps).Sublist stamps := by
  induction stamps with
  | nil => exact .refl _
  | cons stamp rest ih =>
    rw [newest]
    split
    · exact ih.cons stamp
    · exact ih.cons_cons stamp

theorem newest_concat (stamps : List Stamp) (stamp : Stamp) :
    newest (stamps ++ [stamp]) = (newest stamps).filter (·.id ≠ stamp.id) ++ [stamp] := by
  induction stamps with
  | nil => simp [newest]
  | cons first rest ih =>
    rw [cons_append, newest, newest, ih, any_append]
    cases later : rest.any (·.id == first.id) with
    | true => simp
    | false =>
      by_cases same : stamp.id = first.id
      · simp [same]
      · simp [same, Ne.symm same]

end Stamp

section

variable {stamps : List Stamp}

section

variable (increasing : stamps.Pairwise (·.clock.uTime < ·.clock.uTime))
include increasing

theorem stamping_perm :
    (stamping.run stamps).missionInfoList.Perm
      (((Stamp.newest stamps).filter (·.saved)).map Stamp.stamped) := by
  induction stamps using reverseRecOn with
  | nil => exact .refl _
  | append_singleton done stamp ih =>
    obtain ⟨before, -, latest⟩ := pairwise_append.mp increasing
    have listed := ih before
    have earlier : ∀ info ∈ (stamping.run done).missionInfoList,
        info.missionInfo.time ≠ getCurrentTime stamp.clock := by
      intro info mem
      obtain ⟨other, newest, rfl⟩ := mem_map.mp (listed.mem_iff.mp mem)
      have inside := (Stamp.newest_sublist done).subset (mem_filter.mp newest).1
      rw [ne_eq, Stamp.stamped, getCurrentTime_inj]
      exact UInt64.ne_of_lt (latest other inside stamp (by simp))
    rw [Library.Machine.run_concat, Stamp.newest_concat, filter_append, map_append]
    refine (stamp_perm (stamping_sound done) stamp earlier).trans (.append ?_ ?_)
    · refine (listed.filter _).trans (.of_eq ?_)
      rw [filter_map, filter_filter, filter_filter]
      congr 1
      exact filter_congr fun other _ => Bool.and_comm _ _
    · cases saved : stamp.saved <;> simp [saved]

theorem keepsOrder_of_lt (ordered : stamps.Pairwise Stamp.KeepsOrder) {one other : Stamp}
    (first : one ∈ stamps) (second : other ∈ stamps)
    (less : one.clock.uTime < other.clock.uTime) : one.KeepsOrder other := by
  have forwards : stamps.Pairwise fun one other =>
      one.clock.uTime < other.clock.uTime -> one.KeepsOrder other :=
    ordered.imp (by intro one other keeps _; exact keeps)
  have backwards : stamps.Pairwise (flip fun one other =>
      one.clock.uTime < other.clock.uTime -> one.KeepsOrder other) :=
    increasing.imp fun less more => absurd (UInt64.lt_trans less more) (UInt64.lt_irrefl _)
  exact List.Pairwise.forall_of_forall_of_flip
    (fun stamp _ less => absurd less (UInt64.lt_irrefl _)) forwards backwards first second less

theorem listed_of_keepsOrder (ordered : (Stamp.newest stamps).Pairwise Stamp.KeepsOrder) :
    (stamping.run stamps).missionInfoList =
      (((Stamp.newest stamps).filter (·.saved)).map Stamp.stamped).reverse := by
  have times : (((Stamp.newest stamps).filter (·.saved)).map Stamp.stamped).Pairwise
      fun before after => before.missionInfo.time < after.missionInfo.time := by
    refine pairwise_map.mpr (List.Pairwise.filter _ ?_)
    refine ((increasing.sublist (Stamp.newest_sublist stamps)).and ordered).imp ?_
    rintro before after ⟨less, keeps⟩
    exact (getCurrentTime_lt_iff less).mpr keeps
  have distinct : ((((Stamp.newest stamps).filter (·.saved)).map Stamp.stamped).map
      fun info => info.missionInfo.time).Nodup :=
    pairwise_map.mpr (times.imp fun less => less.ne)
  have perm := stamping_perm increasing
  refine List.Perm.eq_of_pairwise (fun one other first second later earlier => ?_)
    (stamping_sound stamps).sorted
    (pairwise_reverse.mpr (times.imp fun less => less.le))
    (perm.trans (reverse_perm _).symm)
  exact inj_on_of_nodup_map distinct (perm.mem_iff.mp first) (mem_reverse.mp second)
    (le_antisymm earlier later)

end

/-- The texts of the last stamps must be ordered as their clock values are: the lists follow the texts. -/
theorem timesKept_iff (increasing : stamps.Pairwise (·.clock.uTime < ·.clock.uTime)) :
    TimesKept stamps ↔ (Stamp.newest stamps).Pairwise Stamp.KeepsOrder := by
  have newest := increasing.sublist (Stamp.newest_sublist stamps)
  constructor
  · intro kept
    refine newest.imp_of_mem fun {earlier later} earlierIn laterIn less => ?_
    let mission (stamp : Stamp) : Mission := ⟨"m", some .STANDARD, getCurrentTime stamp.clock⟩
    have recent := kept.recent [some (mission earlier), some (mission later)] "m" (by decide) (by
      intro shown mem
      rcases (by simpa using mem : shown = mission earlier ∨ shown = mission later) with rfl | rfl
      · exact ⟨earlier, earlierIn, rfl⟩
      · exact ⟨later, laterIn, rfl⟩)
    have latest := getRecentStandardMission_recent [some (mission earlier), some (mission later)]
      (by decide : "m" ≠ "")
    generalize getRecentStandardMission [some (mission earlier), some (mission later)] "m" = found
      at recent latest
    cases found with
    | none => cases recent (mission earlier) (by simp)
    | some result =>
      obtain ⟨mem, -, numeric⟩ := recent
      obtain ⟨-, -, textual⟩ := latest
      rcases (by simpa using mem : result = mission earlier ∨ result = mission later) with
        rfl | rfl
      · have notLess := numeric (mission later) (by simp) rfl later laterIn earlier earlierIn rfl rfl
        exact absurd less (UInt64.not_lt.mpr notLess)
      · have notMore := textual (mission earlier) (by simp) rfl
        have other : getCurrentTime earlier.clock ≠ getCurrentTime later.clock :=
          fun same => UInt64.ne_of_lt less (getCurrentTime_inj.mp same)
        exact (getCurrentTime_lt_iff less).mp (lt_of_le_of_ne notMore other)
  · intro ordered
    refine ⟨listed_of_keepsOrder increasing ordered, fun missions missionName named stamped => ?_⟩
    have latest := getRecentStandardMission_recent missions named
    generalize getRecentStandardMission missions missionName = found at latest
    cases found with
    | none =>
      intro mission mem
      obtain ⟨stamp, -, time⟩ := stamped mission mem
      by_contra standard
      have below := latest mission mem (by simpa using standard)
      exact absurd (time ▸ below) (not_lt.mpr (zero_le_getCurrentTime stamp.clock))
    | some result =>
      obtain ⟨mem, standard, textual⟩ := latest
      refine ⟨mem, standard, fun other otherIn otherStandard stamp stampIn resultStamp resultIn
        otherTime resultTime => ?_⟩
      by_contra more
      have less : resultStamp.clock.uTime < stamp.clock.uTime := UInt64.not_le.mp more
      have later := (getCurrentTime_lt_iff less).mpr
        (keepsOrder_of_lt newest ordered resultIn stampIn less)
      have notLater := textual other otherIn otherStandard
      rw [otherTime, resultTime] at notLater
      exact absurd later (not_lt.mpr notLater)

def note (id : Int) (seconds : Int64) : Stamp where
  info :=
    { missionInfo :=
        { id := id, runningState := 0, lockedState := false, unclearable := false, time := ""
          callToForeground := false }
      missionName := "#note:main:page", specifiedFlag := "", launchMode := .STANDARD
      startMethod := .START_NORMAL, uid := 20010001, isTemporary := false }
  clock := ⟨seconds, 0⟩
  saved := true

theorem notes_timesKept : TimesKept [note 1 10, note 2 11] :=
  (timesKept_iff (by decide +kernel)).mpr (by decide +kernel)

theorem notes_at_ten_seconds :
    [note 1 9, note 2 10].Pairwise (·.clock.uTime < ·.clock.uTime) ∧
      (stamping.run [note 1 9, note 2 10]).missionInfoList.map missionId = [1, 2] ∧
      ¬TimesKept [note 1 9, note 2 10] := by
  have listed : (stamping.run [note 1 9, note 2 10]).missionInfoList.map missionId = [1, 2] := by
    decide +kernel
  refine ⟨by decide +kernel, listed, fun kept => ?_⟩
  rw [kept.listed] at listed
  exact absurd listed (by decide +kernel)

end

end AbilityRuntime.Mission
