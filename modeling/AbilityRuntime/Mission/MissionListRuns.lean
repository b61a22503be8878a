import AbilityRuntime.Library.FirstMatch
import AbilityRuntime.Mission.MissionInfoMgr
import AbilityRuntime.Mission.MissionListMoves

set_option autoImplicit false

namespace AbilityRuntime.Mission.MissionListManager

open List Option Library Machine

def Intact (state : Option MissionListManager) : Prop := ∃ mgr, state = some mgr ∧ mgr.WellFormed

namespace Call

/-- A new list is put on top at once, and only missions of an ordinary list lose those above. -/
def Promised (state : Option MissionListManager) : Call -> Prop
  | .moveMissionToTargetList _ target _ => ∀ mgr, state = some mgr -> target ∈ mgr.allLists
  | .moveMissionToFront _ _ _ => True
  | .moveNoneTopMissionToDefaultList mission => ∀ mgr, state = some mgr ->
      mgr.missionList mission ≠ some .defaultStandardList ∧
        mgr.missionList mission ≠ some .defaultSingleList
  | .moveMissionListToTop _ => True

def OwnLauncher (state : Option MissionListManager) (isCallFromLauncher : Bool) (target : ListRef)
    (mission : Nat) : Prop :=
  isCallFromLauncher = true -> target = .launcherList -> ∀ mgr list, state = some mgr ->
    mgr.missionList mission = some list -> list = .launcherList

def Meets (state : Option MissionListManager) : Call -> Prop
  | .moveMissionToTargetList isCallFromLauncher target mission =>
    OwnLauncher state isCallFromLauncher target mission
  | .moveMissionToFront isCallFromLauncher target mission =>
    OwnLauncher state isCallFromLauncher target mission
  | .moveNoneTopMissionToDefaultList _ => True
  | .moveMissionListToTop _ => True

def brings (mgr : MissionListManager) : Call -> List Nat
  | .moveMissionToTargetList _ _ mission => if mgr.missionList mission = none then [mission] else []
  | .moveMissionToFront _ _ mission => if mgr.missionList mission = none then [mission] else []
  | .moveNoneTopMissionToDefaultList _ => []
  | .moveMissionListToTop _ => []

def OnTop (mgr : MissionListManager) : Call -> Prop
  | .moveMissionToTargetList _ target mission => (mgr.missions target).head? = some mission
  | .moveMissionToFront _ target mission => (mgr.missions target).head? = some mission
  | .moveNoneTopMissionToDefaultList _ => True
  | .moveMissionListToTop _ => True

def Moves (isSingletonAbility : Nat -> Bool) (state : Option MissionListManager) (call : Call) :
    Prop :=
  ∃ before after, state = some before ∧ before.apply isSingletonAbility call = some after ∧
    after.allMissions.Perm (call.brings before ++ before.allMissions) ∧ call.OnTop after

end Call

theorem mem_allLists {mgr : MissionListManager} {list : ListRef} :
    list ∈ mgr.allLists ↔ list = .launcherList ∨ list = .defaultStandardList ∨
      list = .defaultSingleList ∨ list ∈ mgr.currentMissionLists := by
  simp [allLists]

theorem WellFormed.allMissions_nodup {mgr : MissionListManager} (wellFormed : mgr.WellFormed) :
    mgr.allMissions.Nodup := by
  rw [allMissions, nodup_flatMap]
  refine ⟨fun list _ => wellFormed.once list, (nodup_dedup _).imp ?_⟩
  intro left right ne mission here there
  have first := (wellFormed.pointer mission left).mp here
  have second := (wellFormed.pointer mission right).mp there
  exact ne (some.inj (first.symm.trans second))

theorem WellFormed.mem_allMissions {mgr : MissionListManager} (wellFormed : mgr.WellFormed)
    (mission : Nat) : mission ∈ mgr.allMissions ↔ (mgr.missionList mission).isSome = true := by
  rw [allMissions, mem_flatMap, isSome_iff_exists]
  constructor
  · rintro ⟨list, -, mem⟩
    exact ⟨list, (wellFormed.pointer mission list).mp mem⟩
  · rintro ⟨list, pointer⟩
    have mem := (wellFormed.pointer mission list).mpr pointer
    exact ⟨list, wellFormed.known list (ne_nil_of_mem mem), mem⟩

theorem WellFormed.allMissions_kept {before after : MissionListManager}
    (first : before.WellFormed) (second : after.WellFormed)
    (kept : ∀ other : Nat, (after.missionList other).isSome = (before.missionList other).isSome) :
    after.allMissions.Perm before.allMissions := by
  rw [perm_ext_iff_of_nodup second.allMissions_nodup first.allMissions_nodup]
  intro mission
  rw [second.mem_allMissions, first.mem_allMissions, kept]

theorem WellFormed.allMissions_moved {before after : MissionListManager}
    (first : before.WellFormed) (second : after.WellFormed) {mission : Nat}
    (kept : ∀ other : Nat, (after.missionList other).isSome =
      ((before.missionList other).isSome || other == mission)) :
    after.allMissions.Perm
      ((if before.missionList mission = none then [mission] else []) ++ before.allMissions) := by
  split
  next new =>
    have absent : mission ∉ before.allMissions := by
      rw [first.mem_allMissions, new]
      simp
    have nodup : ([mission] ++ before.allMissions).Nodup :=
      nodup_cons.mpr ⟨absent, first.allMissions_nodup⟩
    rw [perm_ext_iff_of_nodup second.allMissions_nodup nodup]
    intro other
    rw [second.mem_allMissions, kept, singleton_append, mem_cons, first.mem_allMissions]
    simp [or_comm]
  next own =>
    refine first.allMissions_kept second ?_
    intro other
    rw [kept]
    by_cases same : other = mission
    · simp [same, isSome_iff_ne_none.mpr own]
    · simp [same]

section

variable {isSingletonAbility : Nat -> Bool}

variable {list place : ListRef} {mission : Nat}

theorem Moved.stays {before after : MissionListManager} (moved : Moved before after list mission)
    (mem : place ∈ before.allLists)
    (used : after.missions place ≠ []) : place ∈ after.allLists := by
  rw [mem_allLists] at mem ⊢
  rcases mem with launcher | standard | single | current
  · exact .inl launcher
  · exact .inr (.inl standard)
  · exact .inr (.inr (.inl single))
  · exact .inr (.inr (.inr (moved.current place current used)))

theorem Moved.known {before after : MissionListManager} (wellFormed : before.WellFormed)
    (moved : Moved before after list mission)
    (used : after.missions place ≠ []) : place ∈ after.allLists ∨ place = list := by
  rcases moved.lists place used with earlier | here | standard | single
  · exact .inl (moved.stays (wellFormed.known place earlier) used)
  · exact .inr here
  · exact .inl (mem_allLists.mpr (.inr (.inl standard)))
  · exact .inl (mem_allLists.mpr (.inr (.inr (.inl single))))

variable {mgr : MissionListManager}

theorem mem_moveMissionListToTop :
    place ∈ (mgr.moveMissionListToTop list).currentMissionLists ↔
      place ∈ mgr.currentMissionLists ∨ place = list := by
  simp only [moveMissionListToTop]
  split
  next top =>
    have mem := mem_of_mem_head? (mem_def.mpr top)
    constructor
    · exact .inl
    · rintro (current | rfl) <;> assumption
  · by_cases same : place = list
    · simp [same]
    · simp [same]

theorem moveMissionListToTop_missions (mgr : MissionListManager) (list : ListRef) :
    (mgr.moveMissionListToTop list).missions = mgr.missions ∧
      (mgr.moveMissionListToTop list).missionList = mgr.missionList := by
  simp only [moveMissionListToTop]
  split <;> exact ⟨rfl, rfl⟩

theorem mem_allLists_top (mem : place ∈ mgr.allLists ∨ place = list) :
    place ∈ (mgr.moveMissionListToTop list).allLists := by
  rw [mem_allLists, mem_moveMissionListToTop]
  rcases mem with known | here
  · rcases mem_allLists.mp known with launcher | standard | single | current
    · exact .inl launcher
    · exact .inr (.inl standard)
    · exact .inr (.inr (.inl single))
    · exact .inr (.inr (.inr (.inl current)))
  · exact .inr (.inr (.inr (.inr here)))

theorem moveMissionListToTop_wellFormed (placed : mgr.Placed) (list : ListRef)
    (known : ∀ place, mgr.missions place ≠ [] -> place ∈ mgr.allLists ∨ place = list) :
    (mgr.moveMissionListToTop list).WellFormed := by
  obtain ⟨missions, pointers⟩ := moveMissionListToTop_missions mgr list
  refine ⟨⟨?_, ?_⟩, ?_⟩
  · intro mission place; rw [missions, pointers]; exact placed.pointer mission place
  · intro place; rw [missions]; exact placed.once place
  · intro place used
    rw [missions] at used
    exact mem_allLists_top (known place used)

section

variable (wellFormed : mgr.WellFormed)
include wellFormed

theorem moveMissionToTargetList_step {isCallFromLauncher : Bool} {target : ListRef}
    (known : target ∈ mgr.allLists)
    (own : Call.OwnLauncher (some mgr) isCallFromLauncher target mission) :
    ∃ after, mgr.moveMissionToTargetList isSingletonAbility isCallFromLauncher target mission =
        some after ∧ after.WellFormed ∧
      after.allMissions.Perm
        ((if mgr.missionList mission = none then [mission] else []) ++ mgr.allMissions) ∧
      (after.missions target).head? = some mission := by
  obtain ⟨after, step, moved⟩ := moveMissionToTargetList_moved isSingletonAbility wellFormed.toPlaced
    fun launcher same list pointer => own launcher same mgr list rfl pointer
  have next : after.WellFormed := by
    refine ⟨moved.placed, ?_⟩
    intro place used
    rcases moved.known wellFormed used with listed | rfl
    · exact listed
    · exact moved.stays known used
  exact ⟨after, step, next, wellFormed.allMissions_moved next moved.kept, moved.top⟩

theorem moveMissionToFront_step {isCallFromLauncher : Bool} {target : ListRef}
    (own : Call.OwnLauncher (some mgr) isCallFromLauncher target mission) :
    ∃ after, mgr.moveMissionToFront isSingletonAbility isCallFromLauncher target mission =
        some after ∧ after.WellFormed ∧
      after.allMissions.Perm
        ((if mgr.missionList mission = none then [mission] else []) ++ mgr.allMissions) ∧
      (after.missions target).head? = some mission := by
  obtain ⟨moving, step, moved⟩ := moveMissionToTargetList_moved isSingletonAbility wellFormed.toPlaced
    fun launcher same list pointer => own launcher same mgr list rfl pointer
  obtain ⟨missions, pointers⟩ := moveMissionListToTop_missions moving target
  have next := moveMissionListToTop_wellFormed moved.placed target
    fun place used => moved.known wellFormed used
  refine ⟨moving.moveMissionListToTop target, by simp [moveMissionToFront, step], next, ?_, ?_⟩
  · apply wellFormed.allMissions_moved next
    intro other
    rw [pointers, moved.kept]
  · rw [missions, moved.top]

theorem moveNoneTop_step (ordinary : mgr.missionList mission ≠ some .defaultStandardList ∧
      mgr.missionList mission ≠ some .defaultSingleList) :
    ∃ after, mgr.moveNoneTopMissionToDefaultList isSingletonAbility mission = some after ∧
      after.WellFormed ∧ after.allMissions.Perm mgr.allMissions := by
  cases own : mgr.missionList mission with
  | none =>
    exact ⟨mgr, by simp [moveNoneTopMissionToDefaultList, own], wellFormed, List.Perm.refl _⟩
  | some list =>
    rw [own] at ordinary
    obtain ⟨after, step, popped⟩ := moveNoneTop_popped isSingletonAbility wellFormed.toPlaced own
      (fun same => ordinary.1 (congrArg some same)) (fun same => ordinary.2 (congrArg some same))
    have next : after.WellFormed := by
      refine ⟨popped.placed, ?_⟩
      intro place used
      rw [mem_allLists, popped.current, <- mem_allLists]
      rcases popped.lists place used with before | standard | single
      · exact wellFormed.known place before
      · exact mem_allLists.mpr (.inr (.inl standard))
      · exact mem_allLists.mpr (.inr (.inr (.inl single)))
    exact ⟨after, step, next, wellFormed.allMissions_kept next popped.kept⟩

theorem apply_step (call : Call) (promised : call.Promised (some mgr))
    (meets : call.Meets (some mgr)) :
    ∃ after, mgr.apply isSingletonAbility call = some after ∧ after.WellFormed ∧
      after.allMissions.Perm (call.brings mgr ++ mgr.allMissions) ∧ call.OnTop after := by
  cases call with
  | moveMissionToTargetList isCallFromLauncher target mission =>
    exact moveMissionToTargetList_step wellFormed (promised mgr rfl) meets
  | moveMissionToFront isCallFromLauncher target mission =>
    exact moveMissionToFront_step wellFormed meets
  | moveNoneTopMissionToDefaultList mission =>
    obtain ⟨after, step, next, kept⟩ := moveNoneTop_step wellFormed (promised mgr rfl)
    exact ⟨after, step, next, kept, trivial⟩
  | moveMissionListToTop list =>
    have next := moveMissionListToTop_wellFormed wellFormed.toPlaced list
      fun place used => .inl (wellFormed.known place used)
    obtain ⟨-, pointers⟩ := moveMissionListToTop_missions mgr list
    refine ⟨_, rfl, next, wellFormed.allMissions_kept next ?_, trivial⟩
    intro other
    rw [pointers]

end

theorem launcher_call_leaves (isSingletonAbility : Nat -> Bool) (placed : mgr.Placed)
    (own : mgr.missionList mission = some list) (other : list ≠ .launcherList) :
    mgr.moveMissionToTargetList isSingletonAbility true .launcherList mission =
        some (mgr.addMissionToTop .launcherList mission) ∧
      ¬ (mgr.addMissionToTop .launcherList mission).Placed := by
  refine ⟨by simp [moveMissionToTargetList, own], ?_⟩
  intro after
  have absent : mission ∉ mgr.missions .launcherList := by
    intro mem
    have pointer := (placed.pointer mission .launcherList).mp mem
    exact other (some.inj (own.symm.trans pointer))
  have top : (mgr.missions .launcherList).head? ≠ some mission :=
    fun head => absent (mem_of_mem_head? head)
  have left : mission ∈ (mgr.addMissionToTop .launcherList mission).missions list := by
    simpa [addMissionToTop, top, other] using (placed.pointer mission list).mpr own
  have pointer := (after.pointer mission list).mp left
  simp [addMissionToTop, top, Ne.symm other] at pointer

theorem apply_meets (wellFormed : mgr.WellFormed) (call : Call)
    (intact : Intact (mgr.apply isSingletonAbility call)) : call.Meets (some mgr) := by
  obtain ⟨after, step, next⟩ := intact
  cases call with
  | moveMissionToTargetList isCallFromLauncher target mission =>
    rintro rfl rfl _ list ⟨⟩ own
    by_contra other
    obtain ⟨reached, broken⟩ :=
      launcher_call_leaves isSingletonAbility wellFormed.toPlaced own other
    rw [apply, reached] at step
    cases step
    exact broken next.toPlaced
  | moveMissionToFront isCallFromLauncher target mission =>
    rintro rfl rfl _ list ⟨⟩ own
    by_contra other
    obtain ⟨reached, broken⟩ :=
      launcher_call_leaves isSingletonAbility wellFormed.toPlaced own other
    simp only [apply, moveMissionToFront, reached] at step
    cases step
    obtain ⟨missions, pointers⟩ := moveMissionListToTop_missions
      (mgr.addMissionToTop .launcherList mission) .launcherList
    exact broken ⟨missions ▸ pointers ▸ next.pointer, missions ▸ next.once⟩
  | moveNoneTopMissionToDefaultList mission => trivial
  | moveMissionListToTop list => trivial

end

theorem run_intact_iff (isSingletonAbility : Nat -> Bool) (start : MissionListManager)
    (wellFormed : start.WellFormed) (calls : List Call)
    (promised : (machine isSingletonAbility start).EveryStep calls fun state call =>
      call.Promised state) :
    ((machine isSingletonAbility start).Throughout calls Intact ∧
        (machine isSingletonAbility start).EveryStep calls fun state call =>
          call.Moves isSingletonAbility state) ↔
      (machine isSingletonAbility start).EveryStep calls fun state call => call.Meets state := by
  have exactly : (machine isSingletonAbility start).Throughout calls Intact ↔
      (machine isSingletonAbility start).EveryStep calls fun state call => call.Meets state := by
    have initial : Intact (machine isSingletonAbility start).start := ⟨start, rfl, wellFormed⟩
    refine throughout_iff_everyStep initial ?_ ?_ ?_ promised
    · rintro _ call ⟨mgr, rfl, before⟩ promise meets
      obtain ⟨after, step, next, -⟩ := apply_step before call promise meets
      exact ⟨after, step, next⟩
    · exact fun _ intact => intact
    · rintro _ call ⟨mgr, rfl, before⟩ - intact
      exact apply_meets before call intact
  constructor
  · exact fun both => exactly.mp both.1
  · intro meets
    have throughout := exactly.mpr meets
    refine ⟨throughout, ?_⟩
    intro done call rest split
    obtain ⟨mgr, reached, before⟩ := throughout done (call :: rest) split
    have promise := promised done call rest split
    have met := meets done call rest split
    rw [reached] at promise met
    obtain ⟨after, step, -, kept, top⟩ := apply_step before call promise met
    exact ⟨mgr, after, reached, step, kept, top⟩

theorem initial_wellFormed : initial.WellFormed := by
  refine ⟨⟨?_, ?_⟩, ?_⟩ <;> simp [initial]

def calledMission : MissionListManager := initial.addMissionToTop .defaultSingleList 5

theorem calledMission_wellFormed : calledMission.WellFormed := by
  have ready : initial.Ready .defaultSingleList 5 := initial_wellFormed.toPlaced.ready_new rfl _
  refine ⟨addMissionToTop_placed ready, ?_⟩
  intro list used
  rcases addMissionToTop_lists used with before | rfl
  · exact absurd rfl before
  · decide

theorem launcher_call_duplicates :
    calledMission.WellFormed ∧
      (machine (fun _ => true) calledMission).EveryStep [.moveMissionToFront true .launcherList 5]
        (fun state call => call.Promised state) ∧
      ¬ (machine (fun _ => true) calledMission).Throughout
        [.moveMissionToFront true .launcherList 5] Intact := by
  refine ⟨calledMission_wellFormed, StepsFrom.everyStep ⟨trivial, trivial⟩, ?_⟩
  intro throughout
  obtain ⟨mgr, reached, wellFormed⟩ := throughout _ [] (List.append_nil _).symm
  cases reached
  have pointer := (wellFormed.pointer 5 .defaultSingleList).mp (by decide)
  exact absurd pointer (by decide)

theorem run_intact_iff_new_list :
    (machine (fun _ => false) initial).Throughout
      [.moveMissionToFront false (.current 0) 1, .moveMissionToFront false (.current 0) 2,
        .moveMissionToFront true (.current 1) 1, .moveMissionListToTop .launcherList] Intact := by
  refine ((run_intact_iff (fun _ => false) initial initial_wellFormed _ ?_).mpr ?_).1
  · apply StepsFrom.everyStep
    exact ⟨trivial, trivial, trivial, trivial, trivial⟩
  · apply StepsFrom.everyStep
    refine ⟨?_, ?_, ?_, trivial, trivial⟩
    · rintro ⟨⟩
    · rintro ⟨⟩
    · rintro - ⟨⟩

end AbilityRuntime.Mission.MissionListManager

namespace AbilityRuntime.Mission

/-! ### Starts that are abandoned -/

inductive AbilityCallType where
  | INVALID_TYPE
  | CALL_REQUEST_TYPE
  | other

def callType2StartMethod : AbilityCallType -> StartMethod
  | .INVALID_TYPE => .START_NORMAL
  | .CALL_REQUEST_TYPE => .START_CALL
  | .other => .unnamed (-1)

structure TargetRecord where
  isTerminating : Bool
  isPending : Bool
  isLoading : Bool
  isBackground : Bool

structure TargetMission where
  missionId : Int
  abilityRecord : Option TargetRecord
  startMethod : StartMethod
  missionTime : String

structure CallerAbility where
  isLauncherAbility : Bool
  missionId : Int

inductive StartResult where
  | ERR_INVALID_CALLER
  | ERR_REACH_UPPER_LIMIT
  | ERR_INVALID_VALUE
  | ERR_OK
  | GET_TARGET_MISSION_OVER
deriving DecidableEq

structure StartRequest where
  callerAbility : Option CallerAbility
  isLauncherApp : Bool
  launchMode : LaunchMode
  startRecent : Bool
  missionName : String
  specifiedFlag : String
  callType : AbilityCallType
  callToForeground : Bool
  unclearable : Bool
  isTemporary : Bool
  excludeFromMissions : Bool
  uid : Int
  currentTime : String
  saved : Bool
  newMission : Nat
  isSingletonAbility : Nat -> Bool
  getReusedMission : MissionListManager -> Option Nat
  terminateAbilityInner : MissionListManager -> Nat -> MissionListManager

/-- The books at the call; newList is the list that make_shared would give. -/
structure Books where
  lists : MissionListManager
  infos : MissionInfoMgr
  mission : Nat -> TargetMission
  newList : Nat
  empty : lists.missions (.current newList) = []
  unowned : ∀ mission, lists.missionList mission ≠ some (.current newList)

structure Ended where
  lists : Option MissionListManager
  infos : MissionInfoMgr
  result : StartResult

def MAX_INSTANCE_COUNT : Nat := 512

def MissionListManager.release (lists : MissionListManager) (list : ListRef) : MissionListManager :=
  { lists with
    missions := Function.update lists.missions list []
    missionList := fun mission => (lists.missionList mission).filter (· ≠ list) }

def MissionInfoMgr.getInnerMissionInfoById (infos : MissionInfoMgr) (missionId : Int) :
    Option InnerMissionInfo :=
  if infos.missionIdMap.contains missionId then
    infos.missionInfoList.find? fun item => item.missionInfo.id == missionId
  else none

namespace Books

variable (books : Books)

def getMissionById (missionId : Int) : Option Nat :=
  let lists := books.lists.currentMissionLists ++
    [ListRef.defaultSingleList, .launcherList, .defaultStandardList]
  (lists.flatMap books.lists.missions).find? fun mission =>
    (books.mission mission).missionId == missionId

def earlier (target : Option Nat) (mission : Nat) : Option Nat :=
  match (books.mission mission).abilityRecord with
  | none => target
  | some record =>
    if !record.isBackground || target.any fun target =>
        (books.mission target).missionTime < (books.mission mission).missionTime then target
    else some mission

def countedLists (lists : MissionListManager) : List Nat :=
  (lists.currentMissionLists ++ [ListRef.defaultStandardList, .defaultSingleList]).flatMap
    lists.missions

def findEarliestMission (lists : MissionListManager) : Option Nat :=
  (countedLists lists).foldl books.earlier none

variable (request : StartRequest)

-- TerminateAbilityInner fails only for a mission without a record.
def checkLimit (lists : MissionListManager) : MissionListManager × Bool :=
  if (countedLists lists).length < MAX_INSTANCE_COUNT then (lists, false)
  else
    match books.findEarliestMission lists with
    | none => (lists, false)
    | some earliest =>
      if (books.mission earliest).abilityRecord.isNone then (lists, true)
      else (request.terminateAbilityInner lists earliest, false)

def getTargetMissionListByLauncher : ListRef :=
  match (request.getReusedMission books.lists).bind books.lists.missionList with
  | none => .current books.newList
  | some list =>
    if list ≠ .defaultSingleList ∧ list ≠ .defaultStandardList then list
    else .current books.newList

def getTargetMissionListByDefault (caller : CallerAbility) :
    Option (MissionListManager × ListRef) := do
  let callerMission <- books.getMissionById caller.missionId
  let callerList <- books.lists.missionList callerMission
  if callerList ≠ .defaultStandardList ∧ callerList ≠ .defaultSingleList then
    some (books.lists, callerList)
  else
    some ((books.lists.removeMission callerList callerMission).addMissionToTop
      (.current books.newList) callerMission, .current books.newList)

def getTargetMissionList : Option (MissionListManager × ListRef) :=
  if request.isLauncherApp then some (books.lists, .launcherList)
  else
    match request.callerAbility with
    | none => some (books.lists, .current books.newList)
    | some caller =>
      if caller.isLauncherAbility then
        some (books.lists, books.getTargetMissionListByLauncher request)
      else books.getTargetMissionListByDefault caller

def restamped (info : InnerMissionInfo) : InnerMissionInfo :=
  { info with
    missionInfo := { info.missionInfo with time := request.currentTime, runningState := 0 }
    startMethod := callType2StartMethod request.callType }

def needsUpdate (mission : TargetMission) : Prop :=
  mission.startMethod = .START_CALL ∧
    (callType2StartMethod request.callType ≠ .START_CALL ∨ request.callToForeground = true)

instance (mission : TargetMission) : Decidable (needsUpdate request mission) :=
  inferInstanceAs (Decidable (_ ∧ _))

def handleReusedMission (mission : TargetMission) : MissionInfoMgr :=
  if needsUpdate request mission then
    match books.infos.getInnerMissionInfoById mission.missionId with
    | none => books.infos
    | some info => (books.infos.updateMissionInfo (restamped request info) request.saved).1
  else books.infos

def checkTarget : Option TargetRecord -> StartResult
  | none => .ERR_INVALID_VALUE
  | some record =>
    if record.isTerminating then .ERR_INVALID_VALUE
    else if record.isPending || record.isLoading then .ERR_OK
    else .GET_TARGET_MISSION_OVER

def isFindRecentStandard : Bool := request.launchMode == .STANDARD && request.startRecent

def foundMissionInfo : Option InnerMissionInfo :=
  if request.launchMode ≠ .STANDARD ∨ isFindRecentStandard request = true then
    books.infos.findReusedMissionInfo request.missionName request.specifiedFlag
      (isFindRecentStandard request)
  else none

def reusedMissionInfo : Option InnerMissionInfo :=
  (books.foundMissionInfo request).filter (0 < ·.missionInfo.id)

def buildInnerMissionInfo (id : Int) : InnerMissionInfo where
  missionInfo :=
    { id
      runningState := 0
      lockedState := (books.foundMissionInfo request).any (·.missionInfo.lockedState)
      unclearable := request.unclearable
      time := request.currentTime
      callToForeground := request.callToForeground }
  missionName := request.missionName
  specifiedFlag := request.specifiedFlag
  launchMode := request.launchMode
  startMethod := callType2StartMethod request.callType
  uid := request.uid
  isTemporary := request.isTemporary

def makeMission (lists : MissionListManager) (infos : MissionInfoMgr) (id : Int) (reused : Bool) :
    MissionListManager × MissionInfoMgr × StartResult :=
  let (lists, isReachToLimit) := books.checkLimit request lists
  let info := books.buildInnerMissionInfo request id
  if isReachToLimit then (lists, infos, .ERR_REACH_UPPER_LIMIT)
  else if request.excludeFromMissions then (lists, infos, .GET_TARGET_MISSION_OVER)
  else if reused then
    (lists, (infos.updateMissionInfo info request.saved).1, .GET_TARGET_MISSION_OVER)
  else (lists, (infos.addMissionInfo info request.saved).1, .GET_TARGET_MISSION_OVER)

def getTargetMission (lists : MissionListManager) :
    (MissionListManager × MissionInfoMgr × StartResult) × Nat :=
  match request.getReusedMission lists with
  | some mission =>
    ((lists, books.handleReusedMission request (books.mission mission),
      checkTarget (books.mission mission).abilityRecord), mission)
  | none =>
    (match books.reusedMissionInfo request with
      | some info => books.makeMission request lists books.infos info.missionInfo.id true
      | none =>
        match books.infos.generateMissionId with
        | (infos, none) => (lists, infos, .ERR_INVALID_VALUE)
        | (infos, some id) => books.makeMission request lists infos id false, request.newMission)

def startAbilityLocked : Ended :=
  match books.getTargetMissionList request with
  | none => ⟨some books.lists, books.infos, .ERR_INVALID_CALLER⟩
  | some (lists, targetList) =>
    match books.getTargetMission request lists with
    | ((lists, infos, result), mission) =>
      if result ≠ .GET_TARGET_MISSION_OVER then
        ⟨some (lists.release (.current books.newList)), infos, result⟩
      else
        ⟨lists.moveMissionToFront request.isSingletonAbility
          (request.callerAbility.any (·.isLauncherAbility)) targetList mission, infos, result⟩

/-- The lists, the pointers to them, the ids and the infos are as before. -/
def Untouched (ended : Ended) : Prop :=
  ended.lists = some books.lists ∧ ended.infos.missionIdMap = books.infos.missionIdMap ∧
    ended.infos.missionInfoList = books.infos.missionInfoList

def MovesCaller : Prop :=
  request.isLauncherApp = false ∧ ∃ caller mission, request.callerAbility = some caller ∧
    caller.isLauncherAbility = false ∧ books.getMissionById caller.missionId = some mission ∧
    (books.lists.missionList mission = some .defaultStandardList ∨
      books.lists.missionList mission = some .defaultSingleList)

def Restamps (mission : Nat) : Prop :=
  needsUpdate request (books.mission mission) ∧ ∃ info,
    books.infos.missionIdMap[(books.mission mission).missionId]? = some true ∧
    books.infos.getInnerMissionInfoById (books.mission mission).missionId = some info ∧
    restamped request info ≠ info

def Starts (lists : MissionListManager) : Prop :=
  match request.getReusedMission lists with
  | some mission => checkTarget (books.mission mission).abilityRecord = .GET_TARGET_MISSION_OVER
  | none =>
    (books.reusedMissionInfo request).isSome = true ∨ books.infos.generateMissionId.2.isSome = true

variable {books request}

theorem release_new : books.lists.release (.current books.newList) = books.lists := by
  have missions : Function.update books.lists.missions (.current books.newList) [] =
      books.lists.missions := by
    rw [<- books.empty, Function.update_eq_self]
  have pointers : (fun mission => (books.lists.missionList mission).filter
      (· ≠ .current books.newList)) = books.lists.missionList := by
    funext mission
    have other := books.unowned mission
    cases owner : books.lists.missionList mission with
    | none => rfl
    | some list => simp_all
  rw [MissionListManager.release, missions, pointers]

theorem findEarliest_record {lists : MissionListManager} {earliest : Nat}
    (found : books.findEarliestMission lists = some earliest) :
    (books.mission earliest).abilityRecord.isNone = false := by
  have kept : ∀ (missions : List Nat) (target : Option Nat),
      (∀ mission ∈ target, (books.mission mission).abilityRecord.isNone = false) ->
      ∀ mission ∈ missions.foldl books.earlier target,
        (books.mission mission).abilityRecord.isNone = false := by
    intro missions
    induction missions with
    | nil => exact fun _ known => known
    | cons first rest ih =>
      refine fun target known => ih _ ?_
      unfold earlier
      split
      · exact known
      next record listed =>
        split
        · exact known
        · rintro _ ⟨⟩
          rw [listed]
          rfl
  exact kept _ none (by simp) earliest found

theorem checkLimit_open (lists : MissionListManager) : (books.checkLimit request lists).2 = false := by
  unfold checkLimit
  split
  · rfl
  split
  · rfl
  next earliest found => rw [if_neg (by simp [findEarliest_record found])]

theorem makeMission_over (lists : MissionListManager) (infos : MissionInfoMgr) (id : Int)
    (reused : Bool) :
    (books.makeMission request lists infos id reused).2.2 = .GET_TARGET_MISSION_OVER := by
  simp only [makeMission, checkLimit_open, Bool.false_eq_true, if_false]
  split
  · rfl
  · split <;> rfl

theorem getTargetMission_over (lists : MissionListManager) :
    (books.getTargetMission request lists).1.2.2 = .GET_TARGET_MISSION_OVER ↔
      books.Starts request lists := by
  unfold getTargetMission Starts
  cases request.getReusedMission lists with
  | some mission => rfl
  | none =>
    cases books.reusedMissionInfo request with
    | some info => simp [makeMission_over]
    | none =>
      rcases books.infos.generateMissionId with ⟨infos, _ | id⟩ <;> simp [makeMission_over]

theorem generateMissionId_none {infos : MissionInfoMgr}
    (none : infos.generateMissionId.2 = none) :
    infos.generateMissionId.1.missionIdMap = infos.missionIdMap ∧
      infos.generateMissionId.1.missionInfoList = infos.missionInfoList := by
  unfold MissionInfoMgr.generateMissionId at none ⊢
  dsimp only at none ⊢
  split at none
  · cases none
  · exact ⟨rfl, rfl⟩

theorem updateMissionInfo_same {infos : MissionInfoMgr} {old info : InnerMissionInfo} {saved : Bool}
    (known : infos.missionIdMap[info.missionInfo.id]? = some true)
    (found : (infos.missionInfoList.find? fun item => item.missionInfo.id == info.missionInfo.id) =
      some old) :
    ((infos.updateMissionInfo info saved).1.missionIdMap = infos.missionIdMap ∧
      (infos.updateMissionInfo info saved).1.missionInfoList = infos.missionInfoList) ↔
      info = old := by
  unfold MissionInfoMgr.updateMissionInfo
  rw [if_neg (not_not_intro known), found]
  dsimp only
  by_cases sameTime : info.missionInfo.time = old.missionInfo.time
  · rw [if_pos sameTime]
    have replaced := @Library.replaceF_eq_self _ _ _ old (fun _ => info) found
    simpa using replaced
  rw [if_neg sameTime]
  refine iff_of_false ?_ fun same => sameTime (by rw [same])
  rintro ⟨ids, list⟩
  cases saved with
  | false =>
    have erased := congrArg (·[info.missionInfo.id]?) ids
    simp [MissionInfoMgr.addMissionInfo, known] at erased
  | true =>
    simp only [MissionInfoMgr.addMissionInfo, Std.ExtTreeMap.getElem?_erase_self, reduceCtorEq,
      if_false, Bool.not_true, Bool.false_eq_true] at list
    have inserted := (List.perm_orderedInsert _ info _).symm.trans
      (.trans (.of_eq list) (Library.perm_cons_eraseP found))
    have counts := inserted.count_eq old
    have other : info ≠ old := fun same => sameTime (by rw [same])
    rw [List.count_cons_of_ne other, List.count_cons_self] at counts
    omega

theorem handleReused_same (mission : Nat) :
    ((books.handleReusedMission request (books.mission mission)).missionIdMap =
        books.infos.missionIdMap ∧
      (books.handleReusedMission request (books.mission mission)).missionInfoList =
        books.infos.missionInfoList) ↔ ¬books.Restamps request mission := by
  unfold handleReusedMission Restamps
  by_cases needed : needsUpdate request (books.mission mission)
  case neg => simp [needed]
  cases found : books.infos.getInnerMissionInfoById (books.mission mission).missionId with
  | none => simp [needed]
  | some info =>
    have listed := found
    unfold MissionInfoMgr.getInnerMissionInfoById at listed
    split at listed
    case isFalse => cases listed
    have same : info.missionInfo.id = (books.mission mission).missionId := by
      simpa using List.find?_some listed
    simp only [needed, if_true, true_and, Option.some.injEq]
    by_cases known : books.infos.missionIdMap[(books.mission mission).missionId]? = some true
    · rw [@updateMissionInfo_same _ info _ _ (by simpa [restamped, same] using known)
        (by simpa [restamped, same] using listed)]
      simp [known]
    · have unknown : books.infos.missionIdMap[(restamped request info).missionInfo.id]? ≠ some true := by
        simpa [restamped, same] using known
      simp [MissionInfoMgr.updateMissionInfo, unknown, known]

theorem getTargetMission_abandoned {lists : MissionListManager}
    (abandoned : ¬books.Starts request lists) :
    (books.getTargetMission request lists).1.1 = lists ∧
      (((books.getTargetMission request lists).1.2.1.missionIdMap = books.infos.missionIdMap ∧
        (books.getTargetMission request lists).1.2.1.missionInfoList =
          books.infos.missionInfoList) ↔
        ∀ mission, request.getReusedMission lists = some mission ->
          ¬books.Restamps request mission) := by
  unfold Starts at abandoned
  unfold getTargetMission
  cases reused : request.getReusedMission lists with
  | some mission => simp [handleReused_same]
  | none =>
    simp only [reused, not_or, Option.not_isSome_iff_eq_none] at abandoned
    have kept := generateMissionId_none abandoned.2
    rcases generated : books.infos.generateMissionId with ⟨infos, id⟩
    obtain rfl : id = none := by rw [generated] at abandoned; exact abandoned.2
    rw [generated] at kept
    simpa [abandoned.1] using kept

theorem getTargetMissionList_same {lists : MissionListManager} {targetList : ListRef}
    (chosen : books.getTargetMissionList request = some (lists, targetList)) :
    lists.release (.current books.newList) = books.lists ↔ ¬books.MovesCaller request := by
  unfold getTargetMissionList at chosen
  unfold MovesCaller
  split at chosen
  next launcher =>
    cases chosen
    simp [release_new, launcher]
  next plain =>
    split at chosen
    next none =>
      cases chosen
      simp [release_new, none]
    next caller calls =>
      split at chosen
      next launcher =>
        cases chosen
        simp [release_new, calls, launcher]
      next other =>
        simp only [getTargetMissionListByDefault, Option.bind_eq_bind,
          Option.bind_eq_some_iff] at chosen
        obtain ⟨callerMission, found, callerList, owned, chosen⟩ := chosen
        split at chosen
        next valid =>
          cases chosen
          simp [release_new, plain, calls, other, found, owned, valid]
        next default =>
          cases chosen
          refine iff_of_false (fun same => ?_) (not_not_intro ⟨by simpa using plain, caller,
            callerMission, calls, by simpa using other, found, ?_⟩)
          · have pointer := congrArg (·.missionList callerMission) same
            have top : (books.lists.removeMission callerList callerMission).missions
                (.current books.newList) = [] := by
              have apart : ListRef.current books.newList ≠ callerList :=
                fun same => books.unowned callerMission (same ▸ owned)
              exact (Function.update_of_ne apart _ _).trans books.empty
            simp only [MissionListManager.release, MissionListManager.addMissionToTop, top] at pointer
            simp [owned] at pointer
            exact pointer.2 pointer.1.symm
          · simp only [not_and_or, not_not] at default
            exact default.imp (owned.trans ∘ congrArg some) (owned.trans ∘ congrArg some)

/-- An abandoned start leaves the books as they were, unless it moved its caller or stamped a mission. -/
theorem abandoned_untouched_iff (books : Books) (request : StartRequest) :
    ((books.startAbilityLocked request).result ≠ .GET_TARGET_MISSION_OVER ->
      books.Untouched (books.startAbilityLocked request)) ↔
    ∀ choice ∈ books.getTargetMissionList request, books.Starts request choice.1 ∨
      (¬books.MovesCaller request ∧ ∀ mission, request.getReusedMission choice.1 = some mission ->
        ¬books.Restamps request mission) := by
  unfold startAbilityLocked
  cases chosen : books.getTargetMissionList request with
  | none => simp [Untouched]
  | some choice =>
    obtain ⟨lists, targetList⟩ := choice
    have moved := getTargetMissionList_same chosen
    have past := @getTargetMission_over books request lists
    simp only [Option.mem_def, Option.some.injEq, forall_eq']
    by_cases starts : books.Starts request lists
    · simp [past.mpr starts, starts]
    · have result := mt past.mp starts
      obtain ⟨kept, infos⟩ := getTargetMission_abandoned starts
      simp only [result, ne_eq, not_false_eq_true, if_true, forall_const, starts, false_or,
        Untouched, kept, Option.some.injEq]
      rw [moved, infos]

def callerInDefault : Books where
  lists :=
    { missions := Function.update (Function.update (fun _ => []) .defaultSingleList [2])
        .defaultStandardList [1]
      missionList := fun mission => if mission = 1 then some .defaultStandardList
        else if mission = 2 then some .defaultSingleList else none
      currentMissionLists := [.launcherList] }
  infos := {}
  mission mission := ⟨mission, some ⟨false, mission = 2, false, false⟩, .START_NORMAL, "1"⟩
  newList := 0
  empty := rfl
  unowned mission := by dsimp only; split_ifs <;> simp

def startSingle : StartRequest where
  callerAbility := some ⟨false, 1⟩
  isLauncherApp := false
  launchMode := .SINGLETON
  startRecent := false
  missionName := "#notes:entry:Main"
  specifiedFlag := ""
  callType := .INVALID_TYPE
  callToForeground := false
  unclearable := false
  isTemporary := false
  excludeFromMissions := false
  uid := 100
  currentTime := "2"
  saved := true
  newMission := 3
  isSingletonAbility _ := true
  getReusedMission _ := some 2
  terminateAbilityInner lists _ := lists

theorem abandoned_start_loses_caller :
    (callerInDefault.startAbilityLocked startSingle).result = .ERR_OK ∧
      ¬callerInDefault.Untouched (callerInDefault.startAbilityLocked startSingle) := by
  refine ⟨rfl, fun untouched => ?_⟩
  have pointer := congrArg (fun lists => lists.bind (·.missionList 1)) untouched.1
  cases pointer

end Books

end AbilityRuntime.Mission
