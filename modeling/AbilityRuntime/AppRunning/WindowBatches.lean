import AbilityRuntime.AppRunning.AppRunningRecord

set_option autoImplicit false

namespace AbilityRuntime.AppRunning

open Library KeyedMap Option List AppRunningRecord

abbrev Batch := List (Option (Int × WindowVisibilityInfo))

structure RunningProcess where
  record : AppRunningRecord
  evaluations : Nat := 0

def matched (pid : Int) : Option (Int × WindowVisibilityInfo) -> WindowVisibilityInfo
  | none => { windowId := 0, visibilityState := .beyond, isPidMatched := false }
  | some (other, info) => { info with isPidMatched := decide (other = pid) }

variable (windowVisibilityInfos : Batch)

def RunningProcess.onWindowVisibilityChanged (process : RunningProcess)
    (pid : Int) : RunningProcess where
  record := process.record.onWindowVisibilityChanged (windowVisibilityInfos.map (matched pid))
  evaluations := process.evaluations + if windowVisibilityInfos.isEmpty then 0 else 1

namespace AppRunningManager

def dispatch : Batch -> List Int -> KeyedMap Int RunningProcess -> KeyedMap Int RunningProcess
  | [], _, processes => processes
  | none :: rest, pids, processes => dispatch rest pids processes
  | some (pid, _) :: rest, pids, processes =>
    if pid ∈ pids then dispatch rest pids processes
    else
      match processes.lookup pid with
      | none => processes
      | some _ =>
        dispatch rest (pid :: pids) (processes.modify pid
          (·.onWindowVisibilityChanged windowVisibilityInfos pid))

def onWindowVisibilityChanged (processes : KeyedMap Int RunningProcess) :
    KeyedMap Int RunningProcess :=
  dispatch windowVisibilityInfos windowVisibilityInfos [] processes

end AppRunningManager

open AppRunningManager

def own (pid : Int) (infos : Batch) : List WindowVisibilityInfo :=
  (infos.map (matched pid)).filter (·.isPidMatched)

structure Follows (own : List WindowVisibilityInfo) (before after : RunningProcess) : Prop where
  windowIds : after.record.windowIds = (own.foldl changeWindowVisibility before.record).windowIds
  evaluated : before.evaluations < after.evaluations ↔ own ≠ []

def FollowsOwn (infos : Batch) (processes : KeyedMap Int RunningProcess) (pid : Int) : Prop :=
  ∀ before, processes.lookup pid = some before ->
    ∃ after, (onWindowVisibilityChanged infos processes).lookup pid = some after ∧
      Follows (own pid infos) before after

def reached (processes : KeyedMap Int RunningProcess) (infos : Batch) : Batch :=
  infos.takeWhile (·.all fun info => (processes.lookup info.1).isSome)

theorem onWindowVisibilityChangedWithPendingState_windowIds (record : AppRunningRecord) :
    record.onWindowVisibilityChangedWithPendingState.windowIds = record.windowIds := by
  unfold onWindowVisibilityChangedWithPendingState
  grind [scheduleForegroundRunning, scheduleBackgroundRunning]

variable (infos rest : Batch) (pid : Int)

theorem foldl_own (record : AppRunningRecord) :
    (infos.map (matched pid)).foldl changeWindowVisibility record =
      (own pid infos).foldl changeWindowVisibility record := by
  rw [own, foldl_filter]
  congr! 3 with record info
  split
  · rfl
  next unmatched => simp [changeWindowVisibility, unmatched]

theorem onWindowVisibilityChanged_follows (process : RunningProcess)
    (carried : own pid infos ≠ []) :
    Follows (own pid infos) process (process.onWindowVisibilityChanged infos pid) := by
  have filled : infos ≠ [] := by
    rintro rfl
    exact carried rfl
  constructor
  · simp [RunningProcess.onWindowVisibilityChanged, AppRunningRecord.onWindowVisibilityChanged,
      filled, onWindowVisibilityChangedWithPendingState_windowIds, foldl_own]
  · simp [RunningProcess.onWindowVisibilityChanged, filled, carried]

theorem lookup_dispatch (processes : KeyedMap Int RunningProcess) (pids : List Int)
    (known : ∀ pid ∈ pids, (processes.lookup pid).isSome) :
    (dispatch infos rest pids processes).lookup pid = (processes.lookup pid).map fun process =>
      if pid ∉ pids ∧ own pid (reached processes rest) ≠ [] then
        process.onWindowVisibilityChanged infos pid
      else process := by
  induction rest generalizing pids processes with
  | nil => simp [dispatch, reached, own]
  | cons info rest ih =>
    match info with
    | none => exact ih processes pids known
    | some (other, info) =>
      have reached_known (found : (processes.lookup other).isSome) (pid : Int) :
          own pid (reached processes (some (other, info) :: rest)) =
            if other = pid then matched pid (some (other, info)) :: own pid (reached processes rest)
            else own pid (reached processes rest) := by
        by_cases same : other = pid
        · subst same
          simp [reached, own, found, matched]
        · simp [reached, own, found, matched, same]
      by_cases seen : other ∈ pids
      · rw [dispatch, if_pos seen, ih processes pids known, reached_known (known _ seen)]
        grind
      · rw [dispatch, if_neg seen]
        cases found : processes.lookup other with
        | none => simp [reached, found, own]
        | some process =>
          have same (pid : Int) : ((processes.modify other
              (·.onWindowVisibilityChanged infos other)).lookup pid).isSome =
                (processes.lookup pid).isSome := by
            rw [lookup_modify]
            split
            next here =>
              rw [here, found]
              rfl
            · rfl
          rw [ih _ _ (by simpa [same, found] using known), reached_known (by simp [found]),
            lookup_modify]
          simp only [reached, same]
          by_cases here : pid = other
          · subst here
            simp [found, seen]
          · simp [here, Ne.symm here]

/-- A process follows its own infos when they do not all stand behind an unknown process. -/
theorem followsOwn_iff (processes : KeyedMap Int RunningProcess) :
    (∀ pid, FollowsOwn infos processes pid) ↔
      ∀ pid ∈ processes, own pid infos ≠ [] -> own pid (reached processes infos) ≠ [] := by
  refine forall_congr' fun pid => ?_
  rw [<- AList.lookup_isSome, isSome_iff_exists, forall_exists_index, FollowsOwn]
  refine forall_congr' fun process => forall_congr' fun found => ?_
  simp only [AppRunningManager.onWindowVisibilityChanged,
    lookup_dispatch _ _ _ processes [] (by simp), found, map_some, some.injEq,
    exists_eq_left', not_mem_nil, not_false_iff, true_and]
  constructor
  · intro follows carried missed
    rw [if_neg (not_not.mpr missed)] at follows
    exact lt_irrefl _ (follows.evaluated.mpr carried)
  · intro served
    by_cases carried : own pid infos = []
    · have unserved : own pid (reached processes infos) = [] :=
        sublist_nil.mp (carried ▸ ((takeWhile_sublist _).map _).filter _)
      rw [if_neg (not_not.mpr unserved)]
      exact ⟨by simp [carried], by simp [carried]⟩
    · rw [if_pos (served carried)]
      exact onWindowVisibilityChanged_follows infos pid process carried

theorem unknown_hides : ¬ ∀ infos processes pid, FollowsOwn infos processes pid := by
  intro every
  obtain ⟨after, standing, follows⟩ := every [some (7, ⟨1, .visible, true⟩),
    some (3, ⟨2, .visible, true⟩)] (AList.singleton 3 { record := {} }) 3 { record := {} } rfl
  cases standing
  exact absurd (follows.evaluated.mpr (by decide)) (by decide)

end AbilityRuntime.AppRunning
