import AbilityRuntime.Library.KeyedMap
import AbilityRuntime.Library.Runs

set_option autoImplicit false

namespace AbilityRuntime.AppRunning.AppDebug

open Library KeyedMap List

structure AppDebugInfo where
  isDebugStart : Bool := false
  pid : Int
  uid : Int
  bundleName : String
deriving DecidableEq

inductive Report where
  | onAppDebugStarted (infos : List AppDebugInfo)
  | onAppDebugStoped (infos : List AppDebugInfo)

inductive DebugCall where
  | registerAppDebugListener (listener : Nat)
  | startDebug (infos : List AppDebugInfo)
  | stopDebug (infos : List AppDebugInfo)
  | removeAppDebugInfo (info : AppDebugInfo)

abbrev Process := String × Int × Int

def AppDebugInfo.process (info : AppDebugInfo) : Process := (info.bundleName, info.pid, info.uid)

def processes (infos : List AppDebugInfo) : List Process := infos.map AppDebugInfo.process

structure AppDebugManager where
  debugInfos : List AppDebugInfo := []
  listeners : KeyedMap Nat (List Report) := ∅
  startedAs : List AppDebugInfo := []

def upgradeDebugStart (debugInfos : List AppDebugInfo) (it : AppDebugInfo) : List AppDebugInfo :=
  debugInfos.modify (debugInfos.findIdx (·.process = it.process)) fun finder =>
    { finder with isDebugStart := finder.isDebugStart || it.isDebugStart }

def eraseExisting : List AppDebugInfo -> List AppDebugInfo -> List AppDebugInfo × List AppDebugInfo
  | debugInfos, [] => (debugInfos, [])
  | debugInfos, it :: infos =>
    if it ∈ debugInfos then
      let (kept, erased) := eraseExisting (debugInfos.erase it) infos
      (kept, it :: erased)
    else eraseExisting debugInfos infos

namespace AppDebugManager

variable (mgr : AppDebugManager)

def incrementInfos (infos : List AppDebugInfo) : List AppDebugInfo :=
  infos.filter (·.process ∉ processes mgr.debugInfos)

def tell (report : Report) : AppDebugManager :=
  { mgr with listeners := mapValues (· ++ [report]) mgr.listeners }

def registerAppDebugListener (listener : Nat) : AppDebugManager :=
  let told := (mgr.listeners.lookup listener).getD []
  { mgr with
    listeners := mgr.listeners.insert listener
      (if mgr.debugInfos = [] then told else told ++ [.onAppDebugStarted mgr.debugInfos]) }

def startDebug (infos : List AppDebugInfo) : AppDebugManager :=
  let increment := mgr.incrementInfos infos
  let mgr := { mgr with
    debugInfos := infos.foldl upgradeDebugStart mgr.debugInfos ++ increment
    startedAs := mgr.startedAs ++ increment }
  if increment = [] then mgr else mgr.tell (.onAppDebugStarted increment)

def stopDebug (infos : List AppDebugInfo) : AppDebugManager :=
  let (kept, erased) := eraseExisting mgr.debugInfos infos
  let mgr := { mgr with
    debugInfos := kept
    startedAs := mgr.startedAs.filter (·.process ∉ processes erased) }
  if erased = [] then mgr else mgr.tell (.onAppDebugStoped erased)

def removeAppDebugInfo (info : AppDebugInfo) : AppDebugManager :=
  if info ∉ mgr.debugInfos then mgr
  else
    { mgr with
      debugInfos := mgr.debugInfos.erase info
      startedAs := mgr.startedAs.filter (·.process ≠ info.process) }.tell
        (.onAppDebugStoped [info])

def step : DebugCall -> AppDebugManager
  | .registerAppDebugListener listener => mgr.registerAppDebugListener listener
  | .startDebug infos => mgr.startDebug infos
  | .stopDebug infos => mgr.stopDebug infos
  | .removeAppDebugInfo info => mgr.removeAppDebugInfo info

end AppDebugManager

def debugMachine : Machine AppDebugManager DebugCall := ⟨{}, AppDebugManager.step⟩

def DebugCall.stops : DebugCall -> List AppDebugInfo
  | .stopDebug infos => infos
  | .removeAppDebugInfo info => [info]
  | _ => []

def follow (known : List Process) : Report -> List Process
  | .onAppDebugStarted infos => known ++ processes infos
  | .onAppDebugStoped infos => known.filter (· ∉ processes infos)

/-- The processes that a listener has been told to have started and not been told to have stopped. -/
def underDebug (reports : List Report) : List Process := reports.foldl follow []

structure Tracked (mgr : AppDebugManager) : Prop where
  single : (processes mgr.debugInfos).Nodup
  told : ∀ listener reports, mgr.listeners.lookup listener = some reports ->
    ∀ process, process ∈ underDebug reports ↔ process ∈ processes mgr.debugInfos

structure KeepsDebugInfos (calls : List DebugCall) : Prop where
  tracked : debugMachine.Throughout calls Tracked
  stopped : debugMachine.EveryStep calls fun mgr call =>
    ∀ info ∈ call.stops, info ∈ mgr.startedAs ->
      info.process ∉ processes (mgr.step call).debugInfos

/-- A batch starts no process twice, and what is stopped as it was started has not been upgraded. -/
def Fits (mgr : AppDebugManager) (call : DebugCall) : Prop :=
  (∀ infos, call = .startDebug infos -> (processes (mgr.incrementInfos infos)).Nodup) ∧
  ∀ info ∈ call.stops, info ∈ mgr.startedAs -> info ∈ mgr.debugInfos

open AppDebugManager

variable {mgr : AppDebugManager} {debugInfos infos : List AppDebugInfo}

theorem processes_upgraded (debugInfos infos : List AppDebugInfo) :
    processes (infos.foldl upgradeDebugStart debugInfos) = processes debugInfos := by
  induction infos generalizing debugInfos with
  | nil => rfl
  | cons it infos ih =>
    rw [foldl_cons, ih]
    refine ext_getElem? fun index => ?_
    simp only [processes, upgradeDebugStart, getElem?_map, getElem?_modify]
    split <;> cases debugInfos[index]? <;> rfl

theorem mem_eraseExisting (distinct : debugInfos.Nodup) (info : AppDebugInfo) :
    (info ∈ (eraseExisting debugInfos infos).1 ↔ info ∈ debugInfos ∧ info ∉ infos) ∧
      (info ∈ (eraseExisting debugInfos infos).2 ↔ info ∈ debugInfos ∧ info ∈ infos) := by
  induction infos generalizing debugInfos with
  | nil => simp [eraseExisting]
  | cons it infos ih =>
    rw [eraseExisting]
    split
    · have := ih (distinct.erase it)
      simp only [this, distinct.mem_erase_iff, mem_cons]
      grind
    · have := ih distinct
      grind

theorem eraseExisting_sublist (debugInfos infos : List AppDebugInfo) :
    (eraseExisting debugInfos infos).1 <+ debugInfos := by
  induction infos generalizing debugInfos with
  | nil => exact .refl _
  | cons it infos ih =>
    rw [eraseExisting]
    split
    · exact (ih _).trans erase_sublist
    · exact ih _

theorem stopDebug_debugInfos (infos : List AppDebugInfo) :
    (mgr.stopDebug infos).debugInfos = (eraseExisting mgr.debugInfos infos).1 := by
  simp only [stopDebug]
  split <;> rfl

theorem removeAppDebugInfo_eq (info : AppDebugInfo) :
    mgr.removeAppDebugInfo info = mgr.stopDebug [info] := by
  by_cases existing : info ∈ mgr.debugInfos <;>
    simp [removeAppDebugInfo, stopDebug, eraseExisting, processes, existing, eq_comm]

theorem step_stops (call : DebugCall) (info : AppDebugInfo) (stops : info ∈ call.stops) :
    mgr.step call = mgr.stopDebug call.stops := by
  cases call with
  | registerAppDebugListener | startDebug => cases stops
  | stopDebug => rfl
  | removeAppDebugInfo => exact removeAppDebugInfo_eq _

theorem Tracked.tell (tracked : Tracked mgr) {after : AppDebugManager} (report : Report)
    (listeners : after.listeners = mapValues (· ++ [report]) mgr.listeners)
    (single : (processes after.debugInfos).Nodup)
    (follows : ∀ known, (∀ process, process ∈ known ↔ process ∈ processes mgr.debugInfos) ->
      ∀ process, process ∈ follow known report ↔ process ∈ processes after.debugInfos) :
    Tracked after := by
  refine ⟨single, fun listener reports found => ?_⟩
  rw [listeners, lookup_mapValues] at found
  obtain ⟨earlier, held, rfl⟩ := Option.map_eq_some_iff.mp found
  rw [underDebug, foldl_append]
  exact follows _ (tracked.told listener earlier held)

theorem Tracked.same (tracked : Tracked mgr) {after : AppDebugManager}
    (listeners : after.listeners = mgr.listeners)
    (single : (processes after.debugInfos).Nodup)
    (infos : ∀ process, process ∈ processes after.debugInfos ↔
      process ∈ processes mgr.debugInfos) : Tracked after :=
  ⟨single, by simp only [listeners, infos]; exact tracked.told⟩

theorem Tracked.stopDebug (tracked : Tracked mgr) (infos : List AppDebugInfo) :
    Tracked (mgr.stopDebug infos) := by
  have single := ((eraseExisting_sublist mgr.debugInfos infos).map _).nodup tracked.single
  have kept : ∀ process, process ∈ processes (eraseExisting mgr.debugInfos infos).1 ↔
      process ∈ processes mgr.debugInfos ∧
        process ∉ processes (eraseExisting mgr.debugInfos infos).2 := by
    have unique := inj_on_of_nodup_map tracked.single
    have erases := @mem_eraseExisting mgr.debugInfos infos tracked.single.of_map
    simp only [processes, mem_map, erases]
    grind
  simp only [AppDebugManager.stopDebug]
  split
  next none =>
    exact tracked.same rfl single fun process => (kept process).trans (by simp [none, processes])
  · refine tracked.tell (.onAppDebugStoped _) rfl single fun known same process => ?_
    simp only [follow, mem_filter, decide_eq_true_eq, same, kept, AppDebugManager.tell]

theorem Tracked.startDebug (tracked : Tracked mgr) {infos : List AppDebugInfo}
    (fresh : (processes (mgr.incrementInfos infos)).Nodup) :
    Tracked (mgr.startDebug infos) := by
  have all : processes (infos.foldl upgradeDebugStart mgr.debugInfos ++
      mgr.incrementInfos infos) =
        processes mgr.debugInfos ++ processes (mgr.incrementInfos infos) := by
    rw [processes, map_append, <- processes, processes_upgraded]
    rfl
  have single : (processes mgr.debugInfos ++ processes (mgr.incrementInfos infos)).Nodup := by
    refine nodup_append.mpr ⟨tracked.single, fresh, ?_⟩
    simp only [processes, incrementInfos, mem_map, mem_filter]
    grind
  simp only [AppDebugManager.startDebug]
  split
  next none =>
    refine tracked.same rfl (all ▸ single) fun process => ?_
    rw [all, none]
    exact iff_of_eq (congrArg _ (append_nil _))
  · refine tracked.tell (.onAppDebugStarted _) rfl (all ▸ single) fun known same process => ?_
    simp only [follow, mem_append, same, all, AppDebugManager.tell]

theorem Tracked.registerAppDebugListener (tracked : Tracked mgr) (listener : Nat) :
    Tracked (mgr.registerAppDebugListener listener) := by
  refine ⟨tracked.single, fun other reports found => ?_⟩
  simp only [AppDebugManager.registerAppDebugListener, lookup_insert_eq] at found ⊢
  have told := tracked.told other
  have first : ∀ process, process ∉ underDebug [] := fun _ => not_mem_nil
  split at found
  next same =>
    subst same
    cases found
    intro process
    have before : ∀ process, process ∈ underDebug ((mgr.listeners.lookup other).getD []) ->
        process ∈ processes mgr.debugInfos := by
      cases held : mgr.listeners.lookup other with
      | none => exact fun _ mem => absurd mem not_mem_nil
      | some earlier => exact fun process => (told earlier held process).mp
    split
    next none => exact ⟨before process, fun mem => by simp [none, processes] at mem⟩
    · rw [underDebug, foldl_append]
      exact mem_append.trans (or_iff_right_of_imp (before process))
  · exact told reports found

theorem debugInfos_kept (calls : List DebugCall) (fits : debugMachine.EveryStep calls Fits) :
    KeepsDebugInfos calls := by
  have tracked : debugMachine.Throughout calls Tracked := by
    refine fits.throughout ⟨nodup_nil, nofun⟩ fun mgr call tracked fits => ?_
    cases call with
    | registerAppDebugListener listener => exact tracked.registerAppDebugListener listener
    | startDebug infos => exact tracked.startDebug (fits.1 infos rfl)
    | stopDebug infos => exact tracked.stopDebug infos
    | removeAppDebugInfo info =>
      change Tracked (mgr.removeAppDebugInfo info)
      rw [removeAppDebugInfo_eq]
      exact tracked.stopDebug [info]
  refine ⟨tracked, fun done call rest split info stops startedAs remains => ?_⟩
  have single := (tracked done _ split).single
  have present := (fits done call rest split).2 info stops startedAs
  rw [step_stops call info stops] at remains
  obtain ⟨entry, held, same⟩ := mem_map.mp remains
  rw [stopDebug_debugInfos] at held
  obtain ⟨listed, absent⟩ := (mem_eraseExisting single.of_map entry).1.mp held
  exact absent (inj_on_of_nodup_map single listed present same ▸ stops)

theorem debugInfos_kept_stopped : KeepsDebugInfos [.registerAppDebugListener 0,
    .startDebug [⟨false, 1, 2, "a"⟩], .stopDebug [⟨false, 1, 2, "a"⟩]] := by
  refine debugInfos_kept _ (Machine.StepsFrom.everyStep
    ⟨⟨nofun, nofun⟩, ⟨?_, nofun⟩, ⟨nofun, by decide⟩, trivial⟩)
  rintro _ ⟨⟩
  decide

theorem upgraded_entry_stays : ¬ ∀ calls : List DebugCall, KeepsDebugInfos calls := by
  intro all
  exact (all [.startDebug [⟨false, 1, 2, "a"⟩], .startDebug [⟨true, 1, 2, "a"⟩],
    .stopDebug [⟨false, 1, 2, "a"⟩]]).stopped [_, _] _ [] rfl ⟨false, 1, 2, "a"⟩ (by decide)
      (by decide) (by decide)

end AbilityRuntime.AppRunning.AppDebug
