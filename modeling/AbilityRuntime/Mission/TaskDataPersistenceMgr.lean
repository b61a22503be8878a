import AbilityRuntime.Library.TaskPool
import AbilityRuntime.Mission.InnerMissionInfo

set_option autoImplicit false

namespace AbilityRuntime.Mission

open Library TaskPool SavedMissionInfo

/-- What the storage of one user has written: the text of each mission's file. -/
abbrev MissionFiles := Int32 -> Option String

abbrev Disk := Int -> MissionFiles

inductive StorageOperation (Want : Type) where
  | saveMissionInfo (missionInfo : SavedMissionInfo Want)
  | deleteMissionInfo (missionId : Int32)

structure StorageTask (Want : Type) where
  userId : Int
  operation : StorageOperation Want

variable {Want : Type}

namespace StorageTask

variable (json : Nlohmann) (wants : WantApi Want)

def run (disk : Disk) (task : StorageTask Want) : Disk :=
  Function.update disk task.userId <|
    match task.operation with
    | .saveMissionInfo missionInfo => Function.update (disk task.userId) missionInfo.id
        (some (missionInfo.toJsonStr json wants))
    | .deleteMissionInfo missionId => Function.update (disk task.userId) missionId none

end StorageTask

structure TaskDataPersistenceMgr where
  currentUserId : Int := -1
  currentMissionDataStorage : Option Int := none
  handler : Bool := false
  missionDataStorageMgr : List Int := []

inductive PersistenceCall (Want : Type) where
  | init (userId : Int)
  | saveMissionInfo (missionInfo : SavedMissionInfo Want)
  | deleteMissionInfo (missionId : Int32)

namespace TaskDataPersistenceMgr

def init (mgr : TaskDataPersistenceMgr) (userId : Int) : TaskDataPersistenceMgr × Bool :=
  ({ currentUserId := userId
     currentMissionDataStorage := some userId
     handler := true
     missionDataStorageMgr :=
       if userId ∈ mgr.missionDataStorageMgr then mgr.missionDataStorageMgr
       else userId :: mgr.missionDataStorageMgr }, true)

def submitted (mgr : TaskDataPersistenceMgr) (operation : StorageOperation Want) :
    Option (StorageTask Want) × Bool :=
  match mgr.handler, mgr.currentMissionDataStorage with
  | true, some userId => (some ⟨userId, operation⟩, true)
  | _, _ => (none, false)

def saveMissionInfo (mgr : TaskDataPersistenceMgr) (missionInfo : SavedMissionInfo Want) :
    Option (StorageTask Want) × Bool :=
  mgr.submitted (.saveMissionInfo missionInfo)

def deleteMissionInfo (mgr : TaskDataPersistenceMgr) (missionId : Int32) :
    Option (StorageTask Want) × Bool :=
  mgr.submitted (.deleteMissionInfo missionId)

def handle (mgr : TaskDataPersistenceMgr) :
    PersistenceCall Want -> TaskDataPersistenceMgr × Option (StorageTask Want)
  | .init userId => ((mgr.init userId).1, none)
  | .saveMissionInfo missionInfo => (mgr, (mgr.saveMissionInfo missionInfo).1)
  | .deleteMissionInfo missionId => (mgr, (mgr.deleteMissionInfo missionId).1)

def issued (mgr : TaskDataPersistenceMgr) :
    List (PersistenceCall Want) -> List (StorageTask Want)
  | [] => []
  | call :: rest => (mgr.handle call).2.toList ++ (mgr.handle call).1.issued rest

end TaskDataPersistenceMgr

inductive PersistenceEvent (Want : Type) where
  | call (call : PersistenceCall Want)
  | execute (index : Nat)

structure Persistence (Want : Type) where
  mgr : TaskDataPersistenceMgr := {}
  handler : TaskPool (StorageTask Want) := {}
  disk : Disk

namespace Persistence

variable (json : Nlohmann) (wants : WantApi Want)

def step (persistence : Persistence Want) : PersistenceEvent Want -> Persistence Want
  | .call call =>
    let (mgr, task) := persistence.mgr.handle call
    { persistence with
      mgr := mgr
      handler := task.elim persistence.handler persistence.handler.submit }
  | .execute index =>
    { persistence with
      handler := persistence.handler.execute index
      disk := persistence.handler.pending[index]?.elim persistence.disk
        (StorageTask.run json wants persistence.disk) }

def machine (disk : Disk) : Machine (Persistence Want) (PersistenceEvent Want) where
  start := { disk := disk }
  step := step json wants

end Persistence

def PersistenceEvent.issuedCall : PersistenceEvent Want -> Option (PersistenceCall Want)
  | .call issued => some issued
  | .execute _ => none

def StorageTask.file (task : StorageTask Want) : Int × Int32 :=
  match task.operation with
  | .saveMissionInfo missionInfo => (task.userId, missionInfo.id)
  | .deleteMissionInfo missionId => (task.userId, missionId)

section

variable (json : Nlohmann) (wants : WantApi Want)

def StorageTask.outcome (task : StorageTask Want) : Option String :=
  match task.operation with
  | .saveMissionInfo missionInfo => some (missionInfo.toJsonStr json wants)
  | .deleteMissionInfo _ => none

def leftBy (tasks : List (StorageTask Want)) (file : Int × Int32) : Option (Option String) :=
  lastOutcome StorageTask.file (StorageTask.outcome json wants) tasks file

def Disk.content (disk : Disk) (file : Int × Int32) : Option String := disk file.1 file.2

/-- Each file is as the last task issued for it leaves it; a file without one is as before. -/
def Persistence.Settled (before : Disk) (persistence : Persistence Want) : Prop :=
  ∀ file, persistence.disk.content file =
    (leftBy json wants persistence.handler.submitted file).getD (before.content file)

end

variable {json : Nlohmann} {wants : WantApi Want}

open PersistenceEvent List

theorem StorageTask.content_run (disk : Disk) (task : StorageTask Want) (file : Int × Int32) :
    (task.run json wants disk).content file =
      if task.file = file then task.outcome json wants else disk.content file := by
  obtain ⟨user, id⟩ := file
  obtain ⟨userId, operation⟩ := task
  unfold Disk.content StorageTask.run
  by_cases own : user = userId
  · subst own
    cases operation with
    | saveMissionInfo missionInfo =>
      simp [StorageTask.file, StorageTask.outcome, Function.update_apply, eq_comm]
    | deleteMissionInfo missionId =>
      simp [StorageTask.file, StorageTask.outcome, Function.update_apply, eq_comm]
  · have other : (⟨userId, operation⟩ : StorageTask Want).file ≠ (user, id) := by
      cases operation <;> exact fun same => own (congrArg Prod.fst same).symm
    rw [if_neg other, Function.update_of_ne own]

namespace Persistence

/-- What holds between the events: the disk is that of the executed tasks, one after the other. -/
structure Tracked (json : Nlohmann) (wants : WantApi Want) (before : Disk)
    (persistence : Persistence Want) : Prop where
  balanced : persistence.handler.Balanced
  written : ∀ file, persistence.disk.content file =
    (leftBy json wants persistence.handler.executed file).getD (before.content file)

variable (json) (wants)

theorem tracked (before : Disk) (events : List (PersistenceEvent Want)) :
    ((machine json wants before).run events).Tracked json wants before := by
  refine Machine.run_invariant (Tracked json wants before) ?_ ?_ events
  · exact ⟨List.Perm.refl [], fun _ => rfl⟩
  intro persistence event tracked
  cases event with
  | call call =>
    dsimp only [machine, step]
    cases (persistence.mgr.handle call).2 with
    | none => exact ⟨tracked.balanced, tracked.written⟩
    | some task => exact ⟨tracked.balanced.submit task, tracked.written⟩
  | execute index =>
    refine ⟨tracked.balanced.execute index, fun file => ?_⟩
    dsimp only [machine, step, TaskPool.execute]
    cases persistence.handler.pending[index]? with
    | none => exact tracked.written file
    | some task =>
      dsimp only [Option.elim]
      rw [StorageTask.content_run, leftBy, lastOutcome_concat, tracked.written]
      split <;> rfl

theorem settled_iff (before : Disk) (events : List (PersistenceEvent Want))
    (allRun : ((machine json wants before).run events).handler.pending = []) :
    ((machine json wants before).run events).Settled json wants before ↔
      ∀ file, leftBy json wants ((machine json wants before).run events).handler.executed file =
        leftBy json wants ((machine json wants before).run events).handler.submitted file := by
  have tracked := tracked json wants before events
  have perm := tracked.balanced.perm allRun
  refine forall_congr' fun file => ?_
  rw [tracked.written]
  refine ⟨fun same => ?_, fun same => by rw [same]⟩
  have missing := lastOutcome_none_perm StorageTask.file (StorageTask.outcome json wants) perm file
  rw [<- leftBy, <- leftBy] at missing
  generalize leftBy json wants ((machine json wants before).run events).handler.executed file =
    executed at same missing ⊢
  generalize leftBy json wants ((machine json wants before).run events).handler.submitted file =
    submitted at same missing ⊢
  cases executed with
  | none => exact (missing.mp rfl).symm
  | some content =>
    cases submitted with
    | none => cases missing.mpr rfl
    | some wanted => exact congrArg some same

theorem submitted_issued (events : List (PersistenceEvent Want)) (persistence : Persistence Want) :
    (events.foldl (step json wants) persistence).handler.submitted =
      persistence.handler.submitted ++ persistence.mgr.issued (events.filterMap issuedCall) := by
  induction events generalizing persistence with
  | nil => simp [TaskDataPersistenceMgr.issued]
  | cons event events ih =>
    rw [foldl_cons, ih]
    cases event with
    | call call =>
      dsimp only [step, filterMap_cons, issuedCall]
      rw [TaskDataPersistenceMgr.issued]
      cases (persistence.mgr.handle call).2 <;> simp [submit]
    | execute index =>
      rw [filterMap_cons_none rfl]
      simp [step]

theorem calls_pending (calls : List (PersistenceCall Want)) (persistence : Persistence Want) :
    ((calls.map PersistenceEvent.call).foldl (step json wants) persistence).handler.pending =
        persistence.handler.pending ++ persistence.mgr.issued calls ∧
      ((calls.map PersistenceEvent.call).foldl (step json wants) persistence).handler.executed =
        persistence.handler.executed := by
  induction calls generalizing persistence with
  | nil => simp [TaskDataPersistenceMgr.issued]
  | cons call calls ih =>
    rw [map_cons, foldl_cons, (ih _).1, (ih _).2]
    dsimp only [step]
    rw [TaskDataPersistenceMgr.issued]
    cases (persistence.mgr.handle call).2 <;> simp [submit]

theorem executes_handler (indexes : List Nat) (persistence : Persistence Want) :
    ((indexes.map PersistenceEvent.execute).foldl (step json wants) persistence).handler =
      indexes.foldl execute persistence.handler := by
  induction indexes generalizing persistence with
  | nil => rfl
  | cons index indexes ih =>
    rw [map_cons, foldl_cons, foldl_cons, ih]
    rfl

theorem exists_last (before : Disk) (calls : List (PersistenceCall Want)) {task : StorageTask Want}
    (issued : task ∈ TaskDataPersistenceMgr.issued {} calls) :
    ∃ events : List (PersistenceEvent Want), events.filterMap issuedCall = calls ∧
      ((machine json wants before).run events).handler.pending = [] ∧
      leftBy json wants ((machine json wants before).run events).handler.executed task.file =
        some (task.outcome json wants) := by
  obtain ⟨earlier, later, split⟩ := append_of_mem issued
  have called := calls_pending json wants calls { disk := before }
  have pending := called.1
  rw [nil_append, split] at pending
  obtain ⟨indexes, done, executed⟩ := exists_run_last earlier later task _ pending
  have handled : ((machine json wants before).run
      (calls.map .call ++ indexes.map .execute)).handler = indexes.foldl execute
        ((calls.map PersistenceEvent.call).foldl (step json wants) { disk := before }).handler := by
    rw [Machine.run, foldl_append]
    exact executes_handler json wants indexes _
  refine ⟨calls.map .call ++ indexes.map .execute, ?_, ?_, ?_⟩
  · simp [Function.comp_def, issuedCall]
  · rw [handled, done]
  · rw [handled, executed, leftBy, lastOutcome_concat, if_pos rfl]

theorem run_submitted (before : Disk) (events : List (PersistenceEvent Want)) :
    ((machine json wants before).run events).handler.submitted =
      TaskDataPersistenceMgr.issued {} (events.filterMap issuedCall) := by
  exact submitted_issued json wants events { disk := before }

end Persistence

open Persistence

/-- After all tasks the files follow the issue order when each file's last tasks do. -/
theorem mission_files_settle_iff (json : Nlohmann) (wants : WantApi Want) (before : Disk) :
    (∀ events, ((machine json wants before).run events).handler.pending = [] ->
      (((machine json wants before).run events).Settled json wants before ↔
        ∀ file, leftBy json wants ((machine json wants before).run events).handler.executed file =
          leftBy json wants ((machine json wants before).run events).handler.submitted file)) ∧
    ∀ calls,
      (∀ events, events.filterMap PersistenceEvent.issuedCall = calls ->
        ((machine json wants before).run events).handler.pending = [] ->
          ((machine json wants before).run events).Settled json wants before) ↔
      ∀ task ∈ TaskDataPersistenceMgr.issued {} calls,
        ∀ other ∈ TaskDataPersistenceMgr.issued {} calls, task.file = other.file ->
          task.outcome json wants = other.outcome json wants := by
  refine ⟨settled_iff json wants before, fun calls => ⟨fun settled => ?_, fun same => ?_⟩⟩
  · -- Whichever task runs last must leave what the last one issued for its file leaves.
    have left : ∀ task ∈ TaskDataPersistenceMgr.issued {} calls,
        leftBy json wants (TaskDataPersistenceMgr.issued {} calls) task.file =
          some (task.outcome json wants) := by
      intro task issued
      obtain ⟨events, rfl, allRun, last⟩ := exists_last json wants before calls issued
      have wanted := (settled_iff json wants before events allRun).mp (settled events rfl allRun)
        task.file
      rw [<- run_submitted json wants before, <- wanted, last]
    intro task issued other otherIssued file
    have both := left task issued
    rw [file, left other otherIssued] at both
    exact (Option.some.inj both).symm
  · rintro events rfl allRun
    rw [<- run_submitted json wants before] at same
    rw [settled_iff json wants before events allRun]
    exact lastOutcome_perm ((tracked json wants before events).balanced.perm allRun) same

def overtaken : List (PersistenceEvent Unit) :=
  [.call (.init 100), .call (.saveMissionInfo (music false)), .call (.deleteMissionInfo 1),
    .execute 1, .execute 0]

theorem deleted_mission_comes_back : ¬ ∀ before events,
    ((machine (musicJson false) emptyWant before).run events).handler.pending = [] ->
      ((machine (musicJson false) emptyWant before).run events).Settled (musicJson false) emptyWant
        before := by
  intro settled
  have wanted := (settled_iff _ _ _ overtaken rfl).mp
    (settled (fun _ _ => none) overtaken rfl) (100, 1)
  revert wanted
  decide

end AbilityRuntime.Mission
