import Mathlib.Data.List.Perm.Basic

set_option autoImplicit false

namespace AbilityRuntime.Library

open List

/-- The tasks of a handler that runs any pending one next. -/
structure TaskPool (Task : Type) where
  submitted : List Task := []
  executed : List Task := []
  pending : List Task := []

namespace TaskPool

variable {Task : Type}

def submit (pool : TaskPool Task) (task : Task) : TaskPool Task :=
  { pool with submitted := pool.submitted ++ [task], pending := pool.pending ++ [task] }

def execute (pool : TaskPool Task) (index : Nat) : TaskPool Task :=
  match pool.pending[index]? with
  | none => pool
  | some task =>
    { pool with executed := pool.executed ++ [task], pending := pool.pending.eraseIdx index }

def Balanced (pool : TaskPool Task) : Prop :=
  (pool.executed ++ pool.pending).Perm pool.submitted

variable {pool : TaskPool Task}

theorem Balanced.perm (balanced : pool.Balanced) (allRun : pool.pending = []) :
    pool.executed.Perm pool.submitted := by
  simpa [Balanced, allRun] using balanced

theorem Balanced.submit (balanced : pool.Balanced) (task : Task) : (pool.submit task).Balanced := by
  unfold Balanced TaskPool.submit
  rw [<- append_assoc]
  exact balanced.append_right [task]

theorem Balanced.execute (balanced : pool.Balanced) (index : Nat) :
    (pool.execute index).Balanced := by
  unfold TaskPool.execute
  split
  · exact balanced
  next task next =>
    obtain ⟨inside, rfl⟩ := List.getElem?_eq_some_iff.mp next
    have picked := (List.getElem_cons_eraseIdx_perm inside).append_left pool.executed
    unfold Balanced
    rw [append_assoc]
    exact picked.trans balanced

@[simp] theorem execute_submitted (pool : TaskPool Task) (index : Nat) :
    (pool.execute index).submitted = pool.submitted := by
  unfold execute
  split <;> rfl

theorem exists_run_last (before after : List Task) (task : Task) (pool : TaskPool Task)
    (pending : pool.pending = before ++ task :: after) :
    ∃ indexes : List Nat, (indexes.foldl execute pool).pending = [] ∧
      (indexes.foldl execute pool).executed = pool.executed ++ (before ++ after) ++ [task] := by
  induction before generalizing pool with
  | nil =>
    induction after generalizing pool with
    | nil =>
      refine ⟨[0], ?_⟩
      simp [execute, pending]
    | cons other after ih =>
      obtain ⟨indexes, done, executed⟩ := ih (pool.execute 1) (by simp [execute, pending])
      refine ⟨1 :: indexes, done, ?_⟩
      rw [foldl_cons, executed]
      simp [execute, pending]
  | cons first before ih =>
    obtain ⟨indexes, done, executed⟩ := ih (pool.execute 0) (by simp [execute, pending])
    refine ⟨0 :: indexes, done, ?_⟩
    rw [foldl_cons, executed]
    simp [execute, pending]

end TaskPool

section LastOutcome

variable {Task Key Value : Type} [DecidableEq Key] (key : Task -> Key) (outcome : Task -> Value)

def lastOutcome (tasks : List Task) (sought : Key) : Option Value :=
  (tasks.filter (key · = sought)).getLast?.map outcome

variable {key outcome} {tasks : List Task} {sought : Key}

theorem lastOutcome_concat (tasks : List Task) (task : Task) (sought : Key) :
    lastOutcome key outcome (tasks ++ [task]) sought =
      if key task = sought then some (outcome task) else lastOutcome key outcome tasks sought := by
  unfold lastOutcome
  by_cases own : key task = sought <;> simp [filter_append, own]

theorem lastOutcome_eq_none_iff :
    lastOutcome key outcome tasks sought = none ↔ ∀ task ∈ tasks, key task ≠ sought := by
  simp [lastOutcome]

theorem mem_of_lastOutcome {value : Value}
    (last : lastOutcome key outcome tasks sought = some value) :
    ∃ task ∈ tasks, key task = sought ∧ outcome task = value := by
  obtain ⟨task, found, rfl⟩ := Option.map_eq_some_iff.mp last
  obtain ⟨inside, own⟩ := mem_filter.mp (mem_of_getLast? found)
  exact ⟨task, inside, decide_eq_true_iff.mp own, rfl⟩

variable (key outcome) in

theorem lastOutcome_none_perm {others : List Task} (perm : tasks.Perm others) (sought : Key) :
    lastOutcome key outcome tasks sought = none ↔ lastOutcome key outcome others sought = none := by
  rw [lastOutcome_eq_none_iff, lastOutcome_eq_none_iff]
  exact ⟨fun none task inside => none task (perm.mem_iff.mpr inside),
    fun none task inside => none task (perm.mem_iff.mp inside)⟩

theorem lastOutcome_perm {others : List Task} (perm : tasks.Perm others)
    (same : ∀ task ∈ others, ∀ other ∈ others, key task = key other ->
      outcome task = outcome other) (sought : Key) :
    lastOutcome key outcome tasks sought = lastOutcome key outcome others sought := by
  have missing := lastOutcome_none_perm key outcome perm sought
  cases first : lastOutcome key outcome tasks sought with
  | none => exact (missing.mp first).symm
  | some value =>
    cases second : lastOutcome key outcome others sought with
    | none =>
      rw [missing.mpr second] at first
      cases first
    | some wanted =>
      obtain ⟨task, inside, own, rfl⟩ := mem_of_lastOutcome first
      obtain ⟨other, otherInside, otherOwn, rfl⟩ := mem_of_lastOutcome second
      exact congrArg some
        (same task (perm.mem_iff.mp inside) other otherInside (own.trans otherOwn.symm))

end LastOutcome

end AbilityRuntime.Library
