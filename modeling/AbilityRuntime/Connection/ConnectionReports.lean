import AbilityRuntime.Connection.ConnectionStateManager

set_option autoImplicit false

namespace AbilityRuntime.ConnectionState

open Library KeyedMap List Report Target

inductive Status where
  | disconnected
  | connected
  | suspended
deriving DecidableEq, Repr

namespace Status

def next : Status -> ConnectionEvent -> Option Status
  | .disconnected, .connected => some .connected
  | .connected, .suspended => some .suspended
  | .suspended, .resumed => some .connected
  | .connected, .disconnected | .suspended, .disconnected => some .disconnected
  | _, _ => none

def told (events : List ConnectionEvent) : Option Status :=
  events.foldlM next .disconnected

end Status

def eventsOf (callerPid : Int) (target : Target) (reports : List Report) : List ConnectionEvent :=
  (reports.filter fun report => decide (report.callerPid = callerPid ∧
    report.target = target)).map event

theorem eventsOf_append (callerPid : Int) (target : Target) (reports more : List Report) :
    eventsOf callerPid target (reports ++ more) =
      eventsOf callerPid target reports ++ eventsOf callerPid target more := by
  simp [eventsOf]

theorem eventsOf_singleton (pid : Int) (other : Target) (event : ConnectionEvent)
    (callerPid : Int) (target : Target) (isSuspended : Bool) :
    eventsOf pid other [⟨event, callerPid, target, isSuspended⟩] =
      if pid = callerPid ∧ other = target then [event] else [] := by
  unfold eventsOf
  split
  next same => simp [same.1, same.2]
  next ne =>
    have not : ¬(callerPid = pid ∧ target = other) := by
      rintro ⟨rfl, rfl⟩
      exact ne ⟨rfl, rfl⟩
    simp only [filter_cons, not, decide_false, Bool.false_eq_true, if_false, filter_nil, map_nil]

theorem eventsOf_toList (pid : Int) (other : Target) (event : Option ConnectionEvent)
    (callerPid : Int) (target : Target) (isSuspended : Bool) :
    eventsOf pid other
        (event.map fun event => ⟨event, callerPid, target, isSuspended⟩ : Option Report).toList =
      if pid = callerPid ∧ other = target then event.toList else [] := by
  cases event with
  | none => simp [eventsOf]
  | some event => exact eventsOf_singleton pid other event callerPid target isSuspended

theorem told_append (callerPid : Int) (target : Target) (reports more : List Report) :
    Status.told (eventsOf callerPid target (reports ++ more)) =
      (Status.told (eventsOf callerPid target reports)).bind
        fun status => (eventsOf callerPid target more).foldlM Status.next status := by
  rw [eventsOf_append, Status.told, foldlM_append]
  rfl

theorem eventsOf_disconnected {reports : List Report} {callerPid : Int}
    (left : ∀ report ∈ reports, report.event = .disconnected ∧ report.callerPid = callerPid)
    (distinct : (reports.map target).Nodup) (pid : Int) (target : Target) :
    eventsOf pid target reports =
      if pid = callerPid ∧ target ∈ reports.map Report.target then [.disconnected] else [] := by
  induction reports with
  | nil => simp [eventsOf]
  | cons report rest ih =>
    have here := left report mem_cons_self
    have later := ih (fun other mem => left other (mem_cons_of_mem _ mem))
      (nodup_cons.mp distinct).2
    have fresh := (nodup_cons.mp distinct).1
    have shape : report = { report with event := .disconnected, callerPid := callerPid } := by
      rw [<- here.1, <- here.2]
    rw [<- singleton_append, eventsOf_append, later, shape, eventsOf_singleton]
    by_cases samePid : pid = callerPid
    · by_cases same : target = report.target
      · simp [samePid, same, fresh]
      · simp [samePid, same]
    · simp [samePid]

namespace ConnectionStateItem

def targets (item : ConnectionStateItem) : List Target :=
  item.connectionMap.keys.map extension ++ item.dataAbilityMap.keys.map dataAbility

theorem targets_nodup (item : ConnectionStateItem) : item.targets.Nodup := by
  refine List.Nodup.append
    (item.connectionMap.nodupKeys.map fun _ _ same => extension.inj same)
    (item.dataAbilityMap.nodupKeys.map fun _ _ same => dataAbility.inj same) ?_
  intro target first second
  obtain ⟨token, -, rfl⟩ := mem_map.mp first
  obtain ⟨other, -, ne⟩ := mem_map.mp second
  cases ne

theorem generateAllConnectionData_targets (item : ConnectionStateItem) :
    item.generateAllConnectionData.map target = item.targets ∧
      ∀ report ∈ item.generateAllConnectionData,
        report.event = .disconnected ∧ report.callerPid = item.callerPid := by
  have extensions : ∀ (entries : List ((_ : Nat) × ConnectedExtension)) (reports : List Report)
      (isSuspended : Bool),
      (∀ report ∈ reports, report.event = .disconnected ∧ report.callerPid = item.callerPid) ->
      let result := (entries.foldl (fun state entry =>
          let isSuspended := state.2 || ConnectedExtension.isSuspended entry.2
          (state.1 ++ [⟨.disconnected, item.callerPid, .extension entry.1, isSuspended⟩],
            isSuspended)) (reports, isSuspended)).1
      result.map target = reports.map target ++ entries.keys.map extension ∧
        ∀ report ∈ result, report.event = .disconnected ∧ report.callerPid = item.callerPid := by
    intro entries
    induction entries with
    | nil =>
      intro reports isSuspended left
      exact ⟨by simp, left⟩
    | cons entry rest ih =>
      intro reports isSuspended left
      have later := ih (reports ++ [⟨.disconnected, item.callerPid, .extension entry.1,
        isSuspended || ConnectedExtension.isSuspended entry.2⟩])
        (isSuspended || ConnectedExtension.isSuspended entry.2) (by
          intro report mem
          rcases mem_append.mp mem with before | new
          · exact left report before
          · simp [mem_singleton.mp new])
      refine ⟨?_, later.2⟩
      rw [foldl_cons, later.1]
      simp
  obtain ⟨mapped, left⟩ := extensions item.connectionMap.entries [] false (by simp)
  unfold generateAllConnectionData
  refine ⟨?_, fun report mem => ?_⟩
  · rw [map_append, mapped, map_map, targets, map_nil, nil_append]
    rfl
  · rcases mem_append.mp mem with first | second
    · exact left report first
    · obtain ⟨token, -, rfl⟩ := mem_map.mp second
      exact ⟨rfl, rfl⟩

theorem eventsOf_generateAllConnectionData (item : ConnectionStateItem) (pid : Int)
    (target : Target) :
    eventsOf pid target item.generateAllConnectionData =
      if pid = item.callerPid ∧ target ∈ item.targets then [.disconnected] else [] := by
  obtain ⟨mapped, left⟩ := item.generateAllConnectionData_targets
  have distinct := item.targets_nodup
  rw [<- mapped] at distinct ⊢
  exact eventsOf_disconnected left distinct pid target

end ConnectionStateItem

namespace ConnectionStateManager

variable {mgr : ConnectionStateManager}

def Owned (mgr : ConnectionStateManager) : Prop :=
  ∀ callerPid item, mgr.connectionStates.lookup callerPid = some item ->
    item.callerPid = callerPid

theorem itemOf_own (owned : mgr.Owned) (callerPid : Int) :
    ((mgr.connectionStates.lookup callerPid).getD { callerPid := callerPid }).callerPid =
      callerPid := by
  cases found : mgr.connectionStates.lookup callerPid with
  | none => rfl
  | some item => exact owned callerPid item found

theorem Owned.putItem (owned : mgr.Owned) {callerPid : Int} {removed : Bool}
    {item : ConnectionStateItem} (own : item.callerPid = callerPid) :
    (mgr.putItem callerPid removed item).Owned := by
  intro other found lookup
  unfold ConnectionStateManager.putItem at lookup
  split at lookup
  · rw [lookup_erase_eq] at lookup
    split at lookup
    · cases lookup
    · exact owned other found lookup
  · rw [lookup_insert_eq] at lookup
    split at lookup
    next same =>
      cases lookup
      rw [own, same]
    · exact owned other found lookup

theorem Owned.handleCallerDied (owned : mgr.Owned) (callerPid : Int) :
    (mgr.handleCallerDied callerPid).1.Owned := by
  unfold ConnectionStateManager.handleCallerDied
  split
  · exact owned
  · intro pid item lookup
    rw [lookup_erase_eq] at lookup
    split at lookup
    · cases lookup
    · exact owned pid item lookup

/-! Whatever is read of a process's item, and is not there in an empty item. -/

variable {V : Type} (part : ConnectionStateItem -> Option V)

theorem putItem_part (none_of_empty : ∀ item, item.isEmpty = true -> part item = none)
    (mgr : ConnectionStateManager) (callerPid pid : Int) (removed : Bool)
    (item : ConnectionStateItem) :
    ((mgr.putItem callerPid removed item).connectionStates.lookup pid).bind part =
      if pid = callerPid then part item
      else (mgr.connectionStates.lookup pid).bind part := by
  unfold putItem
  split
  next gone =>
    rw [Bool.and_eq_true] at gone
    rw [lookup_erase_eq]
    split
    · exact (none_of_empty item gone.2).symm
    · rfl
  · rw [lookup_insert_eq]
    split <;> rfl

theorem handleCallerDied_part (mgr : ConnectionStateManager) (callerPid pid : Int) :
    ((mgr.handleCallerDied callerPid).1.connectionStates.lookup pid).bind part =
      if pid = callerPid then none else (mgr.connectionStates.lookup pid).bind part := by
  unfold handleCallerDied
  split
  next missing =>
    split
    next same => rw [same, missing, Option.bind_none]
    · rfl
  · rw [lookup_erase_eq]
    split <;> rfl

theorem handleCallerDied_eventsOf (owned : mgr.Owned) (callerPid pid : Int)
    (target : Target) :
    eventsOf pid target (mgr.handleCallerDied callerPid).2 =
      if pid = callerPid ∧ ∃ item, mgr.connectionStates.lookup callerPid = some item ∧
        target ∈ item.targets then [.disconnected] else [] := by
  unfold handleCallerDied
  cases found : mgr.connectionStates.lookup callerPid with
  | none => simp [eventsOf]
  | some item =>
    rw [ConnectionStateItem.eventsOf_generateAllConnectionData, owned callerPid item found]
    simp

end ConnectionStateManager

end AbilityRuntime.ConnectionState
