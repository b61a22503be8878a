import AbilityRuntime.KeepAlive.Priorities

set_option autoImplicit false

namespace AbilityRuntime.KeepAlive

open Library AbilityKeepAliveDataManager AbilityKeepAliveService Keeping List Operation

variable {getEntries : KvStore -> List Entry} {store : KvStore} {info : KeepAliveInfo}

def Agrees (store : KvStore) (registry : Registry) : Prop :=
  ∀ target value, registry target = some value ↔
    ∃ entry ∈ store, entry.key.target = target ∧ entry.value = value

namespace Agrees

variable {registry : Registry}

theorem cleared (agrees : Agrees store registry) (info : KeepAliveInfo) :
    Agrees (others store info) fun target =>
      if info.Covers target then none else registry target := by
  intro target value
  dsimp only
  split
  next covered =>
    refine iff_of_false nofun ?_
    rintro ⟨entry, inside, rfl, -⟩
    exact (mem_others.mp inside).2 covered
  next spared =>
    rw [agrees]
    constructor
    · rintro ⟨entry, inside, rfl, rfl⟩
      exact ⟨entry, mem_others.mpr ⟨inside, spared⟩, rfl, rfl⟩
    · rintro ⟨entry, inside, found⟩
      exact ⟨entry, (mem_others.mp inside).1, found⟩

theorem changed (agrees : Agrees store registry) (valid : info.Valid)
    (named : info.appType ≠ .unspecified) (flag : Bool) :
    Agrees
      (if flag then others store info ++ [⟨info, convertKeepAliveStatusToValue info⟩]
        else others store info)
      (Function.update registry info.target
        (if flag then some (convertKeepAliveStatusToValue info) else none)) := by
  have left := agrees.cleared info
  intro target value
  specialize left target value
  simp only [covers_iff valid named] at left
  rw [Function.update_apply]
  by_cases own : target = info.target
  · subst own
    rw [if_pos rfl] at left ⊢
    cases flag with
    | false => exact left
    | true =>
      have none : ¬ ∃ entry ∈ others store info,
          entry.key.target = info.target ∧ entry.value = value := fun found => nomatch left.mpr found
      simp only [if_pos, mem_append, mem_singleton, or_and_right, exists_or, none,
        false_or, exists_eq_left, Option.some.injEq, true_and]
  · rw [if_neg own] at left ⊢
    cases flag with
    | false => exact left
    | true =>
      rw [left]
      simp only [if_pos, mem_append, mem_singleton, or_and_right, exists_or,
        exists_eq_left, Ne.symm own, false_and, or_false]

end Agrees

theorem insert_refused_iff :
    (info.bundleName.isEmpty || decide (info.userId < 0) ||
      decide (info.appType = .unspecified) || decide (info.setter = .unspecified)) = true ↔
    ¬ (info.Valid ∧ info.appType ≠ .unspecified ∧ info.setter ≠ .unspecified) := by
  simp only [Bool.or_eq_true, decide_eq_true_eq, String.isEmpty_iff, KeepAliveInfo.Valid,
    <- Int.not_lt]
  tauto

theorem insertKeepAliveData_refused
    (incomplete : ¬ (info.Valid ∧ info.appType ≠ .unspecified ∧ info.setter ≠ .unspecified)) :
    (insertKeepAliveData store info).1 = store := by
  rw [insertKeepAliveData, if_pos (insert_refused_iff.mpr incomplete)]

theorem insertKeepAliveData_others (valid : info.Valid) (named : info.appType ≠ .unspecified)
    (setter : info.setter ≠ .unspecified)
    (free : ∀ entry ∈ store, entry.key.target = info.target -> entry.key = info) :
    (insertKeepAliveData store info).1 =
      others store info ++ [⟨info, convertKeepAliveStatusToValue info⟩] := by
  rw [insertKeepAliveData, if_neg (mt insert_refused_iff.mp (not_not.mpr ⟨valid, named, setter⟩))]
  dsimp only [KvStore.put, others]
  congr 1
  refine filter_congr fun entry inside => ?_
  rw [Bool.eq_iff_iff, Bool.not_eq_true', <- Bool.not_eq_true, isEqual_iff, covers_iff valid named,
    decide_eq_true_iff]
  exact not_congr ⟨fun same => same ▸ rfl, free entry inside⟩

theorem others_eq_self (none : ∀ entry ∈ store, ¬ info.Covers entry.key.target) :
    others store info = store := by
  rw [others, filter_eq_self]
  intro entry inside
  rw [Bool.not_eq_true', <- Bool.not_eq_true, isEqual_iff]
  exact none entry inside

theorem inserted_others (store : KvStore) (valid : info.Valid) (named : info.appType ≠ .unspecified)
    (setter : info.setter ≠ .unspecified) :
    (insertKeepAliveData (others store info) info).1 =
      others store info ++ [⟨info, convertKeepAliveStatusToValue info⟩] := by
  have none : ∀ entry ∈ others store info, ¬ info.Covers entry.key.target :=
    fun entry inside => (mem_others.mp inside).2
  rw [insertKeepAliveData_others valid named setter, others_eq_self none]
  exact fun entry inside same => absurd (same ▸ target_covered info) (none entry inside)

theorem appType_named {op : Operation} {current : Option Value} (named : op.Named)
    (accepted : op.Accepted current) (kind : ∀ info, op ≠ .delete info) :
    op.info.appType ≠ .unspecified := by
  cases op with
  | setApplication | setAppServiceExtension => exact named.1
  | insert => exact accepted.1
  | delete info => exact absurd rfl (kind info)

theorem waived_of_accepted (kept : Kept store) {op : Operation} (free : op.Free store)
    (kind : ∀ info, op ≠ .delete info) {entry : Entry} (inside : entry ∈ store)
    (outranks : Outranks entry op) (own : entry.key.target = op.info.target)
    (accepted : op.Accepted (some entry.value)) : Waived entry op := by
  have setter : entry.value.setter ≠ .unspecified := by
    rw [kept.values entry inside]
    exact kept.setters entry inside
  have user : op.info.setter = .user := by
    unfold Outranks at outranks
    revert outranks setter
    cases entry.value.setter <;> cases op.info.setter <;> decide
  cases op with
  | setApplication callerUserId info flag =>
    cases flag with
    | true => exact absurd accepted (Int.not_lt.mpr (Int.le_of_lt outranks))
    | false => exact absurd accepted (Int.not_le.mpr outranks)
  | setAppServiceExtension info flag =>
    cases flag with
    | true => exact absurd (user.symm.trans accepted.1) nofun
    | false => exact ⟨own, fun never => accepted.2 ⟨user, never⟩⟩
  | insert info =>
    have same : entry.value.setter = info.setter := by
      rw [kept.values entry inside, free entry inside own]
      rfl
    have lower : entry.value.setter.toInt < info.setter.toInt := outranks
    exact absurd (same ▸ lower) (Int.lt_irrefl _)
  | delete info => exact absurd rfl (kind info)

section Named

variable (permuted : ∀ store, (getEntries store).Perm store) {registry : Registry}
include permuted

theorem Agrees.query (agrees : Agrees store registry) (valid : info.Valid)
    (named : info.appType ≠ .unspecified) :
    queryKeepAliveData getEntries store info = reported (registry info.target) := by
  obtain ⟨entry, inside, covered, status⟩ | ⟨none, status⟩ :=
    queryKeepAliveData_cases permuted store valid
  · rw [status]
    exact congrArg reported
      ((agrees _ _).mpr ⟨entry, inside, (covers_iff valid named).mp covered, rfl⟩).symm
  · have unset : registry info.target = Option.none := by
      rw [Option.eq_none_iff_forall_ne_some]
      intro value set
      obtain ⟨entry, inside, own, -⟩ := (agrees _ _).mp set
      exact none entry inside ((covers_iff valid named).mpr own)
    rw [status, unset]

omit permuted in
theorem Agrees.others_unset (agrees : Agrees store registry) (valid : info.Valid)
    (named : info.appType ≠ .unspecified) (unset : registry info.target = none) :
    others store info = store := by
  refine others_eq_self fun entry inside covered => ?_
  have set := (agrees _ _).mpr ⟨entry, inside, (covers_iff valid named).mp covered, rfl⟩
  rw [unset] at set
  cases set

variable {op : Operation}

section

variable (agrees : Agrees store registry)
include agrees

theorem setKeepAliveTrue_named (valid : info.Valid) (named : info.appType ≠ .unspecified)
    (setter : info.setter ≠ .unspecified) (first : op.Accepted none)
    (higher : ∀ value, op.Accepted (some value) ↔ info.setter.toInt < value.setter.toInt) :
    (setKeepAliveTrue getEntries store info).1 =
      if op.Accepted (registry info.target) then
        others store info ++ [⟨info, convertKeepAliveStatusToValue info⟩]
      else store := by
  have status := agrees.query permuted valid named
  have inserted := inserted_others store valid named setter
  cases current : registry info.target with
  | none =>
    rw [current] at status
    rw [setKeepAliveTrue_missing status, if_pos first, <- inserted,
      agrees.others_unset valid named current]
  | some value =>
    rw [current] at status
    rw [setKeepAliveTrue_found permuted valid status, inserted]
    simp only [higher, <- Int.not_le, ite_not]

theorem cancelKeepAlive_named (valid : info.Valid) (named : info.appType ≠ .unspecified)
    (notLower : ∀ value, op.Accepted (some value) ↔ info.setter.toInt ≤ value.setter.toInt) :
    (cancelKeepAlive getEntries store info).1 =
      if op.Accepted (registry info.target) then others store info else store := by
  have status := agrees.query permuted valid named
  cases current : registry info.target with
  | none =>
    rw [current] at status
    rw [cancelKeepAlive_missing status, agrees.others_unset valid named current, ite_self]
  | some value =>
    rw [current] at status
    rw [cancelKeepAlive_found permuted valid status]
    simp only [notLower, <- Int.not_lt, ite_not]

theorem setAppServiceExtensionKeepAlive_named (valid : info.Valid)
    (named : info.appType ≠ .unspecified) (setter : info.setter ≠ .unspecified) (flag : Bool) :
    (setAppServiceExtensionKeepAlive getEntries store info flag).1 =
      if (setAppServiceExtension info flag).Accepted (registry info.target) then
        if flag then others store info ++ [⟨info, convertKeepAliveStatusToValue info⟩]
        else others store info
      else store := by
  have status := agrees.query permuted valid named
  have inserted := inserted_others store valid named setter
  cases current : registry info.target with
  | none =>
    rw [current] at status
    have unset := agrees.others_unset valid named current
    rw [setAppServiceExtensionKeepAlive_missing flag status]
    cases flag with
    | true =>
      have accepted : (setAppServiceExtension info true).Accepted none := trivial
      rw [if_pos accepted, <- inserted, unset]
    | false =>
      rw [unset, if_neg Bool.false_ne_true, if_neg Bool.false_ne_true, ite_self]
  | some value =>
    rw [current] at status
    rw [setAppServiceExtensionKeepAlive_found permuted valid flag status, inserted]
    cases flag with
    | true =>
      have again : (info.setter = .user ∨ (info.setter = .system ∧ info.policy = value.policy)) ↔
          ¬ (info.setter = .system ∧ info.policy ≠ value.policy) := by
        cases known : info.setter <;> simp_all
      simp only [if_pos, Accepted, again, ite_not]
    | false =>
      simp only [Bool.false_eq_true, if_false, Accepted]
      split
      next other => rw [if_neg fun accepted => other.1 (accepted.1 other.2)]
      next own =>
        have mine : info.setter = value.setter -> info.setterId = value.setterId := by tauto
        split
        next refused => rw [if_neg fun accepted => accepted.2 refused]
        next allowed => rw [if_pos ⟨mine, allowed⟩]

theorem handle_named (free : op.Free store) (named : op.Named)
    (valid : op.info.Valid) (kind : ∀ info, op ≠ .delete info) :
    op.handle getEntries store =
      if op.Accepted (registry op.info.target) then
        if op.flag then
          others store op.info ++ [⟨op.info, convertKeepAliveStatusToValue op.info⟩]
        else others store op.info
      else store := by
  cases op with
  | setApplication callerUserId info flag =>
    cases flag with
    | true =>
      exact setKeepAliveTrue_named permuted agrees valid named.1 named.2 trivial fun _ => Iff.rfl
    | false => exact cancelKeepAlive_named permuted agrees valid named.1 fun _ => Iff.rfl
  | setAppServiceExtension info flag =>
    exact setAppServiceExtensionKeepAlive_named permuted agrees valid named.1 named.2 flag
  | insert info =>
    by_cases accepted : info.appType ≠ .unspecified ∧ info.setter ≠ .unspecified
    · rw [Operation.info]
      have taken : (Operation.insert info).Accepted (registry info.target) := accepted
      rw [if_pos taken]
      exact insertKeepAliveData_others valid accepted.1 accepted.2 free
    · rw [Operation.info]
      have refused : ¬ (Operation.insert info).Accepted (registry info.target) := accepted
      rw [if_neg refused]
      exact insertKeepAliveData_refused fun complete => accepted complete.2
  | delete info => exact absurd rfl (kind info)

end

omit permuted in
theorem handle_invalid (invalid : ¬ op.info.Valid)
    (kind : ∀ info, op ≠ .delete info) : op.handle getEntries store = store := by
  cases op with
  | setApplication callerUserId info flag =>
    cases flag with
    | true => exact setKeepAliveTrue_invalid invalid
    | false => exact cancelKeepAlive_invalid invalid
  | setAppServiceExtension info flag => exact setAppServiceExtensionKeepAlive_invalid flag invalid
  | insert info => exact insertKeepAliveData_refused fun complete => invalid complete.1
  | delete info => exact absurd rfl (kind info)

theorem Agrees.delete (agrees : Agrees store registry) (info : KeepAliveInfo) :
    Agrees ((delete info).handle getEntries store) (registry.handle (.delete info)) := by
  by_cases valid : 0 ≤ info.userId
  · rw [Operation.handle, deleteKeepAliveData_others permuted valid]
    convert agrees.cleared info using 2
    simp [Registry.handle, Operation.info, valid]
  · rw [Operation.handle, deleteKeepAliveData, if_pos (Int.not_le.mp valid)]
    convert agrees using 1
    simp [Registry.handle, Operation.info, valid]

theorem Agrees.handle (agrees : Agrees store registry) (free : op.Free store)
    (named : op.Named) :
    Agrees (op.handle getEntries store) (registry.handle op) := by
  by_cases deletion : ∃ info, op = .delete info
  · obtain ⟨info, rfl⟩ := deletion
    exact agrees.delete permuted info
  · rw [not_exists] at deletion
    have registered : registry.handle op =
        if op.info.Valid ∧ op.Accepted (registry op.info.target) then
          Function.update registry op.info.target
            (if op.flag then some (convertKeepAliveStatusToValue op.info) else none)
        else registry := by
      cases op with
      | delete info => exact absurd rfl (deletion info)
      | _ => rfl
    rw [registered]
    by_cases valid : op.info.Valid
    · rw [handle_named permuted agrees free named valid deletion]
      by_cases accepted : op.Accepted (registry op.info.target)
      · have both : op.info.Valid ∧
            op.Accepted (registry op.info.target) := ⟨valid, accepted⟩
        rw [if_pos accepted, if_pos both]
        exact agrees.changed valid (appType_named named accepted deletion) op.flag
      · rw [if_neg accepted, if_neg fun both => accepted both.2]
        exact agrees
    · rw [handle_invalid valid deletion, if_neg fun both => valid both.1]
      exact agrees

theorem protects_unless_waived (kept : Kept store) (agrees : Agrees store registry)
    (free : op.Free store) (named : op.Named) {entry : Entry} (inside : entry ∈ store)
    (outranks : Outranks entry op) :
    Waived entry op ∨ entry ∈ op.handle getEntries store := by
  by_cases deletion : ∃ info, op = .delete info
  · obtain ⟨info, rfl⟩ := deletion
    by_cases covered : info.Covers entry.key.target
    · exact .inl covered
    · refine .inr ?_
      by_cases valid : 0 ≤ info.userId
      · rw [handle, deleteKeepAliveData_others permuted valid]
        exact mem_others.mpr ⟨inside, covered⟩
      · rw [Operation.handle, deleteKeepAliveData, if_pos (Int.not_le.mp valid)]
        exact inside
  · rw [not_exists] at deletion
    by_cases valid : op.info.Valid
    · rw [handle_named permuted agrees free named valid deletion]
      by_cases accepted : op.Accepted (registry op.info.target)
      · by_cases own : entry.key.target = op.info.target
        · have current := (agrees _ _).mpr ⟨entry, inside, own, rfl⟩
          rw [current] at accepted
          exact .inl (waived_of_accepted kept free deletion inside outranks own accepted)
        · have appType := appType_named named accepted deletion
          have spared := mem_others.mpr ⟨inside, mt (covers_iff valid appType).mp own⟩
          rw [if_pos accepted]
          refine .inr ?_
          split
          · exact mem_append_left _ spared
          · exact spared
      · rw [if_neg accepted]
        exact .inr inside
    · rw [handle_invalid valid deletion]
      exact .inr inside

end Named

theorem keep_alive_entries_and_priorities (getEntries : KvStore -> List Entry)
    (permuted : ∀ store, (getEntries store).Perm store) (operations : List Operation)
    (free : (keepAliveMachine getEntries).EveryStep operations
      fun keeping op => op.Free keeping.store) :
    (keepAliveMachine getEntries).Throughout operations Unique ∧
      ((keepAliveMachine getEntries).EveryStep operations (fun _ op => op.Named) ->
        (keepAliveMachine getEntries).EveryStep operations (fun keeping op =>
          ∀ entry ∈ keeping.store, Outranks entry op ->
            Waived entry op ∨ entry ∈ op.handle getEntries keeping.store) ∧
        (keepAliveMachine getEntries).Throughout operations (Reports getEntries)) := by
  have kept : (keepAliveMachine getEntries).Throughout operations fun keeping =>
      Kept keeping.store := by
    refine free.throughout ?_ ?_
    · exact ⟨nodup_nil, fun _ inside => absurd inside not_mem_nil,
        fun _ inside => absurd inside not_mem_nil⟩
    · intro keeping op kept free
      exact kept.handle permuted free
  refine ⟨fun done rest split => (kept done rest split).unique, fun named => ?_⟩
  have both : (keepAliveMachine getEntries).EveryStep operations fun keeping op =>
      op.Free keeping.store ∧ op.Named :=
    fun done op rest split =>
      ⟨free done op rest split, named done op rest split⟩
  have agrees : (keepAliveMachine getEntries).Throughout operations fun keeping =>
      Agrees keeping.store keeping.registry := by
    refine both.throughout (fun target value => ?_) ?_
    · refine iff_of_false (Option.some_ne_none value).symm ?_
      rintro ⟨entry, inside, -⟩
      exact not_mem_nil inside
    · intro keeping op agrees both
      exact agrees.handle permuted both.1 both.2
  constructor
  · intro done op rest split entry inside outranks
    have earlier := kept done (op :: rest) split
    have registered := agrees done (op :: rest) split
    exact protects_unless_waived permuted earlier registered (free done op rest split)
      (named done op rest split) inside outranks
  · intro done rest split info valid appType
    exact (agrees done rest split).query permuted valid appType

def bySystem (policy : KeepAlivePolicy) : KeepAliveInfo :=
  { userId := 1, setterId := 0, appType := .thirdParty, setter := .system, policy := policy,
    bundleName := "com.example.app" }

def byUser : KeepAliveInfo :=
  { userId := 1, setterId := 100, appType := .thirdParty, setter := .user,
    bundleName := "com.example.app" }

def cancelledInVain : List Operation :=
  [.insert (bySystem .notAllowCancel), .setApplication 1 byUser true,
    .setAppServiceExtension byUser false]

theorem system_entry_is_kept :
    (keepAliveMachine id).EveryStep cancelledInVain (fun keeping op =>
      ∀ entry ∈ keeping.store, Outranks entry op ->
        Waived entry op ∨ entry ∈ op.handle id keeping.store) ∧
    (keepAliveMachine id).Throughout cancelledInVain (Reports id) := by
  have free : (keepAliveMachine id).EveryStep cancelledInVain
      fun keeping op => op.Free keeping.store := by
    refine Machine.StepsFrom.everyStep ?_
    simp only [cancelledInVain, Machine.StepsFrom, Operation.Free, and_true]
    exact fun _ inside => absurd inside List.not_mem_nil
  have named : (keepAliveMachine id).EveryStep cancelledInVain
      fun _ op => op.Named := by
    refine Machine.StepsFrom.everyStep ?_
    simp only [cancelledInVain, Machine.StepsFrom, Operation.Named, and_true, true_and]
    decide
  exact (keep_alive_entries_and_priorities id (fun _ => .refl _) cancelledInVain free).2 named

theorem not_laws_of_removed (done : List Operation) (op : Operation) (info : KeepAliveInfo)
    (inside : ⟨info, convertKeepAliveStatusToValue info⟩ ∈ ((keepAliveMachine id).run done).store)
    (outranks : info.setter.toInt < op.info.setter.toInt)
    (removed : ⟨info, convertKeepAliveStatusToValue info⟩ ∉
      op.handle id ((keepAliveMachine id).run done).store) :
    ¬ KeepAliveLaws id (done ++ [op]) :=
  fun laws => removed (laws.2.1 done op [] rfl _ inside outranks)

theorem keep_alive_laws_broken :
    ¬ KeepAliveLaws id ([.setAppServiceExtension (bySystem .allowCancel) true] ++
      [.setAppServiceExtension byUser false]) ∧
    ¬ KeepAliveLaws id ([.setApplication 1 { byUser with appType := .system } true,
      .setApplication 1 (bySystem .unspecified) true] ++
      [.setApplication 1 { byUser with appType := .unspecified } false]) ∧
    ¬ KeepAliveLaws id ([.setApplication 1 (bySystem .unspecified) true] ++ [.delete byUser]) ∧
    ¬ KeepAliveLaws id [.insert byUser, .insert (bySystem .unspecified)] ∧
    ¬ KeepAliveLaws id [.insert byUser,
      .setApplication 1 { byUser with setter := .unspecified } true] := by
  refine ⟨?_, ?_, ?_, ?_, ?_⟩
  · exact not_laws_of_removed _ _ (bySystem .allowCancel) (by decide) (by decide) (by decide)
  · exact not_laws_of_removed _ _ (bySystem .unspecified) (by decide) (by decide) (by decide)
  · exact not_laws_of_removed _ _ (bySystem .unspecified) (by decide) (by decide) (by decide)
  · intro laws
    have unique := laws.1 [.insert byUser, .insert (bySystem .unspecified)] [] rfl
    revert unique
    unfold Keeping.Unique
    decide
  · intro laws
    have reports := laws.2.2 [.insert byUser,
      .setApplication 1 { byUser with setter := .unspecified } true] [] rfl byUser (by decide)
      (by decide)
    revert reports
    decide

end AbilityRuntime.KeepAlive
