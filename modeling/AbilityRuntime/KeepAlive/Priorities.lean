import Mathlib.Data.List.Nodup
import AbilityRuntime.KeepAlive.AbilityKeepAliveService
import AbilityRuntime.Library.Runs

set_option autoImplicit false

namespace AbilityRuntime.KeepAlive

open Library AbilityKeepAliveDataManager AbilityKeepAliveService List

structure Target where
  bundleName : String
  userId : Int
  appType : KeepAliveAppType
  deriving DecidableEq

namespace KeepAliveInfo

def target (info : KeepAliveInfo) : Target := ⟨info.bundleName, info.userId, info.appType⟩

def Valid (info : KeepAliveInfo) : Prop := info.bundleName ≠ "" ∧ 0 ≤ info.userId

instance (info : KeepAliveInfo) : Decidable info.Valid := inferInstanceAs (Decidable (_ ∧ _))

/-- The target's entry, or all entries for an empty bundle name. -/
def Covers (info : KeepAliveInfo) (target : Target) : Prop :=
  target.userId = info.userId ∧ (info.bundleName = "" ∨ target.bundleName = info.bundleName) ∧
    (info.appType = .unspecified ∨ target.appType = info.appType)

instance (info : KeepAliveInfo) (target : Target) : Decidable (info.Covers target) :=
  inferInstanceAs (Decidable (_ ∧ _))

end KeepAliveInfo

inductive Operation
  | setApplication (callerUserId : Int) (info : KeepAliveInfo) (flag : Bool)
  | setAppServiceExtension (info : KeepAliveInfo) (flag : Bool)
  | insert (info : KeepAliveInfo)
  | delete (info : KeepAliveInfo)

namespace Operation

def info : Operation -> KeepAliveInfo
  | .setApplication callerUserId info _ =>
    { info with userId := getValidUserId callerUserId info.userId }
  | .setAppServiceExtension info _ | .insert info | .delete info => info

def flag : Operation -> Bool
  | .setApplication _ _ flag | .setAppServiceExtension _ flag => flag
  | .insert _ => true
  | .delete _ => false

def handle (getEntries : KvStore -> List Entry) (store : KvStore) : Operation -> KvStore
  | .setApplication callerUserId info flag =>
    (setApplicationKeepAlive getEntries callerUserId store info flag).1
  | .setAppServiceExtension info flag =>
    (setAppServiceExtensionKeepAlive getEntries store info flag).1
  | .insert info => (insertKeepAliveData store info).1
  | .delete info => (deleteKeepAliveData getEntries store info).1

def Accepted : Operation -> Option Value -> Prop
  | .setApplication _ info true, some value => info.setter.toInt < value.setter.toInt
  | .setApplication _ info false, some value => info.setter.toInt ≤ value.setter.toInt
  | .setAppServiceExtension info true, some value =>
    info.setter = .system ∧ info.policy ≠ value.policy
  | .setAppServiceExtension info false, some value =>
    (info.setter = value.setter -> info.setterId = value.setterId) ∧
      ¬ (info.setter = .user ∧ value.policy = .notAllowCancel)
  | .insert info, _ => info.appType ≠ .unspecified ∧ info.setter ≠ .unspecified
  | .delete _, _ => True
  | _, none => True

instance : ∀ (op : Operation) (current : Option Value), Decidable (op.Accepted current)
  | .setApplication _ _ true, some _ => inferInstanceAs (Decidable (_ < _))
  | .setApplication _ _ false, some _ => inferInstanceAs (Decidable (_ ≤ _))
  | .setAppServiceExtension _ true, some _ => inferInstanceAs (Decidable (_ ∧ _))
  | .setAppServiceExtension _ false, some _ => inferInstanceAs (Decidable (_ ∧ _))
  | .insert _, _ => inferInstanceAs (Decidable (_ ∧ _))
  | .delete _, _ => isTrue trivial
  | .setApplication _ _ true, none => isTrue trivial
  | .setApplication _ _ false, none => isTrue trivial
  | .setAppServiceExtension _ true, none => isTrue trivial
  | .setAppServiceExtension _ false, none => isTrue trivial

end Operation

abbrev Registry := Target -> Option Value

def Registry.handle (registry : Registry) (op : Operation) : Registry :=
  let info := op.info
  match op with
  | .delete _ => fun target =>
    if 0 ≤ info.userId ∧ info.Covers target then none else registry target
  | _ =>
    if info.Valid ∧ op.Accepted (registry info.target) then
      Function.update registry info.target
        (if op.flag then some (convertKeepAliveStatusToValue info) else none)
    else registry

structure Keeping where
  store : KvStore
  registry : Registry

def keepAliveMachine (getEntries : KvStore -> List Entry) : Machine Keeping Operation where
  start := ⟨[], fun _ => none⟩
  step keeping op := ⟨op.handle getEntries keeping.store, keeping.registry.handle op⟩

namespace Keeping

def Unique (keeping : Keeping) : Prop := (keeping.store.map fun entry => entry.key.target).Nodup

def Outranks (entry : Entry) (op : Operation) : Prop :=
  entry.value.setter.toInt < op.info.setter.toInt

def Protects (getEntries : KvStore -> List Entry) (keeping : Keeping) (op : Operation) : Prop :=
  ∀ entry ∈ keeping.store, Outranks entry op ->
    entry ∈ op.handle getEntries keeping.store

def reported : Option Value -> KeepAliveStatus
  | none => { code := .errNameNotFound }
  | some value => ⟨.errOk, value.setterId, value.setter, value.policy⟩

def Reports (getEntries : KvStore -> List Entry) (keeping : Keeping) : Prop :=
  ∀ info : KeepAliveInfo, info.Valid -> info.appType ≠ .unspecified ->
    queryKeepAliveData getEntries keeping.store info = reported (keeping.registry info.target)

end Keeping

open Keeping

def KeepAliveLaws (getEntries : KvStore -> List Entry) (operations : List Operation) : Prop :=
  (keepAliveMachine getEntries).Throughout operations Unique ∧
    (keepAliveMachine getEntries).EveryStep operations (Protects getEntries) ∧
      (keepAliveMachine getEntries).Throughout operations (Reports getEntries)

def Waived (entry : Entry) : Operation -> Prop
  | .setAppServiceExtension info false =>
    entry.key.target = info.target ∧ entry.value.policy ≠ .notAllowCancel
  | .delete info => info.Covers entry.key.target
  | _ => False

namespace Operation

/-- The data manager's own insert does not look for another entry of the target. -/
def Free (store : KvStore) : Operation -> Prop
  | .insert info => ∀ entry ∈ store, entry.key.target = info.target -> entry.key = info
  | _ => True

def Named : Operation -> Prop
  | .setApplication _ info _ | .setAppServiceExtension info _ =>
    info.appType ≠ .unspecified ∧ info.setter ≠ .unspecified
  | .insert _ | .delete _ => True

end Operation

/-- The entries of the store: one for each target, by a setter, with the value that its key tells
too. -/
structure Kept (store : KvStore) : Prop where
  unique : (store.map fun entry => entry.key.target).Nodup
  values : ∀ entry ∈ store, entry.value = convertKeepAliveStatusToValue entry.key
  setters : ∀ entry ∈ store, entry.key.setter ≠ .unspecified

variable {getEntries : KvStore -> List Entry} {store : KvStore} {info : KeepAliveInfo}

theorem isEqual_iff {key : KeepAliveInfo} : isEqual key info = true ↔ info.Covers key.target := by
  simp [isEqual, KeepAliveInfo.Covers, KeepAliveInfo.target, and_assoc]

theorem covers_iff (valid : info.Valid) (named : info.appType ≠ .unspecified) {target : Target} :
    info.Covers target ↔ target = info.target := by
  obtain ⟨bundleName, userId, appType⟩ := target
  simp only [KeepAliveInfo.Covers, KeepAliveInfo.target, valid.1, named, false_or, Target.mk.injEq]
  tauto

def others (store : KvStore) (info : KeepAliveInfo) : KvStore :=
  store.filter fun entry => !isEqual entry.key info

theorem mem_others {entry : Entry} :
    entry ∈ others store info ↔ entry ∈ store ∧ ¬ info.Covers entry.key.target := by
  rw [others, mem_filter, Bool.not_eq_true', <- isEqual_iff, Bool.not_eq_true]

section Delete

variable (permuted : ∀ store, (getEntries store).Perm store)
include permuted

theorem deleteKeepAliveData_others (valid : 0 ≤ info.userId) :
    deleteKeepAliveData getEntries store info = (others store info, .errOk) := by
  have loop : ∀ (items : List Entry) (left : KvStore),
      items.foldl (fun store item =>
        if isEqual item.key info then store.delete item.key else store) left =
      left.filter fun entry => !items.any fun item => isEqual item.key info && item.key = entry.key := by
    intro items
    induction items with
    | nil => simp
    | cons item items ih =>
      intro left
      rw [foldl_cons, ih]
      split
      next asked =>
        rw [KvStore.delete, filter_filter]
        simp [asked, eq_comm, Bool.and_comm]
      next spared =>
        simp [spared]
  unfold deleteKeepAliveData
  rw [if_neg (Int.not_lt.mpr valid)]
  dsimp only
  rw [loop, others]
  congr 1
  refine filter_congr fun entry inside => ?_
  rw [Bool.not_inj_iff, Bool.eq_iff_iff, any_eq_true]
  constructor
  · rintro ⟨item, -, asked⟩
    rw [Bool.and_eq_true, decide_eq_true_iff] at asked
    exact asked.2 ▸ asked.1
  · intro asked
    exact ⟨entry, (permuted store).mem_iff.mpr inside, by simp [asked]⟩

theorem queryKeepAliveData_cases (store : KvStore) (valid : info.Valid) :
    (∃ entry ∈ store, info.Covers entry.key.target ∧
      queryKeepAliveData getEntries store info = reported (some entry.value)) ∨
    ((∀ entry ∈ store, ¬ info.Covers entry.key.target) ∧
      queryKeepAliveData getEntries store info = reported none) := by
  unfold queryKeepAliveData
  have asked : ¬ (info.bundleName.isEmpty || decide (info.userId < 0)) = true := by
    simpa [KeepAliveInfo.Valid] using valid
  rw [if_neg asked]
  split
  next missing =>
    refine .inr ⟨fun entry inside covers => ?_, rfl⟩
    rw [find?_eq_none] at missing
    exact missing entry ((permuted store).mem_iff.mpr inside) (isEqual_iff.mpr covers)
  next item found =>
    have asked : isEqual item.key info = true := by simpa using find?_some found
    exact .inl ⟨item, (permuted store).mem_iff.mp (mem_of_find?_eq_some found),
      isEqual_iff.mp asked, rfl⟩

end Delete

theorem queryKeepAliveData_invalid (store : KvStore) (invalid : ¬ info.Valid) :
    queryKeepAliveData getEntries store info = { code := .errInvalidValue } := by
  have refused : (info.bundleName.isEmpty || decide (info.userId < 0)) = true := by
    by_contra asked
    exact invalid (by simpa [KeepAliveInfo.Valid] using asked)
  rw [queryKeepAliveData, if_pos refused]

theorem Kept.cleared (kept : Kept store) (info : KeepAliveInfo) : Kept (others store info) where
  unique := kept.unique.sublist (filter_sublist.map _)
  values entry inside := kept.values entry (mem_of_mem_filter inside)
  setters entry inside := kept.setters entry (mem_of_mem_filter inside)

theorem Kept.inserted (kept : Kept store)
    (free : ∀ entry ∈ store, entry.key.target = info.target -> entry.key = info) :
    Kept (insertKeepAliveData store info).1 := by
  unfold insertKeepAliveData
  split
  · exact kept
  next accepted =>
    simp only [Bool.or_eq_true, decide_eq_true_eq, not_or] at accepted
    have inserted : ∀ {entry}, entry ∈ store.put info (convertKeepAliveStatusToValue info) ->
        entry ∈ store ∨ entry = ⟨info, convertKeepAliveStatusToValue info⟩ := by
      intro entry inside
      rw [KvStore.put, mem_append, mem_singleton] at inside
      exact inside.imp_left mem_of_mem_filter
    refine ⟨?_, fun entry inside => ?_, fun entry inside => ?_⟩
    · rw [KvStore.put, map_append]
      refine (kept.unique.sublist (filter_sublist.map _)).append (nodup_singleton _) ?_
      intro target inside own
      obtain ⟨entry, left, rfl⟩ := mem_map.mp inside
      obtain ⟨inside, other⟩ := mem_filter.mp left
      exact decide_eq_true_iff.mp other (free entry inside (mem_singleton.mp own))
    · obtain earlier | rfl := inserted inside
      · exact kept.values entry earlier
      · rfl
    · obtain earlier | rfl := inserted inside
      · exact kept.setters entry earlier
      · exact accepted.2

theorem target_covered (info : KeepAliveInfo) : info.Covers info.target :=
  ⟨rfl, .inr rfl, .inr rfl⟩

inductive Outcome (store : KvStore) (info : KeepAliveInfo) : KvStore -> Prop
  | same : Outcome store info store
  | inserted (none : ∀ entry ∈ store, ¬ info.Covers entry.key.target) :
    Outcome store info (insertKeepAliveData store info).1
  | deleted : Outcome store info (others store info)
  | replaced : Outcome store info (insertKeepAliveData (others store info) info).1

theorem Outcome.kept {after : KvStore} (outcome : Outcome store info after) (kept : Kept store) :
    Kept after := by
  have free {left : KvStore} (none : ∀ entry ∈ left, ¬ info.Covers entry.key.target) :
      ∀ entry ∈ left, entry.key.target = info.target -> entry.key = info :=
    fun entry inside same => absurd (same ▸ target_covered info) (none entry inside)
  cases outcome with
  | same => exact kept
  | inserted none => exact kept.inserted (free none)
  | deleted => exact kept.cleared info
  | replaced =>
    exact (kept.cleared info).inserted (free fun entry inside => (mem_others.mp inside).2)

section Service

variable (permuted : ∀ store, (getEntries store).Perm store)
include permuted

theorem setKeepAliveTrue_found (valid : info.Valid) {value : Value}
    (status : queryKeepAliveData getEntries store info = reported (some value)) :
    (setKeepAliveTrue getEntries store info).1 =
      if value.setter.toInt ≤ info.setter.toInt then store
      else (insertKeepAliveData (others store info) info).1 := by
  simp only [setKeepAliveTrue, status, reported, deleteKeepAliveData_others permuted valid.2]
  simp [apply_ite Prod.fst]

theorem cancelKeepAlive_found (valid : info.Valid) {value : Value}
    (status : queryKeepAliveData getEntries store info = reported (some value)) :
    (cancelKeepAlive getEntries store info).1 =
      if value.setter.toInt < info.setter.toInt then store else others store info := by
  simp only [cancelKeepAlive, status, reported, deleteKeepAliveData_others permuted valid.2]
  simp [apply_ite Prod.fst]

theorem setAppServiceExtensionKeepAlive_found (valid : info.Valid) {value : Value} (flag : Bool)
    (status : queryKeepAliveData getEntries store info = reported (some value)) :
    (setAppServiceExtensionKeepAlive getEntries store info flag).1 =
      if flag then
        if info.setter = .user ∨ (info.setter = .system ∧ info.policy = value.policy) then store
        else (insertKeepAliveData (others store info) info).1
      else if info.setterId ≠ value.setterId ∧ info.setter = value.setter then store
      else if info.setter = .user ∧ value.policy = .notAllowCancel then store
      else others store info := by
  simp only [setAppServiceExtensionKeepAlive, status, reported,
    deleteKeepAliveData_others permuted valid.2]
  cases flag <;> simp [apply_ite Prod.fst]

omit permuted in
theorem setKeepAliveTrue_missing
    (status : queryKeepAliveData getEntries store info = reported none) :
    setKeepAliveTrue getEntries store info = insertKeepAliveData store info := by
  simp [setKeepAliveTrue, status, reported]

omit permuted in
theorem cancelKeepAlive_missing
    (status : queryKeepAliveData getEntries store info = reported none) :
    (cancelKeepAlive getEntries store info).1 = store := by
  simp [cancelKeepAlive, status, reported]

omit permuted in
theorem setAppServiceExtensionKeepAlive_missing (flag : Bool)
    (status : queryKeepAliveData getEntries store info = reported none) :
    (setAppServiceExtensionKeepAlive getEntries store info flag).1 =
      if flag then (insertKeepAliveData store info).1 else store := by
  simp [setAppServiceExtensionKeepAlive, status, reported, apply_ite Prod.fst]

omit permuted in
theorem setKeepAliveTrue_invalid (invalid : ¬ info.Valid) :
    (setKeepAliveTrue getEntries store info).1 = store := by
  rw [setKeepAliveTrue, queryKeepAliveData_invalid store invalid]
  rfl

omit permuted in
theorem cancelKeepAlive_invalid (invalid : ¬ info.Valid) :
    (cancelKeepAlive getEntries store info).1 = store := by
  rw [cancelKeepAlive, queryKeepAliveData_invalid store invalid]
  rfl

omit permuted in
theorem setAppServiceExtensionKeepAlive_invalid (flag : Bool) (invalid : ¬ info.Valid) :
    (setAppServiceExtensionKeepAlive getEntries store info flag).1 = store := by
  rw [setAppServiceExtensionKeepAlive, queryKeepAliveData_invalid store invalid]
  rfl

theorem setKeepAliveTrue_outcome (store : KvStore) (info : KeepAliveInfo) :
    Outcome store info (setKeepAliveTrue getEntries store info).1 := by
  by_cases valid : info.Valid
  · obtain ⟨entry, -, -, status⟩ | ⟨none, status⟩ := queryKeepAliveData_cases permuted store valid
    · rw [setKeepAliveTrue_found permuted valid status]
      split
      · exact .same
      · exact .replaced
    · rw [setKeepAliveTrue_missing status]
      exact .inserted none
  · rw [setKeepAliveTrue_invalid valid]
    exact .same

theorem cancelKeepAlive_outcome (store : KvStore) (info : KeepAliveInfo) :
    Outcome store info (cancelKeepAlive getEntries store info).1 := by
  by_cases valid : info.Valid
  · obtain ⟨entry, -, -, status⟩ | ⟨none, status⟩ := queryKeepAliveData_cases permuted store valid
    · rw [cancelKeepAlive_found permuted valid status]
      split
      · exact .same
      · exact .deleted
    · rw [cancelKeepAlive_missing status]
      exact .same
  · rw [cancelKeepAlive_invalid valid]
    exact .same

theorem setAppServiceExtensionKeepAlive_outcome (store : KvStore) (info : KeepAliveInfo)
    (flag : Bool) :
    Outcome store info (setAppServiceExtensionKeepAlive getEntries store info flag).1 := by
  by_cases valid : info.Valid
  · obtain ⟨entry, -, -, status⟩ | ⟨none, status⟩ := queryKeepAliveData_cases permuted store valid
    · rw [setAppServiceExtensionKeepAlive_found permuted valid flag status]
      cases flag with
      | true =>
        rw [if_pos rfl]
        split
        · exact .same
        · exact .replaced
      | false =>
        rw [if_neg Bool.false_ne_true]
        split
        · exact .same
        · split
          · exact .same
          · exact .deleted
    · rw [setAppServiceExtensionKeepAlive_missing flag status]
      cases flag with
      | true => exact .inserted none
      | false => exact .same
  · rw [setAppServiceExtensionKeepAlive_invalid flag valid]
    exact .same

theorem Kept.handle (kept : Kept store) {op : Operation} (free : op.Free store) :
    Kept (op.handle getEntries store) := by
  cases op with
  | setApplication callerUserId info flag =>
    cases flag with
    | true => exact (setKeepAliveTrue_outcome permuted store _).kept kept
    | false => exact (cancelKeepAlive_outcome permuted store _).kept kept
  | setAppServiceExtension info flag =>
    exact (setAppServiceExtensionKeepAlive_outcome permuted store info flag).kept kept
  | insert info => exact kept.inserted free
  | delete info =>
    by_cases valid : 0 ≤ info.userId
    · rw [Operation.handle, deleteKeepAliveData_others permuted valid]
      exact kept.cleared info
    · rw [Operation.handle, deleteKeepAliveData, if_pos (Int.not_le.mp valid)]
      exact kept

end Service

end AbilityRuntime.KeepAlive
