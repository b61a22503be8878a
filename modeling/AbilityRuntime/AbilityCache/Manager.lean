import Mathlib.Data.List.Perm.Basic
import Mathlib.Data.String.Basic
import AbilityRuntime.Library.Runs

set_option autoImplicit false

namespace AbilityRuntime.AbilityCache

structure RecordInfo where
  accessTokenId : Nat
  moduleName : String
  abilityName : String

structure AbilityRequest where
  accessTokenId : Nat
  moduleName : String
  abilityName : String

structure ProcRecordsInfo where
  recList : List Nat
  cnt : Nat
deriving DecidableEq, Repr

structure AbilityCacheManager where
  devLruCapacity : Nat
  procLruCapacity : Nat
  devLruCnt : Nat := 0
  procLruMap : Std.ExtTreeMap Nat ProcRecordsInfo := ∅
  devRecLru : List Nat := []

namespace AbilityCacheManager

variable (info : Nat -> RecordInfo)

def removeAbilityRecInDevList (mgr : AbilityCacheManager) (abilityRecord : Nat) :
    AbilityCacheManager :=
  if abilityRecord ∈ mgr.devRecLru then
    { mgr with devRecLru := mgr.devRecLru.erase abilityRecord, devLruCnt := mgr.devLruCnt - 1 }
  else mgr

def removeAbilityRecInProcList (mgr : AbilityCacheManager) (abilityRecord : Nat) :
    AbilityCacheManager :=
  let accessTokenId := (info abilityRecord).accessTokenId
  match mgr.procLruMap[accessTokenId]? with
  | none => mgr
  | some procInfo =>
    if abilityRecord ∈ procInfo.recList then
      let procInfo : ProcRecordsInfo := ⟨procInfo.recList.erase abilityRecord, procInfo.cnt - 1⟩
      if procInfo.cnt = 0 then { mgr with procLruMap := mgr.procLruMap.erase accessTokenId }
      else { mgr with procLruMap := mgr.procLruMap.insert accessTokenId procInfo }
    else mgr

def addToProcLru (mgr : AbilityCacheManager) (abilityRecord : Nat) :
    AbilityCacheManager × Option Nat :=
  let accessTokenId := (info abilityRecord).accessTokenId
  match mgr.procLruMap[accessTokenId]? with
  | none =>
    ({ mgr with procLruMap := mgr.procLruMap.insert accessTokenId ⟨[abilityRecord], 1⟩ }, none)
  | some procInfo =>
    if procInfo.cnt = mgr.procLruCapacity then
      match procInfo.recList with
      -- front() of an empty list is undefined; a full entry has a record
      | [] => (mgr, none)
      | rec :: rest =>
        let mgr := mgr.removeAbilityRecInDevList rec
        let procInfo : ProcRecordsInfo := ⟨rest ++ [abilityRecord], procInfo.cnt⟩
        ({ mgr with procLruMap := mgr.procLruMap.insert accessTokenId procInfo }, some rec)
    else
      let procInfo : ProcRecordsInfo := ⟨procInfo.recList ++ [abilityRecord], procInfo.cnt + 1⟩
      ({ mgr with procLruMap := mgr.procLruMap.insert accessTokenId procInfo }, none)

def addToDevLru (mgr : AbilityCacheManager) (abilityRecord : Nat) (rec : Option Nat) :
    AbilityCacheManager × Option Nat :=
  let pushBack (mgr : AbilityCacheManager) : AbilityCacheManager :=
    { mgr with devRecLru := mgr.devRecLru ++ [abilityRecord], devLruCnt := mgr.devLruCnt + 1 }
  match rec with
  | some rec => (pushBack mgr, some rec)
  | none =>
    if mgr.devLruCnt = mgr.devLruCapacity ∧ mgr.devLruCnt > 0 then
      match mgr.devRecLru with
      | [] => (pushBack mgr, none)
      | rec :: rest =>
        let mgr := mgr.removeAbilityRecInProcList info rec
        (pushBack { mgr with devRecLru := rest, devLruCnt := mgr.devLruCnt - 1 }, some rec)
    else (pushBack mgr, none)

def put (mgr : AbilityCacheManager) (abilityRecord : Nat) : AbilityCacheManager × Option Nat :=
  let (mgr, rec) := mgr.addToProcLru info abilityRecord
  mgr.addToDevLru info abilityRecord rec

def remove (mgr : AbilityCacheManager) (abilityRecord : Nat) : AbilityCacheManager :=
  (mgr.removeAbilityRecInProcList info abilityRecord).removeAbilityRecInDevList abilityRecord

def isRecInfoSame (abilityRequest : AbilityRequest) (abilityRecord : Nat) : Bool :=
  abilityRequest.moduleName == (info abilityRecord).moduleName &&
    abilityRequest.abilityName == (info abilityRecord).abilityName

def getAbilityRecInProcList (mgr : AbilityCacheManager) (abilityRequest : AbilityRequest) :
    AbilityCacheManager × Option Nat :=
  match mgr.procLruMap[abilityRequest.accessTokenId]? with
  | none => (mgr, none)
  | some procInfo =>
    match procInfo.recList.find? (isRecInfoSame info abilityRequest) with
    | none => (mgr, none)
    | some abilityRecord =>
      let procInfo : ProcRecordsInfo := ⟨procInfo.recList.erase abilityRecord, procInfo.cnt - 1⟩
      ({ mgr with procLruMap := mgr.procLruMap.insert abilityRequest.accessTokenId procInfo },
        some abilityRecord)

def get (mgr : AbilityCacheManager) (abilityRequest : AbilityRequest) :
    AbilityCacheManager × Option Nat :=
  match mgr.getAbilityRecInProcList info abilityRequest with
  | (mgr, none) => (mgr, none)
  | (mgr, some abilityRecord) => (mgr.removeAbilityRecInDevList abilityRecord, some abilityRecord)

end AbilityCacheManager

inductive Call where
  | put (abilityRecord : Option Nat)
  | get (abilityRequest : AbilityRequest)
  | remove (abilityRecord : Option Nat)

/-- The cache with its history: the records put and the records handed out, the latest first. -/
structure Traced where
  mgr : AbilityCacheManager
  puts : List Nat := []
  handedOut : List Nat := []

namespace Traced

variable (info : Nat -> RecordInfo)

def apply (traced : Traced) : Call -> Traced
  | .put none => traced
  | .put (some abilityRecord) =>
    let (mgr, evicted) := traced.mgr.put info abilityRecord
    ⟨mgr, abilityRecord :: traced.puts, evicted.toList ++ traced.handedOut⟩
  | .get abilityRequest =>
    let (mgr, found) := traced.mgr.get info abilityRequest
    ⟨mgr, traced.puts, found.toList ++ traced.handedOut⟩
  | .remove none => traced
  | .remove (some abilityRecord) =>
    ⟨traced.mgr.remove info abilityRecord, traced.puts,
      (traced.mgr.devRecLru.filter (· == abilityRecord)) ++ traced.handedOut⟩

def machine (devCapacity procCapacity : Nat) : Library.Machine Traced Call :=
  ⟨⟨{ devLruCapacity := devCapacity, procLruCapacity := procCapacity }, [], []⟩, apply info⟩

end Traced

section

variable (info : Nat -> RecordInfo)

def tokenList (token : Nat) (records : List Nat) : List Nat :=
  records.filter fun record => (info record).accessTokenId == token

def procEntry (records : List Nat) : Option ProcRecordsInfo :=
  if records = [] then none else some ⟨records, records.length⟩

def Indexed (procLruMap : Std.ExtTreeMap Nat ProcRecordsInfo) (records : List Nat) : Prop :=
  ∀ token : Nat, procLruMap[token]? = procEntry (tokenList info token records)

end

variable {info : Nat -> RecordInfo}

theorem tokenList_append_own (records : List Nat) (record : Nat) :
    tokenList info (info record).accessTokenId (records ++ [record]) =
      tokenList info (info record).accessTokenId records ++ [record] := by
  simp [tokenList]

theorem tokenList_append_other (records : List Nat) {record token : Nat}
    (other : (info record).accessTokenId ≠ token) :
    tokenList info token (records ++ [record]) = tokenList info token records := by
  simp [tokenList, other]

theorem tokenList_erase (records : List Nat) (record token : Nat) :
    tokenList info token (records.erase record) = (tokenList info token records).erase record :=
  List.erase_filter.symm

theorem tokenList_erase_other (records : List Nat) {record token : Nat}
    (other : (info record).accessTokenId ≠ token) :
    tokenList info token (records.erase record) = tokenList info token records := by
  rw [tokenList_erase, List.erase_of_not_mem]
  simp [tokenList, other]

theorem mem_tokenList {records : List Nat} {record token : Nat} :
    record ∈ tokenList info token records ↔
      record ∈ records ∧ (info record).accessTokenId = token := by
  simp [tokenList]

theorem procEntry_eq_some {records : List Nat} {procInfo : ProcRecordsInfo} :
    procEntry records = some procInfo ↔ records ≠ [] ∧ procInfo = ⟨records, records.length⟩ := by
  by_cases empty : records = [] <;> simp [procEntry, empty, eq_comm]

theorem procEntry_of_ne {records : List Nat} (nonempty : records ≠ []) :
    procEntry records = some ⟨records, records.length⟩ := by
  simp [procEntry, nonempty]

namespace Indexed

variable {procLruMap : Std.ExtTreeMap Nat ProcRecordsInfo} {records changed : List Nat}

theorem insert (indexed : Indexed info procLruMap records) {token : Nat}
    (others : ∀ other, other ≠ token -> tokenList info other changed = tokenList info other records)
    {procInfo : ProcRecordsInfo} (entry : procEntry (tokenList info token changed) = some procInfo) :
    Indexed info (procLruMap.insert token procInfo) changed := by
  intro other
  rw [Std.ExtTreeMap.getElem?_insert]
  by_cases same : token = other
  · simp [<- same, entry]
  · simp [same, others other (Ne.symm same), indexed other]

theorem erase (indexed : Indexed info procLruMap records) {token : Nat}
    (others : ∀ other, other ≠ token -> tokenList info other changed = tokenList info other records)
    (entry : tokenList info token changed = []) :
    Indexed info (procLruMap.erase token) changed := by
  intro other
  rw [Std.ExtTreeMap.getElem?_erase]
  by_cases same : token = other
  · simp [<- same, entry, procEntry]
  · simp [same, others other (Ne.symm same), indexed other]

end Indexed

namespace AbilityCacheManager

theorem removeAbilityRecInDevList_member {mgr : AbilityCacheManager} {abilityRecord : Nat}
    (mem : abilityRecord ∈ mgr.devRecLru) :
    mgr.removeAbilityRecInDevList abilityRecord =
      { mgr with
        devRecLru := mgr.devRecLru.erase abilityRecord
        devLruCnt := mgr.devLruCnt - 1 } := by
  simp [removeAbilityRecInDevList, mem]

theorem removeAbilityRecInProcList_member (mgr : AbilityCacheManager) {records : List Nat}
    (indexed : Indexed info mgr.procLruMap records) {abilityRecord : Nat}
    (mem : abilityRecord ∈ records) :
    ∃ procLruMap, mgr.removeAbilityRecInProcList info abilityRecord =
        { mgr with procLruMap := procLruMap } ∧
      Indexed info procLruMap (records.erase abilityRecord) := by
  have own : abilityRecord ∈ tokenList info (info abilityRecord).accessTokenId records :=
    mem_tokenList.mpr ⟨mem, rfl⟩
  have entry := indexed (info abilityRecord).accessTokenId
  rw [procEntry_of_ne (List.ne_nil_of_mem own)] at entry
  have others : ∀ other, other ≠ (info abilityRecord).accessTokenId ->
      tokenList info other (records.erase abilityRecord) = tokenList info other records :=
    fun other ne => tokenList_erase_other records (Ne.symm ne)
  have remaining : tokenList info (info abilityRecord).accessTokenId
      (records.erase abilityRecord) = _ := tokenList_erase records abilityRecord _
  have size := List.length_erase_of_mem own
  by_cases last : (tokenList info (info abilityRecord).accessTokenId records).length - 1 = 0
  · refine ⟨_, ?_, indexed.erase others (remaining.trans (List.eq_nil_of_length_eq_zero ?_))⟩
    · simp [removeAbilityRecInProcList, entry, own, last]
    · omega
  · have some : tokenList info (info abilityRecord).accessTokenId
        (records.erase abilityRecord) ≠ [] := by
      rw [remaining]
      exact List.ne_nil_of_length_pos (by omega)
    refine ⟨_, ?_, indexed.insert others (procEntry_of_ne some)⟩
    simp [removeAbilityRecInProcList, entry, own, last, remaining, size]

theorem removeAbilityRecInProcList_absent {mgr : AbilityCacheManager} {records : List Nat}
    (indexed : Indexed info mgr.procLruMap records) {abilityRecord : Nat}
    (absent : abilityRecord ∉ records) :
    mgr.removeAbilityRecInProcList info abilityRecord = mgr := by
  simp only [removeAbilityRecInProcList]
  split
  · rfl
  next procInfo found =>
    rw [indexed, procEntry_eq_some] at found
    obtain ⟨-, rfl⟩ := found
    have other : abilityRecord ∉ tokenList info (info abilityRecord).accessTokenId records :=
      fun mem => absent (mem_tokenList.mp mem).1
    simp [other]

end AbilityCacheManager

end AbilityRuntime.AbilityCache
