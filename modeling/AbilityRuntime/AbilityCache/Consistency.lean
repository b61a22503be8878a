import AbilityRuntime.AbilityCache.Manager

set_option autoImplicit false

namespace AbilityRuntime.AbilityCache

open List AbilityCacheManager Traced

section

variable (info : Nat -> RecordInfo) (devCapacity procCapacity : Nat)

def evictee (records : List Nat) (abilityRecord : Nat) : Option Nat :=
  let own := tokenList info (info abilityRecord).accessTokenId records
  if own.length = procCapacity then own.head?
  else if records.length = devCapacity then records.head?
  else none

def afterEviction (records : List Nat) (abilityRecord : Nat) : List Nat :=
  match evictee info devCapacity procCapacity records abilityRecord with
  | none => records
  | some evicted => records.erase evicted

def Call.PutsOnce (traced : Traced) : Call -> Prop
  | .put (some abilityRecord) => abilityRecord ∉ traced.mgr.devRecLru
  | _ => True

instance (traced : Traced) : DecidablePred (Call.PutsOnce traced)
  | .put (some abilityRecord) => inferInstanceAs (Decidable (abilityRecord ∉ traced.mgr.devRecLru))
  | .put none => isTrue trivial
  | .get _ => isTrue trivial
  | .remove _ => isTrue trivial

def Call.LeavesRecord (traced : Traced) : Call -> Prop
  | .get abilityRequest =>
    ∀ record ∈ tokenList info abilityRequest.accessTokenId traced.mgr.devRecLru,
      tokenList info abilityRequest.accessTokenId traced.mgr.devRecLru = [record] ->
        isRecInfoSame info abilityRequest record = false
  | _ => True

instance (traced : Traced) : DecidablePred (Call.LeavesRecord info traced)
  | .put _ => isTrue trivial
  | .get _ => inferInstanceAs (Decidable (∀ record ∈ tokenList _ _ _, _ -> _))
  | .remove _ => isTrue trivial

structure Consistent (traced : Traced) : Prop where
  insertionOrder : traced.mgr.devRecLru.Pairwise fun older newer =>
    traced.puts.idxOf newer < traced.puts.idxOf older
  union : ∀ token : Nat, ((traced.mgr.procLruMap[token]?.map ProcRecordsInfo.recList).getD []) =
    traced.mgr.devRecLru.filter fun record => (info record).accessTokenId == token
  devCount : traced.mgr.devLruCnt = traced.mgr.devRecLru.length
  procCount : ∀ (token : Nat) (procInfo : ProcRecordsInfo),
    traced.mgr.procLruMap[token]? = some procInfo -> procInfo.cnt = procInfo.recList.length
  devBound : traced.mgr.devRecLru.length ≤ devCapacity
  procBound : ∀ (token : Nat) (procInfo : ProcRecordsInfo),
    traced.mgr.procLruMap[token]? = some procInfo -> procInfo.recList.length ≤ procCapacity
  noEmptyEntry : ∀ (token : Nat) (procInfo : ProcRecordsInfo),
    traced.mgr.procLruMap[token]? = some procInfo -> procInfo.recList ≠ []
  cachedOnce : traced.mgr.devRecLru.Nodup
  accounted : ∀ record : Nat, traced.puts.count record =
    traced.mgr.devRecLru.count record + traced.handedOut.count record
  evictsOldest : ∀ record : Nat, record ∉ traced.mgr.devRecLru ->
    (traced.mgr.put info record).2 = evictee info devCapacity procCapacity traced.mgr.devRecLru record

structure Books (records puts handedOut : List Nat) : Prop where
  devBound : records.length ≤ devCapacity
  procBound : ∀ token : Nat, (tokenList info token records).length ≤ procCapacity
  cachedOnce : records.Nodup
  insertionOrder : records.Pairwise fun older newer => puts.idxOf newer < puts.idxOf older
  accounted : ∀ record : Nat, puts.count record = records.count record + handedOut.count record

structure Invariant (traced : Traced) : Prop where
  devLruCapacity : traced.mgr.devLruCapacity = devCapacity
  procLruCapacity : traced.mgr.procLruCapacity = procCapacity
  indexed : Indexed info traced.mgr.procLruMap traced.mgr.devRecLru
  devCount : traced.mgr.devLruCnt = traced.mgr.devRecLru.length
  books : Books info devCapacity procCapacity traced.mgr.devRecLru traced.puts traced.handedOut

end

variable {info : Nat -> RecordInfo} {devCapacity procCapacity : Nat}

inductive Eviction (info : Nat -> RecordInfo) (devCapacity procCapacity : Nat) (records : List Nat)
    (abilityRecord : Nat) : Prop where
  | ofToken (oldest : Nat) (rest : List Nat)
      (own : tokenList info (info abilityRecord).accessTokenId records = oldest :: rest)
      (full : (oldest :: rest).length = procCapacity)
      (evicted : evictee info devCapacity procCapacity records abilityRecord = some oldest)
      (kept : afterEviction info devCapacity procCapacity records abilityRecord =
        records.erase oldest)
  | ofDevice (oldest : Nat) (rest : List Nat) (shape : records = oldest :: rest)
      (roomy : (tokenList info (info abilityRecord).accessTokenId records).length ≠ procCapacity)
      (full : records.length = devCapacity)
      (evicted : evictee info devCapacity procCapacity records abilityRecord = some oldest)
      (kept : afterEviction info devCapacity procCapacity records abilityRecord = rest)
  | nothing
      (roomy : (tokenList info (info abilityRecord).accessTokenId records).length ≠ procCapacity)
      (free : records.length ≠ devCapacity)
      (evicted : evictee info devCapacity procCapacity records abilityRecord = none)
      (kept : afterEviction info devCapacity procCapacity records abilityRecord = records)

theorem eviction_cases (info : Nat -> RecordInfo) {devCapacity procCapacity : Nat}
    (devPositive : 1 ≤ devCapacity) (procPositive : 1 ≤ procCapacity) (records : List Nat)
    (abilityRecord : Nat) :
    Eviction info devCapacity procCapacity records abilityRecord := by
  by_cases full : (tokenList info (info abilityRecord).accessTokenId records).length = procCapacity
  · obtain ⟨oldest, rest, own⟩ : ∃ oldest rest,
        tokenList info (info abilityRecord).accessTokenId records = oldest :: rest :=
      exists_cons_of_length_pos (by omega)
    have evicted : evictee info devCapacity procCapacity records abilityRecord = some oldest := by
      simp only [evictee, full, if_true]
      rw [own, head?_cons]
    exact .ofToken oldest rest own (own ▸ full) evicted (by simp only [afterEviction, evicted])
  · by_cases devFull : records.length = devCapacity
    · obtain ⟨oldest, rest, shape⟩ : ∃ oldest rest, records = oldest :: rest :=
        exists_cons_of_length_pos (by omega)
      have evicted : evictee info devCapacity procCapacity records abilityRecord = some oldest := by
        simp only [evictee, full, devFull, if_true, if_false]
        rw [shape, head?_cons]
      refine .ofDevice oldest rest shape full devFull evicted ?_
      simp only [afterEviction, evicted]
      rw [shape, erase_cons_head]
    · have evicted : evictee info devCapacity procCapacity records abilityRecord = none := by
        simp only [evictee, full, devFull, if_false]
      exact .nothing full devFull evicted (by simp only [afterEviction, evicted])

namespace AbilityCacheManager

variable {mgr : AbilityCacheManager} {abilityRecord : Nat}

theorem addToProcLru_full (indexed : Indexed info mgr.procLruMap mgr.devRecLru) {oldest : Nat}
    {rest : List Nat}
    (own : tokenList info (info abilityRecord).accessTokenId mgr.devRecLru = oldest :: rest)
    (full : (oldest :: rest).length = mgr.procLruCapacity) :
    ∃ procLruMap, mgr.addToProcLru info abilityRecord =
        ({ mgr with
            procLruMap := procLruMap
            devRecLru := mgr.devRecLru.erase oldest
            devLruCnt := mgr.devLruCnt - 1 }, some oldest) ∧
      Indexed info procLruMap (mgr.devRecLru.erase oldest ++ [abilityRecord]) := by
  have mem : oldest ∈ mgr.devRecLru ∧ (info oldest).accessTokenId = _ :=
    mem_tokenList.mp (own ▸ mem_cons_self)
  have others : ∀ other, other ≠ (info abilityRecord).accessTokenId ->
      tokenList info other (mgr.devRecLru.erase oldest ++ [abilityRecord]) =
        tokenList info other mgr.devRecLru := by
    intro other ne
    rw [tokenList_append_other _ (Ne.symm ne), tokenList_erase_other _ (mem.2 ▸ Ne.symm ne)]
  have changed : tokenList info (info abilityRecord).accessTokenId
      (mgr.devRecLru.erase oldest ++ [abilityRecord]) = rest ++ [abilityRecord] := by
    rw [tokenList_append_own, tokenList_erase, own, erase_cons_head]
  refine ⟨_, ?_, indexed.insert others (procEntry_of_ne (by simp [changed]))⟩
  have entry := indexed (info abilityRecord).accessTokenId
  rw [own, procEntry_of_ne (cons_ne_nil oldest rest)] at entry
  simp only [addToProcLru, entry, full, if_true, removeAbilityRecInDevList_member mem.1, changed]
  simp [<- full]

theorem addToProcLru_roomy (indexed : Indexed info mgr.procLruMap mgr.devRecLru)
    (roomy : (tokenList info (info abilityRecord).accessTokenId mgr.devRecLru).length ≠
      mgr.procLruCapacity) :
    ∃ procLruMap, mgr.addToProcLru info abilityRecord =
        ({ mgr with procLruMap := procLruMap }, none) ∧
      Indexed info procLruMap (mgr.devRecLru ++ [abilityRecord]) := by
  have others : ∀ other, other ≠ (info abilityRecord).accessTokenId ->
      tokenList info other (mgr.devRecLru ++ [abilityRecord]) = tokenList info other mgr.devRecLru :=
    fun other ne => tokenList_append_other mgr.devRecLru (Ne.symm ne)
  have own : tokenList info _ (mgr.devRecLru ++ [abilityRecord]) = _ :=
    tokenList_append_own mgr.devRecLru abilityRecord
  refine ⟨_, ?_, indexed.insert others (procEntry_of_ne (by simp [own]))⟩
  have entry := indexed (info abilityRecord).accessTokenId
  by_cases empty : tokenList info (info abilityRecord).accessTokenId mgr.devRecLru = []
  · simp [addToProcLru, entry, procEntry, own, empty]
  · simp [addToProcLru, entry, procEntry_of_ne empty, own, roomy]

theorem addToDevLru_full (mgr : AbilityCacheManager) {oldest : Nat} {rest : List Nat}
    {cleared : Std.ExtTreeMap Nat ProcRecordsInfo} (records : mgr.devRecLru = oldest :: rest)
    (full : mgr.devLruCnt = mgr.devLruCapacity) (positive : mgr.devLruCnt > 0)
    (removal : mgr.removeAbilityRecInProcList info oldest = { mgr with procLruMap := cleared })
    (abilityRecord : Nat) :
    mgr.addToDevLru info abilityRecord none =
      ({ mgr with
          procLruMap := cleared
          devRecLru := rest ++ [abilityRecord]
          devLruCnt := mgr.devLruCnt - 1 + 1 }, some oldest) := by
  simp only [addToDevLru]
  rw [if_pos ⟨full, positive⟩]
  split
  next empty => simp [records] at empty
  next first others shape =>
    obtain ⟨rfl, rfl⟩ := cons.inj (records.symm.trans shape)
    rw [removal]

theorem put_spec (devPositive : 1 ≤ mgr.devLruCapacity) (procPositive : 1 ≤ mgr.procLruCapacity)
    (indexed : Indexed info mgr.procLruMap mgr.devRecLru)
    (count : mgr.devLruCnt = mgr.devRecLru.length) (abilityRecord : Nat) :
    let kept := afterEviction info mgr.devLruCapacity mgr.procLruCapacity mgr.devRecLru abilityRecord
    ∃ procLruMap, mgr.put info abilityRecord =
        ({ mgr with
            procLruMap := procLruMap
            devRecLru := kept ++ [abilityRecord]
            devLruCnt := kept.length + 1 },
          evictee info mgr.devLruCapacity mgr.procLruCapacity mgr.devRecLru abilityRecord) ∧
      Indexed info procLruMap (kept ++ [abilityRecord]) := by
  intro kept
  cases eviction_cases info devPositive procPositive mgr.devRecLru abilityRecord with
  | ofToken oldest rest own full evicted remaining =>
    obtain ⟨procLruMap, step, changed⟩ := addToProcLru_full indexed own full
    have mem : oldest ∈ mgr.devRecLru := (mem_tokenList.mp (own ▸ mem_cons_self)).1
    rw [<- remaining] at changed
    refine ⟨procLruMap, ?_, changed⟩
    simp [put, step, addToDevLru, evicted, kept, remaining, count, length_erase_of_mem mem]
  | ofDevice oldest rest records roomy full evicted remaining =>
    obtain ⟨procLruMap, step, changed⟩ := addToProcLru_roomy indexed roomy
    have mem : oldest ∈ mgr.devRecLru ++ [abilityRecord] := by simp [records]
    obtain ⟨cleared, removal, after⟩ :=
      removeAbilityRecInProcList_member { mgr with procLruMap := procLruMap } changed mem
    rw [records, cons_append, erase_cons_head] at after
    rw [<- remaining] at after
    refine ⟨cleared, ?_, after⟩
    have fewer : mgr.devLruCnt - 1 = rest.length := by simp [count, records]
    have pushed := addToDevLru_full { mgr with procLruMap := procLruMap } records
      (count.trans full) (by simp [count, records]) removal abilityRecord
    simp only [put, step, pushed, fewer, kept, remaining, evicted]
  | nothing roomy free evicted remaining =>
    obtain ⟨procLruMap, step, changed⟩ := addToProcLru_roomy indexed roomy
    rw [<- remaining] at changed
    refine ⟨procLruMap, ?_, changed⟩
    simp [put, step, addToDevLru, evicted, kept, remaining, count, free]

theorem remove_member (indexed : Indexed info mgr.procLruMap mgr.devRecLru)
    (mem : abilityRecord ∈ mgr.devRecLru) :
    ∃ procLruMap, mgr.remove info abilityRecord =
        { mgr with
          procLruMap := procLruMap
          devRecLru := mgr.devRecLru.erase abilityRecord
          devLruCnt := mgr.devLruCnt - 1 } ∧
      Indexed info procLruMap (mgr.devRecLru.erase abilityRecord) := by
  obtain ⟨procLruMap, step, changed⟩ := removeAbilityRecInProcList_member mgr indexed mem
  refine ⟨procLruMap, ?_, changed⟩
  rw [remove, step, removeAbilityRecInDevList, if_pos mem]

theorem remove_absent (indexed : Indexed info mgr.procLruMap mgr.devRecLru)
    (absent : abilityRecord ∉ mgr.devRecLru) : mgr.remove info abilityRecord = mgr := by
  rw [remove, removeAbilityRecInProcList_absent indexed absent]
  simp [removeAbilityRecInDevList, absent]

def wanted (info : Nat -> RecordInfo) (records : List Nat) (abilityRequest : AbilityRequest) :
    Option Nat :=
  (tokenList info abilityRequest.accessTokenId records).find? (isRecInfoSame info abilityRequest)

variable {abilityRequest : AbilityRequest}

section

variable (indexed : Indexed info mgr.procLruMap mgr.devRecLru)
include indexed

theorem get_missing (missing : wanted info mgr.devRecLru abilityRequest = none) :
    mgr.get info abilityRequest = (mgr, none) := by
  have entry := indexed abilityRequest.accessTokenId
  rw [wanted] at missing
  by_cases empty : tokenList info abilityRequest.accessTokenId mgr.devRecLru = []
  · simp [get, getAbilityRecInProcList, entry, procEntry, empty]
  · simp [get, getAbilityRecInProcList, entry, procEntry_of_ne empty, missing]

theorem get_found {record : Nat} (found : wanted info mgr.devRecLru abilityRequest = some record) :
    record ∈ tokenList info abilityRequest.accessTokenId mgr.devRecLru ∧
      mgr.get info abilityRequest =
        ({ mgr with
            procLruMap := mgr.procLruMap.insert abilityRequest.accessTokenId
              ⟨(tokenList info abilityRequest.accessTokenId mgr.devRecLru).erase record,
                (tokenList info abilityRequest.accessTokenId mgr.devRecLru).length - 1⟩
            devRecLru := mgr.devRecLru.erase record
            devLruCnt := mgr.devLruCnt - 1 },
          some record) := by
  rw [wanted] at found
  have own := mem_of_find?_eq_some found
  have mem : record ∈ mgr.devRecLru := (mem_tokenList.mp own).1
  refine ⟨own, ?_⟩
  have entry := indexed abilityRequest.accessTokenId
  rw [procEntry_of_ne (ne_nil_of_mem own)] at entry
  simp only [get, getAbilityRecInProcList, entry, found]
  rw [removeAbilityRecInDevList, if_pos mem]

theorem get_leaves_entry {record : Nat}
    (own : record ∈ tokenList info abilityRequest.accessTokenId mgr.devRecLru)
    (several : tokenList info abilityRequest.accessTokenId mgr.devRecLru ≠ [record]) :
    Indexed info (mgr.procLruMap.insert abilityRequest.accessTokenId
      ⟨(tokenList info abilityRequest.accessTokenId mgr.devRecLru).erase record,
        (tokenList info abilityRequest.accessTokenId mgr.devRecLru).length - 1⟩)
      (mgr.devRecLru.erase record) := by
  have token := (mem_tokenList.mp own).2
  apply indexed.insert
  · intro other ne
    exact tokenList_erase_other _ (token ▸ Ne.symm ne)
  · rw [tokenList_erase, procEntry_of_ne, length_erase_of_mem own]
    intro empty
    rcases erase_eq_nil_iff.mp empty with none | single
    · exact absurd none (ne_nil_of_mem own)
    · exact several single

end

end AbilityCacheManager

namespace Books

variable {records puts handedOut : List Nat}

section

variable (books : Books info devCapacity procCapacity records puts handedOut)
include books

theorem erase {record : Nat} (mem : record ∈ records) :
    Books info devCapacity procCapacity (records.erase record) puts (record :: handedOut) := by
  have shorter : (records.erase record).Sublist records := erase_sublist
  refine ⟨shorter.length_le.trans books.devBound, ?_, books.cachedOnce.sublist shorter,
    books.insertionOrder.sublist shorter, ?_⟩
  · exact fun token => (shorter.filter _).length_le.trans (books.procBound token)
  · intro other
    have present := count_pos_iff.mpr mem
    have before := books.accounted other
    by_cases same : other = record
    · subst same; rw [count_erase_self, count_cons_self]; omega
    · rw [count_erase_of_ne same, count_cons_of_ne (Ne.symm same), before]

theorem push {record : Nat} (new : record ∉ records) (devRoom : records.length < devCapacity)
    (procRoom : (tokenList info (info record).accessTokenId records).length < procCapacity) :
    Books info devCapacity procCapacity (records ++ [record]) (record :: puts) handedOut := by
  refine ⟨by rw [length_append]; exact devRoom, ?_, ?_, ?_, ?_⟩
  · intro token
    by_cases own : (info record).accessTokenId = token
    · subst own; rw [tokenList_append_own, length_append]; exact procRoom
    · rw [tokenList_append_other _ own]; exact books.procBound token
  · exact nodup_append.mpr ⟨books.cachedOnce, by simp, by grind⟩
  · have unequal : ∀ older ∈ records, record ≠ older := fun older mem same => new (same ▸ mem)
    rw [pairwise_append]
    refine ⟨?_, by simp, ?_⟩
    · refine books.insertionOrder.imp_of_mem ?_
      intro older newer olderMember newerMember later
      rw [idxOf_cons_ne _ (unequal older olderMember), idxOf_cons_ne _ (unequal newer newerMember)]
      exact Nat.succ_lt_succ later
    · intro older mem latest only
      rw [mem_singleton.mp only, idxOf_cons_self, idxOf_cons_ne _ (unequal older mem)]
      exact Nat.succ_pos _
  · intro other
    have before := books.accounted other
    rw [count_cons, count_append, count_singleton]
    omega

theorem evict (devPositive : 1 ≤ devCapacity) (procPositive : 1 ≤ procCapacity) (record : Nat) :
    let kept := afterEviction info devCapacity procCapacity records record
    let evicted := evictee info devCapacity procCapacity records record
    Books info devCapacity procCapacity kept puts (evicted.toList ++ handedOut) ∧
      kept.length < devCapacity ∧
      (tokenList info (info record).accessTokenId kept).length < procCapacity ∧
      kept.Sublist records := by
  intro kept evicted
  have bound := books.devBound
  have procBound := books.procBound (info record).accessTokenId
  cases eviction_cases info devPositive procPositive records record with
  | ofToken oldest rest own full choice remaining =>
    have mem : oldest ∈ records := (mem_tokenList.mp (own ▸ mem_cons_self)).1
    simp only [kept, evicted, choice, remaining]
    refine ⟨books.erase mem, ?_, ?_, erase_sublist⟩
    · rw [length_erase_of_mem mem]; omega
    · rw [length_cons] at full
      rw [tokenList_erase, own, erase_cons_head]
      omega
  | ofDevice oldest rest shape roomy full choice remaining =>
    have mem : oldest ∈ records := by simp [shape]
    have erased : records.erase oldest = rest := by rw [shape, erase_cons_head]
    have shorter : rest.Sublist records := shape ▸ sublist_cons_self oldest rest
    have fewer := (shorter.filter fun record' => (info record').accessTokenId ==
      (info record).accessTokenId).length_le
    simp only [kept, evicted, choice, remaining]
    refine ⟨erased ▸ books.erase mem, ?_, ?_, shorter⟩
    · rw [<- full, shape]; exact Nat.lt_succ_self _
    · exact lt_of_le_of_lt fewer (lt_of_le_of_ne procBound roomy)
  | nothing roomy free choice remaining =>
    simp only [kept, evicted, choice, remaining]
    exact ⟨books, lt_of_le_of_ne bound free, lt_of_le_of_ne procBound roomy, List.Sublist.refl _⟩

end

end Books

namespace Invariant

variable {traced : Traced}

section

variable (invariant : Invariant info devCapacity procCapacity traced)
include invariant

theorem consistent (devPositive : 1 ≤ devCapacity) (procPositive : 1 ≤ procCapacity) :
    Consistent info devCapacity procCapacity traced := by
  obtain ⟨devLruCapacity, procLruCapacity, indexed, devCount, books⟩ := invariant
  have entry : ∀ (token : Nat) (procInfo : ProcRecordsInfo),
      traced.mgr.procLruMap[token]? = some procInfo ->
        tokenList info token traced.mgr.devRecLru ≠ [] ∧
          procInfo = ⟨tokenList info token traced.mgr.devRecLru,
            (tokenList info token traced.mgr.devRecLru).length⟩ := by
    intro token procInfo found
    exact procEntry_eq_some.mp ((indexed token).symm.trans found)
  refine ⟨books.insertionOrder, ?_, devCount, ?_, books.devBound, ?_, ?_, books.cachedOnce,
    books.accounted, ?_⟩
  · intro token
    change _ = tokenList info token traced.mgr.devRecLru
    rw [indexed token]
    by_cases empty : tokenList info token traced.mgr.devRecLru = []
    · simp [procEntry, empty]
    · simp [procEntry_of_ne empty]
  · rintro token procInfo found; rw [(entry token procInfo found).2]
  · intro token procInfo found
    rw [(entry token procInfo found).2]
    exact books.procBound token
  · intro token procInfo found
    rw [(entry token procInfo found).2]
    exact (entry token procInfo found).1
  · intro record _
    obtain ⟨procLruMap, step, -⟩ := put_spec (devLruCapacity ▸ devPositive)
      (procLruCapacity ▸ procPositive) indexed devCount record
    rw [step, devLruCapacity, procLruCapacity]

theorem handOut {record : Nat} (mem : record ∈ traced.mgr.devRecLru)
    {procLruMap : Std.ExtTreeMap Nat ProcRecordsInfo}
    (indexed : Indexed info procLruMap (traced.mgr.devRecLru.erase record)) :
    Invariant info devCapacity procCapacity
      ⟨{ traced.mgr with
          procLruMap := procLruMap
          devRecLru := traced.mgr.devRecLru.erase record
          devLruCnt := traced.mgr.devLruCnt - 1 },
        traced.puts, record :: traced.handedOut⟩ := by
  refine { invariant with
    indexed := indexed, devCount := ?_, books := invariant.books.erase mem }
  rw [length_erase_of_mem mem, invariant.devCount]

theorem put (devPositive : 1 ≤ devCapacity) (procPositive : 1 ≤ procCapacity) {record : Nat}
    (new : record ∉ traced.mgr.devRecLru) :
    Invariant info devCapacity procCapacity (traced.apply info (.put (some record))) := by
  obtain ⟨devLruCapacity, procLruCapacity, indexed, devCount, books⟩ := invariant
  obtain ⟨procLruMap, step, after⟩ := put_spec (devLruCapacity ▸ devPositive)
    (procLruCapacity ▸ procPositive) indexed devCount record
  obtain ⟨evicted, devRoom, procRoom, shorter⟩ := books.evict devPositive procPositive record
  rw [devLruCapacity, procLruCapacity] at step after
  simp only [apply, step]
  refine ⟨rfl, rfl, after, by simp, ?_⟩
  exact evicted.push (fun mem => new (shorter.subset mem)) devRoom procRoom

theorem get (abilityRequest : AbilityRequest)
    (leaves : (Call.get abilityRequest).LeavesRecord info traced) :
    Invariant info devCapacity procCapacity (traced.apply info (.get abilityRequest)) := by
  cases found : wanted info traced.mgr.devRecLru abilityRequest with
  | none =>
    simpa [apply, get_missing invariant.indexed found] using invariant
  | some record =>
    obtain ⟨own, step⟩ := get_found invariant.indexed found
    have several : tokenList info abilityRequest.accessTokenId traced.mgr.devRecLru ≠ [record] := by
      intro single
      have matched := find?_some found
      rw [leaves record own single] at matched
      cases matched
    have indexed := get_leaves_entry invariant.indexed own several
    simpa [apply, step] using invariant.handOut (mem_tokenList.mp own).1 indexed

theorem remove (record : Nat) :
    Invariant info devCapacity procCapacity (traced.apply info (.remove (some record))) := by
  by_cases mem : record ∈ traced.mgr.devRecLru
  · obtain ⟨procLruMap, step, indexed⟩ :=
      remove_member invariant.indexed mem
    have once : traced.mgr.devRecLru.filter (· == record) = [record] := by
      rw [filter_beq, List.Nodup.count invariant.books.cachedOnce, if_pos mem]
      rfl
    simpa [apply, step, once] using invariant.handOut mem indexed
  · have absent : traced.mgr.devRecLru.filter (· == record) = [] := by
      rw [filter_beq, count_eq_zero_of_not_mem mem]
      rfl
    simpa [apply, remove_absent invariant.indexed mem, absent] using invariant

theorem apply (devPositive : 1 ≤ devCapacity) (procPositive : 1 ≤ procCapacity) (call : Call)
    (once : call.PutsOnce traced) (leaves : call.LeavesRecord info traced) :
    Invariant info devCapacity procCapacity (traced.apply info call) := by
  match call with
  | .put none => exact invariant
  | .put (some record) => exact invariant.put devPositive procPositive once
  | .get abilityRequest => exact invariant.get abilityRequest leaves
  | .remove none => exact invariant
  | .remove (some record) => exact invariant.remove record

theorem leaves_of_noEmptyEntry (call : Call)
    (noEmptyEntry : ∀ (token : Nat) (procInfo : ProcRecordsInfo),
      (traced.apply info call).mgr.procLruMap[token]? = some procInfo -> procInfo.recList ≠ []) :
    call.LeavesRecord info traced := by
  match call with
  | .put _ => trivial
  | .remove _ => trivial
  | .get abilityRequest =>
    intro record _ single
    by_contra same
    have found : AbilityCacheManager.wanted info traced.mgr.devRecLru abilityRequest =
        some record := by
      simp [AbilityCacheManager.wanted, single, same]
    obtain ⟨-, step⟩ := AbilityCacheManager.get_found invariant.indexed found
    have left := noEmptyEntry abilityRequest.accessTokenId
    simp [Traced.apply, step, single] at left

end

end Invariant

theorem initial_invariant :
    Invariant info devCapacity procCapacity (Traced.machine info devCapacity procCapacity).start := by
  refine ⟨rfl, rfl, ?_, rfl, ?_⟩
  · intro token; simp [Traced.machine, tokenList, procEntry]
  · constructor <;> simp [Traced.machine, tokenList]

theorem run_consistent_iff (info : Nat -> RecordInfo) (devCapacity procCapacity : Nat)
    (devPositive : 1 ≤ devCapacity) (procPositive : 1 ≤ procCapacity) (calls : List Call)
    (once : (Traced.machine info devCapacity procCapacity).EveryStep calls fun traced call =>
      call.PutsOnce traced) :
    (Traced.machine info devCapacity procCapacity).Throughout calls
        (Consistent info devCapacity procCapacity) ↔
      (Traced.machine info devCapacity procCapacity).EveryStep calls fun traced call =>
        call.LeavesRecord info traced :=
  Library.Machine.throughout_iff_everyStep initial_invariant
    (fun _ call invariant once leaves => invariant.apply devPositive procPositive call once leaves)
    (fun _ invariant => invariant.consistent devPositive procPositive)
    (fun _ call invariant _ consistent =>
      invariant.leaves_of_noEmptyEntry call consistent.noEmptyEntry)
    once

def musicService : Nat -> RecordInfo := fun _ => ⟨537, "entry", "MusicService"⟩

theorem get_keeps_empty_entry :
    let calls : List Call := [.put (some 1), .get ⟨537, "entry", "MusicService"⟩]
    (Traced.machine musicService 10 2).EveryStep calls (fun traced call => call.PutsOnce traced) ∧
      ¬ (Traced.machine musicService 10 2).Throughout calls (Consistent musicService 10 2) := by
  intro calls
  constructor
  · exact Library.Machine.StepsFrom.everyStep (by decide)
  · intro throughout
    have consistent := throughout calls [] (List.append_nil calls).symm
    exact consistent.noEmptyEntry 537 ⟨[], 0⟩ (by decide) rfl

theorem run_consistent_iff_evicting :
    (Traced.machine musicService 10 2).Throughout
      [.put (some 1), .put (some 2), .put (some 3), .get ⟨537, "entry", "MusicService"⟩,
        .remove (some 3)]
      (Consistent musicService 10 2) := by
  apply (run_consistent_iff musicService 10 2 (by decide) (by decide) _ _).mpr
  · exact Library.Machine.StepsFrom.everyStep (by decide)
  · exact Library.Machine.StepsFrom.everyStep (by decide)

end AbilityRuntime.AbilityCache
