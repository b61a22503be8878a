import AbilityRuntime.SceneBoard.ByCall

set_option autoImplicit false

namespace AbilityRuntime.SceneBoard.ByCall

open Library KeyedMap List AList Nat AbilityRecord Option

namespace CallManager

def recordIds {K : Type} (map : KeyedMap K AbilityRecord) : List Nat :=
  (KeyedMap.values map).map recordId

def held (mgr : CallManager) : List Nat :=
  recordIds mgr.tmpAbilityMap ++ recordIds mgr.sessionAbilityMap

def Waits (mgr : CallManager) (recordId : Nat) (call : CachedCall) : Prop :=
  ∃ calls, mgr.callRequestCache.lookup recordId = some calls ∧ call ∈ calls

inductive Fate (mgr : CallManager) (recordId : Nat) (call : CachedCall) : Prop where
  | waits (waits : mgr.Waits recordId call) (reissued : mgr.reissued.count call = 0)
  | reissued (done : ¬mgr.Waits recordId call) (reissued : mgr.reissued.count call = 1)
  | dropped (done : ¬mgr.Waits recordId call) (reissued : mgr.reissued.count call = 0)
      (gone : recordId ∉ mgr.held)

structure CallsKept (mgr : CallManager) : Prop where
  keys : ∀ recordId calls, mgr.callRequestCache.lookup recordId = some calls ->
    recordId ∈ mgr.held ∧ recordId ∉ mgr.completed
  fate : ∀ recordId call, (recordId, call) ∈ mgr.cached -> mgr.Fate recordId call
  issued : ∀ call ∈ mgr.reissued, ∃ recordId, (recordId, call) ∈ mgr.cached

structure Coherent (mgr : CallManager) : Prop extends CallsKept mgr where
  distinct : mgr.held.Nodup
  known : ∀ recordId ∈ mgr.held, recordId < mgr.nextRecordId
  numbers : mgr.cached.map (fun entry => entry.2.number) = range mgr.cached.length
  recorded : ∀ recordId call, (recordId, call) ∈ mgr.cached -> recordId < mgr.nextRecordId
  logged : ∀ recordId call, mgr.Waits recordId call -> (recordId, call) ∈ mgr.cached
  filled : ∀ recordId calls, mgr.callRequestCache.lookup recordId = some calls ->
    calls ≠ [] ∧ calls.Nodup

def KeepsCalls (mgr : CallManager) : CallOperation -> Prop
  | .callAbilityLocked request _ => mgr.getPersistentIdByAbilityRequest request = 0 ->
      ∀ record, mgr.findRecordFromTmpMap request = some record ->
        record.recordId ∉ mgr.completed
  | .callUIAbilityBySCB sessionInfo => sessionInfo.hasSessionToken = true ->
      ∀ entry, mgr.searchTmpAbilityMap sessionInfo = some entry ->
        (mgr.sessionAbilityMap.lookup sessionInfo.persistentId).isSome = true ->
          mgr.callRequestCache.lookup entry.2.recordId = none
  | .eraseAbilityRecord recordId => recordId ∈ recordIds mgr.tmpAbilityMap ->
      mgr.callRequestCache.lookup recordId = none
  | _ => True

variable {mgr : CallManager}

variable {recordId : Nat} {call : CachedCall}

theorem Fate.transfer {other : CallManager} (fate : mgr.Fate recordId call)
    (waits : other.Waits recordId call ↔ mgr.Waits recordId call)
    (reissued : other.reissued.count call = mgr.reissued.count call)
    (held : recordId ∈ other.held -> recordId ∈ mgr.held) : other.Fate recordId call := by
  cases fate with
  | waits before none => exact .waits (waits.mpr before) (reissued.trans none)
  | reissued done once => exact .reissued (mt waits.mp done) (reissued.trans once)
  | dropped done none gone => exact .dropped (mt waits.mp done) (reissued.trans none) (mt held gone)

theorem recordIds_insert {K : Type} [DecidableEq K] {map : KeyedMap K AbilityRecord} {key : K}
    (free : map.lookup key = none) (record : AbilityRecord) :
    recordIds (map.insert key record) = record.recordId :: recordIds map := by
  rw [recordIds, values_insert, erase_of_lookup_none free]
  rfl

variable {record : AbilityRecord}

theorem recordIds_erase_perm {K : Type} [DecidableEq K] {map : KeyedMap K AbilityRecord} {key : K}
    (found : map.lookup key = some record) :
    (recordIds map).Perm (record.recordId :: recordIds (map.erase key)) :=
  (values_erase_perm found).map recordId

theorem Coherent.cached_unique (sound : mgr.Coherent) {first second : Nat × CachedCall}
    (firstCached : first ∈ mgr.cached) (secondCached : second ∈ mgr.cached)
    (same : first.2.number = second.2.number) : first = second := by
  have numbered : (mgr.cached.map fun entry => entry.2.number).Nodup := by
    rw [sound.numbers]
    exact nodup_range
  exact inj_on_of_nodup_map numbered firstCached secondCached same

theorem Coherent.number_lt (sound : mgr.Coherent)
    (cached : (recordId, call) ∈ mgr.cached) : call.number < mgr.cached.length := by
  have numbered : call.number ∈ mgr.cached.map fun entry => entry.2.number :=
    mem_map.mpr ⟨_, cached, rfl⟩
  rw [sound.numbers] at numbered
  exact mem_range.mp numbered

theorem mem_recordIds_of_lookup {K : Type} [DecidableEq K] {map : KeyedMap K AbilityRecord}
    {key : K} (found : map.lookup key = some record) :
    record.recordId ∈ recordIds map :=
  mem_map.mpr ⟨record, mem_values.mpr ⟨key, found⟩, rfl⟩

theorem searchTmpAbilityMap_lookup {sessionInfo : SessionInfo} {entry : (_ : Int) × AbilityRecord}
    (found : mgr.searchTmpAbilityMap sessionInfo = some entry) :
    mgr.tmpAbilityMap.lookup entry.1 = some entry.2 := by
  unfold searchTmpAbilityMap at found
  split at found
  next record present =>
    cases found
    exact present
  · split at found
    · exact mem_lookup_iff.mpr (mem_of_head? found)
    · cases found

theorem findRecordFromTmpMap_held {request : AbilityRequest}
    (found : mgr.findRecordFromTmpMap request = some record) :
    record.recordId ∈ recordIds mgr.tmpAbilityMap := by
  obtain ⟨entry, present, rfl⟩ := map_eq_some_iff.mp found
  exact mem_recordIds_of_lookup (lookup_of_find present).1

variable {sessions : KeyedMap Int AbilityRecord}

theorem Coherent.move (sound : mgr.Coherent) {tmp : KeyedMap Int AbilityRecord}
    (same : (recordIds tmp ++ recordIds sessions).Perm mgr.held) :
    Coherent { mgr with tmpAbilityMap := tmp, sessionAbilityMap := sessions } where
  distinct := same.nodup_iff.mpr sound.distinct
  known := fun recordId present => sound.known recordId (same.mem_iff.mp present)
  __ := sound
  keys := fun recordId calls found =>
    ⟨same.mem_iff.mpr (sound.keys recordId calls found).1, (sound.keys recordId calls found).2⟩
  fate := fun recordId call cached =>
    (sound.fate recordId call cached).transfer .rfl rfl same.mem_iff.mp

theorem Coherent.drop (sound : mgr.Coherent) {tmp : KeyedMap Int AbilityRecord}
    (distinct : (recordIds tmp ++ recordIds sessions).Nodup)
    (fewer : ∀ other ∈ recordIds tmp ++ recordIds sessions, other ∈ mgr.held)
    (others : ∀ other ∈ mgr.held, other ≠ recordId -> other ∈ recordIds tmp ++ recordIds sessions)
    (gone : recordId ∈ recordIds tmp ++ recordIds sessions ->
      mgr.callRequestCache.lookup recordId = none) :
    Coherent { mgr with
      tmpAbilityMap := tmp, sessionAbilityMap := sessions
      callRequestCache := mgr.callRequestCache.erase recordId } where
  distinct := distinct
  known := fun other present => sound.known other (fewer other present)
  __ := sound
  logged := fun other call ⟨calls, found, waits⟩ =>
    sound.logged other call ⟨calls, lookup_of_erase found, waits⟩
  filled := fun other calls found => sound.filled other calls (lookup_of_erase found)
  keys := fun other calls found => by
    have before := sound.keys other calls (lookup_of_erase found)
    have ne : other ≠ recordId := by
      rintro rfl
      rw [lookup_erase] at found
      cases found
    exact ⟨others other before.1 ne, before.2⟩
  fate := fun other call cached => by
    have fewerWait : Waits { mgr with
        callRequestCache := mgr.callRequestCache.erase recordId } other call ->
          mgr.Waits other call :=
      fun ⟨calls, found, waits⟩ => ⟨calls, lookup_of_erase found, waits⟩
    cases sound.fate other call cached with
    | waits waits none =>
      obtain ⟨calls, found, waits⟩ := waits
      by_cases same : other = recordId
      · subst same
        refine .dropped (fun ⟨calls, kept, _⟩ => ?_) none (fun held => ?_)
        · rw [lookup_erase] at kept
          cases kept
        · rw [gone held] at found
          cases found
      · exact .waits ⟨calls, (lookup_erase_ne same).trans found, waits⟩ none
    | reissued done once => exact .reissued (mt fewerWait done) once
    | dropped done none away => exact .dropped (mt fewerWait done) none (mt (fewer other) away)

theorem cacheCallRequest_lookup (recordId other : Nat) (request : AbilityRequest) :
    (mgr.cacheCallRequest recordId request).callRequestCache.lookup other =
      if other = recordId then
        some ((mgr.callRequestCache.lookup recordId).getD [] ++
          [{ number := mgr.cached.length, request }])
      else mgr.callRequestCache.lookup other :=
  lookup_insert_eq ..

theorem cacheCallRequest_waits {request : AbilityRequest} {other : Nat} :
    (mgr.cacheCallRequest recordId request).Waits other call ↔
      mgr.Waits other call ∨
        other = recordId ∧ call = { number := mgr.cached.length, request } := by
  unfold Waits
  rw [cacheCallRequest_lookup]
  by_cases same : other = recordId
  · subst same
    cases before : mgr.callRequestCache.lookup other with
    | none => simp
    | some calls => simp
  · simp [same]

section

variable (sound : mgr.Coherent)
include sound

theorem Coherent.not_cached_next (request : AbilityRequest) (recordId : Nat) :
    (recordId, { number := mgr.cached.length, request }) ∉ mgr.cached :=
  fun cached => absurd (sound.number_lt cached) (lt_irrefl _)

theorem Coherent.cacheCallRequest (held : recordId ∈ mgr.held)
    (incomplete : recordId ∉ mgr.completed)
    (request : AbilityRequest) : (mgr.cacheCallRequest recordId request).Coherent where
  __ := sound
  numbers := by
    unfold CallManager.cacheCallRequest
    simp [List.range_succ, sound.numbers]
  recorded := fun other call cached => by
    rcases mem_append.mp cached with before | new
    · exact sound.recorded other call before
    · cases mem_singleton.mp new
      exact sound.known recordId held
  logged := fun other call waits => by
    rcases cacheCallRequest_waits.mp waits with before | ⟨rfl, rfl⟩
    · exact mem_append_left _ (sound.logged other call before)
    · exact mem_append_right _ (mem_singleton.mpr rfl)
  filled := fun other calls found => by
    rw [cacheCallRequest_lookup] at found
    split at found
    next same =>
      cases found
      refine ⟨append_ne_nil_of_right_ne_nil _ (cons_ne_nil _ _), ?_⟩
      rw [nodup_append]
      refine ⟨?_, nodup_singleton _, ?_⟩
      · cases before : mgr.callRequestCache.lookup recordId with
        | none => exact nodup_nil
        | some calls => exact (sound.filled recordId calls before).2
      · rintro call waits _ new rfl
        rw [mem_singleton] at new
        cases before : mgr.callRequestCache.lookup recordId with
        | none =>
          rw [before] at waits
          cases waits
        | some calls =>
          rw [before] at waits
          have cached := sound.logged recordId call ⟨calls, before, waits⟩
          rw [new] at cached
          exact sound.not_cached_next request recordId cached
    · exact sound.filled other calls found
  keys := fun other calls found => by
    rw [cacheCallRequest_lookup] at found
    split at found
    next same =>
      rw [same]
      exact ⟨held, incomplete⟩
    · exact sound.keys other calls found
  issued := fun call issued => by
    obtain ⟨other, cached⟩ := sound.issued call issued
    exact ⟨other, mem_append_left _ cached⟩
  fate := fun other call cached => by
    rcases mem_append.mp cached with before | new
    · have unchanged : (mgr.cacheCallRequest recordId request).Waits other call ↔
          mgr.Waits other call := by
        rw [cacheCallRequest_waits, or_iff_left_iff_imp]
        rintro ⟨rfl, rfl⟩
        exact absurd before (sound.not_cached_next request other)
      exact (sound.fate other call before).transfer unchanged rfl id
    · cases mem_singleton.mp new
      refine .waits (cacheCallRequest_waits.mpr (.inr ⟨rfl, rfl⟩)) ?_
      refine count_eq_zero.mpr fun issued => ?_
      obtain ⟨owner, cached⟩ := sound.issued _ issued
      exact sound.not_cached_next request owner cached

theorem Coherent.counters {nextRecordId : Nat} (records : mgr.nextRecordId ≤ nextRecordId)
    (requestId : Int) :
    Coherent { mgr with nextRecordId := nextRecordId, requestId := requestId } where
  __ := sound
  known := fun recordId held => lt_of_lt_of_le (sound.known recordId held) records
  recorded := fun recordId call cached =>
    lt_of_lt_of_le (sound.recorded recordId call cached) records
  fate := fun recordId call cached => (sound.fate recordId call cached).transfer .rfl rfl id

theorem Coherent.emplace {requestId : Int} (free : mgr.tmpAbilityMap.lookup requestId = none)
    (record : AbilityRecord) (fresh : record.recordId = mgr.nextRecordId) (next : Int) :
    Coherent { mgr with
      tmpAbilityMap := mgr.tmpAbilityMap.insert requestId record
      nextRecordId := mgr.nextRecordId + 1, requestId := next } := by
  have held : recordIds (mgr.tmpAbilityMap.insert requestId record) ++
      recordIds mgr.sessionAbilityMap = mgr.nextRecordId :: mgr.held := by
    rw [recordIds_insert free, fresh]
    rfl
  have unheld : mgr.nextRecordId ∉ mgr.held := fun held => absurd (sound.known _ held) (lt_irrefl _)
  exact { sound with
    distinct := by
      unfold CallManager.held
      rw [held]
      exact nodup_cons.mpr ⟨unheld, sound.distinct⟩
    known := fun recordId present => by
      unfold CallManager.held at present
      rw [held] at present
      rcases mem_cons.mp present with rfl | present
      · exact lt_succ_self _
      · exact lt_succ_of_lt (sound.known recordId present)
    recorded := fun recordId call cached =>
      lt_succ_of_lt (sound.recorded recordId call cached)
    keys := fun recordId calls found => by
      have before := sound.keys recordId calls found
      refine ⟨?_, before.2⟩
      unfold CallManager.held
      rw [held]
      exact mem_cons_of_mem _ before.1
    fate := fun recordId call cached => by
      refine (sound.fate recordId call cached).transfer .rfl rfl fun present => ?_
      unfold CallManager.held at present
      rw [held] at present
      rcases mem_cons.mp present with rfl | present
      · exact absurd (sound.recorded _ call cached) (lt_irrefl _)
      · exact present }

theorem Coherent.callAbilityLocked (request : AbilityRequest) (createsSessionInfo : Bool)
    (keeps : mgr.KeepsCalls (.callAbilityLocked request createsSessionInfo)) :
    (mgr.callAbilityLocked request createsSessionInfo).Coherent := by
  unfold CallManager.callAbilityLocked
  split
  · exact sound.counters (le_refl _) _
  next unknown =>
    rw [not_not] at unknown
    split
    next record found =>
      exact sound.cacheCallRequest (mem_append_left _ (findRecordFromTmpMap_held found))
        (keeps unknown record found) request
    · dsimp only
      split
      · exact sound.counters (le_succ _) _
      · unfold emplaceTmpRecord
        split
        · exact sound.counters (le_succ _) _
        next free => exact sound.emplace (not_isSome_iff_eq_none.mp free) _ rfl _

end

theorem held_erase_tmp {requestId : Int}
    (found : mgr.tmpAbilityMap.lookup requestId = some record) :
    mgr.held.Perm (record.recordId ::
      (recordIds (mgr.tmpAbilityMap.erase requestId) ++ recordIds mgr.sessionAbilityMap)) :=
  (recordIds_erase_perm found).append_right _

section

variable (sound : mgr.Coherent)
include sound

theorem Coherent.dropTmp {requestId : Int}
    (found : mgr.tmpAbilityMap.lookup requestId = some record) :
    Coherent { mgr with
      tmpAbilityMap := mgr.tmpAbilityMap.erase requestId
      callRequestCache := mgr.callRequestCache.erase record.recordId } := by
  have perm := held_erase_tmp found
  have distinct := nodup_cons.mp (perm.nodup_iff.mp sound.distinct)
  exact sound.drop distinct.2 (fun other present => perm.mem_iff.mpr (mem_cons_of_mem _ present))
    (fun other present ne => (mem_cons.mp (perm.mem_iff.mp present)).resolve_left ne)
    (fun present => absurd present distinct.1)

theorem Coherent.callUIAbilityBySCB (sessionInfo : SessionInfo)
    (keeps : mgr.KeepsCalls (.callUIAbilityBySCB sessionInfo)) :
    (mgr.callUIAbilityBySCB sessionInfo).Coherent := by
  unfold CallManager.callUIAbilityBySCB
  split
  · exact sound
  next token =>
    rw [Bool.not_eq_true', Bool.not_eq_false] at token
    split
    · exact sound
    next requestId record searched =>
      have found := searchTmpAbilityMap_lookup searched
      dsimp only
      split
      next taken =>
        have uncached := keeps token _ searched taken
        have dropped := sound.dropTmp found
        rw [erase_of_lookup_none uncached] at dropped
        exact dropped
      next free =>
        rw [not_isSome_iff_eq_none] at free
        refine sound.move ?_
        rw [recordIds_insert free]
        exact perm_middle.trans (held_erase_tmp found).symm

theorem Coherent.notifyStartupExceptionBySCB (requestId : Int) :
    (mgr.notifyStartupExceptionBySCB requestId).Coherent := by
  unfold CallManager.notifyStartupExceptionBySCB
  split
  · exact sound
  next record found => exact sound.dropTmp found

theorem Coherent.eraseAbilityRecord (recordId : Nat)
    (keeps : mgr.KeepsCalls (.eraseAbilityRecord recordId)) :
    (mgr.eraseAbilityRecord recordId).Coherent := by
  unfold CallManager.eraseAbilityRecord
  split
  next entry searched =>
    obtain ⟨found, same⟩ := lookup_of_find searched
    rw [decide_eq_true_eq] at same
    have perm : mgr.held.Perm (recordId ::
        (recordIds mgr.tmpAbilityMap ++
          recordIds (mgr.sessionAbilityMap.erase entry.1))) := by
      have inner := (recordIds_erase_perm found).append_left (recordIds mgr.tmpAbilityMap)
      rw [same] at inner
      exact inner.trans perm_middle
    have distinct := nodup_cons.mp (perm.nodup_iff.mp sound.distinct)
    exact sound.drop distinct.2
      (fun other present => perm.mem_iff.mpr (mem_cons_of_mem _ present))
      (fun other present ne =>
        (mem_cons.mp (perm.mem_iff.mp present)).resolve_left ne)
      fun present => absurd present distinct.1
  next missing =>
    have away : recordId ∉ recordIds mgr.sessionAbilityMap := by
      intro present
      obtain ⟨record, held, rfl⟩ := mem_map.mp present
      have differs := not_mem_values_of_find
        (fun other => decide (other.recordId = record.recordId)) missing held
      simp at differs
    exact sound.drop sound.distinct (fun _ present => present) (fun _ present _ => present)
      fun present => keeps ((mem_append.mp present).resolve_right away)

theorem Coherent.fate_waits (waits : mgr.Waits recordId call) : mgr.reissued.count call = 0 := by
  cases sound.fate recordId call (sound.logged recordId call waits) with
  | waits _ none => exact none
  | reissued done | dropped done => exact absurd waits done

theorem Coherent.reissue {calls : List CachedCall}
    (found : mgr.callRequestCache.lookup recordId = some calls) (completed : List Nat)
    (others : ∀ other ∈ completed, other = recordId ∨ other ∈ mgr.completed) :
    Coherent { mgr with
      callRequestCache := mgr.callRequestCache.erase recordId
      reissued := mgr.reissued ++ calls, completed := completed } where
  __ := sound
  logged := fun other call ⟨kept, present, waits⟩ =>
    sound.logged other call ⟨kept, lookup_of_erase present, waits⟩
  filled := fun other kept present => sound.filled other kept (lookup_of_erase present)
  keys := fun other kept present => by
    have before := sound.keys other kept (lookup_of_erase present)
    refine ⟨before.1, fun done => ?_⟩
    rcases others other done with rfl | done
    · rw [lookup_erase] at present
      cases present
    · exact before.2 done
  issued := fun call issued => by
    rcases mem_append.mp issued with before | now
    · exact sound.issued call before
    · exact ⟨recordId, sound.logged recordId call ⟨calls, found, now⟩⟩
  fate := fun other call cached => by
    by_cases listed : call ∈ calls
    · have same : (other, call) = (recordId, call) :=
        sound.cached_unique cached (sound.logged recordId call ⟨calls, found, listed⟩) rfl
      cases same
      refine .reissued (fun ⟨kept, present, _⟩ => ?_) ?_
      · rw [lookup_erase] at present
        cases present
      · rw [count_append, sound.fate_waits ⟨calls, found, listed⟩,
          count_eq_one_of_mem (sound.filled _ calls found).2 listed]
    · refine (sound.fate other call cached).transfer ⟨?_, ?_⟩ ?_ id
      · rintro ⟨kept, present, waits⟩
        exact ⟨kept, lookup_of_erase present, waits⟩
      · rintro ⟨kept, present, waits⟩
        have ne : other ≠ recordId := by
          rintro rfl
          rw [found] at present
          cases present
          exact listed waits
        exact ⟨kept, (lookup_erase_ne ne).trans present, waits⟩
      · rw [List.count_append, List.count_eq_zero.mpr listed, Nat.add_zero]

theorem Coherent.callRequestDone (recordId : Nat)
    (hasCallStub : Bool) : (mgr.callRequestDone recordId hasCallStub).Coherent := by
  have others : ∀ other ∈ mgr.completed ++ [recordId],
      other = recordId ∨ other ∈ mgr.completed := fun other done => by
    rw [mem_append, mem_singleton] at done
    exact done.symm
  unfold CallManager.callRequestDone
  split
  · exact sound
  · dsimp only
    split
    next missing =>
      exact { sound with
        keys := fun other calls found => by
          have before := sound.keys other calls found
          refine ⟨before.1, fun done => ?_⟩
          rcases others other done with rfl | done
          · rw [show mgr.callRequestCache.lookup other = some calls from found] at missing
            cases missing
          · exact before.2 done
        fate := fun other call cached => (sound.fate other call cached).transfer .rfl rfl id }
    next calls found => exact sound.reissue found _ others

theorem Coherent.step (operation : CallOperation)
    (keeps : mgr.KeepsCalls operation) : (mgr.step operation).Coherent := by
  cases operation with
  | callAbilityLocked request createsSessionInfo =>
    exact sound.callAbilityLocked request createsSessionInfo keeps
  | callUIAbilityBySCB sessionInfo => exact sound.callUIAbilityBySCB sessionInfo keeps
  | callRequestDone recordId hasCallStub => exact sound.callRequestDone recordId hasCallStub
  | eraseAbilityRecord recordId => exact sound.eraseAbilityRecord recordId keeps
  | notifyStartupExceptionBySCB requestId => exact sound.notifyStartupExceptionBySCB requestId
  | otherRequestId => exact sound.counters (le_refl _) _

theorem Coherent.keeps_callUIAbilityBySCB {sessionInfo : SessionInfo}
    (kept : (mgr.callUIAbilityBySCB sessionInfo).CallsKept) :
    mgr.KeepsCalls (.callUIAbilityBySCB sessionInfo) := by
  intro token entry searched taken
  refine eq_none_iff_forall_ne_some.mpr fun calls found => ?_
  have left : mgr.callUIAbilityBySCB sessionInfo =
      { mgr with tmpAbilityMap := mgr.tmpAbilityMap.erase entry.1 } := by
    simp [CallManager.callUIAbilityBySCB, token, searched, taken]
  rw [left] at kept
  have perm := held_erase_tmp (searchTmpAbilityMap_lookup searched)
  exact (nodup_cons.mp (perm.nodup_iff.mp sound.distinct)).1
    (kept.keys entry.2.recordId calls found).1

theorem Coherent.keeps_eraseAbilityRecord (kept : (mgr.eraseAbilityRecord recordId).CallsKept) :
    mgr.KeepsCalls (.eraseAbilityRecord recordId) := by
  intro waiting
  refine eq_none_iff_forall_ne_some.mpr fun calls found => ?_
  obtain ⟨call, listed⟩ := exists_mem_of_ne_nil calls (sound.filled recordId calls found).1
  have waits : mgr.Waits recordId call := ⟨calls, found, listed⟩
  cases kept.fate recordId call (sound.logged recordId call waits) with
  | waits later =>
    obtain ⟨_, present, _⟩ := later
    exact absurd present (by simp [CallManager.eraseAbilityRecord])
  | reissued _ once =>
    have none := sound.fate_waits waits
    exact absurd (none.symm.trans once) (by decide)
  | dropped _ _ gone => exact gone (mem_append_left _ waiting)

theorem Coherent.keeps {operation : CallOperation}
    (kept : (mgr.step operation).CallsKept) : mgr.KeepsCalls operation := by
  cases operation with
  | callAbilityLocked request createsSessionInfo =>
    intro unknown record found
    have cached : mgr.callAbilityLocked request createsSessionInfo =
        mgr.cacheCallRequest record.recordId request := by
      simp [CallManager.callAbilityLocked, unknown, found]
    change (mgr.callAbilityLocked request createsSessionInfo).CallsKept at kept
    rw [cached] at kept
    exact (kept.keys record.recordId _ ((cacheCallRequest_lookup ..).trans (if_pos rfl))).2
  | callUIAbilityBySCB sessionInfo => exact sound.keeps_callUIAbilityBySCB kept
  | eraseAbilityRecord recordId => exact sound.keeps_eraseAbilityRecord kept
  | callRequestDone _ _ | notifyStartupExceptionBySCB _ | otherRequestId => trivial

end

theorem coherent_start {nextRecordId : Nat} (distinct : (recordIds sessions).Nodup)
    (known : ∀ recordId ∈ recordIds sessions,
      recordId < nextRecordId) : (callManager sessions nextRecordId).start.Coherent := by
  have uncached (recordId : Nat) (calls : List CachedCall)
      (found : (∅ : KeyedMap Nat (List CachedCall)).lookup recordId = some calls) : False := by
    cases found
  exact {
    distinct
    known
    numbers := rfl
    recorded := fun _ _ cached => absurd cached not_mem_nil
    logged := fun recordId _ ⟨calls, found, _⟩ => (uncached recordId calls found).elim
    filled := fun recordId calls found => (uncached recordId calls found).elim
    keys := fun recordId calls found => (uncached recordId calls found).elim
    issued := fun _ issued => absurd issued not_mem_nil
    fate := fun _ _ cached => absurd cached not_mem_nil }

instance decidableKeepsCalls (mgr : CallManager) :
    ∀ operation, Decidable (mgr.KeepsCalls operation)
  | .callAbilityLocked request _ =>
    inferInstanceAs (Decidable (_ -> ∀ record ∈ mgr.findRecordFromTmpMap request, _ ∉ _))
  | .callUIAbilityBySCB sessionInfo => inferInstanceAs
      (Decidable (_ -> ∀ entry ∈ mgr.searchTmpAbilityMap sessionInfo, _ -> _ = none))
  | .eraseAbilityRecord _ => inferInstanceAs (Decidable (_ ∈ _ -> _ = none))
  | .callRequestDone _ _ | .notifyStartupExceptionBySCB _ | .otherRequestId => isTrue trivial

end CallManager

open CallManager

/-- Every cached request is served or goes with its record exactly when none is left behind. -/
theorem callsKept_iff (sessions : KeyedMap Int AbilityRecord) (nextRecordId : Nat)
    (distinct : (recordIds sessions).Nodup)
    (known : ∀ recordId ∈ recordIds sessions, recordId < nextRecordId)
    (operations : List CallOperation) :
    (callManager sessions nextRecordId).Throughout operations CallsKept ↔
      (callManager sessions nextRecordId).EveryStep operations KeepsCalls :=
  @Machine.throughout_iff_everyStep _ _ (callManager sessions nextRecordId) (fun _ _ => True)
    KeepsCalls Coherent CallsKept (coherent_start distinct known)
    (fun _ operation sound _ keeps => sound.step operation keeps)
    (fun _ sound => sound.toCallsKept) (fun _ _ sound _ kept => sound.keeps kept)
    operations fun _ _ _ _ => trivial

theorem callsKept_iff_twoCalls :
    let request : AbilityRequest := { bundleName := "notes", name := "Main" }
    (callManager ∅ 1).Throughout
      [.callAbilityLocked request true, .callAbilityLocked request true,
        .callUIAbilityBySCB { requestId := 1, persistentId := 5 }, .callRequestDone 1 true,
        .eraseAbilityRecord 1] CallsKept := by
  exact (callsKept_iff ∅ 1 (by decide) (by decide) _).mpr (Machine.StepsFrom.everyStep (by decide))

theorem sessionExist_leaves_call :
    let request : AbilityRequest :=
      { bundleName := "notes", name := "Main", launchMode := .standard }
    ¬(callManager ∅ 1).Throughout
      [.callAbilityLocked request true, .callUIAbilityBySCB { requestId := 1, persistentId := 5 },
        .callAbilityLocked request true, .callAbilityLocked request true,
        .callUIAbilityBySCB { requestId := 2, persistentId := 5 }] CallsKept := by
  intro request throughout
  have kept := throughout _ [] (append_nil _).symm
  exact absurd (kept.keys 2 [{ number := 0, request }] (by decide)).1 (by decide)

end AbilityRuntime.SceneBoard.ByCall
