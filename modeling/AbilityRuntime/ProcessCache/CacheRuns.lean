import AbilityRuntime.ProcessCache.CacheProcessManager

set_option autoImplicit false

namespace AbilityRuntime.ProcessCache

open Library KeyedMap Option AList List Set CacheProcessManager

namespace SameAppSet

/-- The sets hold exactly the cached records, each under its bundle name and its uid, and nothing
empty is kept. -/
structure Indexes (sameAppSet : SameAppSet) (cached : Set AppRunningRecord) : Prop where
  held : ∀ bundleName uid record, record ∈ (sameAppSet.recordsOf bundleName uid).getD ∅ ↔
    record ∈ cached ∧ record.bundleName = bundleName ∧ record.uid = uid
  filledSet : ∀ bundleName uid, sameAppSet.recordsOf bundleName uid ≠ some ∅
  filledMap : ∀ bundleName uidMap, sameAppSet.lookup bundleName = some uidMap ->
    uidMap.keys.isEmpty = false

theorem recordsOf_insert (sameAppSet : SameAppSet) (key bundleName : String) (uid : Int)
    (uidMap : KeyedMap Int (Finset AppRunningRecord)) :
    recordsOf (sameAppSet.insert key uidMap) bundleName uid =
      if bundleName = key then uidMap.lookup uid else sameAppSet.recordsOf bundleName uid := by
  rw [recordsOf, lookup_insert_eq]
  split
  · rfl
  · rfl

theorem addToApplicationSet_eq (sameAppSet : SameAppSet) (appRecord : AppRunningRecord) :
    ∃ (base : SameAppSet) (uidMap : KeyedMap Int (Finset AppRunningRecord)),
      sameAppSet.addToApplicationSet appRecord =
        base.insert appRecord.bundleName (uidMap.insert appRecord.uid
          (insert appRecord ((sameAppSet.recordsOf appRecord.bundleName appRecord.uid).getD ∅))) ∧
      (∀ bundleName ≠ appRecord.bundleName, base.lookup bundleName = sameAppSet.lookup bundleName) ∧
      ∀ uid ≠ appRecord.uid, uidMap.lookup uid = sameAppSet.recordsOf appRecord.bundleName uid := by
  unfold addToApplicationSet
  cases known : sameAppSet.lookup appRecord.bundleName with
  | none =>
    refine ⟨sameAppSet.insert appRecord.bundleName (singleton appRecord.uid {appRecord}),
      singleton appRecord.uid {appRecord}, ?_, ?_, ?_⟩
    · have made : (singleton appRecord.uid {appRecord} :
          KeyedMap Int (Finset AppRunningRecord)).lookup appRecord.uid = some {appRecord} := by
        rw [<- insert_empty, lookup_insert]
      simp [recordsOf, known, made]
    · exact fun _ other => lookup_insert_ne other
    · intro uid other
      simp only [recordsOf, known, bind_none]
      rw [<- insert_empty, lookup_insert_ne other]
      rfl
  | some uidMap =>
    refine ⟨sameAppSet, uidMap, ?_, fun _ _ => rfl, fun _ _ => by simp [recordsOf, known]⟩
    cases found : uidMap.lookup appRecord.uid with
    | none => simp [recordsOf, known, found]
    | some recordSet => simp [recordsOf, known, found]

theorem recordsOf_add (sameAppSet : SameAppSet) (appRecord : AppRunningRecord)
    (bundleName : String) (uid : Int) :
    (sameAppSet.addToApplicationSet appRecord).recordsOf bundleName uid =
      if bundleName = appRecord.bundleName ∧ uid = appRecord.uid then
        some (insert appRecord ((sameAppSet.recordsOf bundleName uid).getD ∅))
      else sameAppSet.recordsOf bundleName uid := by
  obtain ⟨base, uidMap, added, others, otherUids⟩ := addToApplicationSet_eq sameAppSet appRecord
  rw [added, recordsOf_insert, lookup_insert_eq]
  by_cases sameBundle : bundleName = appRecord.bundleName
  · subst sameBundle
    by_cases sameUid : uid = appRecord.uid
    · simp [sameUid]
    · simp [sameUid, otherUids uid sameUid]
  · simp [sameBundle, recordsOf, others bundleName sameBundle]

theorem Indexes.add {sameAppSet : SameAppSet} {cached : Set AppRunningRecord}
    (indexes : sameAppSet.Indexes cached) (appRecord : AppRunningRecord) :
    (sameAppSet.addToApplicationSet appRecord).Indexes (insert appRecord cached) where
  held := by
    intro bundleName uid record
    rw [recordsOf_add]
    split
    next own =>
      obtain ⟨rfl, rfl⟩ := own
      have before := indexes.held appRecord.bundleName appRecord.uid record
      simp only [getD_some, Finset.mem_insert, before, mem_insert_iff]
      by_cases same : record = appRecord
      · simp [same]
      · simp [same]
    next foreign =>
      rw [indexes.held, mem_insert_iff]
      by_cases same : record = appRecord
      · subst same
        constructor
        · exact fun ⟨already, place⟩ => ⟨.inr already, place⟩
        · exact fun ⟨_, bundle, owner⟩ => (foreign ⟨bundle.symm, owner.symm⟩).elim
      · simp [same]
  filledSet := by
    intro bundleName uid
    rw [recordsOf_add]
    split
    · simp
    · exact indexes.filledSet bundleName uid
  filledMap := by
    intro bundleName uidMap
    obtain ⟨base, ownMap, added, others, _⟩ := addToApplicationSet_eq sameAppSet appRecord
    rw [added, lookup_insert_eq]
    split
    · rintro ⟨⟩
      simp [AList.insert]
    next other =>
      rw [others bundleName other]
      exact indexes.filledMap bundleName uidMap

theorem removeFromApplicationSet_cases (sameAppSet : SameAppSet) (appRecord : AppRunningRecord) :
    (sameAppSet.recordsOf appRecord.bundleName appRecord.uid = none ∧
      sameAppSet.removeFromApplicationSet appRecord = sameAppSet) ∨
    ∃ recordSet uidMap, sameAppSet.recordsOf appRecord.bundleName appRecord.uid = some recordSet ∧
      (∀ uid, uidMap.lookup uid = if uid = appRecord.uid then
          if recordSet.erase appRecord = ∅ then none else some (recordSet.erase appRecord)
        else sameAppSet.recordsOf appRecord.bundleName uid) ∧
      ∀ bundleName, (sameAppSet.removeFromApplicationSet appRecord).lookup bundleName =
        if bundleName = appRecord.bundleName then unlessEmpty uidMap
        else sameAppSet.lookup bundleName := by
  unfold removeFromApplicationSet recordsOf
  cases sameAppSet.lookup appRecord.bundleName with
  | none => exact .inl ⟨rfl, rfl⟩
  | some uidMap =>
    simp only [bind_some]
    cases uidMap.lookup appRecord.uid with
    | none => exact .inl ⟨rfl, rfl⟩
    | some recordSet =>
      refine .inr ⟨recordSet, _, rfl, ?_, fun bundleName => lookup_keepFilled _ _ _ _⟩
      intro uid
      simp only [Finset.card_eq_zero]
      by_cases last : recordSet.erase appRecord = ∅
      · rw [if_pos last, if_pos last, lookup_erase_eq]
      · rw [if_neg last, if_neg last, lookup_insert_eq]

theorem recordsOf_remove (sameAppSet : SameAppSet) (appRecord : AppRunningRecord)
    (bundleName : String) (uid : Int) :
    (sameAppSet.removeFromApplicationSet appRecord).recordsOf bundleName uid =
      if bundleName = appRecord.bundleName ∧ uid = appRecord.uid then
        (sameAppSet.recordsOf bundleName uid).bind fun recordSet =>
          if recordSet.erase appRecord = ∅ then none else some (recordSet.erase appRecord)
      else sameAppSet.recordsOf bundleName uid := by
  obtain ⟨missing, unchanged⟩ | ⟨recordSet, uidMap, found, looked, removed⟩ :=
    removeFromApplicationSet_cases sameAppSet appRecord
  · rw [unchanged]
    split
    next own => rw [own.1, own.2, missing, bind_none]
    · rfl
  · rw [recordsOf, removed]
    by_cases sameBundle : bundleName = appRecord.bundleName
    · rw [if_pos sameBundle, unlessEmpty_lookup, looked, sameBundle]
      by_cases sameUid : uid = appRecord.uid
      · simp only [sameUid, found, and_self, if_true, bind_some]
      · simp only [sameUid, and_false, if_false]
    · simp only [sameBundle, false_and, if_false, recordsOf]

theorem Indexes.remove {sameAppSet : SameAppSet} {cached : Set AppRunningRecord}
    (indexes : sameAppSet.Indexes cached) (appRecord : AppRunningRecord) :
    (sameAppSet.removeFromApplicationSet appRecord).Indexes (cached \ {appRecord}) where
  held := by
    intro bundleName uid record
    rw [recordsOf_remove]
    have before := indexes.held bundleName uid record
    split
    next own =>
      obtain ⟨rfl, rfl⟩ := own
      rw [mem_sdiff, mem_singleton_iff, and_right_comm, <- before]
      cases sameAppSet.recordsOf appRecord.bundleName appRecord.uid with
      | none => simp
      | some recordSet =>
        simp only [bind_some, getD_some]
        split
        next last =>
          have gone : record ∉ recordSet.erase appRecord := by simp [last]
          simpa [and_comm] using gone
        · simp [and_comm]
    next foreign =>
      rw [before, mem_sdiff, mem_singleton_iff]
      constructor
      · rintro ⟨already, rfl, rfl⟩
        exact ⟨⟨already, fun same => foreign (by simp [same])⟩, rfl, rfl⟩
      · exact fun ⟨already, place⟩ => ⟨already.1, place⟩
  filledSet := by
    intro bundleName uid
    rw [recordsOf_remove]
    split
    · cases sameAppSet.recordsOf bundleName uid with
      | none => simp
      | some recordSet =>
        rw [bind_some]
        split
        · simp
        next filled => simpa using filled
    · exact indexes.filledSet bundleName uid
  filledMap := by
    intro bundleName kept
    have before := indexes.filledMap bundleName kept
    obtain ⟨_, unchanged⟩ | ⟨_, uidMap, _, _, removed⟩ :=
      removeFromApplicationSet_cases sameAppSet appRecord
    · rwa [unchanged]
    · rw [removed]
      split
      · exact unlessEmpty_filled
      · exact before

end SameAppSet

namespace CacheProcessManager

structure Consistent (mgr : CacheProcessManager) : Prop where
  once : mgr.cachedAppRecordQueue.Nodup
  indexed : mgr.sameAppSet.Indexes {record | record ∈ mgr.cachedAppRecordQueue}

theorem Consistent.create (parameters : Parameters) : (create parameters).Consistent where
  once := nodup_nil
  indexed :=
    { held := by simp [CacheProcessManager.create, SameAppSet.recordsOf]
      filledSet := by simp [CacheProcessManager.create, SameAppSet.recordsOf]
      filledMap := by simp [CacheProcessManager.create] }

theorem isCachedProcess_iff (mgr : CacheProcessManager) (appRecord : AppRunningRecord) :
    mgr.isCachedProcess appRecord = true ↔ appRecord ∈ mgr.cachedAppRecordQueue := by
  simp [isCachedProcess]

theorem shrinkLoop_negative {allowedCacheNum : Int} (negative : allowedCacheNum < 0)
    (queue : List AppRunningRecord) (sameAppSet : SameAppSet) (cleanList : List AppRunningRecord) :
    shrinkLoop allowedCacheNum sameAppSet cleanList queue = none := by
  induction queue generalizing sameAppSet cleanList with
  | nil => simp [shrinkLoop, negative]
  | cons tmpAppRecord rest ih =>
    rw [shrinkLoop, if_pos (by omega)]
    exact ih _ _

theorem shrinkLoop_eq {allowedCacheNum : Int} (bound : 0 ≤ allowedCacheNum)
    (queue : List AppRunningRecord) (sameAppSet : SameAppSet) (cleanList : List AppRunningRecord)
    (once : queue.Nodup) (indexed : sameAppSet.Indexes {record | record ∈ queue}) :
    ∃ left, shrinkLoop allowedCacheNum sameAppSet cleanList queue =
        some (queue.drop (queue.length - allowedCacheNum.toNat), left,
          cleanList ++ queue.take (queue.length - allowedCacheNum.toNat)) ∧
      left.Indexes {record | record ∈ queue.drop (queue.length - allowedCacheNum.toNat)} := by
  induction queue generalizing sameAppSet cleanList with
  | nil =>
    refine ⟨sameAppSet, ?_, by simpa using indexed⟩
    simp [shrinkLoop, bound]
  | cons tmpAppRecord rest ih =>
    obtain ⟨fresh, restOnce⟩ := nodup_cons.mp once
    rw [shrinkLoop]
    by_cases excess : (rest.length + 1 : Int) > allowedCacheNum
    · have removed : (sameAppSet.removeFromApplicationSet tmpAppRecord).Indexes
          {record | record ∈ rest} := by
        have := indexed.remove tmpAppRecord
        convert this using 1
        ext record
        simp only [mem_ofPred_eq, mem_sdiff, mem_cons, mem_singleton_iff]
        constructor
        · exact fun held => ⟨.inr held, fun same => fresh (same ▸ held)⟩
        · exact fun ⟨held, other⟩ => held.resolve_left other
      have count : (tmpAppRecord :: rest).length - allowedCacheNum.toNat =
          (rest.length - allowedCacheNum.toNat) + 1 := by
        rw [length_cons]
        omega
      obtain ⟨left, shrunk, leftIndexed⟩ := ih _ (cleanList ++ [tmpAppRecord]) restOnce removed
      refine ⟨left, ?_, ?_⟩
      · simp only [excess, if_true, shrunk, count, drop_succ_cons, take_succ_cons,
          append_assoc, singleton_append]
      · simpa only [count, drop_succ_cons] using leftIndexed
    · have count : (tmpAppRecord :: rest).length - allowedCacheNum.toNat = 0 := by
        rw [length_cons]
        omega
      refine ⟨sameAppSet, ?_, ?_⟩
      · rw [if_neg excess, count, drop_zero, take_zero, append_nil]
      · rwa [count, drop_zero]

theorem removeLoop_eq (appRecord : AppRunningRecord) (queue : List AppRunningRecord)
    (sameAppSet : SameAppSet) {cached : Set AppRunningRecord} (indexed : sameAppSet.Indexes cached)
    (reached : appRecord ∈ queue ∨ appRecord ∉ cached) :
    ∃ left, removeLoop appRecord sameAppSet queue = (queue.filter (· ≠ appRecord), left) ∧
      left.Indexes (cached \ {appRecord}) := by
  induction queue generalizing sameAppSet cached with
  | nil =>
    have absent := reached.resolve_left not_mem_nil
    exact ⟨sameAppSet, rfl, by rwa [sdiff_singleton_eq_self absent]⟩
  | cons front rest ih =>
    rw [removeLoop]
    by_cases same : appRecord = front
    · subst same
      obtain ⟨left, removed, leftIndexed⟩ := ih _ (indexed.remove appRecord) (.inr (by simp))
      refine ⟨left, by simp [removed], ?_⟩
      rwa [sdiff_sdiff, union_self] at leftIndexed
    · have later : appRecord ∈ rest ∨ appRecord ∉ cached := by
        rwa [mem_cons, or_iff_right same] at reached
      obtain ⟨left, removed, leftIndexed⟩ := ih sameAppSet indexed later
      exact ⟨left, by simp [same, Ne.symm same, removed], leftIndexed⟩

theorem Consistent.removeCacheRecord {mgr : CacheProcessManager} (consistent : mgr.Consistent)
    (appRecord : AppRunningRecord) :
    ∃ left, mgr.removeCacheRecord appRecord = { mgr with
        cachedAppRecordQueue := mgr.cachedAppRecordQueue.filter (· ≠ appRecord)
        sameAppSet := left } ∧
      (mgr.removeCacheRecord appRecord).Consistent := by
  obtain ⟨left, removed, indexed⟩ := removeLoop_eq appRecord mgr.cachedAppRecordQueue
    mgr.sameAppSet consistent.indexed (em _)
  have eq : mgr.removeCacheRecord appRecord = { mgr with
      cachedAppRecordQueue := mgr.cachedAppRecordQueue.filter (· ≠ appRecord)
      sameAppSet := left } := by
    rw [CacheProcessManager.removeCacheRecord, removed]
  refine ⟨left, eq, ?_, ?_⟩
  · rw [eq]
    exact consistent.once.filter _
  · rw [eq]
    convert indexed using 1
    ext record
    simp

theorem killed_each {mgr : CacheProcessManager} (served : mgr.appMgr = true)
    (cleanList : List AppRunningRecord) :
    cleanList.foldl (fun mgr tmpAppRecord => (mgr.killProcessByRecord tmpAppRecord).1) mgr =
      { mgr with killed := mgr.killed ++ cleanList } := by
  induction cleanList generalizing mgr with
  | nil => simp
  | cons tmpAppRecord rest ih =>
    have first : (mgr.killProcessByRecord tmpAppRecord).1 =
        { mgr with killed := mgr.killed ++ [tmpAppRecord] } := by
      rw [killProcessByRecord, if_pos served]
    rw [foldl_cons, first, ih (by exact served), append_assoc, singleton_append]

theorem Consistent.shrinkAndKillCache {mgr : CacheProcessManager} (consistent : mgr.Consistent)
    (served : mgr.appMgr = true) (enabled : mgr.queryEnableProcessCache = true)
    (bound : 0 ≤ mgr.allowedCacheNum) :
    ∃ left, mgr.shrinkAndKillCache = some { mgr with
        cachedAppRecordQueue := mgr.cachedAppRecordQueue.drop
          (mgr.cachedAppRecordQueue.length - mgr.allowedCacheNum.toNat)
        sameAppSet := left
        killed := mgr.killed ++ mgr.cachedAppRecordQueue.take
          (mgr.cachedAppRecordQueue.length - mgr.allowedCacheNum.toNat) } ∧
      left.Indexes {record | record ∈ mgr.cachedAppRecordQueue.drop
        (mgr.cachedAppRecordQueue.length - mgr.allowedCacheNum.toNat)} := by
  obtain ⟨left, shrunk, indexed⟩ := shrinkLoop_eq bound mgr.cachedAppRecordQueue mgr.sameAppSet []
    consistent.once consistent.indexed
  refine ⟨left, ?_, indexed⟩
  have allowed : ¬((mgr.maxProcCacheNum ≤ 0 && !mgr.warmStartProcesEnable) = true) := by
    simpa [queryEnableProcessCache, or_iff_not_imp_left] using enabled
  rw [CacheProcessManager.shrinkAndKillCache, if_neg allowed, shrunk]
  simp [killed_each, served]

/-- The oldest of the records are killed, each once, and those that stay are within the bound. -/
def KillsOldest (mgr after : CacheProcessManager) (queued : List AppRunningRecord) : Prop :=
  (∃ count, after.killed = mgr.killed ++ queued.take count ∧
    after.cachedAppRecordQueue = queued.drop count) ∧
  (after.cachedAppRecordQueue.length : Int) ≤ max after.allowedCacheNum 0

def Leaves (call : Call) (returned : Bool) (record : AppRunningRecord) : Prop :=
  call = .onProcessKilled (some record) ∨
    (call = .reuseCachedProcess (some record) ∧ returned = true)

structure Outcome (mgr : CacheProcessManager) (call : Call) (after : CacheProcessManager)
    (returned : Bool) : Prop where
  pended : ∀ appRecord isKeepAliveApp, call = .penddingCacheProcess appRecord isKeepAliveApp ->
    returned = true -> ∃ record, appRecord = some record ∧
      mgr.KillsOldest after (mgr.cachedAppRecordQueue ++ [record])
  left : ∀ record, Leaves call returned record -> record ∉ after.cachedAppRecordQueue
  killed : ∃ fresh, after.killed = mgr.killed ++ fresh ∧
    ∀ record ∈ fresh, record ∉ after.cachedAppRecordQueue

/-- The call does not take the front of an empty queue, and what is left of the queue is right. -/
def Follows (mgr : CacheProcessManager) (call : Call) : Prop :=
  ∃ after returned, mgr.handle call = some (after, returned) ∧ mgr.Outcome call after returned

/-- The queue is not shrunk to a negative size, and no queued record is killed while caching is
disabled. -/
def Meets (mgr : CacheProcessManager) : Call -> Prop
  | .penddingCacheProcess appRecord isKeepAliveApp =>
    mgr.queryEnableProcessCache = true -> isKeepAliveApp = false ->
      ∀ record, appRecord = some record -> record ∉ mgr.cachedAppRecordQueue ->
        0 ≤ mgr.allowedCacheNum
  | .shrinkAndKillCache => mgr.queryEnableProcessCache = true -> 0 ≤ mgr.allowedCacheNum
  | .onProcessKilled appRecord =>
    mgr.queryEnableProcessCache = true ∨
      ∀ record, appRecord = some record -> record ∉ mgr.cachedAppRecordQueue
  | _ => True

structure Settled (mgr : CacheProcessManager) (call : Call) (after : CacheProcessManager)
    (returned : Bool) : Prop where
  handled : mgr.handle call = some (after, returned)
  outcome : mgr.Outcome call after returned
  consistent : after.Consistent
  served : after.appMgr = true

section

variable {mgr : CacheProcessManager} (consistent : mgr.Consistent) (served : mgr.appMgr = true)

include consistent served

theorem settled_unchanged {call : Call} {returned : Bool}
    (handled : mgr.handle call = some (mgr, returned))
    (refused : ∀ appRecord isKeepAliveApp, call = .penddingCacheProcess appRecord isKeepAliveApp ->
      returned = false)
    (absent : ∀ record, Leaves call returned record -> record ∉ mgr.cachedAppRecordQueue) :
    mgr.Settled call mgr returned where
  handled := handled
  outcome.pended := by
    intro appRecord isKeepAliveApp pendding accepted
    rw [refused appRecord isKeepAliveApp pendding] at accepted
    cases accepted
  outcome.left := absent
  outcome.killed := ⟨[], by simp, by simp⟩
  consistent := consistent
  served := served

theorem settled_removed {call : Call} {after : CacheProcessManager} {returned : Bool}
    (appRecord : AppRunningRecord) (fresh : List AppRunningRecord)
    (handled : mgr.handle call = some (after, returned))
    (isAfter : after = { mgr.removeCacheRecord appRecord with killed := mgr.killed ++ fresh })
    (own : ∀ record ∈ fresh, record = appRecord)
    (leaves : ∀ record, Leaves call returned record -> record = appRecord)
    (other : ∀ appRecord isKeepAliveApp, call ≠ .penddingCacheProcess appRecord isKeepAliveApp) :
    mgr.Settled call after returned := by
  obtain ⟨left, removed, kept⟩ := consistent.removeCacheRecord appRecord
  rw [removed] at isAfter kept
  subst isAfter
  have gone : ∀ record, record = appRecord ->
      record ∉ mgr.cachedAppRecordQueue.filter (· ≠ appRecord) := by
    simp
  exact {
    handled := handled
    outcome := {
      pended := fun appRecord isKeepAliveApp pendding => (other _ _ pendding).elim
      left := fun record about => gone record (leaves record about)
      killed := ⟨fresh, rfl, fun record mem => gone record (own record mem)⟩ }
    consistent := ⟨kept.once, kept.indexed⟩
    served := served }

omit served in
theorem Consistent.pendded {record : AppRunningRecord}
    (fresh : record ∉ mgr.cachedAppRecordQueue) :
    Consistent { mgr with
      cachedAppRecordQueue := mgr.cachedAppRecordQueue ++ [record]
      sameAppSet := mgr.sameAppSet.addToApplicationSet record } where
  once := by
    rw [nodup_append_comm]
    exact nodup_cons.mpr ⟨fresh, consistent.once⟩
  indexed := by
    convert consistent.indexed.add record using 1
    ext other
    simp [or_comm]

theorem Consistent.shrunk (enabled : mgr.queryEnableProcessCache = true)
    (bound : 0 ≤ mgr.allowedCacheNum) :
    ∃ after, mgr.shrinkAndKillCache = some after ∧
      mgr.KillsOldest after mgr.cachedAppRecordQueue ∧ after.Consistent ∧ after.appMgr = true := by
  obtain ⟨left, shrunk, indexed⟩ := consistent.shrinkAndKillCache served enabled bound
  refine ⟨_, shrunk, ⟨⟨_, rfl, rfl⟩, ?_⟩, ⟨?_, indexed⟩, served⟩
  · rw [length_drop, max_eq_left bound]
    omega
  · exact consistent.once.sublist (drop_sublist _ _)

omit consistent served in
theorem KillsOldest.gone {after : CacheProcessManager} {queued : List AppRunningRecord}
    (kills : mgr.KillsOldest after queued) (once : queued.Nodup) :
    ∃ fresh, after.killed = mgr.killed ++ fresh ∧
      ∀ record ∈ fresh, record ∉ after.cachedAppRecordQueue := by
  obtain ⟨⟨count, killed, kept⟩, _⟩ := kills
  refine ⟨_, killed, ?_⟩
  rw [kept]
  intro record older
  rw [<- take_append_drop count queued] at once
  exact fun newer => disjoint_of_nodup_append once older newer

theorem settled_pendding (appRecord : Option AppRunningRecord) (isKeepAliveApp : Bool)
    (meets : mgr.Meets (.penddingCacheProcess appRecord isKeepAliveApp)) :
    ∃ after returned,
      mgr.Settled (.penddingCacheProcess appRecord isKeepAliveApp) after returned := by
  have refusal : mgr.penddingCacheProcess appRecord isKeepAliveApp = some (mgr, false) ->
      ∃ after returned,
        mgr.Settled (.penddingCacheProcess appRecord isKeepAliveApp) after returned :=
    fun refused => ⟨mgr, false, settled_unchanged consistent served refused (fun _ _ _ => rfl)
      (by simp [Leaves])⟩
  by_cases enabled : mgr.queryEnableProcessCache = true
  · cases appRecord with
    | none => exact refusal (by simp [penddingCacheProcess])
    | some record =>
      by_cases cached : record ∈ mgr.cachedAppRecordQueue
      · exact refusal (by
          simp [penddingCacheProcess, (mgr.isCachedProcess_iff record).mpr cached])
      · cases isKeepAliveApp with
        | true => exact refusal (by simp [penddingCacheProcess])
        | false =>
          have grown := consistent.pendded cached
          obtain ⟨after, shrunk, kills, kept, stillServed⟩ :=
            grown.shrunk served enabled (meets enabled rfl record rfl cached)
          refine ⟨after, true, ?_, ⟨?_, by simp [Leaves], ?_⟩, kept, stillServed⟩
          · have notCached : mgr.isCachedProcess record = false := by
              rw [<- Bool.not_eq_true, isCachedProcess_iff]
              exact cached
            simp [handle, penddingCacheProcess, enabled, notCached, shrunk]
          · rintro _ _ ⟨⟩ _
            exact ⟨record, rfl, kills⟩
          · exact kills.gone grown.once
  · exact refusal (by simp [penddingCacheProcess, enabled])

omit consistent served in
theorem cached_or_not (appRecord : Option AppRunningRecord) :
    (mgr.queryEnableProcessCache = true ∧
      ∃ record, appRecord = some record ∧ mgr.isCachedProcess record = true) ∨
    mgr.queryEnableProcessCache = false ∨
    ∀ record, appRecord = some record -> mgr.isCachedProcess record = false := by
  cases appRecord with
  | none => simp
  | some record => grind

theorem settled_reuse (appRecord : Option AppRunningRecord) :
    ∃ after returned, mgr.Settled (.reuseCachedProcess appRecord) after returned := by
  obtain ⟨enabled, record, rfl, cached⟩ | refused := mgr.cached_or_not appRecord
  · refine ⟨mgr.removeCacheRecord record, true, settled_removed consistent served record []
      (by simp [handle, reuseCachedProcess, enabled, cached]) ?_ (by simp)
      (by simp [Leaves]) (by simp)⟩
    simp [removeCacheRecord]
  · refine ⟨mgr, false, settled_unchanged consistent served ?_ (by simp) (by simp [Leaves])⟩
    cases appRecord with
    | none => simp [handle, reuseCachedProcess]
    | some record => grind [handle, reuseCachedProcess]

theorem settled_killed (appRecord : Option AppRunningRecord)
    (meets : mgr.Meets (.onProcessKilled appRecord)) :
    ∃ after returned, mgr.Settled (.onProcessKilled appRecord) after returned := by
  obtain ⟨enabled, record, rfl, cached⟩ | refused := mgr.cached_or_not appRecord
  · refine ⟨mgr.removeCacheRecord record, true, settled_removed consistent served record []
      (by simp [handle, onProcessKilled, enabled, cached]) ?_ (by simp)
      (by simp [Leaves, eq_comm]) (by simp)⟩
    simp [removeCacheRecord]
  · refine ⟨mgr, true, settled_unchanged consistent served ?_ (by simp) ?_⟩
    · cases appRecord with
      | none => simp [handle, onProcessKilled]
      | some record => grind [handle, onProcessKilled]
    · intro record about
      have own : appRecord = some record := by simpa [Leaves] using about
      grind [Meets, isCachedProcess_iff]

theorem settled_blocked (appRecord : Option AppRunningRecord) :
    ∃ after returned, mgr.Settled (.onAppProcessCacheBlocked appRecord) after returned := by
  obtain ⟨enabled, record, rfl, cached⟩ | refused := mgr.cached_or_not appRecord
  · refine ⟨{ mgr.removeCacheRecord record with killed := mgr.killed ++ [record] }, true,
      settled_removed consistent served record [record] ?_ rfl (by simp) (by simp [Leaves])
        (by simp)⟩
    have stillServed : (mgr.removeCacheRecord record).appMgr = true := served
    simp [handle, onAppProcessCacheBlocked, enabled, cached, killProcessByRecord, stillServed]
    rfl
  · refine ⟨mgr, true, settled_unchanged consistent served ?_ (by simp) (by simp [Leaves])⟩
    cases appRecord with
    | none => simp [handle, onAppProcessCacheBlocked]
    | some record => grind [handle, onAppProcessCacheBlocked]

theorem settled_shrink (meets : mgr.Meets .shrinkAndKillCache) :
    ∃ after returned, mgr.Settled .shrinkAndKillCache after returned := by
  by_cases enabled : mgr.queryEnableProcessCache = true
  · obtain ⟨after, shrunk, kills, kept, stillServed⟩ :=
      consistent.shrunk served enabled (meets enabled)
    refine ⟨after, true, by simp [handle, shrunk], ⟨by simp, by simp [Leaves], ?_⟩, kept,
      stillServed⟩
    exact kills.gone consistent.once
  · refine ⟨mgr, true, settled_unchanged consistent served ?_ (by simp) (by simp [Leaves])⟩
    have disabled : (mgr.maxProcCacheNum ≤ 0 && !mgr.warmStartProcesEnable) = true := by
      simpa [queryEnableProcessCache] using enabled
    rw [handle, shrinkAndKillCache, if_pos disabled]
    rfl

theorem settled_of_meets (call : Call) (meets : mgr.Meets call) :
    ∃ after returned, mgr.Settled call after returned := by
  cases call with
  | penddingCacheProcess appRecord isKeepAliveApp =>
    exact settled_pendding consistent served appRecord isKeepAliveApp meets
  | reuseCachedProcess appRecord => exact settled_reuse consistent served appRecord
  | onProcessKilled appRecord => exact settled_killed consistent served appRecord meets
  | onAppProcessCacheBlocked appRecord => exact settled_blocked consistent served appRecord
  | refreshCacheNum parameter =>
    refine ⟨mgr.refreshCacheNum parameter, true, rfl, ⟨by simp, by simp [Leaves], ?_⟩,
      ⟨consistent.once, consistent.indexed⟩, served⟩
    exact ⟨[], by simp [refreshCacheNum], by simp⟩
  | shrinkAndKillCache => exact settled_shrink consistent served meets

end

theorem shrinkAndKillCache_negative (mgr : CacheProcessManager)
    (enabled : mgr.queryEnableProcessCache = true) (negative : mgr.allowedCacheNum < 0) :
    mgr.shrinkAndKillCache = none := by
  have allowed : ¬((mgr.maxProcCacheNum ≤ 0 && !mgr.warmStartProcesEnable) = true) := by
    simpa [queryEnableProcessCache, or_iff_not_imp_left] using enabled
  rw [shrinkAndKillCache, if_neg allowed, shrinkLoop_negative negative]
  rfl

theorem meets_of_follows {mgr : CacheProcessManager} {call : Call} (follows : mgr.Follows call) :
    mgr.Meets call := by
  obtain ⟨after, returned, handled, outcome⟩ := follows
  cases call with
  | penddingCacheProcess appRecord isKeepAliveApp =>
    rintro enabled rfl record rfl fresh
    by_contra negative
    have stuck := shrinkAndKillCache_negative { mgr with
      cachedAppRecordQueue := mgr.cachedAppRecordQueue ++ [record]
      sameAppSet := mgr.sameAppSet.addToApplicationSet record } enabled (by simpa using negative)
    have notCached : mgr.isCachedProcess record = false := by
      rw [<- Bool.not_eq_true, isCachedProcess_iff]
      exact fresh
    simp [handle, penddingCacheProcess, enabled, notCached, stuck] at handled
  | onProcessKilled appRecord =>
    by_contra unmet
    obtain ⟨disabled, record, rfl, queued⟩ : mgr.queryEnableProcessCache = false ∧
        ∃ record, appRecord = some record ∧ record ∈ mgr.cachedAppRecordQueue := by
      simpa [Meets] using unmet
    have unchanged : mgr = after ∧ true = returned := by
      simpa [handle, onProcessKilled, disabled] using handled
    exact outcome.left record (.inl rfl) (unchanged.1 ▸ queued)
  | shrinkAndKillCache =>
    intro enabled
    by_contra negative
    rw [handle, shrinkAndKillCache_negative mgr enabled (by simpa using negative)] at handled
    cases handled
  | reuseCachedProcess appRecord => trivial
  | onAppProcessCacheBlocked appRecord => trivial
  | refreshCacheNum parameter => trivial

end CacheProcessManager

/-- No call has taken the front of an empty queue, and the queue and the sets agree. -/
def Consistent (state : Option CacheProcessManager) : Prop :=
  ∃ mgr, state = some mgr ∧ mgr.Consistent

def Follows (state : Option CacheProcessManager) (call : Call) : Prop :=
  ∃ mgr, state = some mgr ∧ mgr.Follows call

def Meets (state : Option CacheProcessManager) (call : Call) : Prop :=
  ∀ mgr, state = some mgr -> mgr.Meets call

theorem step_settled {parameters : Parameters} {mgr after : CacheProcessManager} {call : Call}
    {returned : Bool} (settled : mgr.Settled call after returned) :
    (machine parameters).step (some mgr) call = some after := by
  change (mgr.handle call).bind (fun result => some result.1) = some after
  rw [settled.handled]
  rfl

theorem cached_queue_kept_iff (parameters : Parameters) (calls : List Call) :
    ((machine parameters).Throughout calls Consistent ∧
        (machine parameters).EveryStep calls Follows) ↔
      (machine parameters).EveryStep calls Meets := by
  constructor
  · rintro ⟨_, every⟩ done call rest split mgr current
    obtain ⟨same, isSame, follows⟩ := every done call rest split
    cases current.symm.trans isSame
    exact meets_of_follows follows
  · intro every
    have kept : (machine parameters).Throughout calls fun state =>
        ∃ mgr, state = some mgr ∧ mgr.Consistent ∧ mgr.appMgr = true := by
      refine every.throughout ⟨_, rfl, Consistent.create parameters, rfl⟩ ?_
      rintro _ call ⟨mgr, rfl, consistent, served⟩ meets
      obtain ⟨after, returned, settled⟩ := settled_of_meets consistent served call (meets mgr rfl)
      exact ⟨after, step_settled settled, settled.consistent, settled.served⟩
    refine ⟨?_, ?_⟩
    · intro done rest split
      obtain ⟨mgr, current, consistent, _⟩ := kept done rest split
      exact ⟨mgr, current, consistent⟩
    · intro done call rest split
      obtain ⟨mgr, current, consistent, served⟩ := kept done (call :: rest) split
      obtain ⟨after, returned, settled⟩ := settled_of_meets consistent served
        call (every done call rest split mgr current)
      exact ⟨mgr, current, after, returned, settled.handled, settled.outcome⟩

def cachedApp : AppRunningRecord where
  id := 1
  bundleName := "com.example.app"
  uid := 20010001

theorem dead_process_stays_cached :
    ¬ (machine ⟨2, false, 64⟩).EveryStep
        [.penddingCacheProcess (some cachedApp) false, .refreshCacheNum 0,
          .onProcessKilled (some cachedApp)] Follows ∧
      ¬ (machine ⟨2, true, 64⟩).Throughout
        [.refreshCacheNum (-1), .penddingCacheProcess (some cachedApp) false] Consistent := by
  constructor
  · intro every
    obtain ⟨mgr, current, follows⟩ := every
      [.penddingCacheProcess (some cachedApp) false, .refreshCacheNum 0]
      (.onProcessKilled (some cachedApp)) [] rfl
    obtain enabled | absent := meets_of_follows follows
    · cases current
      revert enabled
      decide
    · cases current
      exact absent cachedApp rfl (by decide)
  · intro throughout
    obtain ⟨mgr, current, _⟩ := throughout
      [.refreshCacheNum (-1), .penddingCacheProcess (some cachedApp) false] [] rfl
    cases current

end AbilityRuntime.ProcessCache
