import Mathlib.Data.List.Pairwise
import AbilityRuntime.PendingWant.Manager

set_option autoImplicit false

namespace AbilityRuntime.PendingWant

open List PendingWantManager Library Flags

section

variable {Want : Type} (api : WantApi Want)

def WantEquivalence : Prop := Equivalence fun want other => api.isEquals want other = true

def Matches (key other : PendingWantKey Want) : Prop :=
  checkPendingWantRecordByKey api key other = true

/-- The records of the map exist, and no two of them have keys that match. -/
structure LiveApart (mgr : PendingWantManager Want) : Prop where
  made : ∀ r ∈ mgr.wantRecords, r < mgr.records.length
  apart : mgr.wantRecords.Pairwise fun first second =>
    ∀ firstRecord secondRecord, mgr.records[first]? = some firstRecord ->
      mgr.records[second]? = some secondRecord -> ¬ Matches api firstRecord.key secondRecord.key

def KeepsKeys (before after : PendingWantManager Want) : Prop :=
  ∀ (r : Nat) (record : PendingWantRecord Want), before.records[r]? = some record ->
    ∃ changed, after.records[r]? = some changed ∧ Matches api record.key changed.key

structure Shrinks (before after : PendingWantManager Want) : Prop where
  keys : KeepsKeys api before after
  length : after.records.length = before.records.length
  live : after.wantRecords.Sublist before.wantRecords

end

variable {Want : Type} {api : WantApi Want} {mgr before after : PendingWantManager Want}

theorem matches_iff {key other : PendingWantKey Want} :
    Matches api key other ↔ key.appIndex = other.appIndex ∧ key.bundleName = other.bundleName ∧
      key.type = other.type ∧ key.requestWho = other.requestWho ∧
      key.requestCode = other.requestCode ∧ key.requestResolvedType = other.requestResolvedType ∧
      key.userId = other.userId ∧ api.isEquals key.requestWant other.requestWant = true := by
  simp [Matches, checkPendingWantRecordByKey]

section

variable (equiv : WantEquivalence api)

include equiv

theorem Matches.refl (key : PendingWantKey Want) : Matches api key key :=
  matches_iff.mpr ⟨rfl, rfl, rfl, rfl, rfl, rfl, rfl, equiv.refl _⟩

theorem Matches.symm {key other : PendingWantKey Want} (same : Matches api key other) :
    Matches api other key := by
  rw [matches_iff] at same ⊢
  obtain ⟨appIndex, bundleName, type, requestWho, requestCode, resolvedType, userId, want⟩ := same
  exact ⟨appIndex.symm, bundleName.symm, type.symm, requestWho.symm, requestCode.symm,
    resolvedType.symm, userId.symm, equiv.symm want⟩

theorem Matches.trans {key middle other : PendingWantKey Want} (first : Matches api key middle)
    (second : Matches api middle other) : Matches api key other := by
  rw [matches_iff] at first second ⊢
  obtain ⟨appIndex, bundleName, type, requestWho, requestCode, resolvedType, userId, want⟩ := first
  obtain ⟨appIndex', bundleName', type', requestWho', requestCode', resolvedType', userId', want'⟩ :=
    second
  exact ⟨appIndex.trans appIndex', bundleName.trans bundleName', type.trans type',
    requestWho.trans requestWho', requestCode.trans requestCode', resolvedType.trans resolvedType',
    userId.trans userId', equiv.trans want want'⟩

theorem KeepsKeys.refl (mgr : PendingWantManager Want) : KeepsKeys api mgr mgr :=
  fun _ record found => ⟨record, found, Matches.refl equiv record.key⟩

theorem KeepsKeys.trans {middle : PendingWantManager Want} (first : KeepsKeys api before middle)
    (second : KeepsKeys api middle after) : KeepsKeys api before after := by
  intro r record found
  obtain ⟨changed, foundMiddle, same⟩ := first r record found
  obtain ⟨changed', foundAfter, same'⟩ := second r changed foundMiddle
  exact ⟨changed', foundAfter, same.trans equiv same'⟩

theorem Shrinks.refl (mgr : PendingWantManager Want) : Shrinks api mgr mgr where
  keys := KeepsKeys.refl equiv mgr
  length := rfl
  live := Sublist.refl _

theorem Shrinks.trans {middle : PendingWantManager Want} (first : Shrinks api before middle)
    (second : Shrinks api middle after) : Shrinks api before after where
  keys := first.keys.trans equiv second.keys
  length := second.length.trans first.length
  live := second.live.trans first.live

theorem modifyRecord_shrinks (mgr : PendingWantManager Want) (r : Nat)
    (change : PendingWantRecord Want -> PendingWantRecord Want)
    (same : ∀ record, mgr.records[r]? = some record -> Matches api record.key (change record).key) :
    Shrinks api mgr (mgr.modifyRecord r change) where
  keys := by
    intro other record found
    by_cases changed : r = other
    · subst changed
      exact ⟨change record, by simp [modifyRecord, found], same record found⟩
    · refine ⟨record, ?_, Matches.refl equiv record.key⟩
      simp [modifyRecord, changed, found]
  length := by simp [modifyRecord]
  live := Sublist.refl _

theorem LiveApart.unique (live : LiveApart api mgr) {first second : Nat}
    (firstLive : first ∈ mgr.wantRecords) (secondLive : second ∈ mgr.wantRecords)
    {firstRecord secondRecord : PendingWantRecord Want}
    (firstFound : mgr.records[first]? = some firstRecord)
    (secondFound : mgr.records[second]? = some secondRecord)
    (same : Matches api firstRecord.key secondRecord.key) : first = second := by
  by_contra ne
  have symmetric : Std.Symm fun first second : Nat =>
      ∀ firstRecord secondRecord, mgr.records[first]? = some firstRecord ->
        mgr.records[second]? = some secondRecord ->
          ¬ Matches api firstRecord.key secondRecord.key :=
    ⟨fun _ _ apart _ _ found found' same => apart _ _ found' found (same.symm equiv)⟩
  exact live.apart.forall firstLive secondLive ne _ _ firstFound secondFound same

theorem LiveApart.nodup (live : LiveApart api mgr) : mgr.wantRecords.Nodup := by
  refine live.apart.imp_of_mem ?_
  rintro first _ firstLive _ apart rfl
  have found := getElem?_eq_getElem (live.made first firstLive)
  exact apart _ _ found found (Matches.refl equiv _)

theorem LiveApart.shrinks (live : LiveApart api before) (shrinks : Shrinks api before after) :
    LiveApart api after where
  made r mem := shrinks.length ▸ live.made r (shrinks.live.subset mem)
  apart := by
    refine (live.apart.sublist shrinks.live).imp_of_mem ?_
    intro first second firstLive secondLive apart firstRecord secondRecord firstFound secondFound same
    have firstMade := getElem?_eq_getElem (live.made first (shrinks.live.subset firstLive))
    have secondMade := getElem?_eq_getElem (live.made second (shrinks.live.subset secondLive))
    obtain ⟨_, firstKept, firstSame⟩ := shrinks.keys first _ firstMade
    obtain ⟨_, secondKept, secondSame⟩ := shrinks.keys second _ secondMade
    cases firstKept.symm.trans firstFound
    cases secondKept.symm.trans secondFound
    exact apart _ _ firstMade secondMade
      ((firstSame.trans equiv same).trans equiv (secondSame.symm equiv))

end

namespace PendingWantManager

theorem getPendingWantRecordByKey_some {key : PendingWantKey Want} {r : Nat}
    (found : mgr.getPendingWantRecordByKey api key = some r) :
    r ∈ mgr.wantRecords ∧ ∃ record, mgr.records[r]? = some record ∧ Matches api record.key key := by
  have checked := find?_some found
  refine ⟨mem_of_find?_eq_some found, ?_⟩
  simpa [Option.any_eq_true, Matches] using checked

theorem getPendingWantRecordByKey_none {key : PendingWantKey Want}
    (missing : mgr.getPendingWantRecordByKey api key = none) {r : Nat} (live : r ∈ mgr.wantRecords)
    {record : PendingWantRecord Want} (found : mgr.records[r]? = some record) :
    ¬ Matches api record.key key := by
  have unmatched := find?_eq_none.mp missing r live
  simpa [found, Matches] using unmatched

section

variable (equiv : WantEquivalence api)

include equiv

theorem getPendingWantRecordByKey_live (live : LiveApart api mgr) {key : PendingWantKey Want}
    {r : Nat} (mem : r ∈ mgr.wantRecords) {record : PendingWantRecord Want}
    (found : mgr.records[r]? = some record) (same : Matches api record.key key) :
    mgr.getPendingWantRecordByKey api key = some r := by
  cases looked : mgr.getPendingWantRecordByKey api key with
  | none => exact absurd same (getPendingWantRecordByKey_none looked mem found)
  | some other =>
    obtain ⟨otherMember, otherRecord, otherFound, otherSame⟩ := getPendingWantRecordByKey_some looked
    rw [live.unique equiv otherMember mem otherFound found
      (otherSame.trans equiv (same.symm equiv))]

theorem makeWantSenderCanceledLocked_shrinks (mgr : PendingWantManager Want) (r : Nat) :
    Shrinks api mgr (mgr.makeWantSenderCanceledLocked api r) := by
  have modified := modifyRecord_shrinks equiv mgr r (fun record => { record with
    canceled := true
    key := if record.key.code > 0 then record.key.clearAllWantsInfosFd api else record.key }) (by
      intro record _
      have same := Matches.refl equiv record.key
      split
      · simpa [matches_iff, PendingWantKey.clearAllWantsInfosFd] using same
      · exact same)
  constructor
  case keys =>
    intro other record found
    rw [makeWantSenderCanceledLocked_records]
    exact modified.keys other record found
  case length =>
    rw [makeWantSenderCanceledLocked_records]
    exact modified.length
  case live => simp

theorem removeRecord_shrinks (mgr : PendingWantManager Want) (caller : Caller) (r : Nat) :
    Shrinks api mgr (mgr.removeRecord caller r) where
  keys := by
    intro other record found
    rw [removeRecord_records]
    exact ⟨record, found, Matches.refl equiv record.key⟩
  length := by rw [removeRecord_records]
  live := by
    rw [removeRecord_wantRecords]
    exact erase_sublist

theorem cancel_shrinks (mgr : PendingWantManager Want) (caller : Caller) (r : Nat) :
    Shrinks api mgr ((mgr.makeWantSenderCanceledLocked api r).removeRecord caller r) :=
  (makeWantSenderCanceledLocked_shrinks equiv mgr r).trans equiv
    (removeRecord_shrinks equiv _ caller r)

theorem cancelWantSenderLocked_shrinks (mgr : PendingWantManager Want) (caller : Caller) (r : Nat)
    (cleanAbility : Bool) :
    Shrinks api mgr (mgr.cancelWantSenderLocked api caller r cleanAbility) := by
  cases cleanAbility with
  | false => exact makeWantSenderCanceledLocked_shrinks equiv mgr r
  | true => exact cancel_shrinks equiv mgr caller r

variable {call : GetWantSenderCall Want}

theorem updatePresent_shrinks {r : Nat}
    (found : mgr.getPendingWantRecordByKey api (call.pendingKey api) = some r) :
    Shrinks api mgr (mgr.updatePresent api r call) := by
  obtain ⟨_, record, recorded, same⟩ := getPendingWantRecordByKey_some found
  unfold updatePresent
  cases back : (call.info api).allWants.getLast? with
  | none => exact Shrinks.refl equiv mgr
  | some back' =>
    apply modifyRecord_shrinks equiv
    intro other otherFound
    cases recorded.symm.trans otherFound
    rw [matches_iff] at same ⊢
    simp only [GetWantSenderCall.pendingKey, back] at same
    exact ⟨rfl, rfl, rfl, rfl, rfl, same.2.2.2.2.2.1, rfl, same.2.2.2.2.2.2.2⟩

section

variable (mgr : PendingWantManager Want)

theorem cancelWantSender_shrinks (caller : Caller) (isSystemAppCall : Bool) (sender : Option Nat) :
    Shrinks api mgr (mgr.cancelWantSender api caller isSystemAppCall sender) := by
  unfold cancelWantSender
  split
  · exact Shrinks.refl equiv mgr
  next r =>
    split
    · exact Shrinks.refl equiv mgr
    · exact cancelWantSenderLocked_shrinks equiv mgr caller r true

theorem senderInner_shrinks (caller : Caller) (r : Nat)
    (managerAlive : Bool) : Shrinks api mgr (mgr.senderInner api caller r managerAlive) := by
  unfold senderInner
  split
  · exact Shrinks.refl equiv mgr
  next record =>
    split_ifs
    · exact Shrinks.refl equiv mgr
    · exact Shrinks.refl equiv mgr
    · exact cancelWantSenderLocked_shrinks equiv mgr caller r true
    · exact Shrinks.refl equiv mgr

theorem registerCancelListener_shrinks (sender receiver : Nat) :
    Shrinks api mgr (mgr.registerCancelListener sender receiver) := by
  unfold registerCancelListener
  split
  · exact Shrinks.refl equiv mgr
  next r =>
    apply modifyRecord_shrinks equiv
    intro record _
    split <;> exact Matches.refl equiv record.key

theorem unregisterCancelListener_shrinks (sender receiver : Nat) :
    Shrinks api mgr (mgr.unregisterCancelListener sender receiver) := by
  unfold unregisterCancelListener
  split
  · exact Shrinks.refl equiv mgr
  next r =>
    apply modifyRecord_shrinks equiv
    exact fun record _ => Matches.refl equiv record.key

theorem clearPendingWantRecordTask_shrinks (caller : Caller) (bundleName : String) (uid : Int32) :
    Shrinks api mgr (mgr.clearPendingWantRecordTask api caller bundleName uid) := by
  apply clear_induction api (Shrinks api mgr) caller bundleName uid (Shrinks.refl equiv mgr)
  intro current r shrinks
  exact shrinks.trans equiv (removeRecord_shrinks equiv current caller r)

theorem createRecord_keeps (call : GetWantSenderCall Want) :
    KeepsKeys api mgr (mgr.createRecord api call).1 := by
  intro r record found
  refine ⟨record, ?_, Matches.refl equiv record.key⟩
  have made : r < mgr.records.length := (List.getElem?_eq_some_iff.mp found).1
  unfold createRecord
  split
  · simpa [getElem?_append_left made] using found
  · exact found

end

theorem createRecord_apart (live : LiveApart api mgr)
    (unmatched : ∀ r ∈ mgr.wantRecords, ∀ record, mgr.records[r]? = some record ->
      ¬ Matches api record.key (call.pendingKey api)) :
    LiveApart api (mgr.createRecord api call).1 := by
  unfold createRecord
  split
  case isFalse => exact live
  case isTrue =>
    have order := placed_perm mgr.wantRecords call.place mgr.records.length
    constructor
    case made =>
      simp only [addWantAgentNumber_wantRecords, addWantAgentNumber_records, length_append,
        length_singleton]
      intro r mem
      rcases mem_cons.mp (order.mem_iff.mp mem) with rfl | old
      · exact Nat.lt_succ_self _
      · exact Nat.lt_succ_of_lt (live.made r old)
    case apart =>
      simp only [addWantAgentNumber_wantRecords, addWantAgentNumber_records]
      refine (order.pairwise_iff ?_).mpr (pairwise_cons.mpr ⟨?_, ?_⟩)
      · exact fun apart _ _ found found' same => apart _ _ found' found (same.symm equiv)
      · intro r old newRecord record newFound found same
        rw [getElem?_append_left (live.made r old)] at found
        cases (getElem?_concat_length).symm.trans newFound
        apply unmatched r old record found
        exact Matches.symm equiv (by simpa [matches_iff, newRecord] using same)
      · refine live.apart.imp_of_mem ?_
        intro first second firstLive secondLive apart firstRecord secondRecord firstFound secondFound
        rw [getElem?_append_left (live.made first firstLive)] at firstFound
        rw [getElem?_append_left (live.made second secondLive)] at secondFound
        exact apart firstRecord secondRecord firstFound secondFound

theorem createOrReturn_keeps (mgr : PendingWantManager Want) (call : GetWantSenderCall Want)
    (ref : Option Nat) : KeepsKeys api mgr (mgr.createOrReturn api call ref).1 := by
  unfold createOrReturn
  split
  · exact createRecord_keeps equiv mgr call
  · exact KeepsKeys.refl equiv mgr

theorem createOrReturn_apart (live : LiveApart api mgr)
    (unmatched : ∀ r ∈ mgr.wantRecords, ∀ record, mgr.records[r]? = some record ->
      ¬ Matches api record.key (call.pendingKey api)) (ref : Option Nat) :
    LiveApart api (mgr.createOrReturn api call ref).1 := by
  unfold createOrReturn
  split
  · exact createRecord_apart equiv live unmatched
  · exact live

theorem cancel_unmatched (live : LiveApart api mgr) {key : PendingWantKey Want} {r : Nat}
    (found : mgr.getPendingWantRecordByKey api key = some r) (caller : Caller) :
    ∀ other ∈ ((mgr.makeWantSenderCanceledLocked api r).removeRecord caller r).wantRecords,
      ∀ record,
        ((mgr.makeWantSenderCanceledLocked api r).removeRecord caller r).records[other]? =
          some record -> ¬ Matches api record.key key := by
  intro other mem record recorded same
  obtain ⟨present, present', presentFound, presentSame⟩ := getPendingWantRecordByKey_some found
  have ne : other ≠ r ∧ other ∈ mgr.wantRecords := by
    simpa [(live.nodup equiv).mem_erase_iff] using mem
  have otherFound := getElem?_eq_getElem (live.made other ne.2)
  obtain ⟨_, kept, keptSame⟩ := (cancel_shrinks equiv mgr caller r).keys other _ otherFound
  cases kept.symm.trans recorded
  apply ne.1
  exact live.unique equiv ne.2 present otherFound presentFound
    ((keptSame.trans equiv same).trans equiv (presentSame.symm equiv))

theorem getWantSender_keeps (mgr : PendingWantManager Want) (call : GetWantSenderCall Want) :
    KeepsKeys api mgr (mgr.getWantSender api call).1 := by
  unfold getWantSender getWantSenderLocked
  split
  case isFalse => exact KeepsKeys.refl equiv mgr
  case isTrue =>
    split
    · exact createOrReturn_keeps equiv mgr call none
    next r found =>
      split_ifs
      · exact (cancel_shrinks equiv mgr call.caller r).keys.trans equiv
          (createOrReturn_keeps equiv _ call (some r))
      · exact (updatePresent_shrinks equiv found).keys
      · exact KeepsKeys.refl equiv mgr

theorem getWantSender_apart (live : LiveApart api mgr) (call : GetWantSenderCall Want) :
    LiveApart api (mgr.getWantSender api call).1 := by
  unfold getWantSender getWantSenderLocked
  split
  case isFalse => exact live
  case isTrue =>
    split
    next missing =>
      exact createOrReturn_apart equiv live
        (fun r mem record found => getPendingWantRecordByKey_none missing mem found) none
    next r found =>
      split_ifs
      · exact createOrReturn_apart equiv
          (live.shrinks equiv (cancel_shrinks equiv mgr call.caller r))
          (cancel_unmatched equiv live found call.caller) (some r)
      · exact live.shrinks equiv (updatePresent_shrinks equiv found)
      · exact live

theorem createOrReturn_matches {ref : Option Nat} {r : Nat}
    (refMatches : ref = some r -> ∃ record, mgr.records[r]? = some record ∧
      Matches api (call.pendingKey api) record.key)
    (got : (mgr.createOrReturn api call ref).2 = some r) :
    ∃ record, (mgr.createOrReturn api call ref).1.records[r]? = some record ∧
      Matches api (call.pendingKey api) record.key := by
  unfold createOrReturn createRecord at got ⊢
  split_ifs at got ⊢
  · obtain rfl : mgr.records.length = r := by simpa using got
    simpa [matches_iff, newRecord] using Matches.refl equiv (call.pendingKey api)
  · exact refMatches got

theorem getWantSender_matches {r : Nat} (got : (mgr.getWantSender api call).2 = some r) :
    ∃ record, (mgr.getWantSender api call).1.records[r]? = some record ∧
      Matches api (call.pendingKey api) record.key := by
  have kept {present : Nat} {after : PendingWantManager Want}
      (found : mgr.getPendingWantRecordByKey api (call.pendingKey api) = some present)
      (keys : KeepsKeys api mgr after) : ∃ record, after.records[present]? = some record ∧
        Matches api (call.pendingKey api) record.key := by
    obtain ⟨_, record, recorded, same⟩ := getPendingWantRecordByKey_some found
    obtain ⟨changed, changedFound, changedSame⟩ := keys present record recorded
    exact ⟨changed, changedFound, (same.symm equiv).trans equiv changedSame⟩
  unfold getWantSender getWantSenderLocked at got ⊢
  split at got
  case isFalse => cases got
  case isTrue permitted =>
    rw [if_pos permitted]
    split at got
    · exact createOrReturn_matches equiv (fun none => nomatch none) got
    next present found =>
      split_ifs at got ⊢
      · refine createOrReturn_matches equiv ?_ got
        rintro ⟨⟩
        exact kept found (cancel_shrinks equiv mgr call.caller r).keys
      · cases got
        exact kept found (updatePresent_shrinks equiv found).keys
      · cases got
        exact kept found (KeepsKeys.refl equiv mgr)

theorem apply_keeps (mgr : PendingWantManager Want) (call : Call Want) :
    KeepsKeys api mgr (mgr.apply api call) := by
  cases call with
  | getWantSender call => exact getWantSender_keeps equiv mgr call
  | cancelWantSender caller isSystemAppCall sender =>
    exact (cancelWantSender_shrinks equiv mgr caller isSystemAppCall sender).keys
  | senderInner caller record managerAlive =>
    exact (senderInner_shrinks equiv mgr caller record managerAlive).keys
  | registerCancelListener sender receiver =>
    exact (registerCancelListener_shrinks equiv mgr sender receiver).keys
  | unregisterCancelListener sender receiver =>
    exact (unregisterCancelListener_shrinks equiv mgr sender receiver).keys
  | clearPendingWantRecordTask caller bundleName uid =>
    exact (clearPendingWantRecordTask_shrinks equiv mgr caller bundleName uid).keys

theorem apply_apart (live : LiveApart api mgr) (call : Call Want) :
    LiveApart api (mgr.apply api call) := by
  cases call with
  | getWantSender call => exact getWantSender_apart equiv live call
  | cancelWantSender caller isSystemAppCall sender =>
    exact live.shrinks equiv
      (cancelWantSender_shrinks equiv mgr caller isSystemAppCall sender)
  | senderInner caller record managerAlive =>
    exact live.shrinks equiv (senderInner_shrinks equiv mgr caller record managerAlive)
  | registerCancelListener sender receiver =>
    exact live.shrinks equiv (registerCancelListener_shrinks equiv mgr sender receiver)
  | unregisterCancelListener sender receiver =>
    exact live.shrinks equiv
      (unregisterCancelListener_shrinks equiv mgr sender receiver)
  | clearPendingWantRecordTask caller bundleName uid =>
    exact live.shrinks equiv
      (clearPendingWantRecordTask_shrinks equiv mgr caller bundleName uid)

end

end PendingWantManager

section

variable (equiv : WantEquivalence api)

include equiv

theorem run_apart (calls : List (Call Want)) : LiveApart api ((machine api).run calls) := by
  refine Machine.run_invariant (LiveApart api) ⟨by simp [machine], by simp [machine]⟩ ?_ calls
  exact fun mgr call live => apply_apart equiv live call

theorem run_keeps (earlier later : List (Call Want)) :
    KeepsKeys api ((machine api).run earlier) ((machine api).run (earlier ++ later)) := by
  induction later using reverseRecOn with
  | nil => simpa using KeepsKeys.refl equiv _
  | append_singleton later call ih =>
    rw [<- append_assoc, Machine.run_concat]
    exact ih.trans equiv (apply_keeps equiv _ call)

end

/-- No two records match, and an agent got once is got again while its record is in the map. -/
theorem one_record_per_key (equiv : WantEquivalence api) (calls : List (Call Want)) :
    (machine api).Throughout calls (LiveApart api) ∧
      ∀ (earlier later : List (Call Want)) (first second : GetWantSenderCall Want) (r : Nat),
        calls = earlier ++ .getWantSender first :: later ->
        (((machine api).run earlier).getWantSender api first).2 = some r ->
        r ∈ ((machine api).run calls).wantRecords ->
        Matches api (first.pendingKey api) (second.pendingKey api) ->
        second.isPermitted = true -> second.needCancel = false ->
        (((machine api).run calls).getWantSender api second).2 = some r := by
  refine ⟨fun done _ _ => run_apart equiv done, ?_⟩
  rintro earlier later first second r rfl got live same permitted noCancel
  obtain ⟨record, found, matched⟩ := getWantSender_matches equiv got
  have kept : KeepsKeys api (((machine api).run earlier).getWantSender api first).1
      ((machine api).run (earlier ++ .getWantSender first :: later)) := by
    have := run_keeps equiv (earlier ++ [.getWantSender first]) later
    rw [Machine.run_concat, append_assoc] at this
    exact this
  obtain ⟨changed, changedFound, changedSame⟩ := kept r record found
  have looked := getPendingWantRecordByKey_live equiv
    (run_apart equiv _) live changedFound
    (((matched.trans equiv changedSame).symm equiv).trans equiv same)
  simp only [getWantSender, getWantSenderLocked, permitted,
    looked, noCancel, if_true, Bool.false_eq_true, if_false]
  split <;> rfl

def bundleWants : WantApi String where
  empty := ""
  isEquals want other := want == other
  getBundleNameRef want := want
  removeParam want _ := want
  closeAllFd want := want

def shopAgent (flags : UInt32) : GetWantSenderCall String where
  caller := { }
  callingUid := 20010
  uid := 20010
  isSystemApp := false
  wantSenderInfo :=
    { type := OperationType.startAbility.toInt32
      requestCode := 7
      flags := flags
      bundleName := "com.example.shop"
      resultWho := ""
      allWants := [⟨"com.example.shop", ""⟩] }

theorem one_record_per_key_no_build :
    (((machine bundleWants).run [.getWantSender (shopAgent oneTimeFlag),
      .cancelWantSender { } false (some 0)]).getWantSender bundleWants
        (shopAgent (noBuildFlag ||| updatePresentFlag))).2 = some 0 := by
  have equiv : WantEquivalence bundleWants := by
    constructor <;> simp_all [bundleWants]
  exact (one_record_per_key equiv _).2 [] [.cancelWantSender { } false (some 0)]
    (shopAgent oneTimeFlag) (shopAgent (noBuildFlag ||| updatePresentFlag)) 0 rfl
    (by decide) (by decide) (matches_iff.mpr (by decide)) (by decide) (by decide)

end AbilityRuntime.PendingWant
