import Mathlib.Data.List.Perm.Basic
import AbilityRuntime.Skill.SkillExecuteManager

set_option autoImplicit false

namespace AbilityRuntime.Skill

open Library KeyedMap List Option AList

def Accepted.tells (event : Accepted) : Bool :=
  event.cause != .callerDied && event.record.callback.isSome

namespace SkillExecuteManager

variable (mgr : SkillExecuteManager)

def live : List Nat := (values mgr.records).map SkillExecuteRecord.requestCodeSeq

def ended : List Nat := mgr.accepted.map fun event => event.record.requestCodeSeq

def told : List Nat := mgr.executeDone.map OnExecuteDone.requestCodeSeq

def telling : List Nat := mgr.calls.map OnExecuteDone.requestCodeSeq

structure Good : Prop where
  once : ∀ seq, mgr.told.count seq ≤ 1
  answered : ∀ seq, seq ∉ mgr.telling ->
    (seq ∈ mgr.told ↔ ∃ event ∈ mgr.accepted, event.owner = seq ∧ event.tells)
  silent : ∀ event ∈ mgr.accepted, event.cause = .callerDied -> event.owner ∉ mgr.told
  own : ∀ event ∈ mgr.accepted, event.record.requestCodeSeq = event.owner
  removed : ∀ seq, 1 ≤ seq -> seq ≤ mgr.requestCodeSeq -> (seq ∈ mgr.live ↔
    ∀ event ∈ mgr.accepted, event.owner ≠ seq)
  timeouts : ∀ seq, seq ∈ mgr.seqToRequestCodeMap ↔ seq ∈ mgr.live ∧ seq ∈ mgr.events

def OwnRecord (owner : Nat) (requestCode : String) : Prop :=
  ∀ record ∈ mgr.records.lookup requestCode, record.requestCodeSeq = owner

/-- Codes are fresh, events come in time and results after their launch. -/
def Keeps : SkillStep -> Prop
  | .createExecuteRecord _ _ _ _ _ externalRequestCode =>
    mgr.requestCodeOf externalRequestCode ∉ mgr.records
  | .executeSkillDone owner requestCode _ _ callerBundleName =>
    ∀ record ∈ mgr.records.lookup requestCode, record.targetBundleName = callerBundleName ->
      record.requestCodeSeq = owner ∧ record.requestCodeSeq ∉ mgr.seqToRequestCodeMap
  | .onLaunchCompleted owner requestCode _ bundleName =>
    ∀ record ∈ mgr.records.lookup requestCode, bundleName = some record.targetBundleName ->
      record.requestCodeSeq = owner
  | .onLaunchFailed owner requestCode _ => mgr.OwnRecord owner requestCode
  | .onCallerDied index =>
    ∀ notice ∈ mgr.notices[index]?, mgr.OwnRecord notice.owner notice.requestCode
  | .init | .onExecuteDone _ | .onTimeout _ | .callerDies _ | .onTargetProcessDied _ _ => True

structure Coherent : Prop where
  accounted : (mgr.live ++ mgr.ended).Perm (range' 1 mgr.requestCodeSeq)
  own : ∀ event ∈ mgr.accepted, event.record.requestCodeSeq = event.owner
  told : (mgr.told ++ mgr.telling).Perm
    ((mgr.accepted.filter Accepted.tells).map fun event => event.record.requestCodeSeq)
  executing : ∀ record ∈ values mgr.records, record.state = .executing
  launched : ∀ record ∈ values mgr.records, record.targetPid ≠ 0 ->
    record.launchedBy = record.requestCodeSeq ∧ record.requestCodeSeq ∉ mgr.events
  mapped : ∀ seq code, mgr.seqToRequestCodeMap.lookup seq = some code ->
    seq ∈ mgr.events ∧ ∃ record, mgr.records.lookup code = some record ∧ record.requestCodeSeq = seq
  armed : ∀ seq ∈ mgr.events, seq ∈ mgr.seqToRequestCodeMap
  single : mgr.events.Nodup
  handled : mgr.events ≠ [] -> mgr.eventHandler = true

variable {mgr}

section

variable (sound : mgr.Coherent)
include sound

theorem Coherent.nodup : (mgr.live ++ mgr.ended).Nodup :=
  sound.accounted.nodup_iff.2 nodup_range'

theorem Coherent.told_nodup : (mgr.told ++ mgr.telling).Nodup := by
  refine sound.told.nodup_iff.2 ?_
  have ended : mgr.ended.Nodup := (List.nodup_append.1 sound.nodup).2.1
  exact ended.sublist (List.filter_sublist.map _)

theorem Coherent.mem_told (seq : Nat) :
    seq ∈ mgr.told ++ mgr.telling ↔ ∃ event ∈ mgr.accepted, event.owner = seq ∧ event.tells := by
  rw [sound.told.mem_iff, List.mem_map]
  constructor
  · rintro ⟨event, kept, rfl⟩
    obtain ⟨mem, tells⟩ := mem_filter.1 kept
    exact ⟨event, mem, (sound.own event mem).symm, tells⟩
  · rintro ⟨event, mem, rfl, tells⟩
    exact ⟨event, mem_filter.2 ⟨mem, tells⟩, sound.own event mem⟩

theorem Coherent.good : mgr.Good where
  once seq := by
    have nodup : mgr.told.Nodup := (nodup_append.1 sound.told_nodup).1
    exact nodup_iff_count_le_one.1 nodup seq
  answered seq rest := by
    rw [<- sound.mem_told seq, mem_append, or_iff_left rest]
  silent event mem died told := by
    obtain ⟨other, present, same, tells⟩ := (sound.mem_told event.owner).1 (mem_append_left _ told)
    rw [<- sound.own event mem, <- sound.own other present] at same
    have ended : mgr.ended.Nodup := (nodup_append.1 sound.nodup).2.1
    obtain rfl := inj_on_of_nodup_map ended present mem same
    simp [Accepted.tells, died] at tells
  own := sound.own
  removed seq low high := by
    have mem : seq ∈ mgr.live ++ mgr.ended :=
      sound.accounted.mem_iff.2 (mem_range'_1.2 ⟨low, by omega⟩)
    have apart := (nodup_append.1 sound.nodup).2.2
    constructor
    · intro live event present same
      rw [<- sound.own event present] at same
      exact apart seq live _ (mem_map.2 ⟨event, present, rfl⟩) same.symm
    · intro none
      refine (mem_append.1 mem).resolve_right fun ended => ?_
      obtain ⟨event, present, same⟩ := mem_map.1 ended
      exact none event present ((sound.own event present).symm.trans same)
  timeouts seq := by
    constructor
    · intro present
      obtain ⟨code, found⟩ := isSome_iff_exists.1 (lookup_isSome.2 present)
      obtain ⟨armed, record, held, same⟩ := sound.mapped seq code found
      exact ⟨mem_map.2 ⟨record, mem_values.2 ⟨code, held⟩, same⟩, armed⟩
    · exact fun present => sound.armed seq present.2

theorem Coherent.disarm (seq : Nat) :
    { mgr with
      events := mgr.events.erase seq
      seqToRequestCodeMap := mgr.seqToRequestCodeMap.erase seq }.Coherent where
  __ := sound
  launched record held reported := by
    obtain ⟨own, unarmed⟩ := sound.launched record held reported
    exact ⟨own, fun armed => unarmed (mem_of_mem_erase armed)⟩
  mapped other code found := by
    rw [lookup_erase_eq] at found
    split at found
    · cases found
    next ne =>
      obtain ⟨armed, rest⟩ := sound.mapped other code found
      exact ⟨(mem_erase_of_ne ne).2 armed, rest⟩
  armed other armed := by
    obtain ⟨ne, before⟩ := (sound.single.mem_erase_iff).1 armed
    exact mem_erase.2 ⟨ne, sound.armed other before⟩
  single := sound.single.erase seq
  handled some := by
    refine sound.handled fun none => some ?_
    rw [none, erase_nil]

end

theorem removeTimeout_eq (handled : mgr.events ≠ [] → mgr.eventHandler = true) (seq : Nat) :
    mgr.removeSkillExecuteTimeoutLocked seq = { mgr with
      events := mgr.events.erase seq
      seqToRequestCodeMap := mgr.seqToRequestCodeMap.erase seq } := by
  unfold removeSkillExecuteTimeoutLocked
  split
  · rfl
  next off =>
    have none : mgr.events = [] := by
      by_contra some
      exact off (handled some)
    rw [none, erase_nil]

variable {requestCode : String} {record : SkillExecuteRecord}

theorem removeRecord_eq (found : mgr.records.lookup requestCode = some record)
    (state : SkillExecuteState) :
    ∃ recipients, (mgr.setState requestCode state).removeRecord requestCode =
      { mgr with recipients, records := mgr.records.erase requestCode } := by
  have stated : (mgr.setState requestCode state).records.lookup requestCode =
      some { record with state } := by
    rw [setState, lookup_modify, if_pos rfl, found, map_some]
  unfold removeRecord
  rw [stated]
  dsimp only [setState]
  rw [erase_modify]
  exact ⟨_, rfl⟩

theorem live_erase (found : mgr.records.lookup requestCode = some record) :
    mgr.live.Perm (record.requestCodeSeq ::
      (values (mgr.records.erase requestCode)).map SkillExecuteRecord.requestCodeSeq) :=
  (values_erase_perm found).map _

theorem Coherent.code_unique (sound : mgr.Coherent) {other : String}
    {held : SkillExecuteRecord} (found : mgr.records.lookup requestCode = some record)
    (also : mgr.records.lookup other = some held)
    (same : held.requestCodeSeq = record.requestCodeSeq) : other = requestCode := by
  by_contra ne
  have nodup : mgr.live.Nodup := (nodup_append.1 sound.nodup).1
  rw [(live_erase found).nodup_iff, nodup_cons] at nodup
  refine nodup.1 (mem_map.2 ⟨held, mem_values.2 ⟨other, ?_⟩, same⟩)
  rw [lookup_erase_eq, if_neg ne]
  exact also

theorem doneOf_seqs (event : Accepted) (tells : event.cause ≠ .callerDied) (requestCode : String)
    (resultCode : Int) (result : SkillExecuteResult) :
    (doneOf event.record requestCode resultCode result).map OnExecuteDone.requestCodeSeq =
      ([event].filter Accepted.tells).map fun event => event.record.requestCodeSeq := by
  have other : (event.cause != .callerDied) = true := bne_iff_ne.2 tells
  unfold doneOf
  cases callback : event.record.callback <;> simp [Accepted.tells, other, callback]

section

variable (sound : mgr.Coherent)
include sound

theorem Coherent.finish (event : Accepted)
    (found : mgr.records.lookup requestCode = some event.record)
    (own : event.record.requestCodeSeq = event.owner)
    (unmapped : event.record.requestCodeSeq ∉ mgr.seqToRequestCodeMap)
    (recipients notices : List CallerDeathRecipient) (granted : List UriGrant)
    {calls executeDone : List OnExecuteDone}
    (told : (executeDone.map OnExecuteDone.requestCodeSeq ++
      calls.map OnExecuteDone.requestCodeSeq).Perm (mgr.told ++ mgr.telling ++
        ([event].filter Accepted.tells).map fun event => event.record.requestCodeSeq)) :
    { mgr with
      recipients, notices, granted, calls, executeDone
      records := mgr.records.erase requestCode
      accepted := mgr.accepted ++ [event] }.Coherent where
  accounted := by
    refine Perm.trans ?_ sound.accounted
    unfold live ended
    rw [map_append, <- append_assoc]
    refine Perm.trans ?_ ((live_erase found).append_right _).symm
    exact perm_append_singleton ..
  own other mem := by
    rcases mem_append.1 mem with before | new
    · exact sound.own other before
    · obtain rfl := mem_singleton.1 new
      exact own
  told := by
    rw [filter_append, map_append]
    exact told.trans (sound.told.append_right _)
  executing other held := by
    obtain ⟨code, found⟩ := mem_values.1 held
    exact sound.executing other (mem_values.2 ⟨code, lookup_of_erase found⟩)
  launched other held := by
    obtain ⟨code, found⟩ := mem_values.1 held
    exact sound.launched other (mem_values.2 ⟨code, lookup_of_erase found⟩)
  mapped seq code timed := by
    obtain ⟨armed, held, holds, same⟩ := sound.mapped seq code timed
    refine ⟨armed, held, ?_, same⟩
    rw [lookup_erase_eq, if_neg]
    · exact holds
    · rintro rfl
      rw [found] at holds
      cases holds
      rw [same] at unmapped
      exact unmapped (mem_of_lookup timed)
  __ := sound

theorem Coherent.finishLater (event : Accepted)
    (found : mgr.records.lookup requestCode = some event.record)
    (own : event.record.requestCodeSeq = event.owner)
    (unmapped : event.record.requestCodeSeq ∉ mgr.seqToRequestCodeMap)
    (recipients notices : List CallerDeathRecipient) (granted : List UriGrant)
    (tells : event.cause ≠ .callerDied) (resultCode : Int) (result : SkillExecuteResult) :
    { mgr with
      recipients, notices, granted
      calls := mgr.calls ++ doneOf event.record requestCode resultCode result
      records := mgr.records.erase requestCode
      accepted := mgr.accepted ++ [event] }.Coherent := by
  refine sound.finish event found own unmapped recipients notices granted ?_
  rw [List.map_append, <- List.append_assoc, doneOf_seqs event tells]
  exact List.Perm.refl _

theorem Coherent.finishNow (event : Accepted)
    (found : mgr.records.lookup requestCode = some event.record)
    (own : event.record.requestCodeSeq = event.owner)
    (unmapped : event.record.requestCodeSeq ∉ mgr.seqToRequestCodeMap)
    (recipients notices : List CallerDeathRecipient) (tells : event.cause ≠ .callerDied)
    (resultCode : Int) (result : SkillExecuteResult) :
    { mgr with
      recipients, notices
      executeDone := mgr.executeDone ++ doneOf event.record requestCode resultCode result
      records := mgr.records.erase requestCode
      accepted := mgr.accepted ++ [event] }.Coherent := by
  refine sound.finish event found own unmapped recipients notices mgr.granted ?_
  rw [List.map_append, doneOf_seqs event tells, List.append_assoc, List.append_assoc]
  exact List.Perm.append_left _ List.perm_append_comm

theorem Coherent.around (recipients notices : List CallerDeathRecipient) :
    { mgr with recipients, notices }.Coherent :=
  { sound with }

theorem Coherent.create (free : requestCode ∉ mgr.records)
    (seq : record.requestCodeSeq = mgr.requestCodeSeq + 1)
    (executing : record.state = .executing) (pid : record.targetPid = 0)
    (recipients : List CallerDeathRecipient) :
    { mgr with
      recipients
      requestCodeSeq := mgr.requestCodeSeq + 1
      records := mgr.records.insert requestCode record }.Coherent where
  accounted := by
    have values : values (mgr.records.insert requestCode record) =
        record :: values mgr.records := by
      rw [values_insert, erase_of_lookup_none (lookup_eq_none.2 free)]
    rw [live, values, map_cons, seq, range'_concat, cons_append, Nat.one_mul, Nat.add_comm 1]
    refine (perm_append_singleton ..).symm.trans ?_
    exact sound.accounted.append_right _
  __ := sound
  executing other held := by
    rw [values_insert, erase_of_lookup_none (lookup_eq_none.2 free)] at held
    rcases mem_cons.1 held with rfl | before
    exacts [executing, sound.executing other before]
  launched other held := by
    rw [values_insert, erase_of_lookup_none (lookup_eq_none.2 free)] at held
    rcases mem_cons.1 held with rfl | before
    exacts [fun reported => absurd pid reported, sound.launched other before]
  mapped other code timed := by
    obtain ⟨armed, held, holds, same⟩ := sound.mapped other code timed
    refine ⟨armed, held, ?_, same⟩
    rw [lookup_insert_eq, if_neg]
    · exact holds
    · rintro rfl
      exact free (mem_of_lookup holds)

theorem Coherent.seq_le {seq : Nat} (live : seq ∈ mgr.live) :
    1 ≤ seq ∧ seq < 1 + mgr.requestCodeSeq :=
  mem_range'_1.1 (sound.accounted.mem_iff.1 (mem_append_left _ live))

theorem Coherent.event_live {seq : Nat} (armed : seq ∈ mgr.events) : seq ∈ mgr.live := by
  have timed := AList.lookup_isSome.2 (sound.armed seq armed)
  obtain ⟨code, found⟩ := Option.isSome_iff_exists.1 timed
  obtain ⟨-, record, holds, same⟩ := sound.mapped seq code found
  exact mem_map.2 ⟨record, mem_values.2 ⟨code, holds⟩, same⟩

theorem Coherent.post (found : mgr.records.lookup requestCode = some record)
    (unlaunched : record.targetPid = 0) (unarmed : record.requestCodeSeq ∉ mgr.events) :
    (mgr.postSkillExecuteTimeout requestCode record.requestCodeSeq).Coherent := by
  unfold postSkillExecuteTimeout
  split
  next on =>
    exact { sound with
      launched := fun other held reported => by
        obtain ⟨own, other_unarmed⟩ := sound.launched other held reported
        refine ⟨own, fun armed => ?_⟩
        rcases mem_append.1 armed with before | new
        · exact other_unarmed before
        · have same := mem_singleton.1 new
          obtain ⟨code, holds⟩ := mem_values.1 held
          obtain rfl := sound.code_unique found holds same
          rw [found] at holds
          cases holds
          exact reported unlaunched
      mapped := fun seq code timed => by
        rw [lookup_insert_eq] at timed
        split at timed
        next same =>
          cases timed
          exact ⟨mem_append.2 (.inr (mem_singleton.2 same)), record, found, same.symm⟩
        · obtain ⟨armed, rest⟩ := sound.mapped seq code timed
          exact ⟨mem_append_left _ armed, rest⟩
      armed := fun seq armed => by
        refine (mem_insert _).2 ?_
        rcases mem_append.1 armed with before | new
        exacts [.inr (sound.armed seq before), .inl (mem_singleton.1 new)]
      single := nodup_append.2 ⟨sound.single, nodup_singleton _,
        fun seq before other new same => by
          obtain rfl := mem_singleton.1 new
          exact unarmed (same ▸ before)⟩
      handled := fun _ => on }
  · exact sound

theorem Coherent.createExecuteRecord (callerToken : Option Nat)
    (targetBundleName callerBundleName : String) (callerTokenId : Nat) (callback : Option Nat)
    {externalRequestCode : String}
    (free : mgr.requestCodeOf externalRequestCode ∉ mgr.records) :
    (mgr.createExecuteRecord callerToken targetBundleName callerBundleName callerTokenId
      callback externalRequestCode).Coherent := by
  have unarmed : mgr.requestCodeSeq + 1 ∉ mgr.events := by
    intro armed
    have := sound.seq_le (sound.event_live armed)
    omega
  let record : SkillExecuteRecord :=
    { requestCode := mgr.requestCodeOf externalRequestCode, callerToken, targetBundleName
      callerBundleName, callerTokenId, callback, requestCodeSeq := mgr.requestCodeSeq + 1
      state := .executing }
  have created := @create mgr _ record sound free rfl rfl rfl
    (mgr.recipients ++ (callerToken.map (⟨·, record.requestCode, record.requestCodeSeq⟩)).toList)
  exact created.post (lookup_insert _) rfl unarmed

theorem Coherent.launch (found : mgr.records.lookup requestCode = some record)
    (unarmed : record.requestCodeSeq ∉ mgr.events) (pid : Int) :
    { mgr with
      records := modify mgr.records requestCode fun held =>
        { held with targetPid := pid, launchedBy := record.requestCodeSeq } }.Coherent := by
  have perm := (live_erase found).symm
  have values : values (modify mgr.records requestCode fun held =>
      { held with targetPid := pid, launchedBy := record.requestCodeSeq }) =
      { record with targetPid := pid, launchedBy := record.requestCodeSeq } ::
        values (mgr.records.erase requestCode) := by
    rw [KeyedMap.modify, found]
    rfl
  have before {other : SkillExecuteRecord}
      (held : other ∈ KeyedMap.values (mgr.records.erase requestCode)) :
      other ∈ KeyedMap.values mgr.records :=
    (values_erase_perm found).mem_iff.2 (List.mem_cons_of_mem _ held)
  have own := mem_values.2 ⟨requestCode, found⟩
  exact { sound with
    accounted := by
      rw [live, values]
      exact (perm.append_right _).trans sound.accounted
    executing := fun other held => by
      rw [values] at held
      rcases mem_cons.1 held with rfl | rest
      exacts [sound.executing record own, sound.executing other (before rest)]
    launched := fun other held => by
      rw [values] at held
      rcases mem_cons.1 held with rfl | rest
      exacts [fun _ => ⟨rfl, unarmed⟩, sound.launched other (before rest)]
    mapped := fun seq code timed => by
      obtain ⟨armed, held, holds, same⟩ := sound.mapped seq code timed
      refine ⟨armed, held, ?_, same⟩
      rw [lookup_modify, if_neg]
      · exact holds
      · rintro rfl
        rw [found] at holds
        cases holds
        exact unarmed (same ▸ armed) }

theorem Coherent.onLaunchCompleted {owner : Nat} {bundleName : Option String} (callerPid : Int)
    (keeps : mgr.Keeps (.onLaunchCompleted owner requestCode callerPid bundleName)) :
    (mgr.onLaunchCompleted owner requestCode callerPid bundleName).Coherent := by
  unfold SkillExecuteManager.onLaunchCompleted
  split
  · exact sound
  next bundleName =>
    split
    · exact sound
    next record found =>
      split
      · exact sound
      next same =>
        obtain rfl := keeps record found (congrArg some (not_not.1 same).symm)
        rw [removeTimeout_eq (by exact sound.handled)]
        exact (sound.disarm record.requestCodeSeq).launch found sound.single.not_mem_erase callerPid

theorem Coherent.unmapped {seq : Nat}
    (unarmed : seq ∉ mgr.events) : seq ∉ mgr.seqToRequestCodeMap := by
  intro present
  obtain ⟨code, found⟩ := isSome_iff_exists.1 (lookup_isSome.2 present)
  exact unarmed (sound.mapped seq code found).1

end

theorem grantUriPermission_eq (record : SkillExecuteRecord) (result : SkillExecuteResult) :
    ∃ granted, mgr.grantUriPermission record result = { mgr with granted } := by
  unfold grantUriPermission
  split
  · exact ⟨mgr.granted, rfl⟩
  · exact ⟨_, rfl⟩

theorem Coherent.executeSkillDone (sound : mgr.Coherent) {owner : Nat}
    {callerBundleName : String} (resultCode : Int) (result : SkillExecuteResult)
    (keeps : mgr.Keeps (.executeSkillDone owner requestCode resultCode result callerBundleName)) :
    (mgr.executeSkillDone owner requestCode resultCode result callerBundleName).Coherent := by
  unfold SkillExecuteManager.executeSkillDone
  split
  · exact sound
  next record found =>
    split
    · exact sound
    next same =>
      split
      · exact sound
      · obtain ⟨own, unmapped⟩ := keeps record found (not_not.1 same)
        obtain ⟨granted, grant⟩ := @grantUriPermission_eq mgr record result
        obtain ⟨recipients, removed⟩ :=
          @removeRecord_eq { mgr with granted } requestCode record found .executeDone
        dsimp only
        rw [grant, removed]
        exact sound.finishLater ⟨owner, record, .result⟩ found own unmapped recipients
          mgr.notices granted nofun resultCode result

theorem Coherent.onTimeout (sound : mgr.Coherent) (requestCodeSeq : Nat) :
    (mgr.onTimeout requestCodeSeq).Coherent := by
  have disarmed := sound.disarm requestCodeSeq
  unfold SkillExecuteManager.onTimeout
  dsimp only
  split
  next missing =>
    rw [erase_of_lookup_none missing] at disarmed
    exact disarmed
  next requestCode timed =>
    obtain ⟨-, record, found, rfl⟩ := sound.mapped requestCodeSeq requestCode timed
    rw [found]
    dsimp only
    split
    · exact disarmed
    · obtain ⟨recipients, removed⟩ := @removeRecord_eq
        { mgr with
          events := mgr.events.erase record.requestCodeSeq
          seqToRequestCodeMap := mgr.seqToRequestCodeMap.erase record.requestCodeSeq }
        requestCode record found .timedOut
      rw [removed]
      exact disarmed.finishLater ⟨record.requestCodeSeq, record, .timeout⟩ found rfl
        (disarmed.unmapped sound.single.not_mem_erase) recipients mgr.notices
        mgr.granted nofun errTimedOut { code := errTimedOut }

theorem Coherent.onCallerDied (sound : mgr.Coherent) {owner : Nat}
    (keeps : mgr.OwnRecord owner requestCode) :
    (mgr.onCallerDied owner requestCode).Coherent := by
  unfold SkillExecuteManager.onCallerDied
  split
  · exact sound
  next record found =>
    have disarmed := sound.disarm record.requestCodeSeq
    obtain ⟨recipients, removed⟩ := @removeRecord_eq
      { mgr with
        events := mgr.events.erase record.requestCodeSeq
        seqToRequestCodeMap := mgr.seqToRequestCodeMap.erase record.requestCodeSeq }
      requestCode record found .remoteDied
    dsimp only
    rw [removeTimeout_eq sound.handled, removed]
    refine disarmed.finish ⟨owner, record, .callerDied⟩ found (keeps record found)
      (disarmed.unmapped sound.single.not_mem_erase) recipients mgr.notices
      mgr.granted ?_
    exact Perm.of_eq (append_nil _).symm

theorem callNow_removeRecord (found : mgr.records.lookup requestCode = some record)
    (event : Accepted) (resultCode : Int) (result : SkillExecuteResult) :
    ∃ recipients, ((((mgr.setState requestCode .remoteDied).callNow record requestCode
      resultCode result).removeRecord requestCode).accept event) =
        { mgr with
          recipients
          executeDone := mgr.executeDone ++ doneOf record requestCode resultCode result
          records := mgr.records.erase requestCode
          accepted := mgr.accepted ++ [event] } := by
  obtain ⟨recipients, removed⟩ := @removeRecord_eq
    { mgr with
      executeDone := mgr.executeDone ++ doneOf record requestCode resultCode result }
    requestCode record found .remoteDied
  exact ⟨recipients, congrArg (accept · event) removed⟩

theorem Coherent.onLaunchFailed (sound : mgr.Coherent) {owner : Nat}
    (keeps : mgr.OwnRecord owner requestCode) (errCode : Int) :
    (mgr.onLaunchFailed owner requestCode errCode).Coherent := by
  unfold SkillExecuteManager.onLaunchFailed
  split
  · exact sound
  next record found =>
    have disarmed := sound.disarm record.requestCodeSeq
    rw [removeTimeout_eq sound.handled]
    split
    · exact disarmed
    · obtain ⟨recipients, removed⟩ := @callNow_removeRecord
        { mgr with
          events := mgr.events.erase record.requestCodeSeq
          seqToRequestCodeMap := mgr.seqToRequestCodeMap.erase record.requestCodeSeq }
        requestCode record found ⟨owner, record, .launchFailed⟩ errCode { code := errCode }
      rw [removed]
      exact disarmed.finishNow ⟨owner, record, .launchFailed⟩ found (keeps record found)
        (disarmed.unmapped sound.single.not_mem_erase) recipients mgr.notices nofun errCode
        { code := errCode }

def AllLaunched (codes : List String) : Prop :=
  ∀ code ∈ codes, ∀ record ∈ mgr.records.lookup code, record.targetPid ≠ 0

variable (mgr) in

theorem targetDied_eq (requestCode : String) :
    mgr.targetDied requestCode = mgr ∨ ∃ record recipients,
      mgr.records.lookup requestCode = some record ∧
      mgr.targetDied requestCode =
        { mgr with
          recipients
          executeDone := mgr.executeDone ++ doneOf record requestCode errSkillExecuteTargetDied
            { code := errSkillExecuteTargetDied }
          records := mgr.records.erase requestCode
          accepted := mgr.accepted ++ [⟨record.launchedBy, record, .targetDied⟩] } := by
  unfold targetDied
  split
  · exact .inl rfl
  next record found =>
    obtain ⟨recipients, removed⟩ := callNow_removeRecord found
      ⟨record.launchedBy, record, .targetDied⟩ errSkillExecuteTargetDied
      { code := errSkillExecuteTargetDied }
    exact .inr ⟨record, recipients, found, removed⟩

section

variable (sound : mgr.Coherent)
include sound

theorem Coherent.targetsDied {codes : List String} (launched : mgr.AllLaunched codes) :
    (codes.foldl targetDied mgr).Coherent := by
  induction codes generalizing mgr with
  | nil => exact sound
  | cons code rest ih =>
    rw [foldl_cons]
    have later : mgr.AllLaunched rest := fun other mem =>
      launched other (mem_cons_of_mem _ mem)
    rcases targetDied_eq mgr code with same | ⟨record, recipients, found, removed⟩
    · rw [same]
      exact ih sound later
    · have reported := launched code mem_cons_self record found
      obtain ⟨own, unarmed⟩ := sound.launched record (mem_values.2 ⟨code, found⟩) reported
      rw [removed]
      refine ih ?_ ?_
      · exact sound.finishNow ⟨record.launchedBy, record, .targetDied⟩ found own.symm
          (sound.unmapped unarmed) recipients mgr.notices nofun _ _
      · intro other mem held holds
        exact later other mem held (lookup_of_erase holds)

theorem Coherent.onTargetProcessDied (bundleName : String) (pid : Int) :
    (mgr.onTargetProcessDied bundleName pid).Coherent := by
  refine sound.targetsDied ?_
  intro code mem record found
  obtain ⟨⟨code, held⟩, kept, rfl⟩ := List.mem_map.1 mem
  obtain ⟨present, hit⟩ := mem_filter.1 kept
  have same := mem_lookup_iff.2 present
  rw [mem_def, mem_def.1 found] at same
  cases same
  simp only [isHit, Bool.and_eq_true, bne_iff_ne] at hit
  exact hit.1.1.2

theorem Coherent.onExecuteDone {index : Nat} {call : OnExecuteDone}
    (found : mgr.calls[index]? = some call) :
    { mgr with
      calls := mgr.calls.eraseIdx index
      executeDone := mgr.executeDone ++ [call] }.Coherent := by
  obtain ⟨inside, at'⟩ := List.getElem?_eq_some_iff.1 found
  have split := List.getElem_cons_eraseIdx_perm inside
  rw [at'] at split
  refine { sound with told := ?_ }
  refine Perm.trans ?_ sound.told
  unfold SkillExecuteManager.told telling
  rw [List.map_append, List.append_assoc]
  exact (split.map OnExecuteDone.requestCodeSeq).append_left _

theorem Coherent.step (next : SkillStep) (keeps : mgr.Keeps next) :
    (mgr.step next).Coherent := by
  cases next
  case init =>
    exact { sound with handled := fun _ => rfl }
  case createExecuteRecord callerToken target caller tokenId callback externalRequestCode =>
    exact sound.createExecuteRecord callerToken target caller tokenId callback keeps
  case executeSkillDone owner requestCode resultCode result callerBundleName =>
    exact sound.executeSkillDone resultCode result keeps
  case onExecuteDone index =>
    dsimp only [SkillExecuteManager.step]
    split
    · exact sound
    next call found => exact sound.onExecuteDone found
  case onLaunchCompleted owner requestCode callerPid bundleName =>
    exact sound.onLaunchCompleted callerPid keeps
  case onLaunchFailed owner requestCode errCode => exact sound.onLaunchFailed keeps errCode
  case onTimeout requestCodeSeq => exact sound.onTimeout requestCodeSeq
  case callerDies callerToken => exact sound.around _ _
  case onCallerDied index =>
    dsimp only [SkillExecuteManager.step]
    split
    · exact sound
    next notice waits =>
      have own := keeps notice waits
      exact (sound.around mgr.recipients (mgr.notices.eraseIdx index)).onCallerDied own
  case onTargetProcessDied bundleName pid => exact sound.onTargetProcessDied bundleName pid

end

theorem Coherent.start : skillExecuteManager.start.Coherent where
  accounted := List.Perm.refl _
  own := nofun
  told := Perm.refl _
  executing := nofun
  launched := nofun
  mapped := nofun
  armed := nofun
  single := nodup_nil
  handled := absurd rfl

instance decidableKeeps : ∀ next, Decidable (mgr.Keeps next)
  | .createExecuteRecord _ _ _ _ _ _ => inferInstanceAs (Decidable (_ ∉ mgr.records))
  | .executeSkillDone _ requestCode _ _ _ =>
    inferInstanceAs (Decidable (∀ record ∈ mgr.records.lookup requestCode, _ = _ -> _ = _ ∧ _ ∉ _))
  | .onLaunchCompleted _ requestCode _ _ =>
    inferInstanceAs (Decidable (∀ record ∈ mgr.records.lookup requestCode, _ = _ -> _ = _))
  | .onLaunchFailed _ requestCode _ =>
    inferInstanceAs (Decidable (∀ record ∈ mgr.records.lookup requestCode, _ = _))
  | .onCallerDied index =>
    inferInstanceAs (Decidable (∀ notice ∈ mgr.notices[index]?,
      ∀ record ∈ mgr.records.lookup notice.requestCode, _ = _))
  | .init | .onExecuteDone _ | .onTimeout _ | .callerDies _ | .onTargetProcessDied _ _ =>
    .isTrue trivial

end SkillExecuteManager

/-- A callback hears of its own event once, and a live record keeps its sequence number. -/
theorem skillExecuteManager_good {steps : List SkillStep}
    (keeps : skillExecuteManager.EveryStep steps SkillExecuteManager.Keeps) :
    skillExecuteManager.Throughout steps SkillExecuteManager.Good := by
  have sound : skillExecuteManager.Throughout steps SkillExecuteManager.Coherent :=
    keeps.throughout SkillExecuteManager.Coherent.start
      (fun _ step sound kept => sound.step step kept)
  exact fun done rest split => (sound done rest split).good

theorem skillExecuteManager_good_job :
    let steps : List SkillStep :=
      [.init, .createExecuteRecord none "mail" "chat" 5 (some 1) "",
        .createExecuteRecord (some 7) "notes" "chat" 5 (some 2) "job",
        .onLaunchCompleted 1 "1" 40 (some "mail"), .onLaunchCompleted 2 "job" 41 (some "notes"),
        .executeSkillDone 1 "1" 0 { uris := ["file://mail/1"] } "mail", .onExecuteDone 0,
        .onTargetProcessDied "notes" 41,
        .createExecuteRecord (some 7) "notes" "chat" 5 (some 3) "job", .onTimeout 2,
        .callerDies 7, .onCallerDied 0]
    let mgr := skillExecuteManager.run steps
    mgr.told = [1, 2] ∧ mgr.granted.length = 1 ∧ mgr.live = [] ∧
      skillExecuteManager.Throughout steps SkillExecuteManager.Good := by
  exact ⟨by decide +kernel, by decide +kernel, by decide +kernel,
    skillExecuteManager_good (Machine.StepsFrom.everyStep (by decide +kernel))⟩

theorem result_leaves_timeout :
    let steps : List SkillStep :=
      [.init, .createExecuteRecord none "notes" "chat" 5 (some 1) "job",
        .executeSkillDone 1 "job" 0 {} "notes", .onExecuteDone 0]
    let again : List SkillStep :=
      steps ++ [.createExecuteRecord none "notes" "chat" 5 (some 2) "job", .onTimeout 1]
    1 ∈ (skillExecuteManager.run steps).seqToRequestCodeMap ∧
      1 ∉ (skillExecuteManager.run steps).live ∧
      (skillExecuteManager.run again).accepted.map (fun event =>
        (event.owner, event.record.requestCodeSeq, event.cause)) =
          [(1, 1, .result), (1, 2, .timeout)] ∧
      ¬skillExecuteManager.Throughout steps SkillExecuteManager.Good := by
  intro steps again
  refine ⟨by decide +kernel, by decide +kernel, by decide +kernel, fun good => ?_⟩
  have last : (skillExecuteManager.run steps).Good := good steps [] (List.append_nil steps).symm
  exact absurd ((last.timeouts 1).1 (by decide +kernel)).1 (by decide +kernel)

end AbilityRuntime.Skill
