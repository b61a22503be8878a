import AbilityRuntime.LocalCall.CallRecords

set_option autoImplicit false

namespace AbilityRuntime.LocalCall

open Library RecordMap Function Option List LocalCallContainer Bool LocalCallRecord Nat CallerConnection

namespace LocalCallContainer

variable {env : Environment} {container : LocalCallContainer}

def FailsUnplaced (env : Environment) (container : LocalCallContainer) (callback : Nat) : Prop :=
  ∀ record ∈ container.getRecord env callback, container.isPlaced env record = false

theorem Filed.clearFailedCallConnection (filed : container.Filed env) (callback : Option Nat)
    (fails : ∀ caller ∈ callback, container.FailsUnplaced env caller) :
    (container.clearFailedCallConnection env callback).Filed env := by
  unfold LocalCallContainer.clearFailedCallConnection
  split
  · exact filed
  next connection found =>
    obtain ⟨caller, given, found⟩ := bind_eq_some_iff.mp found
    obtain ⟨record, locked, found⟩ := bind_eq_some_iff.mp found
    have unplaced : ¬container.Placed record := fun placed => by
      have without := fails caller given record locked
      rw [(isPlaced_iff filed).mpr placed] at without
      cases without
    obtain ⟨current, -⟩ := filter_eq_some_iff.mp found
    obtain ⟨-, alive⟩ := filter_eq_some_iff.mp locked
    have owned := filed.alive_owned alive current
    have fields (other : Nat) : ((container.setConnection connection
        { container.connection connection with isAwaited := false }).connection other).localCallRecord =
          (container.connection other).localCallRecord :=
      part_update localCallRecord (by rfl) other
    have awaits (other : Nat) (awaited : ((container.setConnection connection
        { container.connection connection with isAwaited := false }).connection other).isAwaited =
          true) : other ≠ connection ∧ (container.connection other).isAwaited = true := by
      unfold setConnection at awaited
      dsimp only at awaited
      rw [update_apply] at awaited
      split at awaited
      · cases awaited
      next ne => exact ⟨ne, awaited⟩
    refine {
      filed with
      exact := fun other => ?_
      owner := fun other member owns => filed.owner other member ((fields other).symm.trans owns)
      owned := fun member other placed here =>
        (fields other).trans (filed.owned member other placed here) }
    rw [mem_filter, decide_eq_true_eq]
    constructor
    · rintro ⟨present, ne⟩
      obtain ⟨member, kept, here⟩ := (filed.exact other).mp present
      refine ⟨member, kept.imp_left ?_, here⟩
      rintro ⟨at_, same, awaited, owns⟩
      refine ⟨at_, same, ?_, (fields at_).trans owns⟩
      cases here.symm.trans same
      unfold setConnection
      dsimp only
      rwa [update_of_ne ne]
    · rintro ⟨member, ⟨at_, same, awaited, owns⟩ | placed, here⟩
      · cases (show _ = some at_ from same).symm.trans here
        obtain ⟨ne, before⟩ := awaits other awaited
        exact ⟨(filed.exact other).mpr
          ⟨member, .inl ⟨other, here, before, (fields other).symm.trans owns⟩, here⟩, ne⟩
      · refine ⟨(filed.exact other).mpr ⟨member, .inr placed, here⟩, ?_⟩
        rintro rfl
        have owns := filed.owned member other placed here
        exact unplaced (some.inj (owns.symm.trans owned) ▸ placed)

theorem diedRecords_eq_nil {isExist : Nat -> Bool} {entries : List (String × List Nat)}
    (none : ∀ entry ∈ entries, ∀ record ∈ entry.2, isExist record = false) :
    diedRecords isExist entries = [] := by
  induction entries with
  | nil => rfl
  | cons entry rest ih =>
    have missing : entry.2.find? isExist = Option.none :=
      find?_eq_none.mpr fun record present =>
        eq_false_iff.mp (none entry mem_cons_self record present)
    unfold diedRecords
    rw [missing]
    exact ih fun entry present => none entry (mem_cons_of_mem _ present)

def DiesUnplaced (env : Environment) (container : LocalCallContainer) (remote : Option Nat) : Prop :=
  ∀ record < container.nextRecord, container.isPlaced env record = true ->
    container.isSameObject remote record = false

theorem onCallStubDied_unplaced (filed : container.Filed env) {remote : Option Nat}
    (dies : container.DiesUnplaced env remote) : container.onCallStubDied remote = container := by
  have none {callRecords : CallRecords}
      (placed : ∀ key, ∀ record ∈ records callRecords key, container.Placed record) :
      diedRecords (container.isSameObject remote) callRecords.toList = [] := by
    refine diedRecords_eq_nil fun entry present record member => ?_
    have held : record ∈ records callRecords entry.1 := by
      rw [records_of_some (Std.ExtTreeMap.mem_toList_iff_getElem?_eq_some.mp present)]
      exact member
    have there := placed entry.1 record held
    exact dies record (filed.placed_lt there) ((isPlaced_iff filed).mpr there)
  unfold onCallStubDied
  dsimp only
  rw [none fun key record present => ⟨key, .inl present⟩,
    none fun key record present => ⟨key, .inr present⟩]
  unfold invokeOnRelease callersOf removeDied
  simp

def ConnectsOnce (env : Environment) (container : LocalCallContainer) (connection : Nat) (code : Int) :
    Prop :=
  ∀ record ∈ (container.connection connection).localCallRecord,
    container.isConnectionAlive connection = true ->
      connection ∈ container.connections ∧
        ((container.record record).isSingleton = decide (code = launchModeSingleton) ∨
          container.isPlaced env record = false)

theorem Filed.place (filed : container.Filed env) {record connection : Nat}
    (owned : (container.connection connection).localCallRecord = some record)
    (present : connection ∈ container.connections) {isSingleton : Bool}
    (single : (container.record record).isSingleton = isSingleton ∨ ¬container.Placed record)
    {singletons multiples : CallRecords} (wellFormedSingle : WellFormed id singletons)
    (wellFormedSeveral : WellFormed id multiples)
    (memSingle : ∀ key member, member ∈ records singletons key ↔
      member ∈ records container.callProxyRecords key ∨
        isSingleton = true ∧ key = container.elementURI env record ∧ member = record)
    (memSeveral : ∀ key member, member ∈ records multiples key ↔
      member ∈ records container.multipleCallProxyRecords key ∨
        isSingleton = false ∧ key = container.elementURI env record ∧ member = record)
    (remoteObject : Option Nat) :
    Filed env { container with
      callProxyRecords := singletons
      multipleCallProxyRecords := multiples
      record := update container.record record
        { container.record record with isSingleton, remoteObject }
      connection := update container.connection connection
        { container.connection connection with isAwaited := false } } := by
  let changed : LocalCallRecord := { container.record record with isSingleton, remoteObject }
  let done : CallerConnection := { container.connection connection with isAwaited := false }
  have fields {Part : Type} (part : LocalCallRecord -> Part)
      (same : part changed = part (container.record record)) := part_update part same
  have owns (other : Nat) :
      (update container.connection connection done other).localCallRecord =
        (container.connection other).localCallRecord :=
    part_update localCallRecord (by rfl) other
  have uri (other : Nat) : env.getURI (update container.record record changed
      other).elementName = container.elementURI env other :=
    congrArg env.getURI (fields elementName rfl other)
  obtain ⟨current, -, earlier⟩ := filed.owner connection record owned
  have flag (other : Nat) (placed : container.Placed other) :
      (update container.record record changed other).isSingleton =
        (container.record other).isSingleton := by
    rw [update_apply]
    split
    next here =>
      rcases single with same | unplaced
      · rw [here, same]
      · exact absurd (here ▸ placed) unplaced
    · rfl
  have placed (other : Nat) : (∃ key, other ∈ records singletons key ∨
      other ∈ records multiples key) ↔ container.Placed other ∨ other = record := by
    constructor
    · rintro ⟨key, there | there⟩
      · exact ((memSingle key other).mp there).imp (fun before => ⟨key, .inl before⟩) (·.2.2)
      · exact ((memSeveral key other).mp there).imp (fun before => ⟨key, .inr before⟩) (·.2.2)
    · rintro (⟨key, there | there⟩ | rfl)
      · exact ⟨key, .inl ((memSingle key other).mpr (.inl there))⟩
      · exact ⟨key, .inr ((memSeveral key other).mpr (.inl there))⟩
      · refine ⟨container.elementURI env other, ?_⟩
        cases isSingleton with
        | true => exact .inl ((memSingle _ other).mpr (.inr ⟨rfl, rfl, rfl⟩))
        | false => exact .inr ((memSeveral _ other).mpr (.inr ⟨rfl, rfl, rfl⟩))
  have kept : container.Kept record := by
    obtain ⟨other, kept, here⟩ := (filed.exact connection).mp present
    rwa [some.inj (owned.symm.trans (filed.kept_owned kept here))]
  refine {
    singletons := wellFormedSingle, multiples := wellFormedSeveral, singleton := ?_, multiple := ?_
    exact := ?_, owner := ?_, owned := ?_, connected := ?_ }
  · intro key other there
    rcases (memSingle key other).mp there with before | ⟨isSingle, rfl, rfl⟩
    · obtain ⟨made, own, isSingle⟩ := filed.singleton key other before
      exact ⟨made, (uri other).trans own, (flag other ⟨key, .inl before⟩).trans isSingle⟩
    · refine ⟨earlier, uri other, ?_⟩
      dsimp only
      rwa [update_self]
  · intro key other there
    rcases (memSeveral key other).mp there with before | ⟨isSeveral, rfl, rfl⟩
    · obtain ⟨made, own, isSeveral⟩ := filed.multiple key other before
      exact ⟨made, (uri other).trans own, (flag other ⟨key, .inr before⟩).trans isSeveral⟩
    · refine ⟨earlier, uri other, ?_⟩
      dsimp only
      rwa [update_self]
  · intro other
    rw [filed.exact]
    refine exists_congr fun member => ?_
    rw [fields LocalCallRecord.connection rfl]
    refine and_congr_left fun here => ?_
    constructor
    · rintro (⟨at_, same, awaited, owner⟩ | before)
      · by_cases is : member = record
        · exact .inr ((placed member).mpr (.inr is))
        · have ne : at_ ≠ connection := by
            rintro rfl
            exact is (some.inj (owner.symm.trans owned))
          refine .inl ⟨at_, (fields LocalCallRecord.connection rfl member).trans same, ?_,
            (owns at_).trans owner⟩
          dsimp only
          rwa [update_of_ne ne]
      · exact .inr ((placed member).mpr (.inl before))
    · rintro (⟨at_, same, awaited, owner⟩ | after)
      · refine .inl ⟨at_, (fields LocalCallRecord.connection rfl member).symm.trans same, ?_,
          (owns at_).symm.trans owner⟩
        dsimp only at awaited
        rw [update_apply] at awaited
        split at awaited
        · cases awaited
        · exact awaited
      · rcases (placed member).mp after with before | rfl
        · exact .inr before
        · exact kept
  · intro other member owner
    obtain ⟨at_, before, made⟩ := filed.owner other member ((owns other).symm.trans owner)
    exact ⟨(fields LocalCallRecord.connection rfl member).trans at_, before, made⟩
  · intro member other there after
    have here := (fields LocalCallRecord.connection rfl member).symm.trans after
    refine (owns other).trans ?_
    rcases (placed member).mp there with before | is
    · exact filed.owned member other before here
    · rw [is] at here ⊢
      rwa [some.inj (here.symm.trans current)]
  · intro member there
    rw [fields LocalCallRecord.connection rfl]
    rcases (placed member).mp there with before | is
    · exact filed.connected member before
    · rw [is, current]
      rfl

theorem Filed.onAbilityConnectDone (filed : container.Filed env) (connection : Nat)
    (remoteObject : Option Nat) {code : Int} (connects : container.ConnectsOnce env connection code) :
    (container.onAbilityConnectDone env connection remoteObject code).Filed env := by
  unfold LocalCallContainer.onAbilityConnectDone
  split
  · exact filed
  next record owned =>
    split
    · exact filed
    next alive =>
      rw [not_eq_true, not_eq_false'] at alive
      obtain ⟨present, flagged⟩ := connects record owned alive
      have single : (container.record record).isSingleton = decide (code = launchModeSingleton) ∨
          ¬container.Placed record := by
        refine flagged.imp_right fun unplaced placed => ?_
        rw [(isPlaced_iff filed).mpr placed] at unplaced
        cases unplaced
      have place := @Filed.place env container filed record connection owned present
      refine (sameFiling_invokeCallBacks record).filed ?_
      have same {isSingleton : Bool} {remoteObject : Option Nat} :
          elementURI env ((container.setConnection connection
            { container.connection connection with isAwaited := false }).setRecord record
              { container.record record with isSingleton, remoteObject }) record =
            container.elementURI env record := by
        unfold elementURI setRecord
        dsimp only
        rw [update_self]
      by_cases isSingle : code = launchModeSingleton
      · unfold setCallLocalRecord
        rw [same]
        rw [decide_eq_true isSingle] at single ⊢
        refine place single (wellFormed_emplace filed.singletons _ record) filed.multiples
          (fun key member => ?_) (fun key member => ?_) _
        · rw [mem_emplace]; simp
        · simp
      · unfold setMultipleCallLocalRecord
        rw [same]
        rw [decide_eq_false isSingle] at single ⊢
        refine place single filed.singletons (wellFormed_emplace filed.multiples _ record)
          (fun key member => ?_) (fun key member => ?_) _
        · simp
        · rw [mem_emplace]; simp

theorem getValidUserId_of (accountId processUserId : Int) :
    (container.getValidUserId accountId processUserId).2 =
      { container with
        currentUserId := (container.getValidUserId accountId processUserId).2.currentUserId } := by
  unfold getValidUserId getCurrentUserId
  split
  · split <;> rfl
  · rfl

theorem getCallLocalRecord_placed {element : ElementName} {accountId : Int} {record : Nat}
    (found : container.getCallLocalRecord env element accountId = some record) :
    container.Placed record := by
  obtain ⟨⟨key, held⟩, present, found⟩ := exists_of_findSome?_eq_some found
  obtain ⟨callElement, -, found⟩ := bind_eq_some_iff.mp found
  split at found
  · cases found
  · refine ⟨key, .inl ?_⟩
    rw [records_of_some (Std.ExtTreeMap.mem_toList_iff_getElem?_eq_some.mp present)]
    exact mem_of_find?_eq_some found

theorem startCall_of {record callback : Nat} (retval : ErrCode) (isHeld : Bool)
    (linked : (container.caller callback).localCallRecord = some record)
    (unmade : container.nextConnection ∉ container.connections) :
    container.startCall env record callback retval isHeld =
      (retval, { container with
        connections := if retval = .errOk then container.nextConnection :: container.connections
          else container.connections
        nextConnection := container.nextConnection + 1
        record := update container.record record
          { container.record record with connection := some container.nextConnection }
        connection := update container.connection container.nextConnection
          { localCallRecord := some record, isHeld, isAwaited := retval = .errOk } }) := by
  unfold startCall
  refine Prod.ext rfl ?_
  dsimp only
  by_cases accepted : retval = .errOk
  · rw [if_pos accepted, if_pos accepted]
    rfl
  · rw [if_neg accepted, if_neg accepted]
    let started : LocalCallContainer := { container with
      connections := container.nextConnection :: container.connections
      nextConnection := container.nextConnection + 1
      record := update container.record record
        { container.record record with connection := some container.nextConnection }
      connection := update container.connection container.nextConnection
        { localCallRecord := some record, isHeld, isAwaited := retval = .errOk } }
    have alive : started.isConnectionAlive container.nextConnection = true := by
      unfold isConnectionAlive
      simp [started]
    have owned : (started.connection container.nextConnection).localCallRecord = some record := by
      simp [started]
    have locked : started.getRecord env callback = some record := by
      refine filter_eq_some_iff.mpr ⟨linked, ?_⟩
      unfold isRecordAlive
      rw [or_eq_true]
      refine .inr (any_eq_true.mpr ⟨container.nextConnection, ?_, ?_⟩)
      · exact mem_range.mpr (lt_succ_self _)
      · rw [alive, owned, decide_eq_true rfl, Bool.and_true]
    have current : started.getConnection record = some container.nextConnection :=
      filter_eq_some_iff.mpr ⟨by simp [started], alive⟩
    have cleared : started.clearFailedCallConnection env (some callback) =
        { started.setConnection container.nextConnection
            { started.connection container.nextConnection with isAwaited := false } with
          connections := started.connections.filter (· ≠ container.nextConnection) } := by
      unfold clearFailedCallConnection
      rw [bind_some, locked, bind_some, current]
    refine Eq.trans cleared ?_
    have others : started.connections.filter (· ≠ container.nextConnection) =
        container.connections := by
      rw [filter_cons_of_neg (by simp), filter_eq_self]
      rintro connection present
      rw [decide_eq_true_eq]
      rintro rfl
      exact unmade present
    rw [others]
    unfold setConnection
    simp [started, accepted]

def StartsApart (env : Environment) (container : LocalCallContainer) (request : CallRequest) :
    Prop :=
  ∀ record ∈ container.getCallLocalRecord env request.element
      (container.getValidUserId request.accountId request.processUserId).1,
    (container.record record).remoteObject.isSome = true ∧ request.isToForeground = false

def newCall (container : LocalCallContainer) (element : ElementName) (userId : Int)
    (callback : Nat) : LocalCallContainer :=
  (container.newRecord element userId).addCaller container.nextRecord callback

theorem startAbilityByCallInner_cases {request : CallRequest} {callback : Option Nat}
    (apart : ∀ _ ∈ callback, request.isEmptyWant = false -> container.StartsApart env request)
    (retval : ErrCode) (isHeld : Bool) :
    let result := container.startAbilityByCallInner env request callback retval isHeld
    let userId := (container.getValidUserId request.accountId request.processUserId).1
    let known := (container.getValidUserId request.accountId request.processUserId).2
    result = (.errInvalidValue, container) ∨
      ∃ caller, callback = some caller ∧ request.isEmptyWant = false ∧
        (result = (known.newCall request.element userId caller).startCall env container.nextRecord
            caller retval isHeld ∨
          ∃ record remote, container.Placed record ∧
            result = (.errOk, (known.addCaller record caller).invokeCallBack caller remote)) := by
  intro result userId known
  have same : known = { container with currentUserId := known.currentUserId } :=
    getValidUserId_of ..
  have next : known.nextRecord = container.nextRecord := by rw [same]
  have finds : known.getCallLocalRecord env request.element userId =
      container.getCallLocalRecord env request.element userId := by rw [same]; rfl
  have remotes : known.record = container.record := by rw [same]
  cases callback with
  | none => exact .inl rfl
  | some caller =>
    unfold result startAbilityByCallInner
    dsimp only
    split
    · exact .inl rfl
    next wanted =>
      have nonempty : request.isEmptyWant = false := eq_false_iff.mpr wanted
      have apart := apart caller rfl nonempty
      refine .inr ⟨caller, rfl, nonempty, ?_⟩
      split
      · rw [<- next]
        exact .inl rfl
      next record found =>
        have found : container.getCallLocalRecord env request.element userId = some record :=
          finds.symm.trans found
        obtain ⟨connected, asks⟩ := apart record found
        rw [<- remotes] at connected
        split
        next without =>
          rw [show (known.record record).remoteObject = none from without] at connected
          cases connected
        next remote _ =>
          rw [asks]
          exact .inr ⟨record, remote, getCallLocalRecord_placed found, rfl⟩

theorem Filed.newRecord (filed : container.Filed env) (element : ElementName) (userId : Int) :
    (container.newRecord element userId).Filed env := by
  have before {record : Nat} (earlier : record < container.nextRecord) :
      update container.record container.nextRecord { elementName := element, userId } record =
        container.record record :=
    update_of_ne (Nat.ne_of_lt earlier) ..
  have uri {record : Nat} (earlier : record < container.nextRecord) :
      (container.newRecord element userId).elementURI env record = container.elementURI env record :=
    congrArg (fun record : LocalCallRecord => env.getURI record.elementName) (before earlier)
  have kept_lt {record : Nat} (kept : container.Kept record) : record < container.nextRecord := by
    rcases kept with ⟨connection, -, -, owned⟩ | placed
    · exact (filed.owner connection record owned).2.2
    · exact filed.placed_lt placed
  refine {
    filed with
    singleton := fun key record present => ?_, multiple := fun key record present => ?_
    exact := fun connection => ?_, owner := fun connection record owned => ?_
    owned := fun record connection placed current => ?_, connected := fun record placed => ?_ }
  · obtain ⟨earlier, own, single⟩ := filed.singleton key record present
    refine ⟨lt_succ_of_lt earlier, (uri earlier).trans own, ?_⟩
    exact (congrArg isSingleton (before earlier)).trans single
  · obtain ⟨earlier, own, several⟩ := filed.multiple key record present
    refine ⟨lt_succ_of_lt earlier, (uri earlier).trans own, ?_⟩
    exact (congrArg isSingleton (before earlier)).trans several
  · rw [show (container.newRecord element userId).connections = container.connections from rfl,
      filed.exact]
    refine exists_congr fun record => ⟨fun ⟨kept, current⟩ => ?_, fun ⟨kept, current⟩ => ?_⟩
    · have same := congrArg LocalCallRecord.connection (before (kept_lt kept))
      refine ⟨kept.imp_left ?_, same.trans current⟩
      exact fun ⟨at_, here, rest⟩ => ⟨at_, same.trans here, rest⟩
    · have earlier : record < container.nextRecord := by
        rcases kept with ⟨at_, -, -, owned⟩ | placed
        · exact (filed.owner at_ record owned).2.2
        · exact filed.placed_lt placed
      have same := congrArg LocalCallRecord.connection (before earlier)
      refine ⟨kept.imp_left ?_, same.symm.trans current⟩
      exact fun ⟨at_, here, rest⟩ => ⟨at_, same.symm.trans here, rest⟩
  · obtain ⟨current, made, earlier⟩ := filed.owner connection record owned
    refine ⟨?_, made, lt_succ_of_lt earlier⟩
    exact (congrArg LocalCallRecord.connection (before earlier)).trans current
  · have same := congrArg LocalCallRecord.connection (before (filed.placed_lt placed))
    exact filed.owned record connection placed (same.symm.trans current)
  · rw [show (container.newRecord element userId).record record = container.record record from
      before (filed.placed_lt placed)]
    exact filed.connected record placed

theorem sameFiling_newCall (element : ElementName) (userId : Int) (callback : Nat) :
    SameFiling (container.newRecord element userId) (container.newCall element userId callback) :=
  sameFiling_addCaller container.nextRecord callback

theorem newCall_linked (element : ElementName) (userId : Int) (callback : Nat) :
    ((container.newCall element userId callback).caller callback).localCallRecord =
      some container.nextRecord := by
  unfold newCall addCaller setCaller
  dsimp only [setRecord]
  rw [update_self]

theorem Filed.startAbilityByCallInner (filed : container.Filed env) {request : CallRequest}
    {callback : Option Nat}
    (apart : ∀ _ ∈ callback, request.isEmptyWant = false -> container.StartsApart env request)
    (retval : ErrCode) (isHeld : Bool) :
    (container.startAbilityByCallInner env request callback retval isHeld).2.Filed env := by
  let userId := (container.getValidUserId request.accountId request.processUserId).1
  let known := (container.getValidUserId request.accountId request.processUserId).2
  have filedKnown : known.Filed env := (sameFiling_getValidUserId _ _).filed filed
  have next : known.nextRecord = container.nextRecord := (sameFiling_getValidUserId _ _).nextRecord
  rcases @startAbilityByCallInner_cases env container request callback apart retval isHeld with
    same | ⟨caller, -, -, same | ⟨record, remote, -, same⟩⟩
  all_goals rw [same]
  · exact filed
  · rw [<- next]
    have new := @sameFiling_newCall known request.element userId caller
    have made := filedKnown.newRecord request.element userId
    have filedNew := new.filed made
    have unowned (connection : Nat) :
        ((known.newCall request.element userId caller).connection connection).localCallRecord ≠
          some known.nextRecord := by
      exact fun owned => lt_irrefl _ (filedKnown.owner connection _ owned).2.2
    rw [startCall_of retval isHeld (newCall_linked ..) fun present =>
      lt_irrefl _ (filedNew.made present)]
    refine filedNew.connect ?_ unowned ?_ fun connection => ?_
    · rw [new.placed]
      exact fun placed => lt_irrefl _ (filedKnown.placed_lt placed)
    · exact lt_succ_self _
    · by_cases accepted : retval = .errOk
      · simp [accepted]
      · simp [accepted]
  · have added := @sameFiling_addCaller known record caller
    exact (added.trans (sameFiling_invokeCallBack caller remote)).filed filedKnown

def releaseRecord (env : Environment) (container : LocalCallContainer) (record connection : Nat) :
    LocalCallContainer :=
  ((((container.removeCallLocalRecord env record).getD container).removeCallerConnection
    connection).clearCallRecord connection).clearData record

theorem Filed.releaseRecord (filed : container.Filed env) {record connection : Nat}
    (owned : (container.connection connection).localCallRecord = some record) :
    (container.releaseRecord env record connection).Filed env :=
  (sameFiling_clearData record).filed (filed.release owned)

theorem releaseCall_cases (callback : Option Nat) (isReleased : Bool) :
    let result := (container.releaseCall env callback isReleased).2
    result = container ∨ ∃ caller record, container.getRecord env caller = some record ∧
      (result = container.removeCaller record caller ∨
        ∃ connection, (container.record record).connection = some connection ∧
          result = (container.removeCaller record caller).releaseRecord env record connection) := by
  intro result
  unfold result releaseCall
  split
  · exact .inl rfl
  next caller record found =>
    obtain ⟨given, -, found⟩ := bind_eq_some_iff.mp found
    obtain ⟨locked, is, same⟩ := map_eq_some_iff.mp found
    cases same
    refine .inr ⟨caller, record, is, ?_⟩
    dsimp only
    split
    · exact .inl rfl
    · split
      · exact .inl rfl
      next connection promoted =>
        split
        · exact .inl rfl
        next unlisted removed =>
          refine .inr ⟨connection, ?_, ?_⟩
          · rw [<- (sameFiling_removeCaller record caller).current]
            exact (filter_eq_some_iff.mp promoted).1
          · unfold releaseRecord
            rw [removed]
            rfl

theorem Filed.releaseCall (filed : container.Filed env) (callback : Option Nat)
    (isReleased : Bool) : (container.releaseCall env callback isReleased).2.Filed env := by
  rcases @releaseCall_cases env container callback isReleased with
    same | ⟨caller, record, locked, same | ⟨connection, current, same⟩⟩
  all_goals rw [same]
  · exact filed
  · exact (sameFiling_removeCaller record caller).filed filed
  · have removed := @sameFiling_removeCaller container record caller
    refine (removed.filed filed).releaseRecord ?_
    rw [removed.owner]
    exact filed.alive_owned (filter_eq_some_iff.mp locked).2 current

theorem onAbilityDisconnectDone_cases (connection : Nat) (code : Int) :
    container.onAbilityDisconnectDone env connection code = container ∨
      ∃ record, (container.connection connection).localCallRecord = some record ∧
        container.isConnectionAlive connection = true ∧
        container.onAbilityDisconnectDone env connection code =
          (container.invokeOnRelease .onDied (container.record record).callers).releaseRecord env
            record connection := by
  unfold onAbilityDisconnectDone
  split
  · exact .inl rfl
  next record owned =>
    split
    · exact .inl rfl
    next alive =>
      rw [not_eq_true, or_eq_false_iff, not_eq_false'] at alive
      refine .inr ⟨record, owned, alive.1, ?_⟩
      rw [clearCallRecord_clearData]
      rfl

theorem sameFiling_invokeOnRelease (reason : ReleaseReason) (callbacks : List Nat) :
    SameFiling container (container.invokeOnRelease reason callbacks) :=
  SameFiling.of_same rfl rfl rfl rfl rfl rfl rfl

theorem Filed.onAbilityDisconnectDone (filed : container.Filed env) (connection : Nat)
    (code : Int) : (container.onAbilityDisconnectDone env connection code).Filed env := by
  rcases @onAbilityDisconnectDone_cases env container connection code with
    same | ⟨record, owned, -, same⟩
  all_goals rw [same]
  · exact filed
  · exact ((sameFiling_invokeOnRelease _ _).filed filed).releaseRecord owned

end LocalCallContainer

end AbilityRuntime.LocalCall
