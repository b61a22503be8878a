import AbilityRuntime.LocalCall.LocalCallContainer

set_option autoImplicit false

namespace AbilityRuntime.LocalCall

open Library RecordMap Function List LocalCallRecord

namespace LocalCallContainer

variable {env : Environment} {container : LocalCallContainer}

def Placed (container : LocalCallContainer) (record : Nat) : Prop :=
  ∃ key, record ∈ records container.callProxyRecords key ∨
    record ∈ records container.multipleCallProxyRecords key

def Pending (container : LocalCallContainer) (record : Nat) : Prop :=
  ∃ connection, (container.record record).connection = some connection ∧
    (container.connection connection).isAwaited = true ∧
    (container.connection connection).localCallRecord = some record

def Kept (container : LocalCallContainer) (record : Nat) : Prop :=
  container.Pending record ∨ container.Placed record

structure Filed (env : Environment) (container : LocalCallContainer) : Prop where
  singletons : WellFormed id container.callProxyRecords
  multiples : WellFormed id container.multipleCallProxyRecords
  singleton : ∀ key, ∀ record ∈ records container.callProxyRecords key,
    record < container.nextRecord ∧ container.elementURI env record = key ∧
      (container.record record).isSingleton = true
  multiple : ∀ key, ∀ record ∈ records container.multipleCallProxyRecords key,
    record < container.nextRecord ∧ container.elementURI env record = key ∧
      (container.record record).isSingleton = false
  exact : ∀ connection, connection ∈ container.connections ↔
    ∃ record, container.Kept record ∧ (container.record record).connection = some connection
  owner : ∀ connection record, (container.connection connection).localCallRecord = some record ->
    (container.record record).connection = some connection ∧
      connection < container.nextConnection ∧ record < container.nextRecord
  owned : ∀ record connection, container.Placed record ->
    (container.record record).connection = some connection ->
      (container.connection connection).localCallRecord = some record
  connected : ∀ record, container.Placed record ->
    (container.record record).connection.isSome = true

variable {record connection : Nat}

section

variable (filed : container.Filed env)
include filed

theorem Filed.kept_owned (kept : container.Kept record)
    (current : (container.record record).connection = some connection) :
    (container.connection connection).localCallRecord = some record := by
  rcases kept with ⟨other, same, -, owned⟩ | placed
  · rwa [Option.some.inj (current.symm.trans same)]
  · exact filed.owned record connection placed current

theorem Filed.made (present : connection ∈ container.connections) :
    connection < container.nextConnection := by
  obtain ⟨record, kept, current⟩ := (filed.exact connection).mp present
  exact (filed.owner connection record (filed.kept_owned kept current)).2.1

theorem Filed.placed_lt (placed : container.Placed record) : record < container.nextRecord := by
  obtain ⟨key, single | several⟩ := placed
  · exact (filed.singleton key record single).1
  · exact (filed.multiple key record several).1

theorem isPlaced_iff :
    container.isPlaced env record = true ↔ container.Placed record := by
  unfold isPlaced Placed
  rw [Bool.or_eq_true, decide_eq_true_eq, decide_eq_true_eq]
  constructor
  · exact fun placed => ⟨_, placed⟩
  · rintro ⟨key, single | several⟩
    · exact .inl ((filed.singleton key record single).2.1 ▸ single)
    · exact .inr ((filed.multiple key record several).2.1 ▸ several)

theorem isRecordAlive_iff :
    container.isRecordAlive env record = true ↔ container.Placed record ∨
      ∃ connection, container.isConnectionAlive connection = true ∧
        (container.connection connection).localCallRecord = some record := by
  unfold isRecordAlive
  rw [Bool.or_eq_true, isPlaced_iff filed, any_eq_true]
  refine or_congr_right ?_
  constructor
  · rintro ⟨connection, -, holds⟩
    rw [Bool.and_eq_true, decide_eq_true_eq] at holds
    exact ⟨connection, holds⟩
  · rintro ⟨connection, alive, owned⟩
    refine ⟨connection, mem_range.mpr (filed.owner connection record owned).2.1, ?_⟩
    rw [alive, owned, decide_eq_true rfl, Bool.and_true]

theorem Filed.alive_owned (alive : container.isRecordAlive env record = true)
    (current : (container.record record).connection = some connection) :
    (container.connection connection).localCallRecord = some record := by
  rcases (isRecordAlive_iff filed).mp alive with placed | ⟨other, -, owned⟩
  · exact filed.owned record connection placed current
  · have same := (filed.owner other record owned).1
    rwa [Option.some.inj (current.symm.trans same)]

end

structure SameFiling (before after : LocalCallContainer) : Prop where
  callProxyRecords : after.callProxyRecords = before.callProxyRecords
  multipleCallProxyRecords : after.multipleCallProxyRecords = before.multipleCallProxyRecords
  connections : after.connections = before.connections
  nextRecord : after.nextRecord = before.nextRecord
  nextConnection : after.nextConnection = before.nextConnection
  element : ∀ record, (after.record record).elementName = (before.record record).elementName
  current : ∀ record, (after.record record).connection = (before.record record).connection
  singleton : ∀ record, (after.record record).isSingleton = (before.record record).isSingleton
  owner : ∀ connection, (after.connection connection).localCallRecord =
    (before.connection connection).localCallRecord
  awaited : ∀ connection, (after.connection connection).isAwaited =
    (before.connection connection).isAwaited

theorem SameFiling.refl (container : LocalCallContainer) : SameFiling container container where
  callProxyRecords := rfl
  multipleCallProxyRecords := rfl
  connections := rfl
  nextRecord := rfl
  nextConnection := rfl
  element := fun _ => rfl
  current := fun _ => rfl
  singleton := fun _ => rfl
  owner := fun _ => rfl
  awaited := fun _ => rfl

theorem SameFiling.trans {first second third : LocalCallContainer} (left : SameFiling first second)
    (right : SameFiling second third) : SameFiling first third where
  callProxyRecords := right.callProxyRecords.trans left.callProxyRecords
  multipleCallProxyRecords := right.multipleCallProxyRecords.trans left.multipleCallProxyRecords
  connections := right.connections.trans left.connections
  nextRecord := right.nextRecord.trans left.nextRecord
  nextConnection := right.nextConnection.trans left.nextConnection
  element := fun record => (right.element record).trans (left.element record)
  current := fun record => (right.current record).trans (left.current record)
  singleton := fun record => (right.singleton record).trans (left.singleton record)
  owner := fun connection => (right.owner connection).trans (left.owner connection)
  awaited := fun connection => (right.awaited connection).trans (left.awaited connection)

variable {after : LocalCallContainer}

section

variable (same : SameFiling container after)
include same

theorem SameFiling.elementURI (record : Nat) :
    after.elementURI env record = container.elementURI env record :=
  congrArg env.getURI (same.element record)

theorem SameFiling.placed (record : Nat) : after.Placed record ↔ container.Placed record := by
  unfold Placed
  rw [same.callProxyRecords, same.multipleCallProxyRecords]

theorem SameFiling.pending (record : Nat) : after.Pending record ↔ container.Pending record := by
  unfold Pending
  simp only [same.current, same.awaited, same.owner]

theorem SameFiling.filed (filed : container.Filed env) : after.Filed env where
  singletons := by rw [same.callProxyRecords]; exact filed.singletons
  multiples := by rw [same.multipleCallProxyRecords]; exact filed.multiples
  singleton := by
    intro key record present
    rw [same.callProxyRecords] at present
    rw [same.nextRecord, same.elementURI, same.singleton]
    exact filed.singleton key record present
  multiple := by
    intro key record present
    rw [same.multipleCallProxyRecords] at present
    rw [same.nextRecord, same.elementURI, same.singleton]
    exact filed.multiple key record present
  exact := by
    intro connection
    unfold Kept
    simp only [same.connections, same.pending, same.placed, same.current]
    exact filed.exact connection
  owner := by
    intro connection record owned
    rw [same.owner] at owned
    rw [same.current, same.nextConnection, same.nextRecord]
    exact filed.owner connection record owned
  owned := by
    intro record connection placed current
    rw [same.placed] at placed
    rw [same.current] at current
    rw [same.owner]
    exact filed.owned record connection placed current
  connected := by
    intro record placed
    rw [same.placed] at placed
    rw [same.current]
    exact filed.connected record placed

end

theorem SameFiling.of_same (singletons : after.callProxyRecords = container.callProxyRecords)
    (multiples : after.multipleCallProxyRecords = container.multipleCallProxyRecords)
    (connections : after.connections = container.connections)
    (nextRecord : after.nextRecord = container.nextRecord)
    (nextConnection : after.nextConnection = container.nextConnection)
    (record : after.record = container.record)
    (connection : after.connection = container.connection) : SameFiling container after where
  callProxyRecords := singletons
  multipleCallProxyRecords := multiples
  connections := connections
  nextRecord := nextRecord
  nextConnection := nextConnection
  element := fun _ => by rw [record]
  current := fun _ => by rw [record]
  singleton := fun _ => by rw [record]
  owner := fun _ => by rw [connection]
  awaited := fun _ => by rw [connection]

theorem part_update {Index Value Part : Type} [DecidableEq Index] {values : Index -> Value}
    {index : Index} {value : Value} (part : Value -> Part) (same : part value = part (values index))
    (other : Index) : part (update values index value other) = part (values other) := by
  rw [update_apply]
  split
  next here => rw [here, same]
  · rfl

theorem SameFiling.setRecord {changed : LocalCallRecord}
    (element : changed.elementName = (container.record record).elementName)
    (current : changed.connection = (container.record record).connection)
    (singleton : changed.isSingleton = (container.record record).isSingleton) :
    SameFiling container (container.setRecord record changed) :=
  { SameFiling.refl container with
    element := part_update elementName element
    current := part_update LocalCallRecord.connection current
    singleton := part_update LocalCallRecord.isSingleton singleton }

theorem sameFiling_addCaller (record callback : Nat) :
    SameFiling container (container.addCaller record callback) := by
  have changed := @SameFiling.setRecord container record
    { container.record record with callers := (container.record record).callers ++ [callback] }
    rfl rfl rfl
  exact changed.trans (SameFiling.of_same rfl rfl rfl rfl rfl rfl rfl)

theorem sameFiling_invokeCallBack (callback remote : Nat) :
    SameFiling container (container.invokeCallBack callback remote) :=
  SameFiling.of_same rfl rfl rfl rfl rfl rfl rfl

theorem sameFiling_removeCaller (record callback : Nat) :
    SameFiling container (container.removeCaller record callback) := by
  unfold removeCaller
  dsimp only
  split
  · have changed := @SameFiling.setRecord container record
      { container.record record with callers := (container.record record).callers.erase callback }
      rfl rfl rfl
    exact changed.trans (SameFiling.of_same rfl rfl rfl rfl rfl rfl rfl)
  · exact SameFiling.refl container

theorem sameFiling_clearData (record : Nat) :
    SameFiling container (container.clearData record) := by
  unfold clearData
  split
  · exact SameFiling.refl container
  · exact SameFiling.setRecord rfl rfl rfl

theorem sameFiling_getValidUserId (accountId processUserId : Int) :
    SameFiling container (container.getValidUserId accountId processUserId).2 := by
  unfold getValidUserId getCurrentUserId
  split
  · split <;> exact SameFiling.of_same rfl rfl rfl rfl rfl rfl rfl
  · exact SameFiling.refl container

theorem invokeCallBacks_of (record : Nat) : ∃ caller calls,
    container.invokeCallBacks record = { container with caller, calls } := by
  unfold invokeCallBacks
  split
  · exact ⟨_, _, rfl⟩
  next remote _ =>
    have general (callbacks : List Nat) : ∀ container : LocalCallContainer, ∃ caller calls,
        callbacks.foldl (fun container callback =>
          if (container.caller callback).isCallBack then container
          else container.invokeCallBack callback remote) container =
            { container with caller, calls } := by
      induction callbacks with
      | nil => exact fun _ => ⟨_, _, rfl⟩
      | cons callback rest ih =>
        intro container
        rw [foldl_cons]
        split
        · exact ih container
        · exact ih (container.invokeCallBack callback remote)
    exact general _ container

theorem sameFiling_invokeCallBacks (record : Nat) :
    SameFiling container (container.invokeCallBacks record) := by
  obtain ⟨caller, calls, same⟩ := @invokeCallBacks_of container record
  rw [same]
  exact SameFiling.of_same rfl rfl rfl rfl rfl rfl rfl

theorem sameFiling_dropConnection (connection : Nat) :
    SameFiling container (container.dropConnection connection) :=
  { SameFiling.refl container with
    owner := part_update CallerConnection.localCallRecord rfl
    awaited := part_update CallerConnection.isAwaited rfl }

variable {callRecords : CallRecords}

theorem records_nodup (wellFormed : WellFormed id callRecords)
    (key : String) : (records callRecords key).Nodup := by
  unfold records
  cases found : callRecords[key]? with
  | none => exact nodup_nil
  | some held =>
    have nodup := (wellFormed key held found).2
    rwa [map_id] at nodup

theorem mem_emplace {key other : String} {member : Nat} :
    member ∈ records (emplace env callRecords key record) other ↔
      member ∈ records callRecords other ∨ other = key ∧ member = record := by
  unfold emplace
  dsimp only
  split
  next there =>
    refine ⟨.inl, ?_⟩
    rintro (present | ⟨rfl, rfl⟩)
    · exact present
    · exact there
  · rw [records_insert]
    by_cases same : key = other
    · simp [same, or_comm]
    · simp [same, Ne.symm same]

theorem wellFormed_emplace (wellFormed : WellFormed id callRecords) (key : String)
    (record : Nat) : WellFormed id (emplace env callRecords key record) := by
  unfold emplace
  dsimp only
  split
  · exact wellFormed
  next absent =>
    have same := perm_orderedInsert
      (fun first second => env.address first ≤ env.address second) record (records callRecords key)
    refine wellFormed_insert wellFormed key (fun empty => ?_) ?_
    · rw [empty] at same
      exact absurd same.symm not_perm_cons_nil
    · rw [map_id]
      exact same.nodup_iff.mpr (nodup_cons.mpr ⟨absent, records_nodup wellFormed key⟩)

theorem mem_putBack_erase (wellFormed : WellFormed id callRecords) {uri : String}
    (own : ∀ key, record ∈ records callRecords key -> key = uri) {held : List Nat}
    (found : callRecords[uri]? = some held) (key : String) (member : Nat) :
    member ∈ records (putBack callRecords uri (held.erase record)) key ↔
      member ∈ records callRecords key ∧ member ≠ record := by
  have list := records_of_some found
  have nodup := records_nodup wellFormed uri
  rw [list] at nodup
  rw [records_putBack]
  split
  next same =>
    rw [nodup.mem_erase_iff, <- same, list]
    exact and_comm
  next other =>
    refine ⟨fun present => ⟨present, ?_⟩, And.left⟩
    rintro rfl
    exact other (own key present).symm

theorem wellFormed_putBack_erase (wellFormed : WellFormed id callRecords) (record : Nat)
    {uri : String} {held : List Nat} (found : callRecords[uri]? = some held) :
    WellFormed id (putBack callRecords uri (held.erase record)) := by
  have nodup := records_nodup wellFormed uri
  rw [records_of_some found] at nodup
  refine wellFormed_putBack wellFormed uri ?_
  rw [map_id]
  exact nodup.erase record

theorem Filed.unlisted (filed : container.Filed env) (record : Nat) :
    ∃ singletons multiples : CallRecords,
      (container.removeCallLocalRecord env record).getD container =
        { container with
          callProxyRecords := singletons, multipleCallProxyRecords := multiples } ∧
      WellFormed id singletons ∧ WellFormed id multiples ∧
      (∀ key member, member ∈ records singletons key ↔
        member ∈ records container.callProxyRecords key ∧ member ≠ record) ∧
      ∀ key member, member ∈ records multiples key ↔
        member ∈ records container.multipleCallProxyRecords key ∧ member ≠ record := by
  have absent {callRecords : CallRecords} {key : String}
      (own : ∀ key, record ∈ records callRecords key -> key = container.elementURI env record)
      (missing : callRecords[container.elementURI env record]? = none)
      (present : record ∈ records callRecords key) : False := by
    have here := own key present ▸ present
    rw [records, missing] at here
    cases here
  have without {callRecords : CallRecords} (never : ∀ key, record ∉ records callRecords key)
      (key : String) (member : Nat) :
      member ∈ records callRecords key ↔ member ∈ records callRecords key ∧ member ≠ record := by
    refine ⟨fun present => ⟨present, ?_⟩, And.left⟩
    rintro rfl
    exact never key present
  have singletonOwn (key : String) (present : record ∈ records container.callProxyRecords key) :=
    (filed.singleton key record present).2.1.symm
  have multipleOwn (key : String)
      (present : record ∈ records container.multipleCallProxyRecords key) :=
    (filed.multiple key record present).2.1.symm
  unfold removeCallLocalRecord
  dsimp only
  split
  next single =>
    have unshared (key : String) : record ∉ records container.multipleCallProxyRecords key := by
      intro present
      rw [(filed.multiple key record present).2.2] at single
      cases single
    cases found : container.callProxyRecords[container.elementURI env record]? with
    | none =>
      refine ⟨_, _, rfl, filed.singletons, filed.multiples, ?_, without unshared⟩
      exact without fun key present => absent singletonOwn found present
    | some held =>
      refine ⟨_, _, rfl, wellFormed_putBack_erase filed.singletons record found, filed.multiples,
        ?_, without unshared⟩
      exact mem_putBack_erase filed.singletons singletonOwn found
  next several =>
    have unshared (key : String) : record ∉ records container.callProxyRecords key :=
      fun present => several (filed.singleton key record present).2.2
    cases found : container.multipleCallProxyRecords[container.elementURI env record]? with
    | none =>
      refine ⟨_, _, rfl, filed.singletons, filed.multiples, without unshared, ?_⟩
      exact without fun key present => absent multipleOwn found present
    | some held =>
      refine ⟨_, _, rfl, filed.singletons,
        wellFormed_putBack_erase filed.multiples record found, without unshared, ?_⟩
      exact mem_putBack_erase filed.multiples multipleOwn found

theorem Filed.release (filed : container.Filed env)
    (owned : (container.connection connection).localCallRecord = some record) :
    ((((container.removeCallLocalRecord env record).getD container).removeCallerConnection
      connection).clearCallRecord connection).Filed env := by
  obtain ⟨singletons, multiples, unlisted, single, several, memSingle, memSeveral⟩ :=
    filed.unlisted record
  have current := (filed.owner connection record owned).1
  rw [unlisted]
  unfold removeCallerConnection clearCallRecord setConnection
  have placed (other : Nat) : (∃ key, other ∈ records singletons key ∨
      other ∈ records multiples key) ↔ container.Placed other ∧ other ≠ record := by
    simp only [memSingle, memSeveral, <- or_and_right, exists_and_right]
    exact Iff.rfl
  refine {
    singletons := single, multiples := several, singleton := ?_, multiple := ?_, exact := ?_
    owner := ?_, owned := ?_
    connected := fun other there => filed.connected other ((placed other).mp there).1 }
  · exact fun key other present => filed.singleton key other ((memSingle key other).mp present).1
  · exact fun key other present => filed.multiple key other ((memSeveral key other).mp present).1
  · intro other
    rw [mem_filter, decide_eq_true_eq]
    constructor
    · rintro ⟨present, ne⟩
      obtain ⟨member, kept, here⟩ := (filed.exact other).mp present
      have owns := filed.kept_owned kept here
      refine ⟨member, ?_, here⟩
      rcases kept with ⟨at_, same, awaited, -⟩ | there
      · cases here.symm.trans same
        refine .inl ⟨other, here, ?_⟩
        dsimp only
        rw [update_of_ne ne]
        exact ⟨awaited, owns⟩
      · refine .inr ((placed member).mpr ⟨there, ?_⟩)
        rintro rfl
        exact ne (Option.some.inj (here.symm.trans current))
    · rintro ⟨member, kept, here⟩
      rcases kept with ⟨at_, same, awaited, owns⟩ | there
      · cases (show _ = some at_ from same).symm.trans here
        have ne : other ≠ connection := by
          rintro rfl
          dsimp only at owns
          rw [update_self] at owns
          cases owns
        dsimp only at awaited owns
        rw [update_of_ne ne] at awaited owns
        exact ⟨(filed.exact other).mpr ⟨member, .inl ⟨other, here, awaited, owns⟩, here⟩, ne⟩
      · obtain ⟨before, other_⟩ := (placed member).mp there
        refine ⟨(filed.exact other).mpr ⟨member, .inr before, here⟩, ?_⟩
        rintro rfl
        have owns := filed.owned member other before here
        exact other_ (Option.some.inj (owns.symm.trans owned))
  · intro other member owns
    dsimp only at owns
    rw [update_apply] at owns
    split at owns
    · cases owns
    · exact filed.owner other member owns
  · intro member other there here
    obtain ⟨before, ne⟩ := (placed member).mp there
    have owns := filed.owned member other before here
    have apart : other ≠ connection := by
      rintro rfl
      exact ne (Option.some.inj (owns.symm.trans owned))
    dsimp only
    rw [update_of_ne apart]
    exact owns

theorem clearCallRecord_clearData (record connection : Nat) :
    (container.clearData record).clearCallRecord connection =
      (container.clearCallRecord connection).clearData record := by
  unfold clearData clearCallRecord LocalCallContainer.setConnection
  split <;> rfl

theorem Filed.connect (filed : container.Filed env) (unplaced : ¬container.Placed record)
    (unowned : ∀ connection, (container.connection connection).localCallRecord ≠ some record)
    (made : record < container.nextRecord) {isHeld isAwaited : Bool} {connections : List Nat}
    (exact : ∀ connection, connection ∈ connections ↔
      connection = container.nextConnection ∧ isAwaited = true ∨
        connection ∈ container.connections) :
    Filed env { container with
      connections
      nextConnection := container.nextConnection + 1
      record := update container.record record
        { container.record record with connection := some container.nextConnection }
      connection := update container.connection container.nextConnection
        { localCallRecord := some record, isHeld, isAwaited } } := by
  let changed : LocalCallRecord :=
    { container.record record with connection := some container.nextConnection }
  have fields {Part : Type} (part : LocalCallRecord -> Part)
      (same : part changed = part (container.record record)) := part_update part same
  have apart {other connection : Nat}
      (owns : (container.connection connection).localCallRecord = some other) :
      other ≠ record ∧ connection ≠ container.nextConnection :=
    ⟨fun same => unowned connection (same ▸ owns),
      Nat.ne_of_lt (filed.owner connection other owns).2.1⟩
  refine { filed with
    singleton := ?_, multiple := ?_, exact := ?_, owner := ?_, owned := ?_, connected := ?_ }
  · intro key other present
    obtain ⟨earlier, own, single⟩ := filed.singleton key other present
    refine ⟨earlier, ?_, ?_⟩
    · exact (congrArg env.getURI (fields elementName rfl other)).trans own
    · exact (fields isSingleton rfl other).trans single
  · intro key other present
    obtain ⟨earlier, own, several⟩ := filed.multiple key other present
    refine ⟨earlier, ?_, ?_⟩
    · exact (congrArg env.getURI (fields elementName rfl other)).trans own
    · exact (fields isSingleton rfl other).trans several
  · intro connection
    dsimp only
    rw [exact]
    constructor
    · rintro (⟨rfl, awaited⟩ | present)
      · have current : (update container.record record changed record).connection =
            some container.nextConnection := by rw [update_self]
        refine ⟨record, .inl ⟨_, current, ?_⟩, current⟩
        dsimp only
        rw [update_self]
        exact ⟨awaited, rfl⟩
      · obtain ⟨other, kept, current⟩ := (filed.exact connection).mp present
        have owns := filed.kept_owned kept current
        obtain ⟨ne, before⟩ := apart owns
        have still : (update container.record record changed other).connection =
            some connection := by rw [update_of_ne ne]; exact current
        refine ⟨other, ?_, still⟩
        rcases kept with ⟨at_, same, awaited, -⟩ | placed
        · cases current.symm.trans same
          refine .inl ⟨connection, still, ?_⟩
          dsimp only
          rw [update_of_ne before]
          exact ⟨awaited, owns⟩
        · exact .inr placed
    · rintro ⟨other, kept, current⟩
      rcases kept with ⟨at_, same, awaited, owns⟩ | placed
      · cases (show _ = some at_ from same).symm.trans current
        by_cases new : connection = container.nextConnection
        · refine .inl ⟨new, ?_⟩
          dsimp only at awaited
          rwa [new, update_self] at awaited
        · dsimp only at awaited owns
          rw [update_of_ne new] at awaited owns
          rw [update_of_ne (apart owns).1] at current
          exact .inr ((filed.exact connection).mpr
            ⟨other, .inl ⟨connection, current, awaited, owns⟩, current⟩)
      · have ne : other ≠ record := by
          rintro rfl
          exact unplaced placed
        rw [update_of_ne ne] at current
        exact .inr ((filed.exact connection).mpr ⟨other, .inr placed, current⟩)
  · intro connection other owns
    dsimp only at owns ⊢
    rw [update_apply] at owns
    split at owns
    next new =>
      cases owns
      rw [update_self]
      exact ⟨congrArg some new.symm, new ▸ Nat.lt_succ_self _, made⟩
    · rw [update_of_ne (apart owns).1]
      obtain ⟨current, before, earlier⟩ := filed.owner connection other owns
      exact ⟨current, Nat.lt_succ_of_lt before, earlier⟩
  · intro other connection placed current
    have ne : other ≠ record := by
      rintro rfl
      exact unplaced placed
    dsimp only at current ⊢
    rw [update_of_ne ne] at current
    have owns := filed.owned other connection placed current
    rw [update_of_ne (apart owns).2]
    exact owns
  · intro other placed
    have ne : other ≠ record := by
      rintro rfl
      exact unplaced placed
    dsimp only
    rw [update_of_ne ne]
    exact filed.connected other placed

end LocalCallContainer

end AbilityRuntime.LocalCall
