import AbilityRuntime.LocalCall.CallConnections

set_option autoImplicit false

namespace AbilityRuntime.LocalCall

open Library RecordMap Function List LocalCallContainer Bool Sublist Option

namespace LocalCallContainer

variable {env : Environment} {container : LocalCallContainer}

def Alive (container : LocalCallContainer) (record : Nat) : Prop :=
  container.Placed record ∨ ∃ connection, container.isConnectionAlive connection = true ∧
    (container.connection connection).localCallRecord = some record

def callers (container : LocalCallContainer) (record : Nat) : List Nat :=
  (container.record record).callers

def released (container : LocalCallContainer) : List Nat := container.releases.map Prod.fst

structure Informed (container : LocalCallContainer) : Prop where
  once : container.released.Nodup
  distinct : ∀ record, container.Alive record -> (container.callers record).Nodup
  unreleased : ∀ record, container.Alive record -> ∀ callback ∈ container.callers record,
    callback ∉ container.released
  apart : ∀ record other callback, container.Alive record -> container.Alive other ->
    callback ∈ container.callers record -> callback ∈ container.callers other -> record = other

variable {after : LocalCallContainer}

variable {record : Nat}

theorem Alive.of_fewer (placed : after.Placed record -> container.Placed record)
    (alive : ∀ connection, after.isConnectionAlive connection = true ->
      container.isConnectionAlive connection = true)
    (owner : ∀ connection, (after.connection connection).localCallRecord = some record ->
      (container.connection connection).localCallRecord = some record)
    (lives : after.Alive record) : container.Alive record :=
  lives.imp placed fun ⟨connection, holds, owned⟩ =>
    ⟨connection, alive connection holds, owner connection owned⟩

theorem Informed.of_fewer (informed : container.Informed)
    (released : after.released = container.released)
    (alive : ∀ record, after.Alive record -> container.Alive record)
    (callers : ∀ record, (after.callers record).Sublist (container.callers record)) :
    after.Informed where
  once := released ▸ informed.once
  distinct := fun record lives => (informed.distinct record (alive record lives)).sublist (callers record)
  unreleased := fun record lives callback present => by
    rw [released]
    exact informed.unreleased record (alive record lives) callback ((callers record).subset present)
  apart := fun record other callback lives also here there =>
    informed.apart record other callback (alive record lives) (alive other also)
      ((callers record).subset here) ((callers other).subset there)

theorem Informed.release (informed : container.Informed) (lives : container.Alive record)
    {callbacks : List Nat} (some : callbacks.Sublist (container.callers record))
    (released : after.released = container.released ++ callbacks)
    (alive : ∀ other, after.Alive other -> container.Alive other)
    (callers : ∀ other, (after.callers other).Sublist (container.callers other))
    (rest : after.Alive record -> ∀ callback ∈ after.callers record, callback ∉ callbacks) :
    after.Informed where
  once := by
    rw [released, nodup_append]
    refine ⟨informed.once, (informed.distinct record lives).sublist some, ?_⟩
    rintro callback before _ now rfl
    exact informed.unreleased record lives callback (some.subset now) before
  distinct := fun other live => (informed.distinct other (alive other live)).sublist (callers other)
  unreleased := fun other live callback present again => by
    have before := (callers other).subset present
    rw [released] at again
    rcases mem_append.mp again with earlier | now
    · exact informed.unreleased other (alive other live) callback before earlier
    · have same := informed.apart other record callback (alive other live) lives before
        (some.subset now)
      exact rest (same ▸ live) callback (same ▸ present) now
  apart := fun other another callback live also here there =>
    informed.apart other another callback (alive other live) (alive another also)
      ((callers other).subset here) ((callers another).subset there)

theorem SameFiling.alive_iff (same : SameFiling container after)
    (held : ∀ connection, (after.connection connection).isHeld =
      (container.connection connection).isHeld) (record : Nat) :
    after.Alive record ↔ container.Alive record := by
  unfold Alive isConnectionAlive
  simp only [same.placed, same.connections, same.owner, held]

theorem clearData_callers (record other : Nat) :
    ((container.clearData record).callers other).Sublist (container.callers other) := by
  unfold clearData
  split
  · exact refl _
  · unfold callers setRecord
    dsimp only
    rw [update_apply]
    split
    · exact nil_sublist _
    · exact refl _

theorem clearData_connection (record : Nat) :
    (container.clearData record).connection = container.connection := by
  unfold clearData
  split <;> rfl

theorem clearData_releases (record : Nat) :
    (container.clearData record).releases = container.releases := by
  unfold clearData
  split <;> rfl

theorem releaseRecord_alive (filed : container.Filed env) {connection : Nat}
    (owned : (container.connection connection).localCallRecord = some record) (other : Nat)
    (lives : (container.releaseRecord env record connection).Alive other) :
    container.Alive other ∧ other ≠ record := by
  obtain ⟨singletons, multiples, unlisted, -, -, memSingle, memSeveral⟩ := filed.unlisted record
  unfold releaseRecord at lives
  rw [(sameFiling_clearData record).alive_iff fun _ => by rw [clearData_connection], unlisted]
    at lives
  rcases lives with ⟨key, present | present⟩ | ⟨held, alive, owner⟩
  · obtain ⟨before, ne⟩ := (memSingle key other).mp present
    exact ⟨.inl ⟨key, .inl before⟩, ne⟩
  · obtain ⟨before, ne⟩ := (memSeveral key other).mp present
    exact ⟨.inl ⟨key, .inr before⟩, ne⟩
  · unfold clearCallRecord removeCallerConnection setConnection at alive owner
    unfold isConnectionAlive at alive
    dsimp only at alive owner
    rw [update_apply] at owner
    split at owner
    · cases owner
    next ne =>
      rw [update_of_ne ne] at alive
      refine ⟨.inr ⟨held, ?_, owner⟩, ?_⟩
      · unfold isConnectionAlive
        rw [or_eq_true] at alive ⊢
        refine alive.imp_left fun present => ?_
        rw [decide_eq_true_eq] at present ⊢
        exact (mem_filter.mp present).1
      · rintro rfl
        have same := (filed.owner held other owner).1.symm.trans
          (filed.owner connection other owned).1
        exact ne (some.inj same)

theorem removeCallLocalRecord_fields (record : Nat) :
    ((container.removeCallLocalRecord env record).getD container).record = container.record ∧
      ((container.removeCallLocalRecord env record).getD container).releases =
        container.releases := by
  unfold removeCallLocalRecord
  dsimp only
  split
  · cases container.callProxyRecords[container.elementURI env record]? <;> exact ⟨rfl, rfl⟩
  · cases container.multipleCallProxyRecords[container.elementURI env record]? <;>
      exact ⟨rfl, rfl⟩

theorem releaseRecord_callers (record connection other : Nat) :
    ((container.releaseRecord env record connection).callers other).Sublist
      (container.callers other) := by
  have same : callers ((((container.removeCallLocalRecord env record).getD
      container).removeCallerConnection connection).clearCallRecord connection) other =
        container.callers other := by
    unfold callers clearCallRecord removeCallerConnection setConnection
    rw [(removeCallLocalRecord_fields record).1]
  rw [<- same]
  exact clearData_callers record other

theorem releaseRecord_released (record connection : Nat) :
    (container.releaseRecord env record connection).released = container.released := by
  unfold releaseRecord released
  rw [clearData_releases]
  exact congrArg (map Prod.fst) (removeCallLocalRecord_fields record).2

section

variable (informed : container.Informed)
include informed

theorem Informed.onAbilityDisconnectDone (filed : container.Filed env) (connection : Nat)
    (code : Int) :
    (container.onAbilityDisconnectDone env connection code).Informed := by
  rcases @onAbilityDisconnectDone_cases env container connection code with
    same | ⟨record, owned, alive, same⟩
  all_goals rw [same]
  · exact informed
  · have filedDied := (@sameFiling_invokeOnRelease container .onDied
      (container.record record).callers).filed filed
    refine informed.release (.inr ⟨connection, alive, owned⟩) (refl _) ?_ ?_ ?_ ?_
    · rw [releaseRecord_released]
      unfold released invokeOnRelease callers
      simp [comp_def]
    · exact fun other lives => (releaseRecord_alive filedDied owned other lives).1
    · exact fun other => releaseRecord_callers record connection other
    · exact fun lives => absurd rfl (releaseRecord_alive filedDied owned record lives).2

theorem Informed.removeCaller (lives : container.Alive record) (callback : Nat) :
    (container.removeCaller record callback).Informed := by
  have alive := (@sameFiling_removeCaller container record callback).alive_iff fun connection => by
    unfold LocalCallContainer.removeCaller
    dsimp only
    split <;> rfl
  by_cases mem : callback ∈ container.callers record
  · have removes : container.removeCaller record callback =
        (container.invokeOnRelease .onRelease [callback]).setRecord record
          { container.record record with callers := (container.callers record).erase callback } :=
      if_pos mem
    have callers (other : Nat) : (container.removeCaller record callback).callers other =
        if other = record then (container.callers record).erase callback
        else container.callers other := by
      rw [removes]
      unfold callers setRecord
      dsimp only
      rw [update_apply]
      split <;> rfl
    have nodup := informed.distinct record lives
    refine informed.release lives (singleton_sublist.mpr mem) ?_
      (fun other => (alive other).mp) ?_ ?_
    · rw [removes]
      unfold released invokeOnRelease setRecord
      rw [map_append]
      rfl
    · intro other
      rw [callers]
      split
      next same => rw [same]; exact erase_sublist
      · exact refl _
    · intro _ other present again
      rw [callers, if_pos rfl] at present
      rw [mem_singleton.mp again] at present
      exact (nodup.mem_erase_iff.mp present).1 rfl
  · have same : container.removeCaller record callback = container := if_neg mem
    rw [same]
    exact informed

theorem Informed.releaseCall (filed : container.Filed env) (callback : Option Nat)
    (isReleased : Bool) :
    (container.releaseCall env callback isReleased).2.Informed := by
  rcases @releaseCall_cases env container callback isReleased with
    same | ⟨caller, record, locked, rest⟩
  · rw [same]
    exact informed
  · have alive := (filter_eq_some_iff.mp locked).2
    have removed := informed.removeCaller ((isRecordAlive_iff filed).mp alive) caller
    rcases rest with same | ⟨connection, current, same⟩
    all_goals rw [same]
    · exact removed
    · have filing := @sameFiling_removeCaller container record caller
      have owned := (filing.owner connection).trans (filed.alive_owned alive current)
      exact removed.of_fewer (releaseRecord_released record connection)
        (fun other lives => (releaseRecord_alive (filing.filed filed) owned other lives).1)
        (releaseRecord_callers record connection)

theorem Informed.invokeCallBacks (record : Nat) : (container.invokeCallBacks record).Informed := by
  have filing := @sameFiling_invokeCallBacks container record
  obtain ⟨caller, calls, same⟩ := @invokeCallBacks_of container record
  rw [same] at filing ⊢
  exact informed.of_fewer rfl (fun other => (filing.alive_iff (fun _ => rfl) other).mp)
    fun _ => refl _

theorem Informed.onAbilityConnectDone (connection : Nat) (remoteObject : Option Nat) (code : Int) :
    (container.onAbilityConnectDone env connection remoteObject code).Informed := by
  unfold LocalCallContainer.onAbilityConnectDone
  split
  · exact informed
  next record owned =>
    split
    · exact informed
    next alive =>
      rw [not_eq_true, not_eq_false'] at alive
      refine Informed.invokeCallBacks ?_ record
      have lives : container.Alive record := .inr ⟨connection, alive, owned⟩
      have callers {changed : LocalCallRecord} {singletons multiples : CallRecords}
          {done : CallerConnection} (same : changed.callers = container.callers record)
          (other : Nat) : (callers { container with
            callProxyRecords := singletons
            multipleCallProxyRecords := multiples
            record := update container.record record changed
            connection := update container.connection connection done } other).Sublist
              (container.callers other) := by
        unfold callers
        dsimp only
        rw [update_apply]
        split
        next here => rw [here, same]; exact refl _
        · exact refl _
      have connections (other : Nat) : (update container.connection connection
          { container.connection connection with isAwaited := false } other).isHeld =
            (container.connection other).isHeld ∧
          (update container.connection connection
            { container.connection connection with isAwaited := false } other).localCallRecord =
              (container.connection other).localCallRecord := by
        rw [update_apply]
        split
        next here => rw [here]; exact ⟨rfl, rfl⟩
        · exact ⟨rfl, rfl⟩
      have alive {after : LocalCallContainer} (hands : after.connections = container.connections)
          (fields : after.connection = update container.connection connection
            { container.connection connection with isAwaited := false })
          (other : Nat) (placed : after.Placed other -> container.Placed other ∨ other = record)
          (live : after.Alive other) : container.Alive other := by
        rcases live with there | ⟨held, alive, owner⟩
        · rcases placed there with before | rfl
          · exact .inl before
          · exact lives
        · unfold isConnectionAlive at alive
          rw [hands, fields, (connections held).1] at alive
          rw [fields, (connections held).2] at owner
          exact .inr ⟨held, alive, owner⟩
      split
      · refine informed.of_fewer rfl (fun other => alive (by rfl) (by rfl) other ?_) (callers rfl)
        rintro ⟨key, single | several⟩
        · exact (mem_emplace.mp single).imp (fun before => ⟨key, .inl before⟩) And.right
        · exact .inl ⟨key, .inr several⟩
      · refine informed.of_fewer rfl (fun other => alive (by rfl) (by rfl) other ?_) (callers rfl)
        rintro ⟨key, single | several⟩
        · exact .inl ⟨key, .inl single⟩
        · exact (mem_emplace.mp several).imp (fun before => ⟨key, .inr before⟩) And.right

theorem Informed.clearFailedCallConnection
    (callback : Option Nat) : (container.clearFailedCallConnection env callback).Informed := by
  unfold LocalCallContainer.clearFailedCallConnection
  split
  · exact informed
  next connection _ =>
    have connections (other : Nat) : (update container.connection connection
        { container.connection connection with isAwaited := false } other).isHeld =
          (container.connection other).isHeld ∧
        (update container.connection connection
          { container.connection connection with isAwaited := false } other).localCallRecord =
            (container.connection other).localCallRecord := by
      rw [update_apply]
      split
      next here => rw [here]; exact ⟨rfl, rfl⟩
      · exact ⟨rfl, rfl⟩
    refine informed.of_fewer rfl (fun record => Alive.of_fewer id ?_ ?_) fun _ => refl _
    · intro other alive
      unfold isConnectionAlive setConnection at alive
      unfold isConnectionAlive
      rw [(connections other).1, or_eq_true] at alive
      rw [or_eq_true]
      refine alive.imp_left fun present => ?_
      rw [decide_eq_true_eq] at present ⊢
      exact (mem_filter.mp present).1
    · exact fun other owned => (connections other).2.symm.trans owned

theorem Informed.dropConnection (connection : Nat) :
    (container.dropConnection connection).Informed := by
  have filing := @sameFiling_dropConnection container connection
  refine informed.of_fewer rfl (fun record => Alive.of_fewer (filing.placed record).mp ?_ ?_)
    fun _ => refl _
  · intro other alive
    unfold isConnectionAlive LocalCallContainer.dropConnection setConnection at alive
    unfold isConnectionAlive
    rw [or_eq_true] at alive ⊢
    refine alive.imp_right fun held => ?_
    dsimp only at held
    rw [update_apply] at held
    split at held
    · cases held
    · exact held
  · exact fun other owned => (filing.owner other).symm.trans owned

end

variable {callback : Nat}

theorem Informed.add (informed : container.Informed)
    (fresh : ∀ other, container.Alive other -> callback ∉ container.callers other)
    (unreleased : callback ∉ container.released) (released : after.released = container.released)
    (callers : ∀ other, after.Alive other -> ∃ before,
      after.callers other = before ++ (if other = record then [callback] else []) ∧
        (before = [] ∨ container.Alive other ∧ before = container.callers other)) :
    after.Informed := by
  have earlier (other : Nat) (lives : after.Alive other) {caller : Nat}
      (present : caller ∈ after.callers other) :
      container.Alive other ∧ caller ∈ container.callers other ∨
        other = record ∧ caller = callback := by
    obtain ⟨before, same, was⟩ := callers other lives
    rw [same] at present
    rcases mem_append.mp present with old | new
    · rcases was with rfl | ⟨live, rfl⟩
      · cases old
      · exact .inl ⟨live, old⟩
    · split at new
      next is => exact .inr ⟨is, mem_singleton.mp new⟩
      · cases new
  refine {
    once := released ▸ informed.once, distinct := ?_, unreleased := ?_, apart := ?_ }
  · intro other lives
    obtain ⟨before, same, was⟩ := callers other lives
    rw [same, nodup_append]
    refine ⟨?_, ?_, ?_⟩
    · rcases was with rfl | ⟨live, rfl⟩
      · exact nodup_nil
      · exact informed.distinct other live
    · split <;> simp
    · rintro caller old _ new rfl
      split at new
      · rcases was with rfl | ⟨live, rfl⟩
        · cases old
        · exact fresh other live (mem_singleton.mp new ▸ old)
      · cases new
  · intro other lives caller present
    rw [released]
    rcases earlier other lives present with ⟨live, old⟩ | ⟨-, rfl⟩
    · exact informed.unreleased other live caller old
    · exact unreleased
  · intro other another caller lives also here there
    rcases earlier other lives here with ⟨live, old⟩ | ⟨is, rfl⟩
    · rcases earlier another also there with ⟨alive, older⟩ | ⟨-, rfl⟩
      · exact informed.apart other another caller live alive old older
      · exact absurd old (fresh other live)
    · rcases earlier another also there with ⟨alive, older⟩ | ⟨same, -⟩
      · exact absurd older (fresh another alive)
      · exact is.trans same.symm

def StartsFresh (env : Environment) (container : LocalCallContainer) (callback : Nat) : Prop :=
  (∀ record < container.nextRecord, container.isRecordAlive env record = true ->
    callback ∉ container.callers record) ∧ callback ∉ container.released

def Unheard (container : LocalCallContainer) (callback : Nat) : Prop :=
  (∀ record, container.Alive record -> callback ∉ container.callers record) ∧
    callback ∉ container.released

theorem StartsFresh.unheard (filed : container.Filed env)
    (fresh : container.StartsFresh env callback) : container.Unheard callback := by
  refine ⟨fun record lives => fresh.1 record ?_ ((isRecordAlive_iff filed).mpr lives), fresh.2⟩
  rcases lives with placed | ⟨connection, -, owned⟩
  · exact filed.placed_lt placed
  · exact (filed.owner connection record owned).2.2

theorem newCall_record (element : ElementName) (userId : Int) (callback : Nat) :
    (container.newCall element userId callback).record =
      update container.record container.nextRecord
        { elementName := element, userId, callers := [callback] } := by
  unfold newCall addCaller newRecord setRecord setCaller
  dsimp only
  rw [update_self, update_idem]
  rfl

theorem Informed.startNew (informed : container.Informed) (fresh : container.Unheard callback)
    (element : ElementName) (userId : Int) (retval : ErrCode) (isHeld : Bool)
    (unmade : container.nextConnection ∉ container.connections) :
    ((container.newCall element userId callback).startCall env container.nextRecord callback retval
      isHeld).2.Informed := by
  rw [startCall_of retval isHeld (newCall_linked ..) unmade]
  refine @Informed.add container _ container.nextRecord callback informed fresh.1 fresh.2 rfl
    fun other lives => ?_
  have callers : callers { container.newCall element userId callback with
      record := update (container.newCall element userId callback).record
        container.nextRecord
          { (container.newCall element userId callback).record container.nextRecord with
            connection := some container.nextConnection } } other =
        if other = container.nextRecord then [callback] else container.callers other := by
    unfold callers
    dsimp only
    rw [newCall_record, update_idem, update_self, update_apply]
    split <;> rfl
  by_cases new : other = container.nextRecord
  · rw [if_pos new]
    exact ⟨[], callers.trans (if_pos new), .inl rfl⟩
  · refine ⟨container.callers other, ?_, .inr ⟨?_, rfl⟩⟩
    · rw [if_neg new, append_nil]
      exact callers.trans (if_neg new)
    rcases lives with placed | ⟨connection, alive, owned⟩
    · exact .inl placed
    · dsimp only at owned
      rw [update_apply] at owned
      split at owned
      · exact absurd (some.inj owned).symm new
      next ne =>
        refine .inr ⟨connection, ?_, owned⟩
        unfold isConnectionAlive at alive ⊢
        dsimp only at alive
        rw [update_of_ne ne, or_eq_true, decide_eq_true_eq] at alive
        rw [or_eq_true, decide_eq_true_eq]
        refine alive.imp_left fun present => ?_
        split at present
        · exact (mem_cons.mp present).resolve_left ne
        · exact present

theorem Informed.addCaller (informed : container.Informed) (fresh : container.Unheard callback)
    (record remote : Nat) :
    ((container.addCaller record callback).invokeCallBack callback remote).Informed := by
  refine @Informed.add container _ record callback informed fresh.1 fresh.2 rfl fun other lives => ?_
  have filing := (@sameFiling_addCaller container record callback).trans
    (sameFiling_invokeCallBack callback remote)
  refine ⟨container.callers other, ?_, .inr ⟨(filing.alive_iff (fun _ => rfl) other).mp lives, rfl⟩⟩
  unfold LocalCallContainer.callers invokeCallBack LocalCallContainer.addCaller setRecord setCaller
  dsimp only
  rw [update_apply]
  split
  next same => rw [same]
  · rw [append_nil]

theorem Informed.startAbilityByCallInner (informed : container.Informed)
    (filed : container.Filed env) {request : CallRequest} {callback : Option Nat}
    (starts : ∀ caller ∈ callback, request.isEmptyWant = false ->
      container.StartsApart env request ∧ container.StartsFresh env caller)
    (retval : ErrCode) (isHeld : Bool) :
    (container.startAbilityByCallInner env request callback retval isHeld).2.Informed := by
  let userId := (container.getValidUserId request.accountId request.processUserId).1
  let known := (container.getValidUserId request.accountId request.processUserId).2
  have filing : SameFiling container known := sameFiling_getValidUserId _ _
  have same : known = { container with currentUserId := known.currentUserId } := getValidUserId_of ..
  have alive (record : Nat) : known.Alive record ↔ container.Alive record :=
    filing.alive_iff (fun _ => by rw [same]) record
  have callers : known.callers = container.callers := by rw [same]; rfl
  have released : known.released = container.released := by rw [same]; rfl
  have informedKnown : known.Informed := informed.of_fewer released (fun record => (alive record).mp)
    fun _ => callers ▸ refl _
  have unheard (caller : Nat) (fresh : container.StartsFresh env caller) : known.Unheard caller := by
    obtain ⟨waits, was⟩ := fresh.unheard filed
    unfold Unheard
    rw [callers, released]
    exact ⟨fun record lives => waits record ((alive record).mp lives), was⟩
  have apart := fun caller given nonempty => (starts caller given nonempty).1
  rcases @startAbilityByCallInner_cases env container request callback apart retval isHeld with
    result | ⟨caller, given, nonempty, result | ⟨record, remote, -, result⟩⟩
  · rw [result]
    exact informed
  all_goals
    have new := unheard caller (starts caller given nonempty).2
    rw [result]
  · rw [<- filing.nextRecord]
    exact informedKnown.startNew new request.element userId retval isHeld
      fun present => Nat.lt_irrefl _ ((filing.filed filed).made present)
  · exact informedKnown.addCaller new record remote

end LocalCallContainer

end AbilityRuntime.LocalCall
