import AbilityRuntime.DataObs.DeathRecipients
import AbilityRuntime.DataObs.ObserverLists
import AbilityRuntime.DataObs.Refinement

set_option autoImplicit false

namespace AbilityRuntime.DataObs

open Library Option List Bool Node Nat Entry Registry Childrens DataObsMgrInnerExt
  DataObsMgrInnerPref KeyedMap

def Limited (perToken : Nat) (tokens : List UInt32) : Prop :=
  tokens.length ≤ OBS_ALL_NUM_MAX ∧ ∀ tokenId, tokens.count tokenId ≤ perToken

def Below (perToken : Nat) (tokens : List UInt32) (tokenId : UInt32) : Prop :=
  tokens.length < OBS_ALL_NUM_MAX ∧ tokens.count tokenId < perToken

variable {perToken : Nat} {tokens : List UInt32}

theorem limited_nil (perToken : Nat) : Limited perToken [] :=
  ⟨zero_le _, fun _ => zero_le _⟩

theorem Limited.sublist {fewer : List UInt32} (limited : Limited perToken tokens)
    (sub : fewer.Sublist tokens) : Limited perToken fewer :=
  ⟨sub.length_le.trans limited.1, fun tokenId => (sub.count_le tokenId).trans (limited.2 tokenId)⟩

theorem Limited.perm {others : List UInt32} (limited : Limited perToken tokens)
    (same : tokens.Perm others) : Limited perToken others :=
  ⟨same.length_eq ▸ limited.1, fun tokenId => same.count_eq tokenId ▸ limited.2 tokenId⟩

theorem Limited.add (limited : Limited perToken tokens) {tokenId : UInt32}
    (below : Below perToken tokens tokenId) : Limited perToken (tokens ++ [tokenId]) := by
  constructor
  · rw [length_append, length_singleton]
    exact below.1
  · intro other
    rw [count_append, count_singleton]
    by_cases same : tokenId = other
    · have room := below.2
      simp only [same, beq_self_eq_true, if_true] at room ⊢
      omega
    · simpa [same] using limited.2 other

namespace ObserverLists

variable {lists : ObserverLists} {uri : String} {observerNode : ObserverNode}

def tokensAt (lists : ObserverLists) (uri : String) : List UInt32 :=
  (lists.listAt uri).map ObserverNode.tokenId

/-- No uri holds too many, and a registration that keeps to the limits is not refused for them. -/
def KeepsLimits (perToken : Nat) (lists : ObserverLists) : Prop :=
  ∀ uri, Limited perToken (lists.tokensAt uri) ∧
    ∀ observerNode : ObserverNode, Below perToken (lists.tokensAt uri) observerNode.tokenId ->
      (lists.handleRegisterObserver uri observerNode).2 ≠ .DATAOBS_SERVICE_OBS_LIMMIT

theorem admits_limit {obsList : List ObserverNode} {tokenCount : Nat}
    (counted : tokenCount ≤ OBS_NUM_MAX) :
    (admits observerNode obsList tokenCount = .NO_ERROR ->
      tokenCount + (obsList.map ObserverNode.tokenId).count observerNode.tokenId ≤ OBS_NUM_MAX) ∧
    (admits observerNode obsList tokenCount = .DATAOBS_SERVICE_OBS_LIMMIT ->
      OBS_NUM_MAX < tokenCount + (obsList.map ObserverNode.tokenId).count observerNode.tokenId) := by
  induction obsList generalizing tokenCount with
  | nil => simpa [admits] using counted
  | cons obs rest ih =>
    rw [map_cons, count_cons]
    unfold admits
    split
    · simp
    · split
      next same =>
        simp only [same, beq_self_eq_true, if_true]
        split
        next past => exact ⟨by simp, fun _ => by omega⟩
        next within =>
          have later := ih (Nat.le_of_not_lt within)
          refine ⟨fun admitted => ?_, fun refused => ?_⟩
          · have := later.1 admitted
            omega
          · have := later.2 refused
            omega
      next ne => simpa [ne] using ih counted

theorem handleRegisterObserver_below (below : Below (OBS_NUM_MAX + 1) (lists.tokensAt uri)
      observerNode.tokenId) :
    (lists.handleRegisterObserver uri observerNode).2 ≠ .DATAOBS_SERVICE_OBS_LIMMIT := by
  have room := below.1
  have few := below.2
  rw [tokensAt, length_map] at room
  rw [tokensAt] at few
  unfold handleRegisterObserver
  cases found : lists.observers.lookup uri with
  | none => simp [admits]
  | some obsList =>
    rw [listAt, found, getD_some] at room few
    simp only [isNone_some, false_eq_true, if_false, found, getD_some,
      Bool.not_false, Bool.true_and, ge_iff_le, decide_eq_true_eq, not_le.mpr room]
    cases answer : admits observerNode obsList 0 with
    | NO_ERROR => simp
    | OBS_EXIST => simp
    | NO_OBS_FOR_URI => simp
    | DATAOBS_SERVICE_OBS_LIMMIT =>
      have past := (admits_limit (zero_le _)).2 answer
      omega

theorem listAt_insert (uri : String) (obsList : List ObserverNode) (other : String) :
    ({ lists with observers := lists.observers.insert uri obsList } : ObserverLists).listAt other =
      if other = uri then obsList else lists.listAt other := by
  rw [listAt, lookup_insert_eq]
  split <;> rfl

theorem addObsDeathRecipient_listAt (dataObserver : IDataAbilityObserver) :
    (lists.addObsDeathRecipient dataObserver).listAt = lists.listAt := by
  unfold addObsDeathRecipient
  cases dataObserver.asObject <;> rfl

theorem register_tokens (lists : ObserverLists) (uri : String) (observerNode : ObserverNode)
    (other : String) :
    (lists.handleRegisterObserver uri observerNode).1.tokensAt other = lists.tokensAt other ∨
      Below (OBS_NUM_MAX + 1) (lists.tokensAt other) observerNode.tokenId ∧
        (lists.handleRegisterObserver uri observerNode).1.tokensAt other =
          lists.tokensAt other ++ [observerNode.tokenId] := by
  unfold tokensAt handleRegisterObserver
  cases found : lists.observers.lookup uri with
  | none =>
    have empty : lists.listAt uri = [] := by rw [listAt, found, getD_none]
    simp only [isNone_none, if_true, AList.lookup_insert, getD_some, Bool.not_true,
      Bool.false_and, false_eq_true, if_false, admits]
    rw [addObsDeathRecipient_listAt, nil_append, AList.insert_insert, listAt_insert]
    split
    next same =>
      right
      rw [same, empty]
      exact ⟨⟨by decide, by simp⟩, rfl⟩
    · exact .inl rfl
  | some obsList =>
    have listed : lists.listAt uri = obsList := by rw [listAt, found, getD_some]
    simp only [isNone_some, false_eq_true, if_false, found, getD_some,
      Bool.not_false, Bool.true_and, ge_iff_le, decide_eq_true_eq]
    split
    · exact .inl rfl
    next room =>
      split
      next admitted =>
        rw [addObsDeathRecipient_listAt, listAt_insert]
        split
        next same =>
          right
          rw [same, listed]
          have few := (admits_limit (zero_le _)).1 admitted
          refine ⟨⟨?_, ?_⟩, map_append⟩
          · rw [length_map]
            omega
          · omega
        · exact .inl rfl
      · exact .inl rfl

theorem unregister_tokens (lists : ObserverLists) (uri : String) (observerNode : ObserverNode)
    (other : String) :
    ((lists.handleUnregisterObserver uri observerNode).1.tokensAt other).Sublist
      (lists.tokensAt other) := by
  refine Sublist.map _ ?_
  unfold handleUnregisterObserver
  cases found : lists.observers.lookup uri with
  | none => exact .refl _
  | some obsList =>
    dsimp only
    split
    · exact .refl _
    next obs _ =>
      have kept : (({ lists with
          observers :=
            if (obsList.filter (!·.isEqual obs)).isEmpty then lists.observers.erase uri
            else lists.observers.insert uri (obsList.filter (!·.isEqual obs)) } :
            ObserverLists).listAt other).Sublist (lists.listAt other) := by
        unfold listAt
        split
        · rw [lookup_erase_eq]
          split
          · exact nil_sublist _
          · exact .refl _
        · rw [lookup_insert_eq]
          split
          next same =>
            rw [same, found]
            exact filter_sublist
          · exact .refl _
      generalize (if (obsList.filter (!·.isEqual obs)).isEmpty then lists.observers.erase uri
        else lists.observers.insert uri (obsList.filter (!·.isEqual obs))) = observers at kept ⊢
      split
      · rw [listAt_removeObsDeathRecipient]
        exact kept
      · exact kept

theorem callBackDied_tokens (lists : ObserverLists) (remote : Option Nat) (other : String) :
    ((lists.onCallBackDied remote).tokensAt other).Sublist (lists.tokensAt other) := by
  refine Sublist.map _ ?_
  cases remote with
  | none => exact .refl _
  | some dead =>
    rw [onCallBackDied, removeObs, listAt_removeObsDeathRecipient]
    unfold listAt
    rw [lookup_filterMapValues]
    cases lists.observers.lookup other with
    | none => exact .refl _
    | some obsList =>
      have shorter : ((kept (obsList.eraseP fun obs => obs.object = some dead)).getD []).Sublist
          obsList := by
        rw [kept_getD]
        exact eraseP_sublist
      exact shorter

theorem apply_limited (limited : ∀ uri, Limited (OBS_NUM_MAX + 1) (lists.tokensAt uri))
    (call : Call) (uri : String) : Limited (OBS_NUM_MAX + 1) ((lists.apply call).tokensAt uri) := by
  cases call with
  | register place observerNode =>
    rcases register_tokens lists place observerNode uri with same | ⟨below, added⟩
    · rw [apply, same]
      exact limited uri
    · rw [apply, added]
      exact (limited uri).add below
  | unregister place observerNode =>
    exact (limited uri).sublist (unregister_tokens lists place observerNode uri)
  | callBackDied remote => exact (limited uri).sublist (callBackDied_tokens lists remote uri)

theorem run_keepsLimits (calls : List Call) :
    (machine.run calls).KeepsLimits (OBS_NUM_MAX + 1) := by
  have limited := machine.run_invariant
    (fun lists => ∀ uri, Limited (OBS_NUM_MAX + 1) (lists.tokensAt uri))
    (fun _ => limited_nil _) (fun _ call before => apply_limited before call) calls
  exact fun uri => ⟨limited uri, fun _ below => handleRegisterObserver_below below⟩

end ObserverLists

namespace Registry

def KeepsLimits (perToken : Nat) (registry : List Registration) : Prop :=
  ∀ path, Limited perToken ((entriesAt registry path).map tokenId)

variable {perToken : Nat} {registry others : List Registration}

theorem KeepsLimits.perm (keeps : KeepsLimits perToken registry) (same : registry.Perm others) :
    KeepsLimits perToken others :=
  fun path => (keeps path).perm (((same.filter _).map _).map _)

theorem KeepsLimits.filter (keeps : KeepsLimits perToken registry)
    (kept : Registration -> Bool) : KeepsLimits perToken (registry.filter kept) :=
  fun path => (keeps path).sublist (((filter_sublist.filter _).map _).map _)

theorem below_of_not_limited {path : List String} {entry : Entry}
    (free : limited registry path entry = false) :
    Below (OBS_NUM_MAX + 1) ((entriesAt registry path).map tokenId) entry.tokenId := by
  simp only [limited, isLimit, or_eq_false_iff, decide_eq_false_iff_not, not_le, not_lt] at free
  refine ⟨by simpa using free.1, lt_succ_of_le ?_⟩
  rw [List.count, countP_map]
  exact free.2

theorem limited_of_below {path : List String} {entry : Entry}
    (below : Below (OBS_NUM_MAX + 1) ((entriesAt registry path).map tokenId) entry.tokenId) :
    limited registry path entry = false := by
  have few := below.2
  have room := below.1
  rw [List.count, countP_map] at few
  rw [length_map] at room
  simp only [limited, isLimit, or_eq_false_iff, decide_eq_false_iff_not, not_le, not_lt]
  exact ⟨room, le_of_lt_succ few⟩

theorem KeepsLimits.add (keeps : KeepsLimits (OBS_NUM_MAX + 1) registry) (path : List String)
    (entry : Entry) : KeepsLimits (OBS_NUM_MAX + 1) (add registry path entry) := by
  unfold Registry.add
  cases free : limited registry path entry with
  | true => exact keeps
  | false =>
    intro other
    rw [if_neg Bool.false_ne_true, entriesAt_append, map_append]
    by_cases same : other = path
    · subst same
      have one : entriesAt [⟨other, entry⟩] other = [entry] := by simp [entriesAt]
      rw [one]
      exact (keeps other).add (below_of_not_limited free)
    · have none : entriesAt [⟨path, entry⟩] other = [] := by simp [entriesAt, Ne.symm same]
      rw [none, map_nil, append_nil]
      exact keeps other

end Registry

theorem Node.descend_entries {node found : Node} (tidy : node.Tidy) {path : List String}
    (reached : node.descend path = some found) :
    (entriesAt node.registrations path).Perm found.entrys := by
  induction path generalizing node with
  | nil =>
    obtain ⟨entrys, childrens⟩ := node
    cases reached
    rw [registrations, entriesAt_append, entriesAt_root,
      entriesAt_absent childrens.registrations_nonroot, append_nil]
    exact .refl _
  | cons name path ih =>
    obtain ⟨entrys, childrens⟩ := node
    obtain ⟨child, here, deeper⟩ := bind_eq_some_iff.mp reached
    have below := entriesAt_child tidy name path
    rw [here, getD_some] at below
    rw [registrations, entriesAt_append, entriesAt_root_child, nil_append]
    exact below.trans (ih (Tidy.find tidy here).2 deeper)

theorem Node.descend_none {node : Node} (tidy : node.Tidy) {path : List String}
    (missing : node.descend path = none) : entriesAt node.registrations path = [] := by
  induction path generalizing node with
  | nil => cases missing
  | cons name path ih =>
    obtain ⟨entrys, childrens⟩ := node
    rw [registrations, entriesAt_append, entriesAt_root_child, nil_append]
    have below := entriesAt_child tidy name path
    cases here : childrens.find name with
    | none =>
      rw [here] at below
      exact perm_nil.mp (below.trans (List.Perm.of_eq (Registry.entriesAt_absent (by
        simp [fresh, registrations, Childrens.registrations]))))
    | some child =>
      rw [here, getD_some] at below
      have deeper : child.descend path = none := by simpa [descend, here] using missing
      rw [ih (Tidy.find tidy here).2 deeper] at below
      exact perm_nil.mp below

namespace DataObsMgrInnerExt

def tokensAt (mgr : DataObsMgrInnerExt) (path : List String) : List UInt32 :=
  ((mgr.root.descend path).map Node.entrys).getD [] |>.map tokenId

/-- No node holds too many, and a registration within the limits is not refused for them. -/
def KeepsLimits (perToken : Nat) (mgr : DataObsMgrInnerExt) : Prop :=
  (∀ path, Limited perToken (mgr.tokensAt path)) ∧
    ∀ uri dataObserver info isDescendants,
      Below perToken (mgr.tokensAt uri.path) info.tokenId ->
      (∀ object, dataObserver.asObject = some object ->
        (mgr.addObsDeathRecipient object).2.isSome) ->
      (mgr.handleRegisterObserver uri dataObserver info isDescendants).2 ≠
        .DATAOBS_SERVICE_OBS_LIMMIT

variable {mgr : DataObsMgrInnerExt}

theorem tokensAt_perm (tidy : mgr.root.Tidy) (path : List String) :
    ((entriesAt mgr.root.registrations path).map tokenId).Perm (mgr.tokensAt path) := by
  unfold tokensAt
  cases reached : mgr.root.descend path with
  | none => rw [descend_none tidy reached]; exact .refl _
  | some found => exact (descend_entries tidy reached).map _

structure Bounded (mgr : DataObsMgrInnerExt) : Prop where
  tidy : mgr.root.Tidy
  keeps : Registry.KeepsLimits (OBS_NUM_MAX + 1) mgr.root.registrations

theorem handleRegisterObserver_bounded (bounded : mgr.Bounded) (uri : Uri)
    (dataObserver : IDataAbilityObserver) (info : ObserverInfo) (isDescendants : Bool) :
    (mgr.handleRegisterObserver uri dataObserver info isDescendants).1.Bounded := by
  have started : ∀ object, (mgr.addObsDeathRecipient object).1.Bounded := by
    intro object
    have root := addObsDeathRecipient_root mgr object
    exact ⟨root ▸ bounded.tidy, root ▸ bounded.keeps⟩
  simp only [handleRegisterObserver]
  split
  · exact bounded
  next object _ =>
    have before := started object
    split
    next full refused => rwa [refused] at before
    next held cell step =>
      rw [step] at before
      split
      · exact before
      · generalize Entry.mk dataObserver info.userId info.tokenId cell isDescendants info.pid
          held.nextEntryId = entry
        cases limited : limited held.root.registrations uri.path entry with
        | true =>
          rw [addObserver_limited before.tidy limited]
          exact ⟨by simpa using before.tidy, by simpa using before.keeps⟩
        | false =>
          obtain ⟨grown, added, registrations, tidy, -⟩ :=
            addObserver_added before.tidy limited held.refs
          rw [added]
          have keeps := before.keeps.add uri.path entry
          rw [add, limited, if_neg Bool.false_ne_true] at keeps
          exact ⟨tidy, keeps.perm registrations.symm⟩

theorem apply_bounded (bounded : mgr.Bounded) (call : Call) : (mgr.apply call).Bounded := by
  have died : ∀ remote, (mgr.onCallBackDied remote).Bounded := by
    intro remote
    cases remote with
    | none => exact bounded
    | some object =>
      obtain ⟨pruned, step, kept, tidy⟩ := removeObject_spec object mgr.root mgr.refs bounded.tidy
      simp only [onCallBackDied, step]
      refine ⟨by simpa using tidy, ?_⟩
      rw [removeObsDeathRecipient_root]
      exact (bounded.keeps.filter _).perm kept.symm
  cases call with
  | register uri dataObserver info isDescendants =>
    exact handleRegisterObserver_bounded bounded uri dataObserver info isDescendants
  | unregisterAt uri dataObserver =>
    simp only [apply, handleUnregisterObserverAt]
    split
    · exact bounded
    next object _ =>
      split
      · exact bounded
      · obtain ⟨pruned, step, kept, tidy⟩ :=
          removeObserver_spec bounded.tidy dataObserver uri.path mgr.refs
        rw [step]
        refine ⟨by simpa using tidy, ?_⟩
        rw [removeObsDeathRecipient_root]
        exact (bounded.keeps.filter _).perm kept.symm
  | unregister dataObserver =>
    rw [apply, handleUnregisterObserver_died]
    exact died dataObserver.asObject
  | callBackDied remote => exact died remote

theorem handleRegisterObserver_below (bounded : mgr.Bounded) {uri : Uri}
    {dataObserver : IDataAbilityObserver} {info : ObserverInfo} {isDescendants : Bool}
    (below : Below (OBS_NUM_MAX + 1) (mgr.tokensAt uri.path) info.tokenId)
    (room : ∀ object, dataObserver.asObject = some object ->
      (mgr.addObsDeathRecipient object).2.isSome) :
    (mgr.handleRegisterObserver uri dataObserver info isDescendants).2 ≠
      .DATAOBS_SERVICE_OBS_LIMMIT := by
  simp only [handleRegisterObserver]
  split
  · simp
  next object own =>
    have given := room object own
    have root := addObsDeathRecipient_root mgr object
    split
    next full refused => simp [refused] at given
    next held cell step =>
      rw [step] at root
      split
      · simp
      · generalize made : Entry.mk dataObserver info.userId info.tokenId cell isDescendants info.pid
          held.nextEntryId = entry
        have few : Below (OBS_NUM_MAX + 1)
            ((entriesAt held.root.registrations uri.path).map tokenId)
            entry.tokenId := by
          subst made
          have same := tokensAt_perm bounded.tidy uri.path
          rw [root]
          exact ⟨same.length_eq ▸ below.1, same.count_eq _ ▸ below.2⟩
        obtain ⟨grown, added, -⟩ := addObserver_added (root ▸ bounded.tidy)
          (limited_of_below few) held.refs
        rw [added]
        simp

theorem run_keepsLimits (calls : List Call) :
    (machine.run calls).KeepsLimits (OBS_NUM_MAX + 1) := by
  have initial : machine.start.Bounded := by
    refine ⟨trivial, fun path => ?_⟩
    simp [machine, DataObsMgrInnerExt.initial, fresh, Node.registrations,
      Childrens.registrations, Registry.entriesAt, limited_nil]
  have bounded := machine.run_invariant Bounded initial
    (fun _ call before => apply_bounded before call) calls
  refine ⟨fun path => ?_, fun _ _ _ _ below room =>
    handleRegisterObserver_below bounded below room⟩
  exact (bounded.keeps path).perm (tokensAt_perm bounded.tidy path)

end DataObsMgrInnerExt

/-- A uri holds at most `OBS_NUM_MAX` and one of a token, and nothing below is refused. -/
theorem registrations_limited :
    (∀ calls, DataObsMgrInner.machine.Throughout calls
      (·.toObserverLists.KeepsLimits (OBS_NUM_MAX + 1))) ∧
    (∀ calls, DataObsMgrInnerPref.machine.Throughout calls
      (·.toObserverLists.KeepsLimits (OBS_NUM_MAX + 1))) ∧
    ∀ calls, DataObsMgrInnerExt.machine.Throughout calls (·.KeepsLimits (OBS_NUM_MAX + 1)) := by
  refine ⟨fun calls done _ _ => ?_, fun calls done _ _ => ?_, fun calls done _ _ => ?_⟩
  · dsimp only
    rw [DataObsMgrInner.run_lists]
    exact ObserverLists.run_keepsLimits done
  · dsimp only
    rw [run_lists]
    exact ObserverLists.run_keepsLimits done
  · exact run_keepsLimits done

def photoUri : Uri := ⟨"datashare", "media", ["photo"]⟩

def fiftyOne : List ObserverLists.Call :=
  (List.range 51).map fun object =>
    .register "datashare:///media/photo" ⟨⟨object, some object⟩, 100, 1, 20, object⟩

def fiftyOneExt : List DataObsMgrInnerExt.Call :=
  (List.range 51).map fun object => .register photoUri ⟨object, some object⟩ ⟨1, 100, 20⟩ false

theorem fiftyOne_registered :
    (¬ DataObsMgrInner.machine.Throughout fiftyOne (·.toObserverLists.KeepsLimits OBS_NUM_MAX)) ∧
    (¬ machine.Throughout fiftyOne (·.toObserverLists.KeepsLimits OBS_NUM_MAX)) ∧
    ¬ machine.Throughout fiftyOneExt (·.KeepsLimits OBS_NUM_MAX) := by
  have lists : ((ObserverLists.machine.run fiftyOne).tokensAt
      "datashare:///media/photo").count 1 = 51 := by decide +kernel
  have nodes : ((machine.run fiftyOneExt).tokensAt photoUri.path).count 1 = 51 := by decide +kernel
  refine ⟨fun keeps => ?_, fun keeps => ?_, fun keeps => ?_⟩
  · have last := keeps fiftyOne [] (List.append_nil _).symm
    dsimp only at last
    rw [DataObsMgrInner.run_lists] at last
    have most := (last "datashare:///media/photo").1.2 1
    rw [lists] at most
    exact absurd most (by decide)
  · have last := keeps fiftyOne [] (append_nil _).symm
    dsimp only at last
    rw [run_lists] at last
    have most := (last "datashare:///media/photo").1.2 1
    rw [lists] at most
    exact absurd most (by decide)
  · have most := (keeps fiftyOneExt [] (append_nil _).symm).1 photoUri.path |>.2 1
    rw [nodes] at most
    exact absurd most (by decide)

end AbilityRuntime.DataObs
