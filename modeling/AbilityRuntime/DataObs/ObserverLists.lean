import Mathlib.Data.Finset.Basic
import AbilityRuntime.DataObs.Node
import AbilityRuntime.Library.FirstMatch
import AbilityRuntime.Library.KeyedMap
import AbilityRuntime.Library.Runs

set_option autoImplicit false

namespace AbilityRuntime.DataObs

open Library IDataAbilityObserver KeyedMap Option List Machine

inductive ObserverResult where
  | NO_ERROR
  | OBS_EXIST
  | NO_OBS_FOR_URI
  | DATAOBS_SERVICE_OBS_LIMMIT

structure ObserverNode where
  observer : IDataAbilityObserver
  userId : Int
  tokenId : UInt32
  pid : Int
  nodeId : Int
deriving DecidableEq, Repr

-- operator== of the nodes leaves out the process and the number of the node.
def ObserverNode.isEqual (node other : ObserverNode) : Bool :=
  node.observer = other.observer && node.userId = other.userId && node.tokenId = other.tokenId

def ObserverNode.object (node : ObserverNode) : Option Nat := node.observer.asObject

/-- What the two managers keep. A uri is its text, a recipient the object it was added to. -/
structure ObserverLists where
  observers : KeyedMap String (List ObserverNode) := ∅
  obsRecipient : Finset Nat := ∅

namespace ObserverLists

def addObsDeathRecipient (lists : ObserverLists) (dataObserver : IDataAbilityObserver) :
    ObserverLists :=
  match dataObserver.asObject with
  | none => lists
  | some object => { lists with obsRecipient := insert object lists.obsRecipient }

def removeObsDeathRecipient (lists : ObserverLists) (dataObserver : Option Nat) : ObserverLists :=
  match dataObserver with
  | none => lists
  | some object => { lists with obsRecipient := lists.obsRecipient.erase object }

-- The loop that looks for the remote object and counts the nodes of the token.
def admits (observerNode : ObserverNode) : List ObserverNode -> Nat -> ObserverResult
  | [], _ => .NO_ERROR
  | obs :: rest, tokenCount =>
    if obs.object = observerNode.object then .OBS_EXIST
    else if obs.tokenId = observerNode.tokenId then
      if tokenCount + 1 > OBS_NUM_MAX then .DATAOBS_SERVICE_OBS_LIMMIT
      else admits observerNode rest (tokenCount + 1)
    else admits observerNode rest tokenCount

def handleRegisterObserver (lists : ObserverLists) (uri : String) (observerNode : ObserverNode) :
    ObserverLists × ObserverResult :=
  let flag := (lists.observers.lookup uri).isNone
  let lists :=
    if flag then { lists with observers := lists.observers.insert uri [] } else lists
  let obsList := (lists.observers.lookup uri).getD []
  if !flag && obsList.length ≥ OBS_ALL_NUM_MAX then (lists, .DATAOBS_SERVICE_OBS_LIMMIT)
  else
    match admits observerNode obsList 0 with
    | .NO_ERROR =>
      ({ lists with
          observers := lists.observers.insert uri (obsList ++ [observerNode])
        }.addObsDeathRecipient observerNode.observer, .NO_ERROR)
    | refused => (lists, refused)

def haveRegistered (lists : ObserverLists) (dataObserver : IDataAbilityObserver) : Bool :=
  (KeyedMap.values lists.observers).any fun value => value.any (·.observer = dataObserver)

def handleUnregisterObserver (lists : ObserverLists) (uri : String) (observerNode : ObserverNode) :
    ObserverLists × ObserverResult :=
  match lists.observers.lookup uri with
  | none => (lists, .NO_OBS_FOR_URI)
  | some obsList =>
    match obsList.find? (·.object = observerNode.object) with
    | none => (lists, .NO_OBS_FOR_URI)
    | some obs =>
      let remaining := obsList.filter (!·.isEqual obs)
      let lists := { lists with
        observers :=
          if remaining.isEmpty then lists.observers.erase uri
          else lists.observers.insert uri remaining }
      if !lists.haveRegistered observerNode.observer then
        (lists.removeObsDeathRecipient observerNode.object, .NO_ERROR)
      else (lists, .NO_ERROR)

-- A list that the loop comes by is kept without the first node of the object, unless it is empty.
def withoutObject (dataObserver : Nat) (obsList : List ObserverNode) : Option (List ObserverNode) :=
  let obsList := obsList.eraseP fun obs => obs.object = some dataObserver
  if obsList.isEmpty then none else some obsList

def removeObs (lists : ObserverLists) (dataObserver : Nat) : ObserverLists :=
  { lists with
    observers := KeyedMap.filterMapValues (withoutObject dataObserver) lists.observers
    }.removeObsDeathRecipient (some dataObserver)

def onCallBackDied (lists : ObserverLists) (remote : Option Nat) : ObserverLists :=
  match remote with
  | none => lists
  | some dataObserver => lists.removeObs dataObserver

inductive Call where
  | register (uri : String) (observerNode : ObserverNode)
  | unregister (uri : String) (observerNode : ObserverNode)
  | callBackDied (remote : Option Nat)

def apply (lists : ObserverLists) : Call -> ObserverLists
  | .register uri observerNode => (lists.handleRegisterObserver uri observerNode).1
  | .unregister uri observerNode => (lists.handleUnregisterObserver uri observerNode).1
  | .callBackDied remote => lists.onCallBackDied remote

def machine : Machine ObserverLists Call := ⟨{}, apply⟩

def listAt (lists : ObserverLists) (uri : String) : List ObserverNode :=
  (lists.observers.lookup uri).getD []

def Holds (lists : ObserverLists) (uri : String) (object : Option Nat) : Prop :=
  ∃ node ∈ lists.listAt uri, node.object = object

structure Orderly (lists : ObserverLists) : Prop where
  recipients : ∀ object, object ∈ lists.obsRecipient ↔ ∃ uri, lists.Holds uri (some object)
  once : ∀ uri, ((lists.listAt uri).map ObserverNode.object).Nodup
  filled : ∀ uri, lists.observers.lookup uri ≠ some []
  died : ∀ object uri, (lists.onCallBackDied (some object)).listAt uri =
    (lists.listAt uri).filter (·.object ≠ some object)

/-- An object that stays registered elsewhere has the proxy of the call there. -/
def Call.Meets (lists : ObserverLists) : Call -> Prop
  | .unregister uri observerNode =>
    ∀ object, observerNode.object = some object -> lists.Holds uri (some object) ->
      (∃ other, other ≠ uri ∧ lists.Holds other (some object)) ->
        ∃ other, other ≠ uri ∧ ∃ node ∈ lists.listAt other, node.observer = observerNode.observer
  | _ => True

variable {lists : ObserverLists} {uri : String} {observerNode : ObserverNode}

theorem admits_fresh {obsList : List ObserverNode} {tokenCount : Nat}
    (admitted : admits observerNode obsList tokenCount = .NO_ERROR) :
    observerNode.object ∉ obsList.map ObserverNode.object := by
  induction obsList generalizing tokenCount with
  | nil => simp
  | cons obs rest ih =>
    unfold admits at admitted
    split at admitted
    · cases admitted
    next ne =>
      have later : observerNode.object ∉ rest.map ObserverNode.object := by
        split at admitted
        · split at admitted
          · cases admitted
          · exact ih admitted
        · exact ih admitted
      rw [map_cons, mem_cons, not_or]
      exact ⟨fun same => ne same.symm, later⟩

theorem handleRegisterObserver_cases (lists : ObserverLists) (uri : String)
    (observerNode : ObserverNode) :
    (lists.handleRegisterObserver uri observerNode).1 = lists ∨
      observerNode.object ∉ (lists.listAt uri).map ObserverNode.object ∧
      (∀ other, (lists.handleRegisterObserver uri observerNode).1.observers.lookup other =
        if other = uri then some (lists.listAt uri ++ [observerNode])
        else lists.observers.lookup other) ∧
      ∀ object, object ∈ (lists.handleRegisterObserver uri observerNode).1.obsRecipient ↔
        observerNode.object = some object ∨ object ∈ lists.obsRecipient := by
  have added : ∀ (grown : ObserverLists) (object : Nat),
      object ∈ (grown.addObsDeathRecipient observerNode.observer).obsRecipient ↔
        observerNode.object = some object ∨ object ∈ grown.obsRecipient := by
    unfold addObsDeathRecipient ObserverNode.object
    cases observerNode.observer.asObject with
    | none => simp
    | some own => simp [eq_comm]
  have observers : ∀ grown : ObserverLists,
      (grown.addObsDeathRecipient observerNode.observer).observers = grown.observers := by
    intro grown
    unfold addObsDeathRecipient
    split <;> rfl
  unfold handleRegisterObserver
  cases found : lists.observers.lookup uri with
  | none =>
    right
    have empty : lists.listAt uri = [] := by rw [listAt, found, getD_none]
    simp only [isNone_none, if_true, AList.lookup_insert, getD_some, Bool.not_true,
      Bool.false_and, Bool.false_eq_true, if_false, admits]
    refine ⟨by simp [empty], fun other => ?_, added _⟩
    rw [observers, lookup_insert_eq, lookup_insert_eq, empty]
    split <;> rfl
  | some obsList =>
    have same : lists.listAt uri = obsList := by rw [listAt, found, getD_some]
    simp only [isNone_some, Bool.false_eq_true, if_false, found, getD_some,
      Bool.not_false, Bool.true_and]
    split
    · exact .inl rfl
    · split
      next admitted =>
        right
        rw [same]
        refine ⟨admits_fresh admitted, fun other => ?_, added _⟩
        rw [observers, lookup_insert_eq]
      · exact .inl rfl

/-- What the steps keep. A death takes what it should wherever the pairs are registered once. -/
structure Sorted (lists : ObserverLists) : Prop where
  recipients : ∀ object, object ∈ lists.obsRecipient ↔ ∃ uri, lists.Holds uri (some object)
  once : ∀ uri, ((lists.listAt uri).map ObserverNode.object).Nodup
  filled : ∀ uri, lists.observers.lookup uri ≠ some []

def kept (obsList : List ObserverNode) : Option (List ObserverNode) :=
  if obsList.isEmpty then none else some obsList

theorem kept_getD (obsList : List ObserverNode) : (kept obsList).getD [] = obsList := by
  cases obsList <;> rfl

theorem kept_filled (obsList : List ObserverNode) : kept obsList ≠ some [] := by
  cases obsList <;> simp [kept]

theorem filter_isEqual {obsList : List ObserverNode} {obs : ObserverNode}
    (once : (obsList.map ObserverNode.object).Nodup) (held : obs ∈ obsList) :
    obsList.filter (!·.isEqual obs) = obsList.filter (·.object ≠ obs.object) := by
  refine filter_congr fun node inside => ?_
  by_cases same : node.object = obs.object
  · have : node = obs := inj_on_of_nodup_map once inside held same
    simp [this, ObserverNode.isEqual]
  · have ne : node.observer ≠ obs.observer := fun proxy =>
      same (congrArg asObject proxy)
    simp [ObserverNode.isEqual, ne, same]

theorem Sorted.orderly (sorted : lists.Sorted) : lists.Orderly where
  __ := sorted
  died := by
    intro object uri
    have once := sorted.once uri
    unfold listAt at once ⊢
    rw [onCallBackDied, removeObs, removeObsDeathRecipient, lookup_filterMapValues]
    cases found : lists.observers.lookup uri with
    | none => rfl
    | some obsList =>
      rw [found, getD_some] at once
      rw [bind_some, getD_some, <- Library.eraseP_of_nodup once]
      exact kept_getD _

theorem haveRegistered_iff {dataObserver : IDataAbilityObserver} :
    lists.haveRegistered dataObserver = true ↔
      ∃ uri, ∃ node ∈ lists.listAt uri, node.observer = dataObserver := by
  simp only [haveRegistered, List.any_eq_true, decide_eq_true_eq, mem_values]
  constructor
  · rintro ⟨obsList, ⟨uri, found⟩, node, inside, proxy⟩
    refine ⟨uri, node, ?_, proxy⟩
    rwa [listAt, found]
  · rintro ⟨uri, node, inside, proxy⟩
    unfold listAt at inside
    cases found : lists.observers.lookup uri with
    | none => simp [found] at inside
    | some obsList => exact ⟨obsList, ⟨uri, found⟩, node, by simpa [found] using inside, proxy⟩

@[simp] theorem removeObsDeathRecipient_observers (dataObserver : Option Nat) :
    (lists.removeObsDeathRecipient dataObserver).observers = lists.observers := by
  cases dataObserver <;> rfl

theorem listAt_removeObsDeathRecipient (dataObserver : Option Nat) :
    (lists.removeObsDeathRecipient dataObserver).listAt = lists.listAt := by
  cases dataObserver <;> rfl

theorem mem_removeObsDeathRecipient {dataObserver : Option Nat} {object : Nat} :
    object ∈ (lists.removeObsDeathRecipient dataObserver).obsRecipient ↔
      object ∈ lists.obsRecipient ∧ dataObserver ≠ some object := by
  cases dataObserver with
  | none => simp [removeObsDeathRecipient]
  | some own => simp [removeObsDeathRecipient, and_comm, eq_comm]

theorem handleUnregisterObserver_cases (uri : String) (observerNode : ObserverNode)
    (once : ((lists.listAt uri).map ObserverNode.object).Nodup) :
    (¬ lists.Holds uri observerNode.object ∧
      (lists.handleUnregisterObserver uri observerNode).1 = lists) ∨
    lists.Holds uri observerNode.object ∧
    (∀ other, (lists.handleUnregisterObserver uri observerNode).1.observers.lookup other =
      if other = uri then kept ((lists.listAt uri).filter (·.object ≠ observerNode.object))
      else lists.observers.lookup other) ∧
    ∀ object, object ∈ (lists.handleUnregisterObserver uri observerNode).1.obsRecipient ↔
      object ∈ lists.obsRecipient ∧ (observerNode.object = some object ->
        ∃ other, ∃ node ∈ (lists.handleUnregisterObserver uri observerNode).1.listAt other,
          node.observer = observerNode.observer) := by
  unfold handleUnregisterObserver
  cases found : lists.observers.lookup uri with
  | none =>
    left
    refine ⟨?_, rfl⟩
    rintro ⟨node, inside, _⟩
    simp [listAt, found] at inside
  | some obsList =>
    have same : lists.listAt uri = obsList := by rw [listAt, found, getD_some]
    dsimp only
    cases sought : obsList.find? (·.object = observerNode.object) with
    | none =>
      left
      refine ⟨?_, rfl⟩
      rintro ⟨node, inside, own⟩
      rw [same] at inside
      simpa [own] using find?_eq_none.mp sought node inside
    | some obs =>
      right
      have held : obs ∈ obsList := mem_of_find?_eq_some sought
      have own : obs.object = observerNode.object := by simpa using find?_some sought
      rw [same] at once
      refine ⟨⟨obs, by rwa [same], own⟩, ?_⟩
      have removed : ∀ other, (if (obsList.filter (!·.isEqual obs)).isEmpty then
          lists.observers.erase uri
          else lists.observers.insert uri (obsList.filter (!·.isEqual obs))).lookup other =
            if other = uri then kept ((lists.listAt uri).filter (·.object ≠ observerNode.object))
            else lists.observers.lookup other := by
        intro other
        rw [filter_isEqual once held, own, same, kept]
        split
        · exact lookup_erase_eq lists.observers uri other
        · exact lookup_insert_eq lists.observers uri other _
      dsimp only
      generalize (if (obsList.filter (!·.isEqual obs)).isEmpty then lists.observers.erase uri
        else lists.observers.insert uri (obsList.filter (!·.isEqual obs))) = observers at removed ⊢
      split
      next unregistered =>
        rw [Bool.not_eq_true', <- Bool.not_eq_true, haveRegistered_iff] at unregistered
        refine ⟨fun other => ?_, fun object => ?_⟩
        · rw [removeObsDeathRecipient_observers]
          exact removed other
        · rw [mem_removeObsDeathRecipient, listAt_removeObsDeathRecipient]
          refine and_congr_right fun _ => ⟨fun ne same => ?_, fun left same => ?_⟩
          · exact absurd same ne
          · exact unregistered (left same)
      next registered =>
        have left := haveRegistered_iff.mp (by simpa using registered)
        exact ⟨removed, fun object => ⟨fun held => ⟨held, fun _ => left⟩, And.left⟩⟩

theorem Sorted.register (sorted : lists.Sorted) (uri : String) (observerNode : ObserverNode) :
    (lists.handleRegisterObserver uri observerNode).1.Sorted := by
  rcases lists.handleRegisterObserver_cases uri observerNode with
    unchanged | ⟨fresh, lookup, recipients⟩
  · rwa [unchanged]
  have listed : ∀ other, (lists.handleRegisterObserver uri observerNode).1.listAt other =
      if other = uri then lists.listAt uri ++ [observerNode] else lists.listAt other := by
    intro other
    rw [listAt, lookup]
    split <;> rfl
  constructor
  case recipients =>
    intro object
    rw [recipients, sorted.recipients]
    constructor
    · rintro (own | ⟨other, held⟩)
      · exact ⟨uri, observerNode, by simp [listed], own⟩
      · obtain ⟨node, inside, own⟩ := held
        refine ⟨other, node, ?_, own⟩
        rw [listed]
        split
        next same => exact mem_append_left _ (same ▸ inside)
        · exact inside
    · rintro ⟨other, node, inside, own⟩
      rw [listed] at inside
      split at inside
      · rcases mem_append.mp inside with before | added
        · exact .inr ⟨uri, node, before, own⟩
        · exact .inl (mem_singleton.mp added ▸ own)
      · exact .inr ⟨other, node, inside, own⟩
  case once =>
    intro other
    rw [listed]
    split
    · rw [map_append, map_singleton, nodup_append]
      refine ⟨sorted.once uri, nodup_singleton _, fun object inside added own => ?_⟩
      rintro rfl
      exact fresh (mem_singleton.mp own ▸ inside)
    · exact sorted.once other
  case filled =>
    intro other
    rw [lookup]
    split
    · simp
    · exact sorted.filled other

theorem Sorted.callBackDied (sorted : lists.Sorted) (remote : Option Nat) :
    (lists.onCallBackDied remote).Sorted := by
  cases remote with
  | none => exact sorted
  | some dead =>
    have listed := sorted.orderly.died dead
    constructor
    case recipients =>
      intro object
      have erased : (lists.onCallBackDied (some dead)).obsRecipient =
        lists.obsRecipient.erase dead := rfl
      rw [erased, Finset.mem_erase, sorted.recipients, <- exists_and_left]
      refine exists_congr fun other => ?_
      simp only [Holds, listed, mem_filter, decide_eq_true_eq]
      constructor
      · rintro ⟨alive, node, inside, own⟩
        exact ⟨node, ⟨inside, fun same => alive (Option.some.inj (own.symm.trans same))⟩, own⟩
      · rintro ⟨node, ⟨inside, alive⟩, own⟩
        exact ⟨fun same => alive (own.trans (congrArg some same)), node, inside, own⟩
    case once =>
      intro other
      rw [listed]
      exact (sorted.once other).sublist (filter_sublist.map _)
    case filled =>
      intro other
      have lookup : (lists.onCallBackDied (some dead)).observers.lookup other =
          (lists.observers.lookup other).bind (withoutObject dead) :=
        lookup_filterMapValues _ _ _
      rw [lookup]
      cases lists.observers.lookup other with
      | none => nofun
      | some obsList => exact kept_filled _

theorem Sorted.unregister_iff (sorted : lists.Sorted) (uri : String)
    (observerNode : ObserverNode) :
    (lists.handleUnregisterObserver uri observerNode).1.Sorted ↔
      (Call.unregister uri observerNode).Meets lists := by
  rcases handleUnregisterObserver_cases uri observerNode (sorted.once uri) with
    ⟨missing, unchanged⟩ | ⟨held, lookup, recipients⟩
  · rw [unchanged]
    refine iff_of_true sorted fun object own registered => ?_
    exact absurd (own ▸ registered) missing
  have listed : ∀ other, (lists.handleUnregisterObserver uri observerNode).1.listAt other =
      if other = uri then (lists.listAt uri).filter (·.object ≠ observerNode.object)
      else lists.listAt other := by
    intro other
    rw [listAt, lookup]
    split
    · exact kept_getD _
    · rfl
  have left : ∀ (sought : ObserverNode -> Prop) (_ : ∀ node, sought node ->
        node.object = observerNode.object),
      (∃ other, ∃ node ∈ (lists.handleUnregisterObserver uri observerNode).1.listAt other,
        sought node) ↔
      ∃ other, other ≠ uri ∧ ∃ node ∈ lists.listAt other, sought node := by
    intro sought same
    refine exists_congr fun other => ?_
    rw [listed]
    split
    next here =>
      refine iff_of_false ?_ fun elsewhere => elsewhere.1 here
      rintro ⟨node, inside, found⟩
      exact of_decide_eq_true (mem_filter.mp inside).2 (same node found)
    next elsewhere => exact (and_iff_right elsewhere).symm
  have proxies := left (·.observer = observerNode.observer) fun node same => congrArg asObject same
  constructor
  · intro after object own registered elsewhere
    have kept := (after.recipients object).mpr
      ((left (·.object = some object) fun node same => same.trans own.symm).mpr elsewhere)
    exact proxies.mp (((recipients object).mp kept).2 own)
  · intro meets
    constructor
    case recipients =>
      intro object
      rw [recipients, sorted.recipients]
      by_cases own : observerNode.object = some object
      · have others := left (·.object = some object) fun node same => same.trans own.symm
        rw [show (∃ other, (lists.handleUnregisterObserver uri observerNode).1.Holds other
          (some object)) ↔ _ from others]
        constructor
        · rintro ⟨-, proxy⟩
          obtain ⟨other, ne, node, inside, same⟩ := proxies.mp (proxy own)
          exact ⟨other, ne, node, inside, (congrArg asObject same).trans own⟩
        · rintro ⟨other, ne, registered⟩
          exact ⟨⟨other, registered⟩, fun _ => proxies.mpr
            (meets object own (own ▸ held) ⟨other, ne, registered⟩)⟩
      · rw [and_iff_left fun same => absurd same own]
        refine exists_congr fun other => ?_
        unfold Holds
        rw [listed]
        split
        next here =>
          subst here
          refine exists_congr fun node => ?_
          rw [mem_filter, decide_eq_true_iff, and_assoc]
          refine and_congr_right fun _ => ?_
          exact (and_iff_right_of_imp fun sought same => own (same.symm.trans sought)).symm
        · rfl
    case once =>
      intro other
      rw [listed]
      split
      · exact (sorted.once uri).sublist (filter_sublist.map _)
      · exact sorted.once other
    case filled =>
      intro other
      rw [lookup]
      split
      · exact kept_filled _
      · exact sorted.filled other

theorem initial_sorted : machine.start.Sorted where
  recipients := fun object => iff_of_false (Finset.notMem_empty object)
    fun ⟨_, _, inside, _⟩ => not_mem_nil inside
  once := fun _ => nodup_nil
  filled := nofun

theorem Sorted.apply (sorted : lists.Sorted) (call : Call) (meets : call.Meets lists) :
    (lists.apply call).Sorted := by
  cases call with
  | register uri observerNode => exact sorted.register uri observerNode
  | unregister uri observerNode => exact (sorted.unregister_iff uri observerNode).mpr meets
  | callBackDied remote => exact sorted.callBackDied remote

theorem Sorted.meets (sorted : lists.Sorted) (call : Call) (orderly : (lists.apply call).Orderly) :
    call.Meets lists := by
  cases call with
  | register => trivial
  | unregister uri observerNode =>
    exact (sorted.unregister_iff uri observerNode).mp { orderly with }
  | callBackDied => trivial

theorem run_orderly_iff (calls : List Call) :
    machine.Throughout calls Orderly ↔
      machine.EveryStep calls fun lists call => call.Meets lists := by
  have promised : machine.EveryStep calls fun _ _ => True := fun _ _ _ _ => trivial
  exact throughout_iff_everyStep initial_sorted
    (fun _ call sorted _ meets => sorted.apply call meets)
    (fun _ sorted => sorted.orderly)
    (fun _ call sorted _ orderly => sorted.meets call orderly) promised

end ObserverLists

structure DataObsMgrInner extends ObserverLists

namespace DataObsMgrInner

def handleRegisterObserver (mgr : DataObsMgrInner) (uri : String) (observerNode : ObserverNode) :
    DataObsMgrInner × ObserverResult :=
  let (lists, result) := mgr.toObserverLists.handleRegisterObserver uri observerNode
  (⟨lists⟩, result)

def handleUnregisterObserver (mgr : DataObsMgrInner) (uri : String) (observerNode : ObserverNode) :
    DataObsMgrInner × ObserverResult :=
  let (lists, result) := mgr.toObserverLists.handleUnregisterObserver uri observerNode
  (⟨lists⟩, result)

def onCallBackDied (mgr : DataObsMgrInner) (remote : Option Nat) : DataObsMgrInner :=
  ⟨mgr.toObserverLists.onCallBackDied remote⟩

def apply (mgr : DataObsMgrInner) : ObserverLists.Call -> DataObsMgrInner
  | .register uri observerNode => (mgr.handleRegisterObserver uri observerNode).1
  | .unregister uri observerNode => (mgr.handleUnregisterObserver uri observerNode).1
  | .callBackDied remote => mgr.onCallBackDied remote

def machine : Machine DataObsMgrInner ObserverLists.Call := ⟨⟨{}⟩, apply⟩

theorem run_lists (calls : List ObserverLists.Call) :
    (machine.run calls).toObserverLists = ObserverLists.machine.run calls :=
  run_view DataObsMgrInner.toObserverLists rfl (fun _ call => by cases call <;> rfl) calls

end DataObsMgrInner

structure DataObsMgrInnerPref extends ObserverLists

namespace DataObsMgrInnerPref

def handleRegisterObserver (mgr : DataObsMgrInnerPref) (uri : String)
    (observerNode : ObserverNode) : DataObsMgrInnerPref × ObserverResult :=
  let (lists, result) := mgr.toObserverLists.handleRegisterObserver uri observerNode
  (⟨lists⟩, result)

def handleUnregisterObserver (mgr : DataObsMgrInnerPref) (uri : String)
    (observerNode : ObserverNode) : DataObsMgrInnerPref × ObserverResult :=
  let (lists, result) := mgr.toObserverLists.handleUnregisterObserver uri observerNode
  (⟨lists⟩, result)

def onCallBackDied (mgr : DataObsMgrInnerPref) (remote : Option Nat) : DataObsMgrInnerPref :=
  ⟨mgr.toObserverLists.onCallBackDied remote⟩

def apply (mgr : DataObsMgrInnerPref) : ObserverLists.Call -> DataObsMgrInnerPref
  | .register uri observerNode => (mgr.handleRegisterObserver uri observerNode).1
  | .unregister uri observerNode => (mgr.handleUnregisterObserver uri observerNode).1
  | .callBackDied remote => mgr.onCallBackDied remote

def machine : Machine DataObsMgrInnerPref ObserverLists.Call := ⟨⟨{}⟩, apply⟩

theorem run_lists (calls : List ObserverLists.Call) :
    (machine.run calls).toObserverLists = ObserverLists.machine.run calls :=
  run_view DataObsMgrInnerPref.toObserverLists rfl (fun _ call => by cases call <;> rfl) calls

end DataObsMgrInnerPref

/-- Lists and recipients are in order exactly when no unregistration leaves another proxy. -/
theorem observer_lists_orderly_iff (calls : List ObserverLists.Call) :
    (DataObsMgrInner.machine.Throughout calls (·.toObserverLists.Orderly) ↔
      DataObsMgrInner.machine.EveryStep calls fun mgr call => call.Meets mgr.toObserverLists) ∧
    (DataObsMgrInnerPref.machine.Throughout calls (·.toObserverLists.Orderly) ↔
      DataObsMgrInnerPref.machine.EveryStep calls fun mgr call =>
        call.Meets mgr.toObserverLists) := by
  unfold Throughout EveryStep
  simp only [DataObsMgrInner.run_lists, DataObsMgrInnerPref.run_lists]
  exact ⟨ObserverLists.run_orderly_iff calls, ObserverLists.run_orderly_iff calls⟩

def proxyNode (proxy : Nat) : ObserverNode where
  observer := ⟨proxy, some 7⟩
  userId := 100
  tokenId := 1
  pid := 20
  nodeId := proxy

def unregisteredOnce : List ObserverLists.Call :=
  [.register "datashare:///media/photo" (proxyNode 1),
    .register "datashare:///media/audio" (proxyNode 2),
    .unregister "datashare:///media/photo" (proxyNode 3)]

theorem registered_without_recipient :
    (¬ DataObsMgrInner.machine.Throughout unregisteredOnce (·.toObserverLists.Orderly)) ∧
    ¬ DataObsMgrInnerPref.machine.Throughout unregisteredOnce (·.toObserverLists.Orderly) := by
  have lost : 7 ∉ (ObserverLists.machine.run unregisteredOnce).obsRecipient := by decide
  have held : (ObserverLists.machine.run unregisteredOnce).Holds "datashare:///media/audio"
      (some 7) := ⟨proxyNode 2, by decide, rfl⟩
  constructor
  · intro orderly
    have last := orderly unregisteredOnce [] (List.append_nil _).symm
    dsimp only at last
    exact lost ((last.recipients 7).mpr ⟨_, held⟩)
  · intro orderly
    have last := orderly unregisteredOnce [] (List.append_nil _).symm
    dsimp only at last
    exact lost ((last.recipients 7).mpr ⟨_, held⟩)

end AbilityRuntime.DataObs
