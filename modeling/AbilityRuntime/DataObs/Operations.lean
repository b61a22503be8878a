import AbilityRuntime.DataObs.Registrations

set_option autoImplicit false

namespace AbilityRuntime.DataObs

open Registration Childrens List.Perm Function List Node Registry

namespace Registry

theorem limited_perm {left right : List Registration} (same : left.Perm right)
    (path : List String) (entry : Entry) : limited left path entry = limited right path entry := by
  have entries : (entriesAt left path).Perm (entriesAt right path) := (same.filter _).map _
  simp only [limited, isLimit, entries.length_eq, entries.countP_eq]

theorem entriesAt_append (left right : List Registration) (path : List String) :
    entriesAt (left ++ right) path = entriesAt left path ++ entriesAt right path := by
  simp [entriesAt]

theorem entriesAt_root (entrys : List Entry) : entriesAt (entrys.map (mk [])) [] = entrys := by
  simp [entriesAt, filter_map, comp_def]

theorem entriesAt_root_child (entrys : List Entry) (name : String) (path : List String) :
    entriesAt (entrys.map (mk [])) (name :: path) = [] := by
  simp [entriesAt, filter_map, comp_def]

theorem entriesAt_under (registry : List Registration) (name : String) (path : List String) :
    entriesAt (registry.map (under name)) (name :: path) = entriesAt registry path := by
  simp [entriesAt, filter_map, comp_def, under]

theorem entriesAt_absent {registry : List Registration} {path : List String}
    (absent : ∀ reg ∈ registry, reg.path ≠ path) :
    entriesAt registry path = [] := by
  simpa [entriesAt, filter_eq_nil_iff] using absent

end Registry

namespace Childrens

theorem registrations_nonroot (childrens : Childrens) :
    ∀ reg ∈ childrens.registrations, reg.path ≠ [] := by
  intro reg mem
  obtain ⟨name, rest, path, -⟩ := registrations_path mem
  simp [path]

theorem erase_path {childrens : Childrens} (tidy : childrens.Tidy) {name : String}
    {reg : Registration} (mem : reg ∈ (childrens.erase name).registrations)
    (path : List String) : reg.path ≠ name :: path := by
  obtain ⟨first, rest, shape, known⟩ := registrations_path mem
  intro same
  obtain ⟨rfl, -⟩ := List.cons.inj (shape.symm.trans same)
  exact (tidy.erase first).2 known

theorem entriesAt_child {childrens : Childrens} (tidy : childrens.Tidy) (name : String)
    (path : List String) :
    (entriesAt childrens.registrations (name :: path)).Perm
      (entriesAt ((childrens.find name).getD fresh).registrations path) := by
  have split := ((registrations_split childrens name).filter
    fun reg => reg.path == name :: path).map entry
  have others : entriesAt (childrens.erase name).registrations (name :: path) = [] :=
    entriesAt_absent fun reg mem => erase_path tidy mem path
  refine split.trans ?_
  change (entriesAt (_ ++ _) (name :: path)).Perm _
  rw [entriesAt_append, entriesAt_under, others, append_nil]

end Childrens

namespace Node

theorem fresh_tidy : fresh.Tidy := trivial

theorem found_tidy {childrens : Childrens} (tidy : childrens.Tidy) (name : String) :
    ((childrens.find name).getD fresh).Tidy := by
  cases found : childrens.find name with
  | none => exact fresh_tidy
  | some child => exact (tidy.find found).2

theorem vacant_registrations {node : Node} (vacant : node.vacant = true) :
    node.registrations = [] := by
  obtain ⟨entrys, childrens⟩ := node
  cases childrens with
  | nil => simpa [Node.vacant, Node.entrys, Node.childrens, empty, Node.registrations,
      Childrens.registrations] using vacant
  | cons key child rest =>
    simp [Node.vacant, Node.childrens, empty] at vacant

theorem limited_root (entrys : List Entry) (childrens : Childrens) (entry : Entry) :
    limited (mk entrys childrens).registrations [] entry = isLimit entrys entry := by
  simp only [limited, registrations, entriesAt_append, entriesAt_root,
    entriesAt_absent childrens.registrations_nonroot, append_nil]

theorem limited_child {childrens : Childrens} (tidy : childrens.Tidy) (entrys : List Entry)
    (name : String) (path : List String) (entry : Entry) :
    limited (mk entrys childrens).registrations (name :: path) entry =
      limited ((childrens.find name).getD fresh).registrations path entry := by
  have entries := entriesAt_child tidy name path
  simp only [limited, registrations, entriesAt_append,
    entriesAt_root_child, nil_append, isLimit, entries.length_eq, entries.countP_eq]

theorem limited_fresh (path : List String) (entry : Entry) :
    Registry.limited fresh.registrations path entry = false := by
  simp [Registry.limited, Registry.entriesAt, fresh, registrations, Childrens.registrations, isLimit,
    OBS_ALL_NUM_MAX, OBS_NUM_MAX]

theorem addObserver_limited {node : Node} (tidy : node.Tidy) {path : List String} {entry : Entry}
    (limited : limited node.registrations path entry = true) (refs : RefCells) :
    node.addObserver entry path refs = (node, refs, false) := by
  induction path generalizing node with
  | nil =>
    obtain ⟨entrys, childrens⟩ := node
    rw [limited_root] at limited
    simp [addObserver, limited]
  | cons name path ih =>
    obtain ⟨entrys, childrens⟩ := node
    rw [limited_child tidy] at limited
    cases found : childrens.find name with
    | none =>
      rw [found, Option.getD_none, limited_fresh] at limited
      cases limited
    | some child =>
      rw [found, Option.getD_some] at limited
      simp only [addObserver, found, Option.getD_some, ih (tidy.find found).2 limited,
        put_find found]

theorem addObserver_added {node : Node} (tidy : node.Tidy) {path : List String} {entry : Entry}
    (free : limited node.registrations path entry = false) (refs : RefCells) :
    ∃ added, node.addObserver entry path refs =
        (added, refs.increment entry.deathRecipientRef, true) ∧
      added.registrations.Perm (node.registrations ++ [⟨path, entry⟩]) ∧
      added.Tidy ∧ added.vacant = false := by
  induction path generalizing node with
  | nil =>
    obtain ⟨entrys, childrens⟩ := node
    rw [limited_root] at free
    refine ⟨mk (entrys ++ [entry]) childrens, by simp [addObserver, free], ?_, tidy, ?_⟩
    · simp only [registrations, map_append, append_assoc]
      exact perm_append_comm.append_left _
    · simp [vacant, Node.entrys]
  | cons name path ih =>
    obtain ⟨entrys, childrens⟩ := node
    rw [limited_child tidy] at free
    obtain ⟨child, added, registered, childTidy, used⟩ := ih (found_tidy tidy name) free
    refine ⟨mk entrys (childrens.put name child), by simp [addObserver, added], ?_,
      tidy.put name used childTidy, ?_⟩
    · have before := registrations_split childrens name
      have after := put_registrations childrens name child
      have below := registered.map (under name)
      simp only [registrations, append_assoc]
      refine append_left _ (after.trans ((below.append_right _).trans ?_))
      refine Perm.trans ?_ (before.symm.append_right _)
      simp only [map_append, map_cons, map_nil, under, append_assoc]
      exact perm_append_comm.append_left _
    · cases childrens with
      | nil => simp [vacant, childrens, put, empty]
      | cons key first rest =>
        simp only [vacant, childrens, put]
        split <;> simp [empty]

theorem addObserver_result {node : Node} (tidy : node.Tidy) (path : List String) (entry : Entry)
    (refs : RefCells) :
    (node.addObserver entry path refs).2.2 = !Registry.limited node.registrations path entry := by
  cases limited : limited node.registrations path entry with
  | true => rw [addObserver_limited tidy limited, Bool.not_true]
  | false =>
    obtain ⟨added, step, -, -, -⟩ := addObserver_added tidy limited refs
    rw [step, Bool.not_false]

end Node

namespace RefCells

def release (refs : RefCells) (entrys : List Entry) : RefCells :=
  fun cell => refs cell - UInt32.ofNat (entrys.countP fun entry => entry.deathRecipientRef == cell)

@[simp] theorem release_nil (refs : RefCells) : refs.release [] = refs := by
  funext cell
  simp [release]

theorem release_append (refs : RefCells) (left right : List Entry) :
    refs.release (left ++ right) = (refs.release left).release right := by
  funext cell
  simp only [release, countP_append, UInt32.ofNat_add]
  grind

theorem release_perm (refs : RefCells) {left right : List Entry} (same : left.Perm right) :
    refs.release left = refs.release right := by
  funext cell
  simp only [release, same.countP_eq]

theorem foldl_decrement (refs : RefCells) (entrys : List Entry) :
    entrys.foldl (fun refs entry => refs.decrement entry.deathRecipientRef) refs =
      refs.release entrys := by
  induction entrys generalizing refs with
  | nil => simp
  | cons entry rest ih =>
    rw [foldl_cons, ih]
    funext cell
    by_cases same : entry.deathRecipientRef = cell
    · simp only [release, decrement_apply, same, countP_cons, beq_self_eq_true, if_true,
        UInt32.ofNat_add]
      grind
    · simp [release, decrement_apply, same, Ne.symm same]

end RefCells

namespace Registry

def removedAt (registry : List Registration) (path : List String) (object : Option Nat) :
    List Entry :=
  (registry.filter fun reg =>
    reg.path == path && reg.object == object).map entry

def removedObject (registry : List Registration) (object : Nat) : List Entry :=
  (registry.filter fun reg => reg.object == some object).map entry

theorem removeAt_under (registry : List Registration) (name : String) (path : List String)
    (object : Option Nat) :
    removeAt (registry.map (under name)) (name :: path) object =
        (removeAt registry path object).map (under name) ∧
      removedAt (registry.map (under name)) (name :: path) object =
        removedAt registry path object := by
  simp [removeAt, removedAt, filter_map, comp_def, Registration.object, under]

theorem removeAt_absent (registry : List Registration) (path : List String) (object : Option Nat)
    (absent : ∀ reg ∈ registry, reg.path ≠ path) :
    removeAt registry path object = registry ∧ removedAt registry path object = [] := by
  simp only [removeAt, removedAt, filter_eq_self, map_eq_nil_iff, filter_eq_nil_iff]
  constructor <;> intro reg mem <;> simp [absent reg mem]

theorem removeAt_append (left right : List Registration) (path : List String) (object : Option Nat) :
    removeAt (left ++ right) path object = removeAt left path object ++ removeAt right path object ∧
      removedAt (left ++ right) path object =
        removedAt left path object ++ removedAt right path object := by
  simp [removeAt, removedAt]

theorem removeObject_append (left right : List Registration) (object : Nat) :
    removeObject (left ++ right) object = removeObject left object ++ removeObject right object := by
  simp [removeObject]

theorem removedObject_append (left right : List Registration) (object : Nat) :
    removedObject (left ++ right) object =
      removedObject left object ++ removedObject right object := by
  simp [removedObject]

theorem removeObject_root (entrys : List Entry) (object : Nat) :
    removeObject (entrys.map (mk [])) object =
      (entrys.filter fun entry => entry.observer.asObject != some object).map
        (Registration.mk []) := by
  simp [removeObject, filter_map, comp_def, Registration.object]

theorem removedObject_root (entrys : List Entry) (object : Nat) :
    removedObject (entrys.map (mk [])) object =
      entrys.filter fun entry => entry.observer.asObject == some object := by
  simp [removedObject, filter_map, comp_def, Registration.object]

theorem removeObject_under (registry : List Registration) (name : String) (object : Nat) :
    removeObject (registry.map (under name)) object =
      (removeObject registry object).map (under name) := by
  simp [removeObject, filter_map, comp_def, Registration.object, under]

theorem removedObject_under (registry : List Registration) (name : String) (object : Nat) :
    removedObject (registry.map (under name)) object = removedObject registry object := by
  simp [removedObject, filter_map, comp_def, Registration.object, under]

end Registry

namespace Childrens

theorem removeAt_child {childrens : Childrens} (tidy : childrens.Tidy) (name : String)
    (path : List String) (object : Option Nat) :
    (removeAt childrens.registrations (name :: path) object).Perm
        ((removeAt ((childrens.find name).getD fresh).registrations path object).map
          (under name) ++ (childrens.erase name).registrations) ∧
      (removedAt childrens.registrations (name :: path) object).Perm
        (removedAt ((childrens.find name).getD fresh).registrations path object) := by
  have split := registrations_split childrens name
  have kept := split.filter fun reg =>
    !(reg.path == name :: path && reg.object == object)
  have dropped := (split.filter fun reg =>
    reg.path == name :: path && reg.object == object).map entry
  obtain ⟨others, untouched⟩ := removeAt_absent
    (childrens.erase name).registrations (name :: path) object
    fun reg mem => erase_path tidy mem path
  constructor
  · refine kept.trans (of_eq ?_)
    rw [<- removeAt, (removeAt_append _ _ _ _).1, (removeAt_under _ _ _ _).1, others]
  · refine dropped.trans (of_eq ?_)
    rw [<- removedAt, (removeAt_append _ _ _ _).2, (removeAt_under _ _ _ _).2, untouched, append_nil]

end Childrens

namespace Node

theorem removeObserver_spec {node : Node} (tidy : node.Tidy) (dataObserver : IDataAbilityObserver)
    (path : List String) (refs : RefCells) :
    ∃ pruned, node.removeObserver dataObserver path refs =
        (pruned, refs.release (removedAt node.registrations path dataObserver.asObject),
          pruned.vacant) ∧
      pruned.registrations.Perm (removeAt node.registrations path dataObserver.asObject) ∧
      pruned.Tidy := by
  induction path generalizing node refs with
  | nil =>
    obtain ⟨entrys, childrens⟩ := node
    obtain ⟨below, untouched⟩ := removeAt_absent childrens.registrations []
      dataObserver.asObject childrens.registrations_nonroot
    have dropped : removedAt (mk entrys childrens).registrations [] dataObserver.asObject =
        entrys.filter fun entry => entry.observer.asObject == dataObserver.asObject := by
      rw [registrations, (removeAt_append _ _ _ _).2, untouched]
      simp [removedAt, filter_map, comp_def, object]
    refine ⟨mk (entrys.filter fun entry => entry.observer.asObject != dataObserver.asObject)
      childrens, by simp only [removeObserver, removeIf, RefCells.foldl_decrement, dropped], ?_, tidy⟩
    rw [registrations, registrations, (removeAt_append _ _ _ _).1, below]
    simp [removeAt, filter_map, comp_def, object, bne]
  | cons name path ih =>
    obtain ⟨entrys, childrens⟩ := node
    obtain ⟨above, untouched⟩ := Registry.removeAt_absent (entrys.map (Registration.mk []))
      (name :: path) dataObserver.asObject (by simp)
    obtain ⟨kept, dropped⟩ := Childrens.removeAt_child tidy name path dataObserver.asObject
    rw [registrations, (removeAt_append _ _ _ _).1, (removeAt_append _ _ _ _).2,
      above, untouched, nil_append, RefCells.release_perm refs dropped]
    have split := registrations_split childrens name
    cases found : childrens.find name with
    | none =>
      rw [found, Option.getD_none] at kept split
      refine ⟨mk entrys childrens, ?_, ?_, tidy⟩
      · simp [removeObserver, found, fresh, registrations, Childrens.registrations,
          Registry.removedAt]
      · exact append_left _ (split.trans kept.symm)
    | some child =>
      rw [found, Option.getD_some] at kept
      obtain ⟨pruned, step, below, prunedTidy⟩ := ih (tidy.find found).2 refs
      have after : (childrens.put name pruned).registrations.Perm _ :=
        (put_registrations childrens name pruned).trans ((below.map _).append_right _)
      cases vacant : pruned.vacant with
      | true =>
        refine ⟨mk entrys (childrens.erase name), ?_, ?_, (tidy.erase name).1⟩
        · simp [removeObserver, found, step, vacant]
        · refine append_left _ (Perm.trans ?_ kept.symm)
          rw [vacant_registrations vacant] at below
          rw [<- below.nil_eq, map_nil, nil_append]
      | false =>
        refine ⟨mk entrys (childrens.put name pruned), ?_, ?_, tidy.put name vacant prunedTidy⟩
        · simp [removeObserver, found, step, vacant]
        · exact append_left _ (after.trans kept.symm)

end Node

mutual

theorem Node.removeObject_spec (object : Nat) : ∀ (node : Node) (refs : RefCells), node.Tidy ->
    ∃ pruned, node.removeObject object refs =
        (pruned, refs.release (removedObject node.registrations object), pruned.vacant) ∧
      pruned.registrations.Perm (removeObject node.registrations object) ∧ pruned.Tidy
  | .mk entrys childrens, refs, tidy => by
    obtain ⟨pruned, step, below, prunedTidy, -⟩ :=
      Childrens.removeObjects_spec object childrens refs tidy
    refine ⟨.mk (entrys.filter fun entry => entry.observer.asObject != some object) pruned, ?_, ?_,
      prunedTidy⟩
    · -- the source visits the children first, then its own entries
      simp only [Node.removeObject, step, Node.removeIf, RefCells.foldl_decrement,
        <- RefCells.release_append, Node.registrations, Registry.removedObject_append,
        Registry.removedObject_root]
      rw [RefCells.release_perm refs perm_append_comm]
    · simp only [Node.registrations, Registry.removeObject_append, Registry.removeObject_root]
      exact below.append_left _

theorem Childrens.removeObjects_spec (object : Nat) : ∀ (childrens : Childrens) (refs : RefCells),
    childrens.Tidy ->
    ∃ pruned, removeObjects object childrens refs =
        (pruned, refs.release (removedObject childrens.registrations object)) ∧
      pruned.registrations.Perm (removeObject childrens.registrations object) ∧
      pruned.Tidy ∧ ∀ key ∈ pruned.keys, key ∈ childrens.keys
  | .nil, refs, _ => by
    exact ⟨.nil, by simp [Node.removeObjects, Childrens.registrations, Registry.removedObject],
      List.Perm.refl _, trivial, by simp⟩
  | .cons key child rest, refs, tidy => by
    obtain ⟨unique, -, childTidy, restTidy⟩ := tidy
    obtain ⟨prunedChild, childStep, childKept, prunedChildTidy⟩ :=
      Node.removeObject_spec object child refs childTidy
    obtain ⟨prunedRest, restStep, restKept, prunedRestTidy, known⟩ :=
      Childrens.removeObjects_spec object rest
        (refs.release (Registry.removedObject child.registrations object)) restTidy
    have released : (refs.release (removedObject child.registrations object)).release
          (removedObject rest.registrations object) =
        refs.release (removedObject (cons key child rest).registrations object) := by
      rw [Childrens.registrations, Registry.removedObject_append, Registry.removedObject_under,
        RefCells.release_append]
    have kept : (prunedChild.registrations.map (Registration.under key) ++
        prunedRest.registrations).Perm
          (removeObject (cons key child rest).registrations object) := by
      rw [Childrens.registrations, Registry.removeObject_append, Registry.removeObject_under]
      exact (childKept.map _).append restKept
    cases vacant : prunedChild.vacant with
    | true =>
      refine ⟨prunedRest, ?_, ?_, prunedRestTidy, ?_⟩
      · simp [removeObjects, childStep, restStep, vacant, released]
      · simpa [vacant_registrations vacant] using kept
      · exact fun other mem => mem_cons_of_mem _ (known other mem)
    | false =>
      refine ⟨.cons key prunedChild prunedRest, ?_, kept, ?_, ?_⟩
      · simp [removeObjects, childStep, restStep, vacant, released]
      · exact ⟨fun mem => unique (known key mem), vacant, prunedChildTidy, prunedRestTidy⟩
      · intro other mem
        rcases mem_cons.mp mem with same | later
        · exact same ▸ mem_cons_self
        · exact mem_cons_of_mem _ (known other later)

end

end AbilityRuntime.DataObs
