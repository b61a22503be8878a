import AbilityRuntime.DataObs.Manager

set_option autoImplicit false

namespace AbilityRuntime.DataObs

open Std.ExtTreeMap List RefCells Node Registration

namespace DataObsMgrInnerExt

def registered (mgr : DataObsMgrInnerExt) (object : Nat) : Nat :=
  mgr.root.registrations.countP fun reg => reg.object == some object

def RefsCounted (mgr : DataObsMgrInnerExt) : Prop :=
  ∀ object : Nat,
    (mgr.obsRecipientRefs.contains object = true ↔ 1 ≤ mgr.registered object) ∧
      ∀ cell : Nat, mgr.obsRecipientRefs[object]? = some cell ->
        (mgr.refs cell).toNat = 1 + mgr.registered object

def Call.Meets (mgr : DataObsMgrInnerExt) : Call -> Prop
  | .register uri dataObserver _ _ => ∀ object : Nat, dataObserver.asObject = some object ->
      MAX_URI_PATH_SIZE ≤ uri.path.length -> mgr.obsRecipientRefs.contains object = true
  | _ => True

structure Linked (mgr : DataObsMgrInnerExt) : Prop where
  tidy : mgr.root.Tidy
  entry : ∀ reg ∈ mgr.root.registrations, ∃ object : Nat,
    reg.object = some object ∧
      mgr.obsRecipientRefs[object]? = some reg.entry.deathRecipientRef
  allocated : ∀ object cell : Nat, mgr.obsRecipientRefs[object]? = some cell -> cell < mgr.nextRef
  exclusive : ∀ left right cell : Nat, mgr.obsRecipientRefs[left]? = some cell ->
    mgr.obsRecipientRefs[right]? = some cell -> left = right
  counted : ∀ object cell : Nat, mgr.obsRecipientRefs[object]? = some cell ->
    (mgr.refs cell).toNat = 1 + mgr.registered object

def Used (mgr : DataObsMgrInnerExt) (object : Nat) : Prop :=
  mgr.obsRecipientRefs.contains object = true -> 1 ≤ mgr.registered object

structure Settled (mgr : DataObsMgrInnerExt) : Prop where
  linked : mgr.Linked
  used : ∀ object : Nat, mgr.Used object

variable {mgr : DataObsMgrInnerExt} {object : Nat}

theorem Linked.registered_contains (linked : mgr.Linked)
    (live : 1 ≤ mgr.registered object) : mgr.obsRecipientRefs.contains object = true := by
  obtain ⟨reg, mem, same⟩ := countP_pos_iff.mp live
  obtain ⟨owner, owned, found⟩ := linked.entry reg mem
  obtain rfl : owner = object := by simpa [owned] using same
  simp [<- isSome_getElem?_eq_contains, found]

theorem Settled.refsCounted (settled : mgr.Settled) : mgr.RefsCounted := by
  intro object
  exact ⟨⟨settled.used object, settled.linked.registered_contains⟩, settled.linked.counted object⟩

theorem initial_settled : initial.Settled := by
  refine ⟨⟨trivial, ?_, ?_, ?_, ?_⟩, ?_⟩ <;>
    simp [initial, fresh, registrations, Childrens.registrations, Used]

section

variable (linked : mgr.Linked)
include linked

theorem Linked.cell_object {cell : Nat} (found : mgr.obsRecipientRefs[object]? = some cell)
    {reg : Registration} (mem : reg ∈ mgr.root.registrations) :
    reg.entry.deathRecipientRef = cell ↔ reg.object = some object := by
  obtain ⟨owner, owned, known⟩ := linked.entry reg mem
  constructor
  · intro same
    rw [owned, linked.exclusive owner object cell (same ▸ known) found]
  · intro same
    obtain rfl : owner = object := by simpa [owned] using same
    exact Option.some.inj (known.symm.trans found)

theorem Linked.registered_absent
    (absent : mgr.obsRecipientRefs[object]? = none) : mgr.registered object = 0 := by
  by_contra live
  have known := linked.registered_contains (Nat.one_le_iff_ne_zero.mpr live)
  simp [<- isSome_getElem?_eq_contains, absent] at known

theorem addObsDeathRecipient_fresh (absent : mgr.obsRecipientRefs[object]? = none) :
    Linked { mgr with
      refs := mgr.refs.make mgr.nextRef
      obsRecipientRefs := mgr.obsRecipientRefs.insert object mgr.nextRef
      nextRef := mgr.nextRef + 1 } := by
  refine ⟨linked.tidy, ?_, ?_, ?_, ?_⟩
  · intro reg mem
    obtain ⟨owner, owned, known⟩ := linked.entry reg mem
    have other : object ≠ owner := fun same => by simp [same ▸ absent] at known
    exact ⟨owner, owned, by simpa [Std.ExtTreeMap.getElem?_insert, other] using known⟩
  · intro owner cell found
    simp only [Std.ExtTreeMap.getElem?_insert, compare_eq_iff_eq] at found
    split at found
    · cases found; exact Nat.lt_succ_self _
    · exact (linked.allocated owner cell found).trans (Nat.lt_succ_self _)
  · intro left right cell first second
    simp only [Std.ExtTreeMap.getElem?_insert, compare_eq_iff_eq] at first second
    split at first <;> split at second
    next left right => exact left.symm.trans right
    · cases first; exact absurd (linked.allocated right _ second) (lt_irrefl _)
    · cases second; exact absurd (linked.allocated left _ first) (lt_irrefl _)
    · exact linked.exclusive left right cell first second
  · intro owner cell found
    simp only [Std.ExtTreeMap.getElem?_insert, compare_eq_iff_eq] at found
    split at found
    next same =>
      cases found
      have unused := linked.registered_absent absent
      rw [same] at unused
      simp only [registered] at unused ⊢
      simp [make_apply, unused]
    next other =>
      have earlier := linked.allocated owner cell found
      simpa [registered, make_apply, earlier.ne] using linked.counted owner cell found

theorem addObsDeathRecipient_linked {cell : Nat} {added : DataObsMgrInnerExt}
    (step : mgr.addObsDeathRecipient object = (added, some cell)) :
    added.Linked ∧ added.root = mgr.root ∧ added.obsRecipientRefs[object]? = some cell ∧
      (added.refs cell).toNat < 2 ^ 32 - 1 ∧
      ∀ other : Nat, other ≠ object ->
        added.obsRecipientRefs[other]? = mgr.obsRecipientRefs[other]? := by
  simp only [addObsDeathRecipient] at step
  split at step
  next known found =>
    split at step
    · cases step
    next room =>
      cases step
      exact ⟨linked, rfl, found, by omega, fun _ _ => rfl⟩
  next absent =>
    cases step
    refine ⟨addObsDeathRecipient_fresh linked absent, rfl, by simp, by simp [make_apply], ?_⟩
    intro other different
    simp [Std.ExtTreeMap.getElem?_insert, Ne.symm different]

theorem addObserver_linked {entry : Entry} (owned : entry.observer.asObject = some object)
    (found : mgr.obsRecipientRefs[object]? = some entry.deathRecipientRef)
    (room : (mgr.refs entry.deathRecipientRef).toNat < 2 ^ 32 - 1) {path : List String}
    {root : Node} (added : root.registrations.Perm (mgr.root.registrations ++ [⟨path, entry⟩]))
    (tidy : root.Tidy) :
    Linked { mgr with root := root, refs := mgr.refs.increment entry.deathRecipientRef } := by
  refine ⟨tidy, ?_, linked.allocated, linked.exclusive, ?_⟩
  · intro reg mem
    rcases mem_append.mp (added.mem_iff.mp mem) with before | new
    · exact linked.entry reg before
    · obtain rfl := mem_singleton.mp new
      exact ⟨object, owned, found⟩
  · intro owner cell known
    have before := linked.counted owner cell known
    simp only [registered, added.countP_eq, countP_append, increment_apply]
    by_cases same : owner = object
    · obtain rfl : cell = entry.deathRecipientRef := by
        simpa [same ▸ known] using found
      have grown : (mgr.refs entry.deathRecipientRef + 1).toNat =
          (mgr.refs entry.deathRecipientRef).toNat + 1 := by
        simp only [UInt32.toNat_add, UInt32.toNat_one]
        omega
      simp [grown, before, registered, Registration.object, owned, same]
      omega
    · have apart : cell ≠ entry.deathRecipientRef := fun equal =>
        same (linked.exclusive owner object cell known (equal ▸ found))
      simp [apart, before, registered, Registration.object, owned, Ne.symm same]

theorem remove_linked {root : Node} (drops : Registration -> Bool) (kept : root.registrations.Perm
      (mgr.root.registrations.filter fun reg => !drops reg)) (tidy : root.Tidy) :
    Linked { mgr with
      root := root
      refs := mgr.refs.release ((mgr.root.registrations.filter drops).map entry) } := by
  refine ⟨tidy, ?_, linked.allocated, linked.exclusive, ?_⟩
  · intro reg mem
    exact linked.entry reg (mem_of_mem_filter (kept.mem_iff.mp mem))
  · intro owner cell known
    have before := linked.counted owner cell known
    have dropped : ((mgr.root.registrations.filter drops).map entry).countP
          (fun entry => entry.deathRecipientRef == cell) =
        (mgr.root.registrations.filter drops).countP
          fun reg => reg.object == some owner := by
      rw [countP_map]
      apply countP_congr
      intro reg mem
      simpa using linked.cell_object known (mem_of_mem_filter mem)
    have parts : mgr.registered owner =
        (mgr.root.registrations.filter drops).countP
            (fun reg => reg.object == some owner) +
          (mgr.root.registrations.filter fun reg => !drops reg).countP
            fun reg => reg.object == some owner := by
      rw [registered, <- countP_append]
      exact (filter_append_perm drops _).symm.countP_eq _
    have bound := (mgr.refs cell).toNat_lt
    simp only [registered, kept.countP_eq, release, dropped]
    simp only [UInt32.toNat_sub, UInt32.toNat_ofNat']
    omega

theorem erase_linked (unused : mgr.registered object = 0) :
    Linked { mgr with obsRecipientRefs := mgr.obsRecipientRefs.erase object } := by
  have remaining : ∀ owner cell : Nat, (mgr.obsRecipientRefs.erase object)[owner]? = some cell ->
      mgr.obsRecipientRefs[owner]? = some cell := by
    intro owner cell found
    simp only [getElem?_erase] at found
    split at found
    · cases found
    · exact found
  refine ⟨linked.tidy, ?_, fun owner cell found => linked.allocated owner cell (remaining _ _ found),
    fun left right cell first second =>
      linked.exclusive left right cell (remaining _ _ first) (remaining _ _ second),
    fun owner cell found => linked.counted owner cell (remaining _ _ found)⟩
  intro reg mem
  obtain ⟨owner, owned, known⟩ := linked.entry reg mem
  have other : object ≠ owner := by
    rintro rfl
    exact countP_eq_zero.mp unused reg mem (by simp [owned])
  exact ⟨owner, owned, by simpa [getElem?_erase, other] using known⟩

end

theorem remove_used {root : Node} {refs : RefCells} {drops : Registration -> Bool}
    (kept : root.registrations.Perm
      (mgr.root.registrations.filter fun reg => !drops reg))
    (own : ∀ reg, drops reg = true -> reg.object = some object)
    {other : Nat} (different : other ≠ object) (used : mgr.Used other) :
    Used { mgr with root := root, refs := refs } other := by
  have same : (mgr.root.registrations.filter fun reg => !drops reg).countP
        (fun reg => reg.object == some other) = mgr.registered other := by
    rw [countP_filter, registered]
    apply countP_congr
    intro reg _
    cases dropped : drops reg with
    | false => simp
    | true => simp [own reg dropped, Ne.symm different]
  intro known
  simpa only [registered, kept.countP_eq, same] using used known

theorem removeObsDeathRecipient_settled (linked : mgr.Linked)
    (others : ∀ other : Nat, other ≠ object -> mgr.Used other) {isForce : Bool}
    (forced : isForce = true -> mgr.registered object = 0) :
    (mgr.removeObsDeathRecipient object isForce).Settled := by
  simp only [removeObsDeathRecipient]
  split
  next absent =>
    refine ⟨linked, ?_⟩
    intro owner present
    by_cases same : owner = object
    · simp [<- isSome_getElem?_eq_contains, same, absent] at present
    · exact others owner same present
  next cell found =>
    have counted := linked.counted object cell found
    split
    next unused =>
      have none : mgr.registered object = 0 := by
        rcases Bool.or_eq_true_iff.mp unused with force | single
        · exact forced force
        · simp at single; omega
      refine ⟨erase_linked linked none, ?_⟩
      intro owner present
      by_cases same : owner = object
      · simp [same] at present
      · exact others owner same (by simpa [Ne.symm same] using present)
    next live =>
      refine ⟨linked, ?_⟩
      intro owner present
      by_cases same : owner = object
      · subst same; simp at live; omega
      · exact others owner same present

theorem addObsDeathRecipient_none {full : DataObsMgrInnerExt}
    (refused : mgr.addObsDeathRecipient object = (full, none)) : full = mgr := by
  simp only [addObsDeathRecipient] at refused
  split at refused
  · split at refused
    · cases refused; rfl
    · cases refused
  · cases refused

theorem addObsDeathRecipient_known {held : DataObsMgrInnerExt} {result : Option Nat}
    (step : mgr.addObsDeathRecipient object = (held, result))
    (known : mgr.obsRecipientRefs.contains object = true) : held = mgr := by
  simp only [addObsDeathRecipient] at step
  split at step
  · split at step <;> cases step <;> rfl
  next absent => simp [<- isSome_getElem?_eq_contains, absent] at known

section

variable (settled : mgr.Settled)
include settled

theorem handleRegisterObserver_settled (uri : Uri) (dataObserver : IDataAbilityObserver)
    (info : ObserverInfo) (isDescendants : Bool)
    (meets : (Call.register uri dataObserver info isDescendants).Meets mgr) :
    (mgr.handleRegisterObserver uri dataObserver info isDescendants).1.Settled := by
  simp only [handleRegisterObserver]
  split
  · exact settled
  next object owned =>
    split
    next full refused => exact addObsDeathRecipient_none refused ▸ settled
    next held cell step =>
      split
      next tooLong => exact addObsDeathRecipient_known step (meets object owned tooLong) ▸ settled
      next fits =>
        obtain ⟨linked, root, found, room, others⟩ := addObsDeathRecipient_linked settled.linked step
        have elsewhere : ∀ other : Nat, other ≠ object -> held.Used other := by
          intro other different known
          rw [<- isSome_getElem?_eq_contains, others other different,
            isSome_getElem?_eq_contains] at known
          simpa only [registered, root] using settled.used other known
        generalize made : Entry.mk dataObserver info.userId info.tokenId cell isDescendants info.pid
          held.nextEntryId = entry
        cases limited : Registry.limited held.root.registrations uri.path entry with
        | true =>
          rw [addObserver_limited linked.tidy limited]
          apply removeObsDeathRecipient_settled
          · exact { linked with }
          · exact elsewhere
          · simp
        | false =>
          obtain ⟨grown, added, registrations, tidy, -⟩ :=
            addObserver_added linked.tidy limited held.refs
          rw [added]
          subst made
          have after := addObserver_linked linked owned found room registrations tidy
          refine ⟨{ after with }, ?_⟩
          intro owner known
          simp only [registered, registrations.countP_eq, countP_append]
          by_cases same : owner = object
          · simp [same, Registration.object, owned]
          · have before := elsewhere owner same known
            exact before.trans (Nat.le_add_right _ _)

theorem handleUnregisterObserverAt_settled (uri : Uri) (dataObserver : IDataAbilityObserver) :
    (mgr.handleUnregisterObserverAt uri dataObserver).1.Settled := by
  simp only [handleUnregisterObserverAt]
  split
  · exact settled
  next object owned =>
    split
    · exact settled
    · obtain ⟨pruned, step, kept, tidy⟩ :=
        removeObserver_spec settled.linked.tidy dataObserver uri.path mgr.refs
      rw [step]
      refine removeObsDeathRecipient_settled (remove_linked settled.linked _ kept tidy) ?_ (by simp)
      intro other different
      refine remove_used kept ?_ different (settled.used other)
      intro reg dropped
      simp only [Bool.and_eq_true, beq_iff_eq] at dropped
      rw [dropped.2, owned]

theorem onCallBackDied_settled (remote : Option Nat) : (mgr.onCallBackDied remote).Settled := by
  cases remote with
  | none => exact settled
  | some object =>
    obtain ⟨pruned, step, kept, tidy⟩ :=
      removeObject_spec object mgr.root mgr.refs settled.linked.tidy
    simp only [onCallBackDied, step]
    refine removeObsDeathRecipient_settled (remove_linked settled.linked _ kept tidy) ?_ ?_
    · intro other different
      exact remove_used kept (by simp) different (settled.used other)
    · simp only [registered, kept.countP_eq, Registry.removeObject, countP_filter]
      simp

theorem apply_settled (call : Call) (meets : call.Meets mgr) : (mgr.apply call).Settled := by
  cases call with
  | register uri dataObserver info isDescendants =>
    exact handleRegisterObserver_settled settled uri dataObserver info isDescendants meets
  | unregisterAt uri dataObserver =>
    exact handleUnregisterObserverAt_settled settled uri dataObserver
  | unregister dataObserver =>
    rw [apply, handleUnregisterObserver_died]
    exact onCallBackDied_settled settled dataObserver.asObject
  | callBackDied remote => exact onCallBackDied_settled settled remote

theorem apply_refsCounted (call : Call)
    (counted : (mgr.apply call).RefsCounted) : call.Meets mgr := by
  cases call with
  | register uri dataObserver info isDescendants =>
    intro object owned tooLong
    by_contra unknown
    have absent : mgr.obsRecipientRefs[object]? = none := by simpa using unknown
    have unused := settled.linked.registered_absent absent
    have live := (counted object).1
    simp only [apply, handleRegisterObserver, owned, addObsDeathRecipient, absent, tooLong, if_true,
      contains_insert_self, true_iff] at live
    exact absurd live (by simpa [registered] using unused)
  | unregisterAt uri dataObserver => trivial
  | unregister dataObserver => trivial
  | callBackDied remote => trivial

end

theorem run_refsCounted_iff (calls : List Call) :
    machine.Throughout calls RefsCounted ↔
      machine.EveryStep calls fun mgr call => call.Meets mgr := by
  have promised : machine.EveryStep calls fun _ _ => True := fun _ _ _ _ => trivial
  exact Library.Machine.throughout_iff_everyStep initial_settled
    (fun _ call settled _ meets => apply_settled settled call meets)
    (fun _ settled => settled.refsCounted)
    (fun _ call settled _ counted => apply_refsCounted settled call counted) promised

def longUri : Uri := ⟨"datashare", "media", List.replicate 23 "photo"⟩

theorem refused_uri_leaves_recipient :
    ¬ machine.Throughout [.register longUri ⟨1, some 7⟩ ⟨100, 100, 20⟩ false] RefsCounted := by
  intro throughout
  have counted := (throughout _ [] (List.append_nil _).symm 7).1
  exact absurd (counted.mp (by decide)) (by decide)

end DataObsMgrInnerExt

end AbilityRuntime.DataObs
