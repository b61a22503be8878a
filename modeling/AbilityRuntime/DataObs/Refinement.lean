import AbilityRuntime.DataObs.Notify

set_option autoImplicit false

namespace AbilityRuntime.DataObs

open Node Registry List

inductive Op where
  | addObserver (path : List String) (entry : Entry)
  | removeObserver (path : List String) (dataObserver : IDataAbilityObserver)
  | removeObject (object : Nat)
  | removeAll (dataObserver : IDataAbilityObserver)

def Node.descend : Node -> List String -> Option Node
  | node, [] => some node
  | mk _ childrens, name :: path => (childrens.find name).bind fun child => child.descend path

structure Trie where
  root : Node
  refs : RefCells

def Trie.step (trie : Trie) : Op -> Trie
  | .addObserver path entry =>
    let (root, refs, _) := trie.root.addObserver entry path trie.refs
    ⟨root, refs⟩
  | .removeObserver path dataObserver =>
    let (root, refs, _) := trie.root.removeObserver dataObserver path trie.refs
    ⟨root, refs⟩
  | .removeObject object =>
    let (root, refs, _) := trie.root.removeObject object trie.refs
    ⟨root, refs⟩
  | .removeAll dataObserver =>
    let (root, refs, _) := trie.root.removeAll dataObserver trie.refs
    ⟨root, refs⟩

def Trie.run (trie : Trie) (ops : List Op) : Trie := ops.foldl Trie.step trie

namespace Registry

def step (registry : List Registration) : Op -> List Registration
  | .addObserver path entry => add registry path entry
  | .removeObserver path dataObserver => removeAt registry path dataObserver.asObject
  | .removeObject object => removeObject registry object
  | .removeAll dataObserver =>
    match dataObserver.asObject with
    | none => registry
    | some object => removeObject registry object

def run (registry : List Registration) (ops : List Op) : List Registration :=
  ops.foldl step registry

end Registry

namespace Trie

structure Refines (trie : Trie) (registry : List Registration) : Prop where
  registrations : trie.root.registrations.Perm registry
  tidy : trie.root.Tidy

theorem refines_fresh (refs : RefCells) : Refines ⟨fresh, refs⟩ [] :=
  ⟨by simp [fresh, registrations, Childrens.registrations], trivial⟩

variable {trie : Trie} {registry : List Registration}

section

variable (refines : trie.Refines registry)
include refines

theorem addObserver_refines (path : List String) (entry : Entry) :
    (trie.step (.addObserver path entry)).Refines (add registry path entry) := by
  have limit := limited_perm refines.registrations path entry
  cases limited : limited trie.root.registrations path entry with
  | true =>
    have step := addObserver_limited refines.tidy limited trie.refs
    simpa [Trie.step, step, add, <- limit, limited] using refines
  | false =>
    obtain ⟨added, step, registered, tidy, -⟩ := addObserver_added refines.tidy limited trie.refs
    have listed := registered.trans (refines.registrations.append_right [⟨path, entry⟩])
    simpa [Trie.step, step, add, <- limit, limited] using Refines.mk listed tidy

theorem removeObserver_refines (path : List String) (dataObserver : IDataAbilityObserver) :
    (trie.step (.removeObserver path dataObserver)).Refines
      (removeAt registry path dataObserver.asObject) := by
  obtain ⟨pruned, step, kept, tidy⟩ := removeObserver_spec refines.tidy dataObserver path trie.refs
  have listed := kept.trans (refines.registrations.filter _)
  simpa [Trie.step, step] using Refines.mk listed tidy

theorem removeObject_refines (object : Nat) :
    (trie.step (.removeObject object)).Refines (removeObject registry object) := by
  obtain ⟨pruned, step, kept, tidy⟩ := removeObject_spec object trie.root trie.refs refines.tidy
  have listed := kept.trans (refines.registrations.filter _)
  simpa [Trie.step, step] using Refines.mk listed tidy

theorem step_refines (op : Op) : (trie.step op).Refines (Registry.step registry op) := by
  cases op with
  | addObserver path entry => exact addObserver_refines refines path entry
  | removeObserver path dataObserver => exact removeObserver_refines refines path dataObserver
  | removeObject object => exact removeObject_refines refines object
  | removeAll dataObserver =>
    cases present : dataObserver.asObject with
    | none => simpa [Trie.step, Node.removeAll, Registry.step, present] using refines
    | some object =>
      have removed := removeObject_refines refines object
      simpa [Trie.step, Node.removeAll, Registry.step, present] using removed

theorem run_refines (ops : List Op) : (trie.run ops).Refines (Registry.run registry ops) := by
  induction ops generalizing trie registry with
  | nil => exact refines
  | cons op rest ih => exact ih (step_refines refines op)

theorem Refines.getObs_uris (path : List String) (userId : Int) (info : NotifyInfo)
    (obsRes : ObsMap) (observer : IDataAbilityObserver) :
    (trie.root.getObs info userId path obsRes).uris observer =
      obsRes.uris observer ++ replicate (registry.countP fun reg =>
        reg.entry.observer == observer && reg.hears path userId) info := by
  have heard := (notified_perm refines.tidy userId path).trans
    ((refines.registrations.filter _).map _)
  rw [getObs_notified, ObsMap.push_foldl_uris, heard.countP_eq, countP_map, countP_filter]
  rfl

theorem Refines.getObs_isSome (path : List String) (userId : Int) (info : NotifyInfo)
    (obsRes : ObsMap) (observer : IDataAbilityObserver) :
    (trie.root.getObs info userId path obsRes observer).isSome =
      ((obsRes observer).isSome || registry.any fun reg =>
        reg.entry.observer == observer && reg.hears path userId) := by
  have heard := (notified_perm refines.tidy userId path).trans
    ((refines.registrations.filter _).map _)
  rw [getObs_notified, ObsMap.push_foldl_isSome, heard.any_eq, any_map, any_filter]
  simp [Bool.and_comm]

end

end Trie

theorem Node.Tidy.descend_used {node : Node} (tidy : node.Tidy) {path : List String}
    (below : path ≠ []) {found : Node} (reached : node.descend path = some found) :
    found.vacant = false := by
  induction path generalizing node with
  | nil => exact absurd rfl below
  | cons name path ih =>
    obtain ⟨entrys, childrens⟩ := node
    obtain ⟨child, here, deeper⟩ := Option.bind_eq_some_iff.mp reached
    obtain ⟨used, childTidy⟩ := Childrens.Tidy.find tidy here
    cases path with
    | nil => cases deeper; exact used
    | cons next rest => exact ih childTidy (cons_ne_nil next rest) deeper

theorem trie_run_refines_registrations (refs : RefCells) (ops : List Op) :
    let trie := Trie.run ⟨fresh, refs⟩ ops
    let registry := run [] ops
    trie.root.registrations.Perm registry ∧
      (∀ (path : List String) (entry : Entry) (refs : RefCells),
        (trie.root.addObserver entry path refs).2.2 = !Registry.limited registry path entry) ∧
      (∀ (path : List String) (userId : Int) (info : NotifyInfo) (obsRes : ObsMap)
        (observer : IDataAbilityObserver),
        let collected := trie.root.getObs info userId path obsRes
        collected.uris observer =
            obsRes.uris observer ++ replicate (registry.countP fun reg =>
              reg.entry.observer == observer && reg.hears path userId) info ∧
          (collected observer).isSome =
            ((obsRes observer).isSome || registry.any fun reg =>
              reg.entry.observer == observer && reg.hears path userId)) ∧
      ∀ (path : List String) (node : Node), path ≠ [] -> trie.root.descend path = some node ->
        node.vacant = false := by
  have refines := Trie.run_refines (Trie.refines_fresh refs) ops
  refine ⟨refines.registrations, ?_, ?_, ?_⟩
  · intro path entry cells
    rw [addObserver_result refines.tidy, limited_perm refines.registrations]
  · intro path userId info obsRes observer
    exact ⟨refines.getObs_uris path userId info obsRes observer,
      refines.getObs_isSome path userId info obsRes observer⟩
  · exact fun path node below reached => refines.tidy.descend_used below reached

end AbilityRuntime.DataObs
