import AbilityRuntime.DataObs.Operations

set_option autoImplicit false

namespace AbilityRuntime.DataObs

open List Registration Node Function Childrens

namespace Node

def notified (userId : Int) : Node -> List String -> List Entry
  | mk entrys _, [] => entrys.filter (allowed userId)
  | mk entrys childrens, name :: path =>
    entrys.filter (fun entry => entry.isDescendants && allowed userId entry) ++
      match childrens.find name with
      | none => []
      | some child => child.notified userId path

theorem getObs_notified (info : NotifyInfo) (userId : Int) (node : Node) (path : List String)
    (obsRes : ObsMap) :
    node.getObs info userId path obsRes =
      (node.notified userId path).foldl (fun obsRes entry => obsRes.push info entry) obsRes := by
  induction path generalizing node obsRes with
  | nil =>
    obtain ⟨entrys, childrens⟩ := node
    rw [getObs, notified, foldl_filter]
  | cons name path ih =>
    obtain ⟨entrys, childrens⟩ := node
    rw [getObs, notified, foldl_append, foldl_filter]
    simp only [Bool.and_eq_true, <- ite_and]
    cases found : childrens.find name with
    | none => rfl
    | some child => exact ih child _

end Node

namespace Registration

theorem allowed_user (userId : Int) (entry : Entry) :
    allowed userId entry = (entry.userId == userId || entry.userId == 0 || userId == 0) := by
  simp [allowed, bne]

theorem hears_root (userId : Int) (entry : Entry) :
    hears [] userId ⟨[], entry⟩ = allowed userId entry := by
  simp [hears, allowed_user]

theorem hears_below_root (name : String) (path : List String) (userId : Int) (entry : Entry) :
    hears (name :: path) userId ⟨[], entry⟩ = (entry.isDescendants && allowed userId entry) := by
  simp [hears, allowed_user, bne]

theorem hears_under (name : String) (path : List String) (userId : Int)
    (reg : Registration) :
    hears (name :: path) userId (reg.under name) = hears path userId reg := by
  simp [hears, under, bne]

theorem hears_deeper {reg : Registration} {name : String} {rest : List String}
    (shape : reg.path = name :: rest) (userId : Int) :
    hears [] userId reg = false := by
  simp [hears, shape]

theorem hears_elsewhere {reg : Registration} {first : String} {rest : List String}
    (shape : reg.path = first :: rest) {name : String} (other : first ≠ name)
    (path : List String) (userId : Int) : hears (name :: path) userId reg = false := by
  simp [hears, shape, isPrefixOf, other]

end Registration

namespace Childrens

theorem hears_child {childrens : Childrens} (tidy : childrens.Tidy) (name : String)
    (path : List String) (userId : Int) :
    ((childrens.registrations.filter (hears (name :: path) userId)).map entry).Perm
      ((((childrens.find name).getD fresh).registrations.filter
        (hears path userId)).map entry) := by
  have split := ((registrations_split childrens name).filter
    (hears (name :: path) userId)).map entry
  have others : (childrens.erase name).registrations.filter (hears (name :: path) userId) = [] := by
    rw [filter_eq_nil_iff]
    intro reg mem
    obtain ⟨first, rest, shape, known⟩ := registrations_path mem
    have other : first ≠ name := fun same => (tidy.erase name).2 (same ▸ known)
    simp [hears_elsewhere shape other]
  refine split.trans (List.Perm.of_eq ?_)
  rw [filter_append, others, append_nil, filter_map, map_map]
  simp only [comp_def, hears_under]
  rfl

end Childrens

theorem Node.notified_perm {node : Node} (tidy : node.Tidy) (userId : Int) (path : List String) :
    (node.notified userId path).Perm
      ((node.registrations.filter (hears path userId)).map entry) := by
  induction path generalizing node with
  | nil =>
    obtain ⟨entrys, childrens⟩ := node
    have below : childrens.registrations.filter (hears [] userId) = [] := by
      rw [filter_eq_nil_iff]
      intro reg mem
      obtain ⟨name, rest, shape, -⟩ := registrations_path mem
      simp [hears_deeper shape]
    rw [notified, registrations, filter_append, below, append_nil, filter_map, map_map]
    simp [comp_def, hears_root]
  | cons name path ih =>
    obtain ⟨entrys, childrens⟩ := node
    have below := hears_child tidy name path userId
    rw [notified, registrations, filter_append, map_append, filter_map, map_map]
    simp only [comp_def, hears_below_root, map_id_fun', id]
    refine List.Perm.append_left _ (List.Perm.trans ?_ below.symm)
    cases found : childrens.find name with
    | none => simp [Node.fresh, registrations, Childrens.registrations]
    | some child => exact ih (tidy.find found).2

namespace ObsMap

def uris (obsRes : ObsMap) (observer : IDataAbilityObserver) : List NotifyInfo :=
  ((obsRes observer).map ObsNotifyInfo.uriList).getD []

theorem push_apply (obsRes : ObsMap) (info : NotifyInfo) (entry : Entry)
    (observer : IDataAbilityObserver) :
    obsRes.push info entry observer =
      if observer = entry.observer then
        some { entry with uriList := obsRes.uris entry.observer ++ [info] }
      else obsRes observer := by
  have list : ((obsRes entry.observer).getD {}).uriList = obsRes.uris entry.observer := by
    cases present : obsRes entry.observer <;> simp [uris, present]
  rw [<- list]
  exact update_apply obsRes entry.observer _ observer

theorem push_foldl_uris (obsRes : ObsMap) (info : NotifyInfo) (entrys : List Entry)
    (observer : IDataAbilityObserver) :
    (entrys.foldl (fun obsRes entry => obsRes.push info entry) obsRes).uris observer =
      obsRes.uris observer ++
        replicate (entrys.countP fun entry => entry.observer == observer) info := by
  induction entrys generalizing obsRes with
  | nil => simp
  | cons entry rest ih =>
    rw [foldl_cons, ih]
    by_cases same : entry.observer = observer
    · simp [uris, push_apply, same, replicate_succ]
    · simp [uris, push_apply, same, Ne.symm same]

theorem push_foldl_isSome (obsRes : ObsMap) (info : NotifyInfo) (entrys : List Entry)
    (observer : IDataAbilityObserver) :
    ((entrys.foldl (fun obsRes entry => obsRes.push info entry) obsRes) observer).isSome =
      ((obsRes observer).isSome || entrys.any fun entry => entry.observer == observer) := by
  induction entrys generalizing obsRes with
  | nil => simp
  | cons entry rest ih =>
    rw [foldl_cons, ih]
    by_cases same : entry.observer = observer
    · simp [push_apply, same]
    · simp [push_apply, beq_false_of_ne same, Ne.symm same]

end ObsMap

end AbilityRuntime.DataObs
