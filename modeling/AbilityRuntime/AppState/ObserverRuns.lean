import AbilityRuntime.AppState.AppStateObserverManager
import AbilityRuntime.Library.FirstMatch

set_option autoImplicit false

namespace AbilityRuntime.AppState

open Library AppStateObserverManager Function List

def total (count : ObserverType -> Nat) : Nat :=
  count .applicationState + count .appForegroundState + count .abilityForegroundState +
    count .imageProcessState

theorem total_update (size : List Registration -> Nat) (maps : ObserverType -> List Registration)
    (type : ObserverType) (list : List Registration) :
    total (fun other => size (update maps type list other)) + size (maps type) =
      total (fun other => size (maps other)) + size list := by
  cases type <;> simp [total] <;> omega

variable (asObject : Nat -> Nat)

namespace AppStateObserverManager

variable (mgr : AppStateObserverManager)

def objects (type : ObserverType) : List Nat :=
  (mgr.observerMap type).map fun reg => asObject reg.observer

def registrationsOf (uid : Int) : Nat :=
  total fun type => (mgr.observerMap type).countP (·.uid = uid)

structure Good : Prop where
  once : ∀ type, (mgr.objects asObject type).Nodup
  recipients : ∀ object, (mgr.recipientMap object).isSome = true ↔
    ∃ type, object ∈ mgr.objects asObject type
  counted : ∀ uid, (mgr.observerCountMap uid).getD 0 = mgr.registrationsOf uid
  amount : mgr.observerAmount = total fun type => (mgr.observerMap type).length
  gone : ∀ object ∈ mgr.died, (∀ type, (object, type) ∉ mgr.deaths) ->
    ∀ type, object ∉ mgr.objects asObject type

/-- An inserted observer is new and alive or its death is due; one taken out is in no other map. -/
def Keeps : ObserverStep -> Prop
  | .registerApplicationState _ _ _ _ | .registerImageProcessState _ _ _
  | .registerAppForegroundState _ _ _ | .registerAbilityForegroundState _ _ _ => True
  | .emplaceObserver index =>
    ∀ call ∈ mgr.registering[index]?,
      asObject call.2.observer ∉ mgr.objects asObject call.1 ∧
        (asObject call.2.observer ∈ mgr.died ->
          (asObject call.2.observer, call.1) ∈ mgr.deaths)
  | .unregister type observer isPermitted =>
    isPermitted = true -> ∀ proxy ∈ observer, asObject proxy ∈ mgr.objects asObject type ->
      ∀ other, asObject proxy ∈ mgr.objects asObject other -> other = type
  | .die object =>
    object ∉ mgr.died -> ∀ type, object ∈ mgr.objects asObject type ->
      ∀ other, object ∈ mgr.objects asObject other -> other = type
  | .onObserverDied _ isPermitted => isPermitted = true

/-- An unregistering recipient's map has its object, and a dead object's death is on its way. -/
structure Coherent : Prop where
  once : ∀ type, (mgr.objects asObject type).Nodup
  recipients : ∀ object type, object ∈ mgr.objects asObject type ->
    (mgr.recipientMap object).isSome = true
  own : ∀ object recipient, mgr.recipientMap object = some recipient ->
    object ∈ mgr.objects asObject recipient.type
  linked : ∀ object recipient, mgr.recipientMap object = some recipient ->
    object ∉ mgr.died -> recipient.isLinked = true
  counted : ∀ uid, (mgr.observerCountMap uid).getD 0 = mgr.registrationsOf uid
  amount : mgr.observerAmount = total fun type => (mgr.observerMap type).length
  dying : ∀ object ∈ mgr.died, ∀ type, object ∈ mgr.objects asObject type ->
    (object, type) ∈ mgr.deaths
  died : ∀ death ∈ mgr.deaths, death.1 ∈ mgr.died
  single : (mgr.deaths.map Prod.fst).Nodup

variable {asObject} {mgr} {after : AppStateObserverManager} {type : ObserverType}
  {reg : Registration}

theorem Coherent.good (sound : mgr.Coherent asObject) : mgr.Good asObject where
  __ := sound
  recipients object := by
    constructor
    · intro known
      obtain ⟨recipient, found⟩ := Option.isSome_iff_exists.1 known
      exact ⟨recipient.type, sound.own object recipient found⟩
    · rintro ⟨type, present⟩
      exact sound.recipients object type present
  gone object dead handled type present := handled type (sound.dying object dead type present)

theorem addObserverCount_getD (uid other : Int) :
    ((mgr.addObserverCount uid).observerCountMap other).getD 0 =
      (mgr.observerCountMap other).getD 0 + if uid = other then 1 else 0 := by
  unfold addObserverCount
  dsimp only
  by_cases same : other = uid
  · subst same
    rw [update_self, if_pos rfl]
    cases mgr.observerCountMap other <;> rfl
  · rw [update_of_ne same, if_neg (Ne.symm same), Int.add_zero]

theorem decreaseObserverCount_getD {uid : Int} (positive : 0 < (mgr.observerCountMap uid).getD 0)
    (other : Int) :
    ((mgr.decreaseObserverCount uid).observerCountMap other).getD 0 +
        (if uid = other then 1 else 0) = (mgr.observerCountMap other).getD 0 ∧
      (mgr.decreaseObserverCount uid).observerAmount + 1 = mgr.observerAmount := by
  unfold decreaseObserverCount
  cases known : mgr.observerCountMap uid with
  | none =>
    rw [known] at positive
    exact absurd positive (by decide)
  | some count =>
    rw [known] at positive
    have least : 0 < count := positive
    refine ⟨?_, Int.sub_add_cancel _ _⟩
    dsimp only
    by_cases same : other = uid
    · subst same
      rw [update_self, if_pos rfl, known]
      split
      next low =>
        change (0 : Int) + 1 = count
        omega
      · change count - 1 + 1 = count
        omega
    · rw [update_of_ne same, if_neg (Ne.symm same), Int.add_zero]

theorem addObserverDeathRecipient_map (object other : Nat) :
    (mgr.addObserverDeathRecipient type object).recipientMap other =
      if other = object then
        some ((mgr.recipientMap object).getD ⟨type, !mgr.died.contains object⟩)
      else mgr.recipientMap other := by
  unfold addObserverDeathRecipient
  by_cases same : other = object
  · subst same
    rw [if_pos rfl]
    cases known : mgr.recipientMap other with
    | none => exact update_self ..
    | some recipient => exact known
  · rw [if_neg same]
    cases mgr.recipientMap object with
    | none => exact update_of_ne same ..
    | some recipient => rfl

theorem addObserverDeathRecipient_eq (object : Nat) :
    mgr.addObserverDeathRecipient type object =
      { mgr with
        recipientMap := (mgr.addObserverDeathRecipient type object).recipientMap } := by
  unfold addObserverDeathRecipient
  cases mgr.recipientMap object <;> rfl

theorem addObserverDeathRecipient_congr {object : Nat}
    (recipients : after.recipientMap = mgr.recipientMap) (died : after.died = mgr.died) :
    (after.addObserverDeathRecipient type object).recipientMap =
      (mgr.addObserverDeathRecipient type object).recipientMap := by
  funext other
  rw [addObserverDeathRecipient_map, addObserverDeathRecipient_map, recipients, died]

theorem decreaseObserverCount_eq (uid : Int) :
    mgr.decreaseObserverCount uid =
      { mgr with
        observerCountMap := (mgr.decreaseObserverCount uid).observerCountMap
        observerAmount := (mgr.decreaseObserverCount uid).observerAmount } := by
  unfold decreaseObserverCount
  cases mgr.observerCountMap uid <;> rfl

theorem decreaseObserverCount_congr {uid : Int}
    (counts : after.observerCountMap = mgr.observerCountMap)
    (amount : after.observerAmount = mgr.observerAmount) :
    (after.decreaseObserverCount uid).observerCountMap =
        (mgr.decreaseObserverCount uid).observerCountMap ∧
      (after.decreaseObserverCount uid).observerAmount =
        (mgr.decreaseObserverCount uid).observerAmount := by
  unfold decreaseObserverCount
  rw [counts]
  cases mgr.observerCountMap uid with
  | none => exact ⟨counts, amount⟩
  | some count =>
    rw [amount]
    exact ⟨rfl, rfl⟩

theorem objects_update {list : List Registration}
    (maps : after.observerMap = update mgr.observerMap type list) (other : ObserverType) :
    after.objects asObject other =
      if other = type then list.map fun reg => asObject reg.observer
      else mgr.objects asObject other := by
  unfold objects
  rw [maps]
  by_cases same : other = type
  · rw [same, update_self, if_pos rfl]
  · rw [update_of_ne same, if_neg same]

theorem Coherent.add (sound : mgr.Coherent asObject) {list : List Registration}
    (free : asObject reg.observer ∉ mgr.objects asObject type)
    (alive : asObject reg.observer ∈ mgr.died ->
      (asObject reg.observer, type) ∈ mgr.deaths)
    (inserted : list.Perm (reg :: mgr.observerMap type))
    (maps : after.observerMap = update mgr.observerMap type list)
    (recipientMap : after.recipientMap = (mgr.addObserverDeathRecipient type
      (asObject reg.observer)).recipientMap)
    (observerCountMap : after.observerCountMap =
      (mgr.addObserverCount reg.uid).observerCountMap)
    (observerAmount : after.observerAmount = mgr.observerAmount + 1)
    (died : after.died = mgr.died) (deaths : after.deaths = mgr.deaths) :
    after.Coherent asObject := by
  have held : (list.map fun reg => asObject reg.observer).Perm
      (asObject reg.observer :: mgr.objects asObject type) := inserted.map _
  have present (object : Nat) (other : ObserverType) : object ∈ after.objects asObject other ↔
      object ∈ mgr.objects asObject other ∨
        other = type ∧ object = asObject reg.observer := by
    rw [objects_update maps]
    split
    next same =>
      subst same
      rw [held.mem_iff, mem_cons]
      simp [or_comm]
    next ne => simp [ne]
  have sizes (size : List Registration -> Nat) (grows : ∀ list, size (reg :: list) =
      size list + size [reg]) (permuted : size list = size (reg ::
        mgr.observerMap type)) : total (fun other => size (after.observerMap other)) =
      total (fun other => size (mgr.observerMap other)) + size [reg] := by
    have both := total_update size mgr.observerMap type list
    rw [permuted, grows] at both
    rw [maps]
    omega
  constructor
  case once =>
    intro other
    rw [objects_update maps]
    split
    · exact (held.nodup_iff).2 (nodup_cons.2 ⟨free, sound.once type⟩)
    · exact sound.once other
  case recipients =>
    intro object other held
    rw [recipientMap, addObserverDeathRecipient_map]
    split
    · rfl
    next ne =>
      rcases (present object other).1 held with before | ⟨-, own⟩
      · exact sound.recipients object other before
      · exact absurd own ne
  case own =>
    intro object recipient found
    rw [recipientMap, addObserverDeathRecipient_map] at found
    split at found
    next same =>
      subst same
      cases known : mgr.recipientMap (asObject reg.observer) with
      | none =>
        rw [known] at found
        cases found
        exact (present _ _).2 (.inr ⟨rfl, rfl⟩)
      | some earlier =>
        rw [known] at found
        cases found
        exact (present _ _).2 (.inl (sound.own _ _ known))
    · exact (present _ _).2 (.inl (sound.own object recipient found))
  case linked =>
    intro object recipient found living
    rw [died] at living
    rw [recipientMap, addObserverDeathRecipient_map] at found
    split at found
    next same =>
      subst same
      cases known : mgr.recipientMap (asObject reg.observer) with
      | none =>
        rw [known] at found
        cases found
        simpa using living
      | some earlier =>
        rw [known] at found
        cases found
        exact sound.linked _ _ known living
    · exact sound.linked object recipient found living
  case counted =>
    intro uid
    rw [observerCountMap, addObserverCount_getD, sound.counted, registrationsOf, registrationsOf,
      sizes (fun list => list.countP (·.uid = uid)) (fun list => by simp [countP_cons])
        (inserted.countP_eq _)]
    by_cases same : reg.uid = uid <;> simp [same]
  case amount =>
    rw [observerAmount, sound.amount, sizes length (fun list => rfl) inserted.length_eq]
    simp
  case dying =>
    intro object dead other held
    rw [died] at dead
    rw [deaths]
    rcases (present object other).1 held with before | ⟨rfl, rfl⟩
    · exact sound.dying object dead other before
    · exact alive dead
  case died =>
    rw [deaths, died]
    exact sound.died
  case single =>
    rw [deaths]
    exact sound.single

theorem Coherent.remove (sound : mgr.Coherent asObject) {list : List Registration}
    (only : ∀ other, asObject reg.observer ∈ mgr.objects asObject other → other = type)
    (erased : (mgr.observerMap type).Perm (reg :: list))
    (maps : after.observerMap = update mgr.observerMap type list)
    (recipientMap : after.recipientMap =
      update mgr.recipientMap (asObject reg.observer) none)
    (observerCountMap : after.observerCountMap =
      (mgr.decreaseObserverCount reg.uid).observerCountMap)
    (observerAmount : after.observerAmount =
      (mgr.decreaseObserverCount reg.uid).observerAmount)
    (died : after.died = mgr.died) (handled : after.deaths.Sublist mgr.deaths)
    (deaths : ∀ death ∈ mgr.deaths, death.1 ≠ asObject reg.observer ->
      death ∈ after.deaths) : after.Coherent asObject := by
  have held : (mgr.objects asObject type).Perm (asObject reg.observer ::
      list.map fun reg => asObject reg.observer) := erased.map _
  have once := (held.nodup_iff).1 (sound.once type)
  have present (object : Nat) (other : ObserverType) : object ∈ after.objects asObject other ↔
      object ∈ mgr.objects asObject other ∧ object ≠ asObject reg.observer := by
    rw [objects_update maps]
    split
    next same =>
      subst same
      rw [held.mem_iff, mem_cons]
      constructor
      · intro kept
        refine ⟨.inr kept, ?_⟩
        rintro rfl
        exact (nodup_cons.1 once).1 kept
      · exact fun before => before.1.resolve_left before.2
    next ne =>
      refine ⟨fun kept => ⟨kept, ?_⟩, And.left⟩
      rintro rfl
      exact ne (only other kept)
  have sizes (size : List Registration -> Nat) (grows : ∀ list, size (reg :: list) =
      size list + size [reg]) (permuted : size (mgr.observerMap type) =
        size (reg :: list)) : total (fun other => size (after.observerMap other)) +
      size [reg] = total (fun other => size (mgr.observerMap other)) := by
    have both := total_update size mgr.observerMap type list
    rw [permuted, grows] at both
    rw [maps]
    omega
  have counts (uid : Int) := sizes (fun list => list.countP (·.uid = uid))
    (fun list => by simp [countP_cons]) (erased.countP_eq _)
  have positive : 0 < (mgr.observerCountMap reg.uid).getD 0 := by
    have counted := counts reg.uid
    rw [sound.counted, registrationsOf, <- counted]
    simp
  constructor
  case once =>
    intro other
    rw [objects_update maps]
    split
    · exact (nodup_cons.1 once).2
    · exact sound.once other
  case recipients =>
    intro object other kept
    obtain ⟨before, ne⟩ := (present object other).1 kept
    rw [recipientMap, update_of_ne ne]
    exact sound.recipients object other before
  case own =>
    intro object recipient found
    rw [recipientMap, update_apply] at found
    split at found
    · cases found
    next ne =>
      exact (present object recipient.type).2 ⟨sound.own object recipient found, ne⟩
  case linked =>
    intro object recipient found living
    rw [died] at living
    rw [recipientMap, update_apply] at found
    split at found
    · cases found
    · exact sound.linked object recipient found living
  case counted =>
    intro uid
    have lower := (decreaseObserverCount_getD positive uid).1
    have counted := counts uid
    rw [sound.counted, registrationsOf, <- counted] at lower
    rw [observerCountMap, registrationsOf]
    by_cases same : reg.uid = uid <;> simp [same] at lower ⊢ <;> omega
  case amount =>
    have lower := (decreaseObserverCount_getD positive reg.uid).2
    have counted := sizes length (fun list => rfl) erased.length_eq
    rw [sound.amount, <- counted] at lower
    simp at lower ⊢
    omega
  case dying =>
    intro object dead other kept
    obtain ⟨before, ne⟩ := (present object other).1 kept
    rw [died] at dead
    exact deaths _ (sound.dying object dead other before) ne
  case died =>
    rw [died]
    exact fun death waits => sound.died death (handled.subset waits)
  case single => exact (handled.map _).nodup sound.single

theorem mem_objects {object : Nat} : object ∈ mgr.objects asObject type ↔
    ∃ reg ∈ mgr.observerMap type, asObject reg.observer = object := by
  simp [objects]

section

variable (sound : mgr.Coherent asObject)
include sound

theorem Coherent.emplaceObserver
    (free : asObject reg.observer ∉ mgr.objects asObject type)
    (alive : asObject reg.observer ∈ mgr.died ->
      (asObject reg.observer, type) ∈ mgr.deaths)
    (rest : List (ObserverType × Registration)) :
    ({ mgr with registering := rest }.emplaceObserver asObject type
      reg).Coherent asObject := by
  have fresh : ¬((mgr.observerMap type).any (·.observer = reg.observer)) = true := by
    intro taken
    obtain ⟨earlier, held, same⟩ := any_eq_true.1 taken
    refine free (mem_objects.2 ⟨earlier, held, ?_⟩)
    rw [of_decide_eq_true same]
  have emplaced : { mgr with registering := rest }.emplace type reg =
      { mgr with
        registering := rest
        observerMap := update mgr.observerMap type
          ((mgr.observerMap type).orderedInsert (·.observer ≤ ·.observer) reg) } :=
    if_neg fresh
  have inserted := perm_orderedInsert (fun first second : Registration =>
    first.observer ≤ second.observer) reg (mgr.observerMap type)
  unfold AppStateObserverManager.emplaceObserver
  rw [emplaced]
  cases type <;> dsimp only <;> rw [addObserverDeathRecipient_eq]
  all_goals
    exact sound.add free alive inserted rfl (addObserverDeathRecipient_congr rfl rfl)
      rfl rfl rfl rfl

theorem Coherent.unregisterObject {object : Nat} (only : object ∈ mgr.objects asObject type ->
      ∀ other, object ∈ mgr.objects asObject other -> other = type)
    {deaths : List (Nat × ObserverType)} (handled : deaths.Sublist mgr.deaths)
    (kept : ∀ death ∈ mgr.deaths, death ∉ deaths -> death = (object, type)) :
    ({ mgr with deaths }.unregisterObject asObject type object).1.Coherent asObject := by
  unfold AppStateObserverManager.unregisterObject
  cases found : (mgr.observerMap type).find? (Registration.isOf asObject object) with
  | none =>
    refine { sound with
      dying := ?dying
      died := fun death waits => sound.died death (handled.subset waits)
      single := (handled.map _).nodup sound.single }
    case dying =>
      intro other dead map held
      by_contra missed
      cases kept _ (sound.dying other dead map held) missed
      obtain ⟨reg, present, own⟩ := mem_objects.1 held
      exact find?_eq_none.1 found reg present (decide_eq_true own)
  | some reg =>
    have present := mem_of_find?_eq_some found
    obtain rfl : asObject reg.observer = object := by
      simpa [Registration.isOf] using find?_some found
    have lower := @decreaseObserverCount_congr mgr { mgr with deaths } reg.uid
      rfl rfl
    dsimp only
    rw [decreaseObserverCount_eq]
    refine sound.remove (only (mem_objects.2 ⟨reg, present, rfl⟩))
      (perm_cons_eraseP found) rfl rfl lower.1 lower.2 rfl handled ?_
    intro death waits ne
    by_contra missed
    exact ne (congrArg Prod.fst (kept death waits missed))

theorem Coherent.die {object : Nat}
    (keeps : mgr.Keeps asObject (.die object)) : (mgr.die object).Coherent asObject := by
  unfold AppStateObserverManager.die
  split
  · exact sound
  next living =>
    have alive : object ∉ mgr.died := fun dead => living (contains_iff_mem.2 dead)
    cases known : mgr.recipientMap object with
    | none =>
      have nowhere (type : ObserverType) : object ∉ mgr.objects asObject type := by
        intro held
        have some := sound.recipients object type held
        rw [known] at some
        cases some
      dsimp only
      rw [append_nil]
      refine { sound with
        linked := fun other recipient found living => sound.linked other recipient found
          (fun dead => living (mem_cons_of_mem _ dead))
        dying := ?dying
        died := fun death waits => mem_cons_of_mem _ (sound.died death waits) }
      case dying =>
        intro other dead type held
        rcases mem_cons.1 dead with rfl | earlier
        · exact absurd held (nowhere type)
        · exact sound.dying other earlier type held
    | some recipient =>
      have linked := sound.linked object recipient known alive
      obtain ⟨type, isLinked⟩ := recipient
      obtain rfl : isLinked = true := linked
      refine { sound with
        linked := fun other recipient found living => sound.linked other recipient found
          (fun dead => living (mem_cons_of_mem _ dead))
        dying := ?dying, died := ?died, single := ?single }
      case dying =>
        intro other dead map held
        rcases mem_cons.1 dead with rfl | earlier
        · rw [keeps alive type (sound.own _ _ known) map held]
          exact mem_append_right _ (mem_singleton.2 rfl)
        · exact mem_append_left _ (sound.dying other earlier map held)
      case died =>
        intro death waits
        rcases mem_append.1 waits with earlier | own
        · exact mem_cons_of_mem _ (sound.died death earlier)
        · rw [mem_singleton.1 own]
          exact mem_cons_self ..
      case single =>
        rw [map_append]
        refine nodup_append.2 ⟨sound.single, nodup_singleton _, ?_⟩
        rintro other listed _ own rfl
        obtain ⟨death, waits, rfl⟩ := mem_map.1 listed
        have same : death.1 = object := mem_singleton.1 own
        exact alive (same ▸ sound.died death waits)

theorem Coherent.registerObserver (existCode : ErrCode) :
    (mgr.registerObserver asObject type reg existCode).1.Coherent asObject := by
  unfold AppStateObserverManager.registerObserver
  split
  · exact sound
  · exact { sound with }

theorem Coherent.onObserverDied {index object : Nat}
    (waits : mgr.deaths[index]? = some (object, type)) :
    ({ mgr with deaths := mgr.deaths.eraseIdx index }.onObserverDied asObject object type
      true).Coherent asObject := by
  have dead := sound.died _ (mem_of_getElem? waits)
  have unique (other : ObserverType) (also : (object, other) ∈ mgr.deaths) : other = type := by
    have same := inj_on_of_nodup_map sound.single also (mem_of_getElem? waits) rfl
    exact congrArg Prod.snd same
  refine sound.unregisterObject ?only (eraseIdx_sublist ..) ?kept
  case only => exact fun _ other held => unique other (sound.dying object dead other held)
  case kept =>
    intro death present missed
    have inside := (List.getElem?_eq_some_iff.1 waits).1
    have split := List.getElem_cons_eraseIdx_perm inside
    rw [(List.getElem?_eq_some_iff.1 waits).2] at split
    exact (List.mem_cons.1 (split.mem_iff.2 present)).resolve_right missed

theorem Coherent.step (next : ObserverStep)
    (keeps : mgr.Keeps asObject next) : (mgr.step asObject next).Coherent asObject := by
  unfold AppStateObserverManager.step
  cases next
  case registerApplicationState observer uid bundleNameList isPermitted =>
    dsimp only [registerApplicationStateObserver]
    split
    · exact sound
    · split
      · exact sound
      · cases observer with
        | none => exact sound
        | some observer => exact sound.registerObserver _
  case registerImageProcessState observer uid isPermitted =>
    dsimp only [registerImageProcessStateObserver]
    split
    · exact sound
    · cases observer with
      | none => exact sound
      | some observer => exact sound.registerObserver _
  case registerAppForegroundState observer uid isPermitted =>
    dsimp only [registerAppForegroundStateObserver]
    cases observer with
    | none => exact sound
    | some observer =>
      dsimp only
      split
      · exact sound
      · exact sound.registerObserver _
  case registerAbilityForegroundState observer uid isPermitted =>
    dsimp only [registerAbilityForegroundStateObserver]
    cases observer with
    | none => exact sound
    | some observer =>
      dsimp only
      split
      · exact sound
      · exact sound.registerObserver _
  case emplaceObserver index =>
    dsimp only
    split
    · exact sound
    next type reg waits =>
      obtain ⟨free, alive⟩ := keeps (type, reg) waits
      exact sound.emplaceObserver free alive _
  case unregister type observer isPermitted =>
    cases observer with
    | none => cases type <;> exact sound
    | some observer =>
      cases isPermitted with
      | false => cases type <;> exact sound
      | true =>
        have removed := sound.unregisterObject (keeps rfl observer rfl)
          (Sublist.refl _) (fun death waits missed => absurd waits missed)
        cases type <;> exact removed
  case die object => exact sound.die keeps
  case onObserverDied index isPermitted =>
    dsimp only
    split
    · exact sound
    next object type waits =>
      obtain rfl : isPermitted = true := keeps
      exact sound.onObserverDied waits

end

theorem Coherent.start : (appStateObserverManager asObject).start.Coherent asObject where
  once _ := nodup_nil
  recipients := nofun
  own := nofun
  linked := nofun
  counted _ := rfl
  amount := rfl
  dying := nofun
  died := nofun
  single := nodup_nil

instance (holds : ObserverType -> Prop) [DecidablePred holds] : Decidable (∀ type, holds type) :=
  decidable_of_iff (holds .applicationState ∧ holds .appForegroundState ∧
    holds .abilityForegroundState ∧ holds .imageProcessState)
    ⟨fun ⟨application, app, ability, image⟩ type => by cases type <;> assumption,
      fun every => ⟨every _, every _, every _, every _⟩⟩

instance decidableKeeps : ∀ next, Decidable (mgr.Keeps asObject next)
  | .registerApplicationState _ _ _ _ | .registerImageProcessState _ _ _
  | .registerAppForegroundState _ _ _ | .registerAbilityForegroundState _ _ _ => .isTrue trivial
  | .emplaceObserver index =>
    inferInstanceAs (Decidable (∀ call ∈ mgr.registering[index]?, _ ∉ _ ∧ (_ ∈ _ -> _ ∈ _)))
  | .unregister _ observer _ =>
    inferInstanceAs (Decidable (_ -> ∀ proxy ∈ observer, _ ∈ _ -> ∀ other, _ ∈ _ -> other = _))
  | .die object =>
    inferInstanceAs (Decidable (_ ∉ _ -> ∀ type, object ∈ mgr.objects asObject type ->
      ∀ other, object ∈ mgr.objects asObject other -> other = type))
  | .onObserverDied _ isPermitted => inferInstanceAs (Decidable (isPermitted = true))

end AppStateObserverManager

def behind (proxy : Nat) : Nat := (proxy + 2) / 2

end AbilityRuntime.AppState
