import AbilityRuntime.ServiceMap.AbilityConnectManager

set_option autoImplicit false

namespace AbilityRuntime.ServiceMap

open Library KeyedMap List Option

namespace AbilityConnectManager

section

variable (setting : Setting)

def Keyed (mgr : AbilityConnectManager) : Prop :=
  ∀ key record, mgr.serviceMap.lookup key = some record ->
    ∃ service, mgr.records[record]? = some service ∧ service.getServiceKey setting = key

structure Moved (before : AbilityConnectManager) (record : Nat) (after : AbilityConnectManager) :
    Prop where
  gone : ∀ key, after.serviceMap.lookup key ≠ some record
  terminating : record ∈ after.terminatingExtensionList
  others : ∀ other, other ≠ record -> ∀ key,
    after.serviceMap.lookup key = some other ↔ before.serviceMap.lookup key = some other

structure WellKept (mgr : AbilityConnectManager) : Prop where
  keyed : Keyed setting mgr
  moved : ∀ record < mgr.records.length, Moved mgr record (mgr.moveToTerminatingMap setting record)

/-- The keys, and a cache that holds records which exist and are not in the map. -/
structure Kept (mgr : AbilityConnectManager) : Prop where
  keyed : Keyed setting mgr
  exist : ∀ record ∈ mgr.cache, record < mgr.records.length
  apart : ∀ record ∈ mgr.cache, ∀ key, mgr.serviceMap.lookup key ≠ some record

end

variable {setting : Setting} {mgr : AbilityConnectManager}

variable {record : Nat} {service : BaseExtensionRecord}

theorem moveToTerminatingMap_eq (found : mgr.records[record]? = some service) :
    mgr.moveToTerminatingMap setting record =
      { mgr.removeFromCache record with
        terminatingExtensionList := mgr.terminatingExtensionList ++ [record]
        serviceMap :=
          if mgr.serviceMap.lookup (service.getServiceKey setting) = some record then
            mgr.serviceMap.erase (service.getServiceKey setting)
          else mgr.serviceMap } := by
  simp only [moveToTerminatingMap, found, removeFromCache]
  cases holder : mgr.serviceMap.lookup (service.getServiceKey setting) with
  | none => simp
  | some other => by_cases same : other = record <;> simp [same]

theorem Keyed.moved (keyed : Keyed setting mgr) (valid : record < mgr.records.length) :
    Moved mgr record (mgr.moveToTerminatingMap setting record) := by
  have found := getElem?_eq_getElem valid
  rw [moveToTerminatingMap_eq found]
  have own (key : String) (held : mgr.serviceMap.lookup key = some record) :
      key = (mgr.records[record]).getServiceKey setting := by
    obtain ⟨service, again, same⟩ := keyed key record held
    rw [found] at again
    rw [<- same, some.inj again]
  constructor
  case gone =>
    intro key held
    split at held
    · rw [lookup_erase_eq] at held
      split at held
      · cases held
      next ne => exact ne (own key held)
    next absent => exact absent (own key held ▸ held)
  case terminating => simp
  case others =>
    intro other ne key
    split
    next holder =>
      rw [lookup_erase_eq]
      split
      next same =>
        subst same
        simpa [holder] using Ne.symm ne
      · rfl
    · rfl

theorem Kept.wellKept (kept : Kept setting mgr) : WellKept setting mgr :=
  ⟨kept.keyed, fun _ valid => kept.keyed.moved valid⟩

theorem inServiceMap_iff :
    mgr.inServiceMap record = true ↔ ∃ key, mgr.serviceMap.lookup key = some record := by
  rw [<- mem_values]
  simp [inServiceMap, values]

section

variable (kept : Kept setting mgr)
include kept

theorem Kept.shrink {after : AbilityConnectManager} (records : after.records = mgr.records)
    (serviceMap : ∀ key record, after.serviceMap.lookup key = some record ->
      mgr.serviceMap.lookup key = some record)
    (cache : after.cache ⊆ mgr.cache) : Kept setting after where
  keyed key record held := by
    rw [records]
    exact kept.keyed key record (serviceMap key record held)
  exist record mem := by
    rw [records]
    exact kept.exist record (cache mem)
  apart record mem key held := kept.apart record (cache mem) key (serviceMap key record held)

theorem Kept.removeFromCache (record : Nat) : Kept setting (mgr.removeFromCache record) :=
  kept.shrink rfl (fun _ _ held => held) filter_sublist.subset

theorem Kept.erase (key : String) : Kept setting (mgr.removeServiceFromMapSafe key) := by
  refine kept.shrink rfl (fun other record held => ?_) (Subset.refl _)
  exact lookup_of_erase held

theorem Kept.moveToTerminatingMap (record : Nat) :
    Kept setting (mgr.moveToTerminatingMap setting record) := by
  cases found : mgr.records[record]? with
  | none => simpa only [AbilityConnectManager.moveToTerminatingMap, found] using kept
  | some service =>
    rw [moveToTerminatingMap_eq found]
    refine kept.shrink rfl (fun key other held => ?_) filter_sublist.subset
    split at held
    · exact lookup_of_erase held
    · exact held

theorem Kept.terminateRecord (record : Nat) :
    Kept setting (mgr.terminateRecord setting record) := by
  unfold AbilityConnectManager.terminateRecord
  split
  · exact kept.moveToTerminatingMap record
  · exact kept

theorem Kept.removeServiceAbility (record : Nat) :
    Kept setting (mgr.removeServiceAbility record) :=
  kept.shrink rfl (fun _ _ held => held) (Subset.refl _)

end

@[simp] theorem addToServiceMap_records (key : String) (record : Nat) :
    (mgr.addToServiceMap key record).records = mgr.records := by
  unfold addToServiceMap
  split <;> rfl

theorem addToServiceMap_lookup {key : String} (valid : record < mgr.records.length)
    (free : mgr.serviceMap.lookup key = none) (other : String) :
    (mgr.addToServiceMap key record).serviceMap.lookup other =
      if other = key then some record else mgr.serviceMap.lookup other := by
  rw [addToServiceMap, if_pos ⟨valid, free⟩]
  exact lookup_insert_eq ..

theorem Kept.append (kept : Kept setting mgr) (created : List BaseExtensionRecord) :
    Kept setting { mgr with records := mgr.records ++ created } where
  keyed key record held := by
    obtain ⟨service, found, same⟩ := kept.keyed key record held
    have valid := (List.getElem?_eq_some_iff.mp found).1
    exact ⟨service, (List.getElem?_append_left valid).trans found, same⟩
  exist record mem := by
    have := kept.exist record mem
    rw [length_append]
    omega
  apart := kept.apart

theorem Kept.add (kept : Kept setting mgr) {key : String}
    (found : mgr.records[record]? = some service) (own : service.getServiceKey setting = key)
    (fresh : record ∉ mgr.cache) :
    Kept setting (mgr.addToServiceMap key record) := by
  unfold addToServiceMap
  split
  next free =>
    constructor
    case keyed =>
      intro other holder held
      rw [lookup_insert_eq] at held
      split at held
      next same =>
        obtain rfl := some.inj held
        exact ⟨service, found, own.trans same.symm⟩
      · exact kept.keyed other holder held
    case exist => exact kept.exist
    case apart =>
      intro cached mem other held
      rw [lookup_insert_eq] at held
      split at held
      · obtain rfl := some.inj held
        exact fresh mem
      · exact kept.apart cached mem other held
  · exact kept

theorem Keyed.own_key (keyed : Keyed setting mgr) {key : String}
    (held : mgr.serviceMap.lookup key = some record)
    (found : mgr.records[record]? = some service) : service.getServiceKey setting = key := by
  obtain ⟨again, foundAgain, same⟩ := keyed key record held
  rw [found] at foundAgain
  rw [some.inj foundAgain, same]

theorem update_getElem (record other : Nat) (change : BaseExtensionRecord -> BaseExtensionRecord) :
    (mgr.update record change).records[other]? =
      (mgr.records[other]?).map fun service => if other = record then change service else service := by
  rw [update, getElem?_modify]
  by_cases same : record = other
  · simp [same]
  · simp [same, Ne.symm same]

theorem Kept.update (kept : Kept setting mgr)
    {change : BaseExtensionRecord -> BaseExtensionRecord}
    (same : ∀ key service, mgr.serviceMap.lookup key = some record ->
      mgr.records[record]? = some service ->
        (change service).getServiceKey setting = service.getServiceKey setting) :
    Kept setting (mgr.update record change) where
  keyed key other held := by
    obtain ⟨service, found, own⟩ := kept.keyed key other held
    rw [update_getElem, found, map_some]
    refine ⟨_, rfl, ?_⟩
    by_cases target : other = record
    · subst target
      rw [if_pos rfl, same key service held found, own]
    · rw [if_neg target, own]
  exist other mem := by
    have := kept.exist other mem
    simpa [AbilityConnectManager.update] using this
  apart := kept.apart

theorem Keyed.of_update {change : BaseExtensionRecord -> BaseExtensionRecord}
    (keyed : Keyed setting (mgr.update record change)) {key : String}
    (held : mgr.serviceMap.lookup key = some record)
    (found : mgr.records[record]? = some service) :
    (change service).getServiceKey setting = key := by
  refine keyed.own_key held ?_
  rw [update_getElem, found, map_some, if_pos rfl]

theorem addToServiceMap_update (key : String) (record : Nat)
    (change : BaseExtensionRecord -> BaseExtensionRecord) :
    (mgr.addToServiceMap key record).update record change =
      (mgr.update record change).addToServiceMap key record := by
  by_cases added : record < mgr.records.length ∧ mgr.serviceMap.lookup key = none <;>
    simp [addToServiceMap, update, added]

end AbilityConnectManager

end AbilityRuntime.ServiceMap
