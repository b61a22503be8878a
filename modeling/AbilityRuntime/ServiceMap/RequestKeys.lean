import AbilityRuntime.ServiceMap.ServiceMapKeys

set_option autoImplicit false

namespace AbilityRuntime.ServiceMap

open Library BaseExtensionRecord

namespace AbilityConnectManager

variable {setting : Setting} {mgr : AbilityConnectManager}

variable {request : AbilityRequest} {requestId : RequestId}

theorem create_getServiceKey_iff {service : BaseExtensionRecord}
    (made : service = createBaseExtensionRecord request ∧
        request.abilityInfo.extensionAbilityType ≠ .modularObject ∨
      service = setupNewRecord (createBaseExtensionRecord request)
          (request.getServiceKey setting requestId) ∧
        request.abilityInfo.extensionAbilityType = .modularObject) :
    service.getServiceKey setting = request.getServiceKey setting requestId ↔
      (createBaseExtensionRecord request).getURI setting =
        setting.getURI (request.abilityInfo.element request.generateBundleName) := by
  have whole : service.getServiceKey setting = (createBaseExtensionRecord request).getURI setting ++
      keySuffix request.abilityInfo request.want ("_" ++ requestId.digits) := by
    rcases made with ⟨rfl, other⟩ | ⟨rfl, modular⟩
    · simp [getServiceKey, createBaseExtensionRecord, keySuffix, other]
    · by_cases frs : request.abilityInfo.bundleName = frsBundleName
      · unfold setupNewRecord
        split <;> simp [getServiceKey, getURI, createBaseExtensionRecord, keySuffix, frs]
      · have suffix : keySuffix request.abilityInfo request.want ("_" ++ requestId.digits) =
            "_" ++ requestId.digits := by
          simp [keySuffix, frs, modular]
        rw [AbilityRequest.getServiceKey, suffix, setupNewRecord, afterLastUnderscore_append]
        simp [getServiceKey, getURI,
          createBaseExtensionRecord, keySuffix, frs, modular, requestId.written]
  rw [whole, AbilityRequest.getServiceKey, String.append_left_inj]

def Fresh (setting : Setting) (request : AbilityRequest) (setupOk : Bool) : Prop :=
  (request.abilityInfo.extensionAbilityType = .modularObject ∧ setupOk = false) ∨
    (createBaseExtensionRecord request).getURI setting =
      setting.getURI (request.abilityInfo.element request.generateBundleName)

theorem createServiceRecord_cases (mgr : AbilityConnectManager) (request : AbilityRequest)
    (serviceKey : String) (setupOk : Bool) :
    ∃ service, service = createBaseExtensionRecord request ∧
        request.abilityInfo.extensionAbilityType ≠ .modularObject ∧
        (mgr.createServiceRecord request serviceKey setupOk).1 =
          { mgr with records := mgr.records ++ [service] }.addToServiceMap serviceKey
            mgr.records.length ∨
      service = setupNewRecord (createBaseExtensionRecord request) serviceKey ∧
        request.abilityInfo.extensionAbilityType = .modularObject ∧ setupOk = true ∧
        (mgr.createServiceRecord request serviceKey setupOk).1 =
          { mgr with records := mgr.records ++ [service] }.addToServiceMap serviceKey
            mgr.records.length ∨
      request.abilityInfo.extensionAbilityType = .modularObject ∧ setupOk = false ∧
        (mgr.createServiceRecord request serviceKey setupOk).1 =
          { mgr with records := mgr.records ++ [service] } := by
  unfold createServiceRecord
  by_cases modular : request.abilityInfo.extensionAbilityType = .modularObject
  · cases setupOk with
    | true => exact ⟨_, .inr (.inl ⟨rfl, modular, rfl, by simp [modular]⟩)⟩
    | false => exact ⟨createBaseExtensionRecord request, .inr (.inr ⟨modular, rfl, by simp [modular]⟩)⟩
  · exact ⟨_, .inl ⟨rfl, modular, by simp [modular]⟩⟩

theorem Kept.create (kept : Kept setting mgr) {setupOk : Bool}
    (fresh : Fresh setting request setupOk) :
    Kept setting (mgr.createServiceRecord request (request.getServiceKey setting requestId)
      setupOk).1 := by
  have new (service : BaseExtensionRecord)
      (own : service.getServiceKey setting = request.getServiceKey setting requestId) :
      Kept setting ({ mgr with records := mgr.records ++ [service] }.addToServiceMap
        (request.getServiceKey setting requestId) mgr.records.length) := by
    refine (kept.append [service]).add (by simp) own fun cached => ?_
    exact absurd (kept.exist _ cached) (by omega)
  obtain ⟨service, ⟨made, other, same⟩ | ⟨made, modular, ok, same⟩ | ⟨-, -, same⟩⟩ :=
    createServiceRecord_cases mgr request (request.getServiceKey setting requestId) setupOk
  · rw [same]
    have uri := fresh.resolve_left (fun both => other both.1)
    exact new service ((create_getServiceKey_iff (.inl ⟨made, other⟩)).mpr uri)
  · rw [same]
    have uri := fresh.resolve_left (by simp [ok])
    exact new service ((create_getServiceKey_iff (.inr ⟨made, modular⟩)).mpr uri)
  · rw [same]
    exact kept.append [service]

theorem create_fresh {setupOk : Bool}
    (free : mgr.serviceMap.lookup (request.getServiceKey setting requestId) = none)
    (keyed : Keyed setting (mgr.createServiceRecord request
      (request.getServiceKey setting requestId) setupOk).1) : Fresh setting request setupOk := by
  have own (service : BaseExtensionRecord)
      (keyed : Keyed setting ({ mgr with records := mgr.records ++ [service] }.addToServiceMap
        (request.getServiceKey setting requestId) mgr.records.length)) :
      service.getServiceKey setting = request.getServiceKey setting requestId := by
    have valid : mgr.records.length < (mgr.records ++ [service]).length := by simp
    refine @Keyed.own_key setting _ mgr.records.length service keyed _ ?_ ?_
    · refine (addToServiceMap_lookup ?_ ?_ _).trans (if_pos rfl)
      · exact valid
      · exact free
    · simp
  obtain ⟨service, ⟨made, other, same⟩ | ⟨made, modular, -, same⟩ | ⟨modular, failed, -⟩⟩ :=
    createServiceRecord_cases mgr request (request.getServiceKey setting requestId) setupOk
  · rw [same] at keyed
    exact .inr ((create_getServiceKey_iff (.inl ⟨made, other⟩)).mp (own service keyed))
  · rw [same] at keyed
    exact .inr ((create_getServiceKey_iff (.inr ⟨made, modular⟩)).mp (own service keyed))
  · exact .inl ⟨modular, failed⟩

def WantKeeps (service : BaseExtensionRecord) (want : Want) : Prop :=
  if service.abilityInfo.bundleName = frsBundleName then
    toString (want.frsAppIndex.getD 0) = toString (service.want.frsAppIndex.getD 0)
  else service.abilityInfo.extensionAbilityType = .agent ->
    service.want.agentCardType.getD (-1) = lowCode ∨ service.want.agentId.getD "" = ""

theorem setWant_getServiceKey_iff (service : BaseExtensionRecord) (want : Want) :
    (service.setWant want).getServiceKey setting = service.getServiceKey setting ↔
      WantKeeps service want := by
  have uri : (service.setWant want).getURI setting = service.getURI setting := rfl
  rw [getServiceKey, getServiceKey, uri, String.append_right_inj, WantKeeps]
  by_cases frs : service.abilityInfo.bundleName = frsBundleName
  · simp [keySuffix, setWant, frs]
  · by_cases agent : service.abilityInfo.extensionAbilityType = .agent
    · have stripped : (-1 : Int) ≠ lowCode := by decide
      by_cases card : service.want.agentCardType.getD (-1) = lowCode
      · simp [keySuffix, setWant, frs, agent, card, stripped]
      · simp [keySuffix, setWant, frs, agent, card, stripped]
    · simp [keySuffix, setWant, frs, agent]

def fetched (mgr : AbilityConnectManager) (setting : Setting) (request : AbilityRequest)
    (outcome : Outcome) : Option Nat :=
  if setting.isCacheExtensionAbilityByInfo request.abilityInfo then
    mgr.fromCache request outcome.cached
  else none

def served (request : AbilityRequest) (outcome : Outcome) (service : BaseExtensionRecord) :
    BaseExtensionRecord :=
  if outcome.proceeds ∧ service.abilityState = .active then service.setWant request.want else service

def RequestKeeps (setting : Setting) (mgr : AbilityConnectManager) (request : AbilityRequest)
    (outcome : Outcome) : Prop :=
  match mgr.serviceMap.lookup (request.getServiceKey setting outcome.requestId) with
  | some record =>
    if mgr.reusable request record then
      ∀ service, mgr.records[record]? = some service ->
        outcome.proceeds = true -> service.abilityState = .active -> WantKeeps service request.want
    else Fresh setting request outcome.setupOk
  | none =>
    match mgr.fetched setting request outcome with
    | some record =>
      if mgr.reusable request record then
        ∀ service, mgr.records[record]? = some service ->
          (served request outcome service).getServiceKey setting =
            request.getServiceKey setting outcome.requestId
      else Fresh setting request outcome.setupOk
    | none => Fresh setting request outcome.setupOk

theorem fromCache_some {cached : Option Nat} {record : Nat}
    (found : mgr.fromCache request cached = some record) :
    record ∈ mgr.cache ∧ ∃ service, mgr.records[record]? = some service := by
  obtain ⟨-, holds⟩ := Option.filter_eq_some_iff.mp found
  rw [Bool.and_eq_true] at holds
  refine ⟨by simpa using holds.1, ?_⟩
  cases present : mgr.records[record]? with
  | none => simp [present] at holds
  | some service => exact ⟨service, rfl⟩

variable {outcome : Outcome}

theorem fetched_mem {record : Nat}
    (found : mgr.fetched setting request outcome = some record) : record ∈ mgr.cache := by
  unfold fetched at found
  split at found
  · exact (fromCache_some found).1
  · cases found

theorem findServiceRecord_eq
    (free : mgr.serviceMap.lookup (request.getServiceKey setting outcome.requestId) = none) :
    mgr.findServiceRecord setting request (request.getServiceKey setting outcome.requestId)
        outcome.cached =
      match mgr.fetched setting request outcome with
      | none => (mgr, none)
      | some record =>
        ((mgr.removeFromCache record).addToServiceMap
          (request.getServiceKey setting outcome.requestId) record, some record) := by
  simp only [findServiceRecord, free, fetched]
  split <;> rfl

inductive Served (setting : Setting) (mgr : AbilityConnectManager) (request : AbilityRequest)
    (outcome : Outcome) (change : BaseExtensionRecord -> BaseExtensionRecord)
    (after : AbilityConnectManager) : Prop where
  | mapped (record : Nat)
      (held : mgr.serviceMap.lookup (request.getServiceKey setting outcome.requestId) = some record)
      (reusable : mgr.reusable request record = true)
      (same : after = mgr.update record change)
  | cached (record : Nat)
      (free : mgr.serviceMap.lookup (request.getServiceKey setting outcome.requestId) = none)
      (found : mgr.fetched setting request outcome = some record)
      (reusable : mgr.reusable request record = true)
      (same : after = ((mgr.removeFromCache record).update record change).addToServiceMap
        (request.getServiceKey setting outcome.requestId) record)
  | created (before : AbilityConnectManager) (kept : Kept setting mgr -> Kept setting before)
      (free : before.serviceMap.lookup (request.getServiceKey setting outcome.requestId) = none)
      (fresh : RequestKeeps setting mgr request outcome ↔ Fresh setting request outcome.setupOk)
      (same : after = (before.createServiceRecord request
        (request.getServiceKey setting outcome.requestId) outcome.setupOk).1)

theorem Kept.dropService (kept : Kept setting mgr) (request : AbilityRequest) (key : String)
    (record : Nat) : Kept setting (mgr.dropService request key record) := by
  unfold AbilityConnectManager.dropService
  split
  · exact (kept.erase key).removeFromCache record
  · exact kept.erase key

theorem removeServiceFromMapSafe_of_free {key : String}
    (free : mgr.serviceMap.lookup key = none) : mgr.removeServiceFromMapSafe key = mgr := by
  rw [removeServiceFromMapSafe, KeyedMap.erase_of_lookup_none free]

theorem removeServiceFromMapSafe_addToServiceMap {key : String}
    (free : mgr.serviceMap.lookup key = none) (record : Nat) :
    (mgr.addToServiceMap key record).removeServiceFromMapSafe key = mgr := by
  unfold addToServiceMap
  split
  · rw [removeServiceFromMapSafe, KeyedMap.erase_insert_of_lookup_none free]
  · exact removeServiceFromMapSafe_of_free free

theorem dropService_lookup (request : AbilityRequest) (key : String) (record : Nat) :
    (mgr.dropService request key record).serviceMap.lookup key = none := by
  unfold dropService
  split <;> exact AList.lookup_erase ..

theorem serve_served (mgr : AbilityConnectManager) (request : AbilityRequest) (outcome : Outcome)
    (change : BaseExtensionRecord -> BaseExtensionRecord) :
    Served setting mgr request outcome
      (fun service => if outcome.proceeds then change service else service)
      (mgr.serve setting request outcome change) := by
  cases held : mgr.serviceMap.lookup (request.getServiceKey setting outcome.requestId) with
  | some record =>
    by_cases reusable : mgr.reusable request record = true
    · refine .mapped record held reusable ?_
      simp [serve, getOrCreateServiceRecord, findServiceRecord, held, reusable]
    · refine .created (mgr.dropService request _ record)
        (fun kept => kept.dropService request _ record) (dropService_lookup request _ record) ?_ ?_
      · simp [RequestKeeps, held, reusable]
      · simp [serve, getOrCreateServiceRecord, findServiceRecord, held, reusable]
  | none =>
    cases found : mgr.fetched setting request outcome with
    | none =>
      refine .created mgr id held (by simp [RequestKeeps, held, found]) ?_
      simp [serve, getOrCreateServiceRecord, findServiceRecord_eq held, found]
    | some record =>
      have unchanged : ((mgr.removeFromCache record).addToServiceMap
          (request.getServiceKey setting outcome.requestId) record).reusable request record =
            mgr.reusable request record := by
        simp [reusable, isAbilityState, removeFromCache]
      by_cases reusable : mgr.reusable request record = true
      · refine .cached record held found reusable ?_
        rw [<- addToServiceMap_update]
        simp [serve, getOrCreateServiceRecord, findServiceRecord_eq held, found, unchanged, reusable]
      · have dropped : ((mgr.removeFromCache record).addToServiceMap
            (request.getServiceKey setting outcome.requestId) record).dropService request
              (request.getServiceKey setting outcome.requestId) record =
                (mgr.removeFromCache record).dropService request
                  (request.getServiceKey setting outcome.requestId) record := by
          have free : (mgr.removeFromCache record).serviceMap.lookup
              (request.getServiceKey setting outcome.requestId) = none := held
          rw [dropService, dropService, removeServiceFromMapSafe_addToServiceMap free,
            removeServiceFromMapSafe_of_free free]
        refine .created _ (fun kept => (kept.removeFromCache record).dropService request _ record)
          (dropService_lookup request _ record) (by simp [RequestKeeps, held, found, reusable]) ?_
        rw [<- dropped]
        simp [serve, getOrCreateServiceRecord, findServiceRecord_eq held, found, unchanged, reusable]

def GivesWant (setting : Setting) (request : AbilityRequest)
    (change : BaseExtensionRecord -> BaseExtensionRecord) : Prop :=
  ∀ service, (change service).getServiceKey setting =
    (if service.abilityState = .active then service.setWant request.want else service).getServiceKey
      setting

variable {change : BaseExtensionRecord -> BaseExtensionRecord}

theorem GivesWant.changed (gives : GivesWant setting request change) (outcome : Outcome)
    (service : BaseExtensionRecord) :
    (if outcome.proceeds then change service else service).getServiceKey setting =
      (served request outcome service).getServiceKey setting := by
  cases proceeds : outcome.proceeds with
  | true => simpa [served, proceeds] using gives service
  | false => simp [served, proceeds]

theorem served_getServiceKey_iff (request : AbilityRequest) (outcome : Outcome)
    (service : BaseExtensionRecord) :
    (served request outcome service).getServiceKey setting = service.getServiceKey setting ↔
      (outcome.proceeds = true -> service.abilityState = .active -> WantKeeps service request.want) := by
  unfold served
  split
  next both =>
    rw [setWant_getServiceKey_iff]
    simp [both]
  next not =>
    refine iff_of_true rfl fun proceeds active => absurd ⟨proceeds, active⟩ not

theorem Kept.serve (kept : Kept setting mgr) (gives : GivesWant setting request change)
    (keeps : RequestKeeps setting mgr request outcome) :
    Kept setting (mgr.serve setting request outcome change) := by
  cases @serve_served setting mgr request outcome change with
  | mapped record held reusable same =>
    simp only [RequestKeeps, held, reusable, if_true] at keeps
    rw [same]
    refine kept.update fun key service _ present => ?_
    rw [gives.changed, served_getServiceKey_iff]
    exact keeps service present
  | cached record free found reusable same =>
    simp only [RequestKeeps, free, found, reusable, if_true] at keeps
    have mem := fetched_mem found
    rw [same]
    have present := List.getElem?_eq_getElem (kept.exist record mem)
    refine Kept.add ((kept.removeFromCache record).update ?_) ?_
      ((gives.changed outcome _).trans (keeps _ present)) ?_
    · exact fun key _ held _ => absurd held (kept.apart record mem key)
    · rw [update_getElem]
      simp [AbilityConnectManager.removeFromCache, present]
    · simp [AbilityConnectManager.update, AbilityConnectManager.removeFromCache]
  | created before shrunk free fresh same =>
    rw [same]
    exact (shrunk kept).create (fresh.mp keeps)

theorem serve_keeps (kept : Kept setting mgr) (gives : GivesWant setting request change)
    (keyed : Keyed setting (mgr.serve setting request outcome change)) :
    RequestKeeps setting mgr request outcome := by
  cases @serve_served setting mgr request outcome change with
  | mapped record held reusable same =>
    simp only [RequestKeeps, held, reusable, if_true]
    intro service present
    rw [same] at keyed
    rw [<- @served_getServiceKey_iff setting, <- gives.changed, keyed.of_update held present,
      kept.keyed.own_key held present]
  | cached record free found reusable same =>
    simp only [RequestKeeps, free, found, reusable, if_true]
    intro service present
    rw [same] at keyed
    rw [<- gives.changed]
    refine keyed.own_key ((addToServiceMap_lookup ?_ ?_ _).trans (if_pos rfl)) ?_
    · simpa [update, removeFromCache] using kept.exist record (fetched_mem found)
    · exact free
    · rw [addToServiceMap_records, update_getElem]
      simp [removeFromCache, present]
  | created before shrunk free fresh same =>
    rw [same] at keyed
    exact fresh.mpr (create_fresh free keyed)

theorem startAbility_givesWant (request : AbilityRequest) :
    GivesWant setting request fun service =>
      if service.abilityState = .active then service.setWant request.want else service :=
  fun _ => rfl

theorem connectAbility_givesWant (request : AbilityRequest) :
    GivesWant setting request fun service =>
      if service.abilityState = .active then service.setWant request.want
      else service.saveConnectWant request.want := by
  intro service
  split
  next active => simp [active]
  next idle => simp [idle, getServiceKey, getURI, saveConnectWant]

end AbilityConnectManager

end AbilityRuntime.ServiceMap
