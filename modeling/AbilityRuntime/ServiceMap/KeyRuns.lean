import AbilityRuntime.ServiceMap.RequestKeys

set_option autoImplicit false

namespace AbilityRuntime.ServiceMap

open Library List BaseExtensionRecord

namespace AbilityConnectManager

variable {setting : Setting} {mgr : AbilityConnectManager}

theorem Kept.processEliminateAbilityRecord (kept : Kept setting mgr) {record : Nat}
    (taken : record ∉ mgr.cache) :
    Kept setting (mgr.processEliminateAbilityRecord setting record) := by
  unfold AbilityConnectManager.processEliminateAbilityRecord
  split
  · exact kept
  next service found => exact (kept.add found rfl taken).terminateRecord record

theorem Kept.put (kept : Kept setting mgr) {record : Nat} {service : BaseExtensionRecord}
    (found : mgr.records[record]? = some service) :
    Kept setting { mgr.removeServiceFromMapSafe (service.getServiceKey setting) with
      cache := mgr.cache ++ [record] } := by
  have erased := kept.erase (service.getServiceKey setting)
  refine ⟨erased.keyed, ?exist, ?apart⟩
  case exist =>
    intro other mem
    rcases mem_append.mp mem with earlier | new
    · exact kept.exist other earlier
    · obtain rfl := mem_singleton.mp new
      exact (List.getElem?_eq_some_iff.mp found).1
  case apart =>
    intro other mem key held
    rcases mem_append.mp mem with earlier | new
    · exact erased.apart other earlier key held
    · obtain rfl := mem_singleton.mp new
      have own := kept.keyed.own_key (KeyedMap.lookup_of_erase held) found
      rw [own, removeServiceFromMapSafe] at held
      simp at held

theorem Kept.terminateOrCacheAbility (kept : Kept setting mgr) (record : Nat)
    (evicted : Option Nat) :
    Kept setting (mgr.terminateOrCacheAbility setting record evicted) := by
  unfold AbilityConnectManager.terminateOrCacheAbility
  split
  · exact kept
  next service found =>
    split
    · exact kept
    · split
      · dsimp only
        split
        · exact kept.put found
        next eliminateRecord _ =>
          refine ((kept.put found).removeFromCache eliminateRecord).processEliminateAbilityRecord ?_
          simp [AbilityConnectManager.removeFromCache]
      · exact kept.terminateRecord record

def StopKeeps (setting : Setting) (mgr : AbilityConnectManager) (request : AbilityRequest)
    (requestId : RequestId) (cached : Option Nat) : Prop :=
  mgr.serviceMap.lookup (request.getServiceKey setting requestId) = none ->
    ∀ record service, mgr.fromCache request cached = some record ->
      mgr.records[record]? = some service ->
        service.getServiceKey setting = request.getServiceKey setting requestId

theorem Kept.stopServiceAbility (kept : Kept setting mgr) {request : AbilityRequest}
    {requestId : RequestId} {cached : Option Nat}
    (keeps : StopKeeps setting mgr request requestId cached) :
    Kept setting (mgr.stopServiceAbility setting request requestId cached) := by
  have stopped {before : AbilityConnectManager} (kept : Kept setting before) (record : Nat)
      (terminating : Bool) :
      Kept setting (if terminating then before else before.terminateRecord setting record) := by
    cases terminating with
    | true => exact kept
    | false => exact kept.terminateRecord record
  cases held : mgr.serviceMap.lookup (request.getServiceKey setting requestId) with
  | some record =>
    simp only [AbilityConnectManager.stopServiceAbility, held]
    exact stopped kept record _
  | none =>
    cases found : mgr.fromCache request cached with
    | none => simpa only [AbilityConnectManager.stopServiceAbility, held, found] using kept
    | some record =>
      simp only [AbilityConnectManager.stopServiceAbility, held, found]
      obtain ⟨-, service, present⟩ := fromCache_some found
      have added := (kept.removeFromCache record).add present
        (keeps held record service found present) (by simp [AbilityConnectManager.removeFromCache])
      exact stopped added record _

theorem terminateRecord_lookup {record : Nat} {service : BaseExtensionRecord}
    (found : mgr.records[record]? = some service) {key : String}
    (ne : key ≠ service.getServiceKey setting) :
    (mgr.terminateRecord setting record).serviceMap.lookup key =
      mgr.serviceMap.lookup key := by
  unfold terminateRecord
  split
  · rw [moveToTerminatingMap_eq found]
    split
    · rw [KeyedMap.lookup_erase_eq, if_neg ne]
    · rfl
  · rfl

@[simp] theorem terminateRecord_records (record : Nat) :
    (mgr.terminateRecord setting record).records = mgr.records := by
  unfold terminateRecord
  split
  · cases found : mgr.records[record]? with
    | none => simp only [moveToTerminatingMap, found]
    | some service =>
      rw [moveToTerminatingMap_eq found]
      rfl
  · rfl

theorem stop_keeps {request : AbilityRequest} {requestId : RequestId} {cached : Option Nat}
    (keyed : Keyed setting (mgr.stopServiceAbility setting request requestId cached)) :
    StopKeeps setting mgr request requestId cached := by
  intro free record service found present
  have valid : record < (mgr.removeFromCache record).records.length :=
    (List.getElem?_eq_some_iff.mp present).1
  have added := (addToServiceMap_lookup valid free (request.getServiceKey setting requestId)).trans
    (if_pos rfl)
  simp only [stopServiceAbility, free, found] at keyed
  by_contra ne
  split at keyed
  · refine ne (keyed.own_key added ?_)
    rw [addToServiceMap_records]
    exact present
  · refine ne (keyed.own_key (((terminateRecord_lookup ?_ (Ne.symm ne)).trans added)) ?_)
    · rwa [addToServiceMap_records]
    · rw [terminateRecord_records, addToServiceMap_records]
      exact present

/-- What keeps the keys. An update of the connect want is nothing to a record that is in no map. -/
def Keeps (setting : Setting) (mgr : AbilityConnectManager) : Call -> Prop
  | .startAbility request outcome | .connectAbility request outcome =>
    RequestKeeps setting mgr request outcome
  | .updateConnectWant record =>
    ∀ key service want, mgr.serviceMap.lookup key = some record ->
      mgr.records[record]? = some service -> service.connectWant = some want ->
        WantKeeps service want
  | .stopServiceAbility request requestId cached => StopKeeps setting mgr request requestId cached
  | _ => True

theorem Kept.step (kept : Kept setting mgr) (call : Call) (keeps : Keeps setting mgr call) :
    Kept setting (mgr.step setting call) := by
  cases call with
  | startAbility request outcome => exact kept.serve (startAbility_givesWant request) keeps
  | connectAbility request outcome => exact kept.serve (connectAbility_givesWant request) keeps
  | updateConnectWant record =>
    refine kept.update fun key service held found => ?_
    cases connected : service.connectWant with
    | none => simp only [updateConnectWant, connected]
    | some want =>
      simp only [updateConnectWant, connected]
      exact (setWant_getServiceKey_iff service want).mpr (keeps key service want held found connected)
  | removeConnectWant record => exact kept.update fun _ _ _ _ => rfl
  | setAbilityState record state isTerminating => exact kept.update fun _ _ _ _ => rfl
  | stopServiceAbility request requestId cached => exact kept.stopServiceAbility keeps
  | disconnectAbilityDone record evicted =>
    simp only [AbilityConnectManager.step]
    split
    · exact kept.terminateOrCacheAbility record evicted
    · exact kept
  | terminateRecord record => exact kept.terminateRecord record
  | handleAbilityDied record =>
    simp only [AbilityConnectManager.step]
    split
    · exact (kept.moveToTerminatingMap record).removeServiceAbility record
    · exact kept
  | loadTimeout record =>
    simp only [AbilityConnectManager.step]
    split
    · exact (kept.moveToTerminatingMap record).removeServiceAbility record
    · exact kept
  | removeServiceAbility record => exact kept.removeServiceAbility record
  | pauseExtensions pauses =>
    refine kept.shrink rfl (fun key record held => ?_) (Subset.refl _)
    simp only [AbilityConnectManager.step] at held
    rw [KeyedMap.lookup_filterMapValues, Option.bind_eq_some_iff] at held
    obtain ⟨other, present, same⟩ := held
    split at same
    · cases same
    · rwa [<- Option.some.inj same]
  | closeAssertDialog asserts cached =>
    simp only [AbilityConnectManager.step]
    split
    · exact kept.shrink rfl (fun _ _ => KeyedMap.lookup_of_erase) (Subset.refl _)
    · split
      · exact kept
      · exact kept.shrink rfl (fun _ _ held => held) filter_sublist.subset
  | otherManagers created put gone =>
    have grown := kept.append created
    refine ⟨grown.keyed, fun record mem => ?exist, fun record mem key held => ?apart⟩
    case exist =>
      rcases mem_append.mp (mem_of_mem_filter mem) with earlier | new
      · exact grown.exist record earlier
      · have own := (mem_filter.mp new).2
        rw [Bool.not_or, Bool.and_eq_true] at own
        simpa [AbilityConnectManager.step] using own.2
    case apart =>
      rcases mem_append.mp (mem_of_mem_filter mem) with earlier | new
      · exact grown.apart record earlier key held
      · have mapped : mgr.inServiceMap record = true := inServiceMap_iff.mpr ⟨key, held⟩
        simp [mapped] at new

theorem Kept.keeps (kept : Kept setting mgr) {call : Call}
    (keyed : Keyed setting (mgr.step setting call)) : Keeps setting mgr call := by
  cases call with
  | startAbility request outcome => exact serve_keeps kept (startAbility_givesWant request) keyed
  | connectAbility request outcome => exact serve_keeps kept (connectAbility_givesWant request) keyed
  | updateConnectWant record =>
    intro key service want held found connected
    have own := keyed.of_update held found
    simp only [updateConnectWant, connected] at own
    rw [<- @setWant_getServiceKey_iff setting, own, kept.keyed.own_key held found]
  | stopServiceAbility request requestId cached => exact stop_keeps keyed
  | _ => trivial

end AbilityConnectManager

open AbilityConnectManager

theorem serviceMap_wellKept_iff (setting : Setting) (calls : List Call) :
    (abilityConnectManager setting).Throughout calls (WellKept setting) ↔
      (abilityConnectManager setting).EveryStep calls (Keeps setting) := by
  have initial : Kept setting (abilityConnectManager setting).start := by
    refine ⟨fun key record held => ?_, fun record mem => ?_, fun record mem => ?_⟩
    · cases held
    · cases mem
    · cases mem
  have promised : (abilityConnectManager setting).EveryStep calls fun _ _ => True :=
    fun _ _ _ _ => trivial
  exact Machine.throughout_iff_everyStep initial
    (fun _ call kept _ keeps => kept.step call keeps)
    (fun _ kept => kept.wellKept)
    (fun _ _ kept _ good => kept.keeps good.keyed) promised

namespace AgentCard

def device : Setting where
  getURI element := element.deviceId ++ "/" ++ element.bundleName ++ "/" ++ element.moduleName ++ "/" ++
    element.abilityName
  isCacheExtensionAbilityByInfo _ := false
  isSceneBoard _ := false

def request : AbilityRequest where
  abilityInfo := {
    bundleName := "com.example.cards"
    name := "Assistant"
    moduleName := "entry"
    extensionAbilityType := .agent }
  want := { abilityName := "Assistant", agentId := some "weather", agentCardType := some 0 }

def outcome : Outcome where
  requestId := ⟨"1", by decide, by decide⟩

def calls : List Call :=
  [.connectAbility request outcome, .setAbilityState 0 .active false, .connectAbility request outcome,
    .terminateRecord 0]

end AgentCard

open AgentCard in
theorem terminated_agent_stays_in_map :
    ((abilityConnectManager device).run calls).serviceMap.lookup
        (request.getServiceKey device outcome.requestId) = some 0 ∧
      ((abilityConnectManager device).run calls).terminatingExtensionList = [0] ∧
      ¬ (abilityConnectManager device).Throughout calls (WellKept device) := by
  have held : ((abilityConnectManager device).run calls).serviceMap.lookup
      (request.getServiceKey device outcome.requestId) = some 0 := by decide +kernel
  have found : ((abilityConnectManager device).run calls).records[0]? = some
      { abilityInfo := request.abilityInfo, want := { abilityName := "Assistant" }, appIndex := 0,
        abilityState := .active } := by decide +kernel
  refine ⟨held, by decide +kernel, fun throughout => ?_⟩
  have keyed := (throughout calls [] (by simp)).keyed
  exact absurd (keyed.own_key held found) (by decide +kernel)

end AbilityRuntime.ServiceMap
