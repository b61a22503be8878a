import AbilityRuntime.UriPermission.Store

set_option autoImplicit false

namespace AbilityRuntime.UriPermission

open RecordMap List GrantPolicyInfo

namespace UriPermissionManagerStubImpl

structure RecordsWithin (tokens : Finset UInt32) (s : UriPermissionManagerStubImpl) : Prop where
  uriMap : WellFormed GrantInfo.pair s.uriMap
  policyMap : WellFormed GrantPolicyInfo.pair s.policyMap
  uriTargets : ∀ uri, ∀ info ∈ records s.uriMap uri, info.targetTokenId ∈ tokens
  policyTargets : ∀ path, ∀ info ∈ records s.policyMap path, info.targetTokenId ∈ tokens

def Consistent (s : UriPermissionManagerStubImpl) : Prop :=
  RecordsWithin s.permissionTokenMap s

variable {tokens : Finset UInt32} {s : UriPermissionManagerStubImpl}

theorem initial_consistent : Consistent initial where
  uriMap := wellFormed_empty _
  policyMap := wellFormed_empty _
  uriTargets := by simp [initial]
  policyTargets := by simp [initial]

theorem RecordsWithin.mono {more : Finset UInt32} (within : RecordsWithin tokens s)
    (subset : tokens ⊆ more) : RecordsWithin more s :=
  { within with
    uriTargets := fun uri info mem => subset (within.uriTargets uri info mem)
    policyTargets := fun path info mem => subset (within.policyTargets path info mem) }

theorem RecordsWithin.index (within : RecordsWithin tokens s) (index : Finset UInt32) :
    RecordsWithin tokens { s with permissionTokenMap := index } :=
  { within with }

theorem Consistent.insert_index (consistent : Consistent s) (tokenId : UInt32) :
    Consistent { s with permissionTokenMap := insert tokenId s.permissionTokenMap } :=
  (consistent.mono (Finset.subset_insert _ _)).index _

theorem mergeGrantInfo_pairs (info : GrantInfo) (list : List GrantInfo) :
    (mergeGrantInfo info list).map GrantInfo.pair =
      if info.pair ∈ list.map GrantInfo.pair then list.map GrantInfo.pair
      else list.map GrantInfo.pair ++ [info.pair] := by
  induction list with
  | nil => simp [mergeGrantInfo]
  | cons item rest ih =>
    by_cases same : item.pair = info.pair
    · have fields : item.fromTokenId = info.fromTokenId ∧ item.targetTokenId = info.targetTokenId := by
        simpa [GrantInfo.pair] using same
      by_cases flagged : item.flag &&& info.flag = info.flag <;>
        simp [mergeGrantInfo, fields, flagged, GrantInfo.pair]
    · have fields : ¬(item.fromTokenId = info.fromTokenId ∧ item.targetTokenId = info.targetTokenId) := by
        simpa [GrantInfo.pair] using same
      simp only [mergeGrantInfo, fields, if_false, map_cons, ih, mem_cons, Ne.symm same, false_or]
      split <;> simp

theorem mergeGrantInfo_nodup (info : GrantInfo) (list : List GrantInfo)
    (nodup : (list.map GrantInfo.pair).Nodup) :
    ((mergeGrantInfo info list).map GrantInfo.pair).Nodup := by
  rw [mergeGrantInfo_pairs]
  split
  · exact nodup
  next absent =>
    refine nodup_append.mpr ⟨nodup, nodup_singleton _, ?_⟩
    intro pair mem other single same
    rw [mem_singleton.mp single] at same
    exact absent (same ▸ mem)

theorem mem_mergeGrantInfo_target {info item : GrantInfo} {list : List GrantInfo}
    (mem : item ∈ mergeGrantInfo info list) :
    item.targetTokenId = info.targetTokenId ∨
      ∃ old ∈ list, old.targetTokenId = item.targetTokenId := by
  have paired := mem_map_of_mem (f := GrantInfo.pair) mem
  rw [mergeGrantInfo_pairs] at paired
  have cases : item.pair = info.pair ∨ item.pair ∈ list.map GrantInfo.pair := by
    split at paired
    · exact Or.inr paired
    · simpa [or_comm] using paired
  rcases cases with same | old
  · exact Or.inl (congrArg Prod.snd same)
  · obtain ⟨found, inList, same⟩ := mem_map.mp old
    exact Or.inr ⟨found, inList, congrArg Prod.snd same⟩

theorem mergeGrantInfo_ne_nil (info : GrantInfo) (list : List GrantInfo) :
    mergeGrantInfo info list ≠ [] := by
  cases list with
  | nil => simp [mergeGrantInfo]
  | cons item rest => unfold mergeGrantInfo; split_ifs <;> simp

theorem insertUri_within (within : RecordsWithin tokens s) (uri : String) {list : List GrantInfo}
    (nonempty : list ≠ []) (nodup : (list.map GrantInfo.pair).Nodup)
    (targets : ∀ info ∈ list, info.targetTokenId ∈ tokens) :
    RecordsWithin tokens { s with uriMap := s.uriMap.insert uri list } :=
  { within with
    uriMap := wellFormed_insert within.uriMap uri nonempty nodup
    uriTargets := by
      intro key info mem
      rw [records_insert] at mem
      split at mem
      · exact targets info mem
      · exact within.uriTargets key info mem }

theorem insertPolicy_within (within : RecordsWithin tokens s) (path : String)
    {list : List GrantPolicyInfo} (nonempty : list ≠ [])
    (nodup : (list.map GrantPolicyInfo.pair).Nodup)
    (targets : ∀ info ∈ list, info.targetTokenId ∈ tokens) :
    RecordsWithin tokens { s with policyMap := s.policyMap.insert path list } :=
  { within with
    policyMap := wellFormed_insert within.policyMap path nonempty nodup
    policyTargets := by
      intro key info mem
      rw [records_insert] at mem
      split at mem
      · exact targets info mem
      · exact within.policyTargets key info mem }

variable {targetTokenId : UInt32}

theorem addTempUriPermission_within (within : RecordsWithin tokens s) (uri : String)
    (flag fromTokenId : UInt32) (indexed : targetTokenId ∈ tokens) :
    RecordsWithin tokens (s.addTempUriPermission uri flag fromTokenId targetTokenId) := by
  unfold addTempUriPermission
  cases found : s.uriMap[uri]? with
  | none => exact insertUri_within within uri (by simp) (by simp) (by simpa using indexed)
  | some infoList =>
    refine insertUri_within within uri (mergeGrantInfo_ne_nil _ _)
      (mergeGrantInfo_nodup _ _ (within.uriMap uri infoList found).2) ?_
    intro info mem
    rcases mem_mergeGrantInfo_target mem with same | ⟨old, inList, same⟩
    · exact same ▸ indexed
    · rw [<- same]
      exact within.uriTargets uri old (by rwa [records_of_some found])

theorem addTempUriPermission_index (uri : String) (flag fromTokenId targetTokenId : UInt32) :
    (s.addTempUriPermission uri flag fromTokenId targetTokenId).permissionTokenMap =
      s.permissionTokenMap := by
  unfold addTempUriPermission
  split <;> rfl

theorem addShareFiles_within (flag callerTokenId : UInt32) (indexed : targetTokenId ∈ tokens)
    (files : List (String × Int)) (count : Nat) (within : RecordsWithin tokens s) :
    RecordsWithin tokens (addShareFiles flag callerTokenId targetTokenId files s count).1 := by
  induction files generalizing s count with
  | nil => exact within
  | cons file rest ih =>
    unfold addShareFiles
    split
    · exact ih count within
    · exact ih _ (addTempUriPermission_within within file.1 flag callerTokenId indexed)

section

variable (flag callerTokenId targetTokenId : UInt32)
include flag

theorem addShareFiles_index (files : List (String × Int)) (count : Nat) :
    (addShareFiles flag callerTokenId targetTokenId files s count).1.permissionTokenMap =
      s.permissionTokenMap := by
  induction files generalizing s count with
  | nil => rfl
  | cons file rest ih =>
    unfold addShareFiles
    split
    · exact ih count
    · rw [ih, addTempUriPermission_index]

theorem addShareFiles_count (files : List (String × Int)) (count : Nat) :
    count ≤ (addShareFiles flag callerTokenId targetTokenId files s count).2 := by
  induction files generalizing s count with
  | nil => exact le_refl _
  | cons file rest ih =>
    unfold addShareFiles
    split
    · exact ih count
    · exact le_trans (Nat.le_succ count) (ih (count + 1))

theorem addShareFiles_none (files : List (String × Int))
    (none : (addShareFiles flag callerTokenId targetTokenId files s 0).2 = 0) :
    (addShareFiles flag callerTokenId targetTokenId files s 0).1 = s := by
  induction files with
  | nil => rfl
  | cons file rest ih =>
    unfold addShareFiles at none ⊢
    split
    next failed => exact ih (by simpa [failed] using none)
    next stored =>
      have positive := addShareFiles_count (s := s.addTempUriPermission file.1 flag callerTokenId
        targetTokenId) flag callerTokenId targetTokenId rest (0 + 1)
      rw [if_neg stored] at none
      omega

end

section

variable (services : Services)

theorem grantBatchUriPermissionImpl_consistent (consistent : Consistent s) (uriVec : List String)
    (flag callerTokenId targetTokenId : UInt32) :
    Consistent (s.grantBatchUriPermissionImpl services uriVec flag callerTokenId targetTokenId).1 := by
  unfold grantBatchUriPermissionImpl
  split_ifs
  · exact consistent
  · exact consistent
  · simp only
    split
    · exact consistent
    next first rest answers =>
      split_ifs
      · exact consistent
      next none => rwa [addShareFiles_none _ _ _ _ none]
      · have within := addShareFiles_within (flag &&& FLAG_READ_WRITE_URI) callerTokenId
          (Finset.mem_insert_self targetTokenId s.permissionTokenMap)
          (uriVec.zip (services.createShareFile uriVec targetTokenId (flag &&& FLAG_READ_WRITE_URI)))
          0 (consistent.mono (Finset.subset_insert _ _))
        simpa only [Consistent, addShareFiles_index] using within.index _

theorem addPolicyRecordCache_within (within : RecordsWithin tokens s) (callerTokenId : UInt32)
    (indexed : targetTokenId ∈ tokens) (path : String) :
    RecordsWithin tokens (s.addPolicyRecordCache services callerTokenId targetTokenId path) := by
  unfold addPolicyRecordCache
  generalize (if services.isUdmfOrPasteboardCall then services.callingTokenId else callerTokenId) =
    caller
  cases found : s.policyMap[path]? with
  | none => exact insertPolicy_within within path (by simp) (by simp) (by simpa using indexed)
  | some list =>
    simp only
    split
    · exact within
    next absent =>
      have fresh : (⟨caller, targetTokenId⟩ : GrantPolicyInfo).pair ∉ list.map pair := by
        simpa [pair, equal] using absent
      refine insertPolicy_within within path (by simp) ?_ ?_
      · rw [map_append, map_singleton, <- concat_eq_append]
        exact (within.policyMap path list found).2.concat fresh
      · intro info mem
        rcases mem_append.mp mem with old | added
        · exact within.policyTargets path info (by rwa [records_of_some found])
        · rw [mem_singleton.mp added]; exact indexed

theorem addPolicyRecordCache_index (callerTokenId targetTokenId : UInt32) (path : String) :
    (s.addPolicyRecordCache services callerTokenId targetTokenId path).permissionTokenMap =
      s.permissionTokenMap := by
  unfold addPolicyRecordCache
  generalize (if services.isUdmfOrPasteboardCall then services.callingTokenId else callerTokenId) =
    caller
  simp only
  split
  · rfl
  · split <;> rfl

theorem cachePolicies_within (callerTokenId : UInt32) (indexed : targetTokenId ∈ tokens)
    (policies : List (PolicyInfo × UInt32)) (count : Nat) (within : RecordsWithin tokens s) :
    RecordsWithin tokens (cachePolicies services callerTokenId targetTokenId policies s count).1 := by
  induction policies generalizing s count with
  | nil => exact within
  | cons policy rest ih =>
    unfold cachePolicies
    split
    · exact ih count within
    · apply ih
      split
      · exact within
      · exact addPolicyRecordCache_within services within callerTokenId indexed _

theorem cachePolicies_index (callerTokenId targetTokenId : UInt32)
    (policies : List (PolicyInfo × UInt32)) (count : Nat) :
    (cachePolicies services callerTokenId targetTokenId policies s count).1.permissionTokenMap =
      s.permissionTokenMap := by
  induction policies generalizing s count with
  | nil => rfl
  | cons policy rest ih =>
    unfold cachePolicies
    split
    · exact ih count
    · rw [ih]
      split
      · rfl
      · exact addPolicyRecordCache_index services callerTokenId targetTokenId _

theorem grantBatchUriPermissionImplByPolicy_consistent (consistent : Consistent s)
    (policyInfoVec : List PolicyInfo) (flag : UInt32) (callerInfo targetInfo : FUDAppInfo) :
    Consistent (s.grantBatchUriPermissionImplByPolicy services policyInfoVec flag
      callerInfo targetInfo).1 := by
  unfold grantBatchUriPermissionImplByPolicy
  simp only
  have cached (policies : List (PolicyInfo × UInt32)) :
      Consistent (cachePolicies services callerInfo.tokenId targetInfo.tokenId policies
        { s with permissionTokenMap := insert targetInfo.tokenId s.permissionTokenMap } 0).1 := by
    unfold Consistent
    rw [cachePolicies_index]
    exact cachePolicies_within services _ (Finset.mem_insert_self _ _) policies 0
      (consistent.insert_index targetInfo.tokenId)
  split_ifs
  · exact consistent
  · exact consistent
  · exact cached _
  · exact cached _

theorem grantBatchUriPermissionImplByPolicyWithoutCache_consistent (consistent : Consistent s)
    (policyInfos : List PolicyInfo) (flag : UInt32) (callerInfo targetInfo : FUDAppInfo) :
    Consistent (s.grantBatchUriPermissionImplByPolicyWithoutCache services policyInfos flag
      callerInfo targetInfo).1 := by
  unfold grantBatchUriPermissionImplByPolicyWithoutCache
  simp only
  split
  · exact consistent
  · split <;> exact consistent.insert_index targetInfo.tokenId

theorem active_consistent (consistent : Consistent s)
    (policy : Except Int (List PolicyInfo)) : Consistent (s.active services policy).1 := by
  unfold active
  simp only
  split
  · exact consistent
  · split
    · exact consistent
    · split; exact consistent; exact consistent.insert_index _

end

end UriPermissionManagerStubImpl

end AbilityRuntime.UriPermission
