import AbilityRuntime.UriPermission.Revokes

set_option autoImplicit false

namespace AbilityRuntime.UriPermission

open RecordMap UriPermissionManagerStubImpl

inductive Operation where
  | grantBatchUriPermissionImpl (uriVec : List String) (flag callerTokenId targetTokenId : UInt32)
  | grantBatchUriPermissionImplByPolicy (policyInfoVec : List PolicyInfo) (flag : UInt32)
      (callerInfo targetInfo : FUDAppInfo)
  | grantBatchUriPermissionImplByPolicyWithoutCache (policyInfos : List PolicyInfo) (flag : UInt32)
      (callerInfo targetInfo : FUDAppInfo)
  | active (policy : Except Int (List PolicyInfo))
  | revokeMapUriPermission (tokenId : UInt32)
  | revokePolicyUriPermission (tokenId : UInt32)
  | revokeAllMapUriPermissions (tokenId : UInt32)
  | revokeAllPolicyUriPermissions (tokenId : UInt32)
  | revokeAllUriPermissions (tokenId : UInt32)
  | revokeMapUriPermissionManually (callerTokenId targetTokenId : UInt32) (uri : String)
  | revokePolicyUriPermissionManually (callerTokenId targetTokenId : UInt32) (path : String)
  | revokeFileUriPermission (tokenId : UInt32)

def Operation.apply (s : UriPermissionManagerStubImpl) (services : Services) :
    Operation -> UriPermissionManagerStubImpl
  | .grantBatchUriPermissionImpl uriVec flag caller target =>
    (s.grantBatchUriPermissionImpl services uriVec flag caller target).1
  | .grantBatchUriPermissionImplByPolicy policies flag caller target =>
    (s.grantBatchUriPermissionImplByPolicy services policies flag caller target).1
  | .grantBatchUriPermissionImplByPolicyWithoutCache policies flag caller target =>
    (s.grantBatchUriPermissionImplByPolicyWithoutCache services policies flag caller target).1
  | .active policy => (s.active services policy).1
  | .revokeMapUriPermission tokenId => (s.revokeMapUriPermission tokenId).1
  | .revokePolicyUriPermission tokenId => s.revokePolicyUriPermission tokenId
  | .revokeAllMapUriPermissions tokenId => (s.revokeAllMapUriPermissions services tokenId).1
  | .revokeAllPolicyUriPermissions tokenId => (s.revokeAllPolicyUriPermissions tokenId).1
  | .revokeAllUriPermissions tokenId => (s.revokeAllUriPermissions services tokenId).1
  | .revokeMapUriPermissionManually caller target uri =>
    (s.revokeMapUriPermissionManually services caller target uri).1
  | .revokePolicyUriPermissionManually caller target path =>
    (s.revokePolicyUriPermissionManually services caller target path).1
  | .revokeFileUriPermission tokenId => (s.revokeFileUriPermission services tokenId).1

def run (operations : List (Services × Operation)) : UriPermissionManagerStubImpl :=
  operations.foldl (fun s (services, operation) => operation.apply s services) initial

theorem apply_consistent {s : UriPermissionManagerStubImpl} (consistent : Consistent s)
    (services : Services) (operation : Operation) : Consistent (operation.apply s services) := by
  cases operation with
  | grantBatchUriPermissionImpl => exact grantBatchUriPermissionImpl_consistent services consistent _ _ _ _
  | grantBatchUriPermissionImplByPolicy =>
    exact grantBatchUriPermissionImplByPolicy_consistent services consistent _ _ _ _
  | grantBatchUriPermissionImplByPolicyWithoutCache =>
    exact grantBatchUriPermissionImplByPolicyWithoutCache_consistent services consistent _ _ _ _
  | active => exact active_consistent services consistent _
  | revokeMapUriPermission => exact revokeMapUriPermission_consistent consistent _
  | revokePolicyUriPermission => exact revokePolicyUriPermission_consistent consistent _
  | revokeAllMapUriPermissions => exact revokeAllMapUriPermissions_consistent services consistent _
  | revokeAllPolicyUriPermissions => exact revokeAllPolicyUriPermissions_consistent consistent _
  | revokeAllUriPermissions => exact revokeAllUriPermissions_consistent services consistent _
  | revokeMapUriPermissionManually =>
    exact revokeMapUriPermissionManually_consistent services consistent _ _ _
  | revokePolicyUriPermissionManually =>
    exact revokePolicyUriPermissionManually_consistent services consistent _ _ _
  | revokeFileUriPermission => exact revokeFileUriPermission_consistent services consistent _

theorem run_consistent (operations : List (Services × Operation)) : Consistent (run operations) := by
  induction operations using List.reverseRecOn with
  | nil => exact initial_consistent
  | append_singleton operations last ih =>
    rw [run, List.foldl_append]
    exact apply_consistent ih last.1 last.2

theorem run_indexes_every_target (operations : List (Services × Operation)) :
    let s := run operations
    (∀ (uri : String) (list : List GrantInfo), s.uriMap[uri]? = some list ->
      list ≠ [] ∧ (list.map GrantInfo.pair).Nodup ∧
        ∀ info ∈ list, info.targetTokenId ∈ s.permissionTokenMap) ∧
    (∀ (path : String) (list : List GrantPolicyInfo), s.policyMap[path]? = some list ->
      list ≠ [] ∧ (list.map GrantPolicyInfo.pair).Nodup ∧
        ∀ info ∈ list, info.targetTokenId ∈ s.permissionTokenMap) ∧
    (∀ (services : Services) (t : UInt32), services.unSetAllPolicyByTokenAsync t = ERR_OK ->
      let after := s.revokeFileUriPermission services t
      after.2 = none ∧
      (∀ uri, records after.1.uriMap uri =
        (records s.uriMap uri).filter fun info => info.targetTokenId != t) ∧
      (∀ path, records after.1.policyMap path =
        (records s.policyMap path).filter fun info => info.targetTokenId != t)) ∧
    (∀ (services : Services) (t : UInt32), services.isFoundationCall ->
      let after := s.revokeAllUriPermissions services t
      after.2 = ERR_OK ∧
      (∀ uri, ∀ info ∈ records after.1.uriMap uri, info.fromTokenId ≠ t ∧ info.targetTokenId ≠ t) ∧
      (∀ path, ∀ info ∈ records after.1.policyMap path,
        info.callerTokenId ≠ t ∧ info.targetTokenId ≠ t)) := by
  intro s
  have consistent : Consistent s := run_consistent operations
  refine ⟨?_, ?_, ?_, ?_⟩
  · intro uri list found
    obtain ⟨nonempty, nodup⟩ := consistent.uriMap uri list found
    exact ⟨nonempty, nodup, fun info mem =>
      consistent.uriTargets uri info (by rwa [records_of_some found])⟩
  · intro path list found
    obtain ⟨nonempty, nodup⟩ := consistent.policyMap path list found
    exact ⟨nonempty, nodup, fun info mem =>
      consistent.policyTargets path info (by rwa [records_of_some found])⟩
  · intro services t accepted after
    refine ⟨?_, revokeFileUriPermission_records services consistent t⟩
    simp only [after, revokeFileUriPermission, accepted]
    split <;> rfl
  · intro services t allowed after
    refine ⟨?_, revokeAllUriPermissions_records services allowed t⟩
    simp [after, revokeAllUriPermissions, allowed]

def acceptingServices : Services where
  isFoundationCall := true
  isUdmfOrPasteboardCall := false
  callingTokenId := 10
  hasStorageFeature := true
  createShareFile := fun uriVec _ _ => uriVec.map fun _ => 0
  deleteShareFile := fun _ _ => ERR_OK
  setPolicy := fun _ policies _ _ _ => (ERR_OK, policies.map fun _ => 0)
  unSetPolicy := fun _ _ => ERR_OK
  unSetAllPolicyByTokenAsync := fun _ => ERR_OK
  verifyPermissionByTokenId := fun _ => true
  startAccessingPolicy := fun _ _ => ERR_OK
  getAlterableBundleNameByTokenId := fun _ => "com.example.caller"
  getAuthority := fun _ => "docs"
  revokeUriPermission := none

def sharedFile : List (Services × Operation) :=
  [(acceptingServices, .grantBatchUriPermissionImpl ["file://docs/a"] 1 10 20),
    (acceptingServices, .grantBatchUriPermissionImpl ["file://docs/a"] 2 10 30)]

theorem run_indexes_every_target_sharedFile :
    records (run sharedFile).uriMap "file://docs/a" = [⟨1, 10, 20⟩, ⟨2, 10, 30⟩] ∧
    records ((run sharedFile).revokeFileUriPermission acceptingServices 20).1.uriMap "file://docs/a" =
      [⟨2, 10, 30⟩] ∧
    ∀ info ∈ records ((run sharedFile).revokeAllUriPermissions acceptingServices 10).1.uriMap
      "file://docs/a", info.fromTokenId ≠ 10 := by
  obtain ⟨-, -, revokeFile, revokeAll⟩ := run_indexes_every_target sharedFile
  have granted : records (run sharedFile).uriMap "file://docs/a" = [⟨1, 10, 20⟩, ⟨2, 10, 30⟩] := by
    decide
  refine ⟨granted, ?_, ?_⟩
  · rw [(revokeFile acceptingServices 20 rfl).2.1, granted]
    decide
  · intro info mem
    exact ((revokeAll acceptingServices 10 rfl).2.1 "file://docs/a" info mem).1

end AbilityRuntime.UriPermission
