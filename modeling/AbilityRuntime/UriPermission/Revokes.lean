import AbilityRuntime.UriPermission.Grants

set_option autoImplicit false

namespace AbilityRuntime.UriPermission

open RecordMap List Bool

namespace UriPermissionManagerStubImpl

variable {tokens : Finset UInt32} {s : UriPermissionManagerStubImpl}

section

variable (within : RecordsWithin tokens s)
include within

theorem pruneUri_within (keep : String -> GrantInfo -> Bool) :
    RecordsWithin tokens { s with uriMap := prune keep s.uriMap } :=
  { within with
    uriMap := wellFormed_prune within.uriMap keep
    uriTargets := by
      intro uri info mem
      rw [records_prune] at mem
      exact within.uriTargets uri info (mem_of_mem_filter mem) }

theorem prunePolicy_within (keep : String -> GrantPolicyInfo -> Bool) :
    RecordsWithin tokens { s with policyMap := prune keep s.policyMap } :=
  { within with
    policyMap := wellFormed_prune within.policyMap keep
    policyTargets := by
      intro path info mem
      rw [records_prune] at mem
      exact within.policyTargets path info (mem_of_mem_filter mem) }

theorem putBackUri_within {uri : String} {list kept : List GrantInfo}
    (found : s.uriMap[uri]? = some list) (sublist : kept.Sublist list) :
    RecordsWithin tokens { s with uriMap := putBack s.uriMap uri kept } :=
  { within with
    uriMap := wellFormed_putBack within.uriMap uri
      ((within.uriMap uri list found).2.sublist (sublist.map _))
    uriTargets := by
      intro key info mem
      rw [records_putBack] at mem
      split at mem
      · exact within.uriTargets uri info (by rw [records_of_some found]; exact sublist.subset mem)
      · exact within.uriTargets key info mem }

theorem putBackPolicy_within {path : String} {list kept : List GrantPolicyInfo}
    (found : s.policyMap[path]? = some list) (sublist : kept.Sublist list) :
    RecordsWithin tokens { s with policyMap := putBack s.policyMap path kept } :=
  { within with
    policyMap := wellFormed_putBack within.policyMap path
      ((within.policyMap path list found).2.sublist (sublist.map _))
    policyTargets := by
      intro key info mem
      rw [records_putBack] at mem
      split at mem
      · exact within.policyTargets path info
          (by rw [records_of_some found]; exact sublist.subset mem)
      · exact within.policyTargets key info mem }

end

theorem revokeMapUriPermission_consistent (consistent : Consistent s) (tokenId : UInt32) :
    Consistent (s.revokeMapUriPermission tokenId).1 :=
  pruneUri_within consistent _

theorem revokePolicyUriPermission_consistent (consistent : Consistent s) (tokenId : UInt32) :
    Consistent (s.revokePolicyUriPermission tokenId) :=
  prunePolicy_within consistent _

theorem revokeAllMapUriPermissions_consistent (services : Services) (consistent : Consistent s)
    (tokenId : UInt32) : Consistent (s.revokeAllMapUriPermissions services tokenId).1 := by
  unfold revokeAllMapUriPermissions
  split <;> exact pruneUri_within consistent _

theorem revokeAllPolicyUriPermissions_consistent (consistent : Consistent s) (tokenId : UInt32) :
    Consistent (s.revokeAllPolicyUriPermissions tokenId).1 :=
  prunePolicy_within consistent _

section

variable (services : Services)

section

variable (consistent : Consistent s)
include consistent

theorem revokeContentUriPermission_consistent (tokenId : UInt32) :
    Consistent (s.revokeContentUriPermission services tokenId).1 := by
  unfold revokeContentUriPermission
  split
  · exact consistent
  · split
    · exact consistent
    · exact { consistent with }

theorem revokeAllUriPermissions_consistent (tokenId : UInt32) :
    Consistent (s.revokeAllUriPermissions services tokenId).1 := by
  unfold revokeAllUriPermissions
  split
  · exact consistent
  · exact revokeContentUriPermission_consistent services
      (revokeAllMapUriPermissions_consistent services
        (revokeAllPolicyUriPermissions_consistent consistent tokenId) tokenId) tokenId

theorem revokeMapUriPermissionManually_consistent (callerTokenId targetTokenId : UInt32)
    (uri : String) :
    Consistent (s.revokeMapUriPermissionManually services callerTokenId targetTokenId uri).1 := by
  unfold revokeMapUriPermissionManually
  split
  · exact consistent
  next list found => exact putBackUri_within consistent found eraseP_sublist

theorem revokePolicyUriPermissionManually_consistent (callerTokenId targetTokenId : UInt32)
    (path : String) :
    Consistent (s.revokePolicyUriPermissionManually services callerTokenId targetTokenId path).1 := by
  unfold revokePolicyUriPermissionManually
  simp only
  split
  · exact consistent
  next list found => split <;> exact putBackPolicy_within consistent found filter_sublist

theorem revokeFileUriPermission_records (tokenId : UInt32) :
    (∀ uri, records (s.revokeFileUriPermission services tokenId).1.uriMap uri =
      (records s.uriMap uri).filter fun info => info.targetTokenId != tokenId) ∧
    (∀ path, records (s.revokeFileUriPermission services tokenId).1.policyMap path =
      (records s.policyMap path).filter fun info => info.targetTokenId != tokenId) := by
  unfold revokeFileUriPermission
  split
  next absent =>
    constructor
    · intro uri
      refine (filter_eq_self.mpr ?_).symm
      intro info mem
      have indexed := consistent.uriTargets uri info mem
      simpa using fun same : info.targetTokenId = tokenId => absent (same ▸ indexed)
    · intro path
      refine (filter_eq_self.mpr ?_).symm
      intro info mem
      have indexed := consistent.policyTargets path info mem
      simpa using fun same : info.targetTokenId = tokenId => absent (same ▸ indexed)
  · simp only
    split <;> exact ⟨fun uri => records_prune _ _ uri, fun path => records_prune _ _ path⟩

theorem revokeFileUriPermission_consistent (tokenId : UInt32) :
    Consistent (s.revokeFileUriPermission services tokenId).1 := by
  have remaining := revokeFileUriPermission_records services consistent tokenId
  unfold revokeFileUriPermission at remaining ⊢
  split
  · exact consistent
  next present =>
    rw [if_neg present] at remaining
    simp only at remaining ⊢
    have revoked := revokePolicyUriPermission_consistent
      (revokeMapUriPermission_consistent consistent tokenId) tokenId
    split
    · exact revoked
    next accepted =>
      rw [if_neg accepted] at remaining
      refine ⟨revoked.uriMap, revoked.policyMap, ?_, ?_⟩
      · intro uri info mem
        have kept := mem
        rw [remaining.1 uri] at kept
        exact Finset.mem_erase.mpr
          ⟨by simpa using of_mem_filter kept, revoked.uriTargets uri info mem⟩
      · intro path info mem
        have kept := mem
        rw [remaining.2 path] at kept
        exact Finset.mem_erase.mpr
          ⟨by simpa using of_mem_filter kept, revoked.policyTargets path info mem⟩

end

theorem revokeAllUriPermissions_records (allowed : services.isFoundationCall) (tokenId : UInt32) :
    (∀ uri, ∀ info ∈ records (s.revokeAllUriPermissions services tokenId).1.uriMap uri,
      info.fromTokenId ≠ tokenId ∧ info.targetTokenId ≠ tokenId) ∧
    (∀ path, ∀ info ∈ records (s.revokeAllUriPermissions services tokenId).1.policyMap path,
      info.callerTokenId ≠ tokenId ∧ info.targetTokenId ≠ tokenId) := by
  have maps : (s.revokeAllUriPermissions services tokenId).1.uriMap =
        prune (keptByRevokeAll services tokenId) s.uriMap ∧
      (s.revokeAllUriPermissions services tokenId).1.policyMap =
        prune (fun _ info => !(info.callerTokenId == tokenId || info.targetTokenId == tokenId))
          s.policyMap := by
    unfold revokeAllUriPermissions revokeAllMapUriPermissions revokeContentUriPermission
    simp only [allowed, Bool.not_true, Bool.false_eq_true, if_false]
    split <;> split <;> try split
    all_goals exact ⟨rfl, rfl⟩
  rw [maps.1, maps.2]
  constructor
  · intro uri info mem
    rw [records_prune] at mem
    have kept := of_mem_filter mem
    simp only [keptByRevokeAll, and_eq_true, not_eq_true', or_eq_false_iff,
      beq_eq_false_iff_ne] at kept
    exact ⟨kept.2.2, kept.2.1⟩
  · intro path info mem
    rw [records_prune] at mem
    have kept := of_mem_filter mem
    simpa only [not_eq_true', or_eq_false_iff, beq_eq_false_iff_ne] using kept

end

end UriPermissionManagerStubImpl

end AbilityRuntime.UriPermission
