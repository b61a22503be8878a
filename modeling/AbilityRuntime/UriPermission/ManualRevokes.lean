import AbilityRuntime.Library.FirstMatch
import AbilityRuntime.UriPermission.Verification
import AbilityRuntime.UriPermission.BatchGrants

set_option autoImplicit false

namespace AbilityRuntime.UriPermission

open Library RecordMap GrantPolicyInfo List

namespace UriPermissionManagerStubImpl

variable (services : Services) (s : UriPermissionManagerStubImpl) (callerTokenId targetTokenId : UInt32)
  (uri : String)

def isRevokeSelfUri : Bool :=
  callerTokenId == targetTokenId ||
    services.getAlterableBundleNameByTokenId callerTokenId == services.getAuthority uri

def isRevoked (info : GrantInfo) : Bool :=
  info.targetTokenId == targetTokenId && (callerTokenId == info.fromTokenId ||
    isRevokeSelfUri services callerTokenId targetTokenId uri)

/-- The rightful revoker takes all of the target, another only what he granted. -/
structure RevokesLawfully : Prop where
  own : isRevokeSelfUri services callerTokenId targetTokenId uri = true ->
    ∀ info ∈ records (s.revokeMapUriPermissionManually services callerTokenId targetTokenId
      uri).1.uriMap uri, info.targetTokenId ≠ targetTokenId
  notFound : isRevokeSelfUri services callerTokenId targetTokenId uri = true -> ∀ flag,
    ¬(s.revokeMapUriPermissionManually services callerTokenId targetTokenId uri).1.GrantedAt uri flag
      targetTokenId
  granted : isRevokeSelfUri services callerTokenId targetTokenId uri = false ->
    records (s.revokeMapUriPermissionManually services callerTokenId targetTokenId uri).1.uriMap uri =
      (records s.uriMap uri).filter fun info =>
        !(info.targetTokenId == targetTokenId && info.fromTokenId == callerTokenId)
  otherTargets :
    (records (s.revokeMapUriPermissionManually services callerTokenId targetTokenId
      uri).1.uriMap uri).filter (·.targetTokenId != targetTokenId) =
    (records s.uriMap uri).filter (·.targetTokenId != targetTokenId)
  otherUris : ∀ other, other ≠ uri ->
    (s.revokeMapUriPermissionManually services callerTokenId targetTokenId uri).1.uriMap[other]? =
      s.uriMap[other]?
  filled : (s.revokeMapUriPermissionManually services callerTokenId targetTokenId
    uri).1.uriMap[uri]? ≠ some []
  policy : ∀ (policies : UriPermissionManagerStubImpl) (path : String),
    (records policies.policyMap path).map pair = (records s.uriMap uri).map GrantInfo.pair ->
    (records (policies.revokePolicyUriPermissionManually services
      (if isRevokeSelfUri services callerTokenId targetTokenId uri then targetTokenId
        else callerTokenId) targetTokenId path).1.policyMap path).map pair =
    (records (s.revokeMapUriPermissionManually services callerTokenId targetTokenId
      uri).1.uriMap uri).map GrantInfo.pair

theorem getElem?_putBack {R : Type} (map : Std.ExtTreeMap String (List R)) (key other : String)
    (list : List R) :
    (putBack map key list)[other]? =
      if key = other then (if list.isEmpty then none else some list) else map[other]? := by
  unfold putBack
  split
  next empty => simp [Std.ExtTreeMap.getElem?_erase]
  next filled => simp [Std.ExtTreeMap.getElem?_insert]

theorem revokeMapUriPermissionManually_uriMap (other : String) :
    (s.revokeMapUriPermissionManually services callerTokenId targetTokenId uri).1.uriMap[other]? =
      if uri = other then
        let left := (records s.uriMap uri).eraseP (isRevoked services callerTokenId targetTokenId uri)
        if left.isEmpty then none else some left
      else s.uriMap[other]? := by
  unfold revokeMapUriPermissionManually
  cases found : s.uriMap[uri]? with
  | none =>
    by_cases same : uri = other
    · simp [<- same, found, records]
    · simp [same]
  | some list =>
    simp only [records_of_some found, getElem?_putBack]
    rfl

theorem revokeMapUriPermissionManually_records :
    records (s.revokeMapUriPermissionManually services callerTokenId targetTokenId uri).1.uriMap uri =
      (records s.uriMap uri).eraseP (isRevoked services callerTokenId targetTokenId uri) := by
  rw [records, revokeMapUriPermissionManually_uriMap, if_pos rfl]
  dsimp only
  split
  next empty => rw [isEmpty_iff.mp empty]; rfl
  · rfl

theorem revokePolicyUriPermissionManually_records (path : String) :
    records (s.revokePolicyUriPermissionManually services callerTokenId targetTokenId
        path).1.policyMap path =
      (records s.policyMap path).filter fun info => !(targetTokenId == info.targetTokenId &&
        (callerTokenId == info.targetTokenId || callerTokenId == info.callerTokenId)) := by
  unfold revokePolicyUriPermissionManually
  cases found : s.policyMap[path]? with
  | none => simp [records, found]
  | some list =>
    simp only [records_of_some found]
    split <;> simp [records_putBack]

variable {services s callerTokenId targetTokenId uri}

theorem isRevoked_own {info : GrantInfo}
    (own : isRevokeSelfUri services callerTokenId targetTokenId uri = true) :
    isRevoked services callerTokenId targetTokenId uri info = (info.targetTokenId == targetTokenId) := by
  simp [isRevoked, own]

theorem isRevoked_granted {info : GrantInfo}
    (other : isRevokeSelfUri services callerTokenId targetTokenId uri = false) :
    isRevoked services callerTokenId targetTokenId uri info =
      (info.targetTokenId == targetTokenId && info.fromTokenId == callerTokenId) := by
  simp [isRevoked, other, Bool.beq_comm (a := callerTokenId)]

def pairKept (services : Services) (callerTokenId targetTokenId : UInt32) (uri : String)
    (pair : UInt32 × UInt32) : Bool :=
  !(pair.2 == targetTokenId && (callerTokenId == pair.1 ||
    isRevokeSelfUri services callerTokenId targetTokenId uri))

theorem map_pair_filter {R : Type} (pair : R -> UInt32 × UInt32) (kept : UInt32 × UInt32 -> Bool)
    (list : List R) :
    (list.filter fun info => kept (pair info)).map pair = (list.map pair).filter kept := by
  rw [filter_map]
  rfl

theorem revokePolicyUriPermissionManually_pairs (policies : UriPermissionManagerStubImpl)
    (path : String) :
    (records (policies.revokePolicyUriPermissionManually services
      (if isRevokeSelfUri services callerTokenId targetTokenId uri then targetTokenId
        else callerTokenId) targetTokenId path).1.policyMap path).map pair =
    ((records policies.policyMap path).map pair).filter
      (pairKept services callerTokenId targetTokenId uri) := by
  rw [revokePolicyUriPermissionManually_records, <- map_pair_filter]
  congr 1
  refine filter_congr fun info _ => ?_
  cases own : isRevokeSelfUri services callerTokenId targetTokenId uri with
  | true =>
    simp only [if_true, pairKept, pair, own, Bool.or_true, Bool.and_true,
      Bool.beq_comm (a := targetTokenId)]
    cases info.targetTokenId == targetTokenId <;> simp
  | false =>
    have distinct : callerTokenId ≠ targetTokenId := by
      rintro rfl
      simp [isRevokeSelfUri] at own
    by_cases target : info.targetTokenId = targetTokenId
    · simp [pairKept, pair, own, target, distinct]
    · have absent : (targetTokenId == info.targetTokenId) = false := by simp [Ne.symm target]
      have away : (info.targetTokenId == targetTokenId) = false := by simp [target]
      simp only [pairKept, pair, absent, away, Bool.false_and, Bool.not_false]

theorem revokeMapUriPermissionManually_pairs
    (once : (records s.uriMap uri).countP
      (isRevoked services callerTokenId targetTokenId uri) ≤ 1) :
    (records (s.revokeMapUriPermissionManually services callerTokenId targetTokenId
      uri).1.uriMap uri).map GrantInfo.pair =
    ((records s.uriMap uri).map GrantInfo.pair).filter
      (pairKept services callerTokenId targetTokenId uri) := by
  rw [revokeMapUriPermissionManually_records, eraseP_eq_filter once, <- map_pair_filter]
  rfl

theorem RevokesLawfully.count_eq_zero
    (lawful : RevokesLawfully services s callerTokenId targetTokenId uri) :
    (records (s.revokeMapUriPermissionManually services callerTokenId targetTokenId
      uri).1.uriMap uri).countP (isRevoked services callerTokenId targetTokenId uri) = 0 := by
  rw [countP_eq_zero]
  intro info mem revoked
  cases own : isRevokeSelfUri services callerTokenId targetTokenId uri with
  | true =>
    rw [isRevoked_own own] at revoked
    exact lawful.own own info mem (by simpa using revoked)
  | false =>
    rw [isRevoked_granted own] at revoked
    rw [lawful.granted own] at mem
    have kept := (mem_filter.mp mem).2
    rw [revoked] at kept
    contradiction

theorem revokesLawfully_of_once
    (once : (records s.uriMap uri).countP
      (isRevoked services callerTokenId targetTokenId uri) ≤ 1) :
    RevokesLawfully services s callerTokenId targetTokenId uri := by
  have left : records (s.revokeMapUriPermissionManually services callerTokenId targetTokenId
      uri).1.uriMap uri =
      (records s.uriMap uri).filter fun info =>
        !isRevoked services callerTokenId targetTokenId uri info := by
    rw [revokeMapUriPermissionManually_records, eraseP_eq_filter once]
  have own (entitled : isRevokeSelfUri services callerTokenId targetTokenId uri = true) :
      ∀ info ∈ records (s.revokeMapUriPermissionManually services callerTokenId targetTokenId
        uri).1.uriMap uri, info.targetTokenId ≠ targetTokenId := by
    intro info mem target
    rw [left] at mem
    have kept := (mem_filter.mp mem).2
    rw [isRevoked_own entitled] at kept
    simp [target] at kept
  constructor
  case own => exact own
  case notFound =>
    rintro entitled flag ⟨info, mem, target, sufficient⟩
    exact own entitled info mem target
  case granted =>
    intro other
    rw [left]
    exact filter_congr fun info _ => by rw [isRevoked_granted other]
  case otherTargets =>
    rw [left, filter_filter]
    refine filter_congr fun info _ => ?_
    by_cases target : info.targetTokenId = targetTokenId <;> simp [isRevoked, target]
  case otherUris =>
    intro other ne
    rw [revokeMapUriPermissionManually_uriMap, if_neg (Ne.symm ne)]
  case filled =>
    rw [revokeMapUriPermissionManually_uriMap, if_pos rfl]
    dsimp only
    split
    · simp
    next filled => simpa using filled
  case policy =>
    intro policies path same
    rw [revokePolicyUriPermissionManually_pairs, same, revokeMapUriPermissionManually_pairs once]

theorem revokesLawfully_iff :
    RevokesLawfully services s callerTokenId targetTokenId uri ↔
      (records s.uriMap uri).countP (isRevoked services callerTokenId targetTokenId uri) ≤ 1 := by
  constructor
  case mp =>
    intro lawful
    have zero := lawful.count_eq_zero
    rw [revokeMapUriPermissionManually_records, countP_eraseP] at zero
    omega
  case mpr => exact revokesLawfully_of_once

def grantedTwice : UriPermissionManagerStubImpl :=
  (initial.addTempUriPermission "file://docs/a?networkid=1" 1 10 20).addTempUriPermission
    "file://docs/a?networkid=1" 1 11 20

theorem grantedTwice_records :
    records grantedTwice.uriMap "file://docs/a?networkid=1" = [⟨1, 10, 20⟩, ⟨1, 11, 20⟩] := by
  simp [grantedTwice, initial, addTempUriPermission, records, mergeGrantInfo]

theorem grantedTwice_revokes_one :
    ¬RevokesLawfully sharesFirst grantedTwice 20 20 "file://docs/a?networkid=1" := by
  intro lawful
  have own := lawful.own rfl
  rw [revokeMapUriPermissionManually_records, grantedTwice_records] at own
  exact own ⟨1, 11, 20⟩ (by decide) rfl

end UriPermissionManagerStubImpl

end AbilityRuntime.UriPermission
