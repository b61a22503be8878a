import Mathlib.Data.Finset.Basic
import AbilityRuntime.Library.RecordMap

set_option autoImplicit false

namespace AbilityRuntime.UriPermission

open RecordMap

def ERR_OK : Int := 0
def INNER_ERR : Int := 2097167
def CHECK_PERMISSION_FAILED : Int := 2097177
def SANDBOX_MANAGER_PERMISSION_DENIED : Int := 1
def EEXIST : Int := 17
def FLAG_READ_WRITE_URI : UInt32 := 3
def FLAG_PERSIST_URI : UInt32 := 64
def IS_POLICY_ALLOWED_TO_BE_PRESISTED : UInt32 := 1

structure GrantInfo where
  flag : UInt32
  fromTokenId : UInt32
  targetTokenId : UInt32
deriving DecidableEq, Repr

def GrantInfo.pair (info : GrantInfo) : UInt32 × UInt32 := (info.fromTokenId, info.targetTokenId)

structure GrantPolicyInfo where
  callerTokenId : UInt32
  targetTokenId : UInt32

def GrantPolicyInfo.equal (info : GrantPolicyInfo) (cTokenId tTokenId : UInt32) : Bool :=
  info.callerTokenId == cTokenId && info.targetTokenId == tTokenId

def GrantPolicyInfo.pair (info : GrantPolicyInfo) : UInt32 × UInt32 :=
  (info.callerTokenId, info.targetTokenId)

structure PolicyInfo where
  path : String
  mode : UInt64
deriving DecidableEq, Repr

structure FUDAppInfo where
  tokenId : UInt32
  alterBundleName : String
  userId : Int

structure UriPermissionManagerStubImpl where
  uriMap : Std.ExtTreeMap String (List GrantInfo)
  policyMap : Std.ExtTreeMap String (List GrantPolicyInfo)
  permissionTokenMap : Finset UInt32
  contentTokenIdSet : Finset UInt32

def UriPermissionManagerStubImpl.initial : UriPermissionManagerStubImpl where
  uriMap := ∅
  policyMap := ∅
  permissionTokenMap := ∅
  contentTokenIdSet := ∅

-- What the caller's identity and the other system services answer during one call.
structure Services where
  isFoundationCall : Bool
  isUdmfOrPasteboardCall : Bool
  callingTokenId : UInt32
  hasStorageFeature : Bool
  createShareFile : List String -> UInt32 -> UInt32 -> List Int
  deleteShareFile : UInt32 -> List String -> Int
  setPolicy : UInt32 -> List PolicyInfo -> UInt32 -> String -> Int -> Int × List UInt32
  unSetPolicy : UInt32 -> String -> Int
  unSetAllPolicyByTokenAsync : UInt32 -> Int
  verifyPermissionByTokenId : UInt32 -> Bool
  startAccessingPolicy : List PolicyInfo -> UInt32 -> Int
  getAlterableBundleNameByTokenId : UInt32 -> String
  getAuthority : String -> String
  revokeUriPermission : Option (UInt32 -> Int)

namespace UriPermissionManagerStubImpl

variable (services : Services) (s : UriPermissionManagerStubImpl)

def mergeGrantInfo (info : GrantInfo) : List GrantInfo -> List GrantInfo
  | [] => [info]
  | item :: rest =>
    if item.fromTokenId = info.fromTokenId ∧ item.targetTokenId = info.targetTokenId then
      if item.flag &&& info.flag ≠ info.flag then
        { item with flag := item.flag ||| info.flag } :: rest
      else
        item :: rest
    else
      item :: mergeGrantInfo info rest

def addTempUriPermission (uri : String) (flag fromTokenId targetTokenId : UInt32) :
    UriPermissionManagerStubImpl :=
  let info : GrantInfo := ⟨flag, fromTokenId, targetTokenId⟩
  match s.uriMap[uri]? with
  | none => { s with uriMap := s.uriMap.insert uri [info] }
  | some infoList => { s with uriMap := s.uriMap.insert uri (mergeGrantInfo info infoList) }

-- The loop of GrantBatchUriPermissionImpl: once one share file was created, a failed one is
-- recorded as well.
def addShareFiles (flag callerTokenId targetTokenId : UInt32) :
    List (String × Int) -> UriPermissionManagerStubImpl -> Nat -> UriPermissionManagerStubImpl × Nat
  | [], s, successCount => (s, successCount)
  | (uri, ret) :: rest, s, successCount =>
    if ret ≠ 0 ∧ ret ≠ -EEXIST ∧ successCount = 0 then
      addShareFiles flag callerTokenId targetTokenId rest s successCount
    else
      addShareFiles flag callerTokenId targetTokenId rest
        (s.addTempUriPermission uri flag callerTokenId targetTokenId) (successCount + 1)

def grantBatchUriPermissionImpl (uriVec : List String) (flag callerTokenId targetTokenId : UInt32) :
    UriPermissionManagerStubImpl × Int :=
  if uriVec.isEmpty then (s, INNER_ERR)
  else if !services.hasStorageFeature then (s, INNER_ERR)
  else
    let flag := flag &&& FLAG_READ_WRITE_URI
    let resVec := services.createShareFile uriVec targetTokenId flag
    match resVec with
    | [] => (s, INNER_ERR)
    | first :: _ =>
      if resVec.length ≠ uriVec.length then (s, first)
      else
        let (added, successCount) :=
          addShareFiles flag callerTokenId targetTokenId (uriVec.zip resVec) s 0
        if successCount = 0 then (added, INNER_ERR)
        else ({ added with permissionTokenMap := insert targetTokenId added.permissionTokenMap }, ERR_OK)

def addPolicyRecordCache (callerTokenId targetTokenId : UInt32) (path : String) :
    UriPermissionManagerStubImpl :=
  let callerTokenId :=
    if services.isUdmfOrPasteboardCall then services.callingTokenId else callerTokenId
  let grantPolicyInfo : GrantPolicyInfo := ⟨callerTokenId, targetTokenId⟩
  match s.policyMap[path]? with
  | none => { s with policyMap := s.policyMap.insert path [grantPolicyInfo] }
  | some grantPolicyInfoList =>
    if grantPolicyInfoList.any (·.equal callerTokenId targetTokenId) then s
    else { s with policyMap := s.policyMap.insert path (grantPolicyInfoList ++ [grantPolicyInfo]) }

def sandboxManagerSetPolicy (policyInfoVec : List PolicyInfo) (flag : UInt32)
    (callerInfo targetInfo : FUDAppInfo) : Int × List UInt32 :=
  if policyInfoVec.isEmpty then (INNER_ERR, [])
  else
    let policyFlag :=
      if flag &&& FLAG_PERSIST_URI = 0 then 0 else IS_POLICY_ALLOWED_TO_BE_PRESISTED
    let (ret, result) := services.setPolicy targetInfo.tokenId policyInfoVec policyFlag
      callerInfo.alterBundleName callerInfo.userId
    if ret ≠ ERR_OK then (INNER_ERR, result)
    else if result.length ≠ policyInfoVec.length then (INNER_ERR, result)
    else (ERR_OK, result)

def cachePolicies (callerTokenId targetTokenId : UInt32) :
    List (PolicyInfo × UInt32) -> UriPermissionManagerStubImpl -> Nat ->
      UriPermissionManagerStubImpl × Nat
  | [], s, successCount => (s, successCount)
  | (policyInfo, result) :: rest, s, successCount =>
    if result ≠ 0 then cachePolicies callerTokenId targetTokenId rest s successCount
    else
      let cached := if services.isFoundationCall then s
        else s.addPolicyRecordCache services callerTokenId targetTokenId policyInfo.path
      cachePolicies callerTokenId targetTokenId rest cached (successCount + 1)

def grantBatchUriPermissionImplByPolicy (policyInfoVec : List PolicyInfo) (flag : UInt32)
    (callerInfo targetInfo : FUDAppInfo) : UriPermissionManagerStubImpl × Int :=
  if policyInfoVec.isEmpty then (s, INNER_ERR)
  else
    let (ret, result) := sandboxManagerSetPolicy services policyInfoVec flag callerInfo targetInfo
    if ret ≠ ERR_OK then (s, ret)
    else
      let indexed :=
        { s with permissionTokenMap := insert targetInfo.tokenId s.permissionTokenMap }
      let (cached, successCount) := cachePolicies services callerInfo.tokenId targetInfo.tokenId
        (policyInfoVec.zip result) indexed 0
      if successCount = 0 then (cached, INNER_ERR) else (cached, ERR_OK)

def grantBatchUriPermissionImplByPolicyWithoutCache (policyInfos : List PolicyInfo) (flag : UInt32)
    (callerInfo targetInfo : FUDAppInfo) : UriPermissionManagerStubImpl × Int :=
  let (ret, result) := sandboxManagerSetPolicy services policyInfos flag callerInfo targetInfo
  if ret ≠ ERR_OK then (s, ret)
  else
    let indexed :=
      { s with permissionTokenMap := insert targetInfo.tokenId s.permissionTokenMap }
    match result.find? (· ≠ 0) with
    | some failed => (indexed, failed.toInt32.toInt)
    | none => (indexed, ERR_OK)

def active (policy : Except Int (List PolicyInfo)) : UriPermissionManagerStubImpl × Int :=
  let tokenId := services.callingTokenId
  if !services.verifyPermissionByTokenId tokenId then (s, SANDBOX_MANAGER_PERMISSION_DENIED)
  else match policy with
    | .error result => (s, result)
    | .ok policy =>
      let ret := services.startAccessingPolicy policy tokenId
      if ret ≠ ERR_OK then (s, ret)
      else ({ s with permissionTokenMap := insert tokenId s.permissionTokenMap }, ERR_OK)

def deleteShareFile (targetTokenId : UInt32) (uriVec : List String) : Int :=
  if !services.hasStorageFeature then INNER_ERR else services.deleteShareFile targetTokenId uriVec

section

variable (tokenId : UInt32)

def revokeMapUriPermission : UriPermissionManagerStubImpl × List String :=
  ({ s with uriMap := prune (fun _ info => info.targetTokenId != tokenId) s.uriMap },
    (s.uriMap.toList.filter fun entry => entry.2.any (·.targetTokenId == tokenId)).map Prod.fst)

def revokePolicyUriPermission : UriPermissionManagerStubImpl :=
  { s with policyMap := prune (fun _ info => info.targetTokenId != tokenId) s.policyMap }

def keptByRevokeAll (uri : String) (info : GrantInfo) : Bool :=
  services.getAlterableBundleNameByTokenId tokenId != services.getAuthority uri &&
    !(info.targetTokenId == tokenId || info.fromTokenId == tokenId)

def revokedUriLists : Std.ExtTreeMap UInt32 (List String) :=
  s.uriMap.toList.foldl (fun lists entry =>
    (entry.2.filter fun info => !keptByRevokeAll services tokenId entry.1 info).foldl
      (fun lists info => lists.insert info.targetTokenId (records lists info.targetTokenId ++ [entry.1]))
      lists) ∅

def revokeAllMapUriPermissions : UriPermissionManagerStubImpl × Int :=
  let revoked := { s with uriMap := prune (keptByRevokeAll services tokenId) s.uriMap }
  if (revokedUriLists services s tokenId).toList.all
      fun entry => deleteShareFile services entry.1 entry.2 == ERR_OK then (revoked, ERR_OK)
  else (revoked, INNER_ERR)

def revokeAllPolicyUriPermissions : UriPermissionManagerStubImpl × Int :=
  ({ s with policyMap := prune (fun _ info =>
      !(info.callerTokenId == tokenId || info.targetTokenId == tokenId)) s.policyMap }, ERR_OK)

def revokeContentUriPermission : UriPermissionManagerStubImpl × Int :=
  if tokenId ∉ s.contentTokenIdSet then (s, ERR_OK)
  else match services.revokeUriPermission with
    | none => (s, INNER_ERR)
    | some revoke =>
      ({ s with contentTokenIdSet := s.contentTokenIdSet.erase tokenId }, revoke tokenId)

-- The result is what the call stores in funcResult.
def revokeAllUriPermissions : UriPermissionManagerStubImpl × Int :=
  if !services.isFoundationCall then (s, CHECK_PERMISSION_FAILED)
  else
    let (s, _) := s.revokeAllPolicyUriPermissions tokenId
    let (s, _) := s.revokeAllMapUriPermissions services tokenId
    let (s, _) := s.revokeContentUriPermission services tokenId
    (s, ERR_OK)

end

def revokeMapUriPermissionManually (callerTokenId targetTokenId : UInt32) (uri : String) :
    UriPermissionManagerStubImpl × Int :=
  let callerAuthority := services.getAlterableBundleNameByTokenId callerTokenId
  let isRevokeSelfUri :=
    callerTokenId == targetTokenId || callerAuthority == services.getAuthority uri
  match s.uriMap[uri]? with
  | none => (s, ERR_OK)
  | some list =>
    let revoked := fun info : GrantInfo => info.targetTokenId == targetTokenId &&
      (callerTokenId == info.fromTokenId || isRevokeSelfUri)
    let uriList := if list.any revoked then [uri] else []
    -- only the first matching record is erased: the loop breaks there
    ({ s with uriMap := putBack s.uriMap uri (list.eraseP revoked) },
      deleteShareFile services targetTokenId uriList)

def revokePolicyUriPermissionManually (callerTokenId targetTokenId : UInt32) (path : String) :
    UriPermissionManagerStubImpl × Int :=
  match s.policyMap[path]? with
  | none => (s, ERR_OK)
  | some grantPolicyInfoList =>
    let revoked := fun info : GrantPolicyInfo => targetTokenId == info.targetTokenId &&
      (callerTokenId == info.targetTokenId || callerTokenId == info.callerTokenId)
    let erased :=
      { s with policyMap :=
          putBack s.policyMap path (grantPolicyInfoList.filter fun info => !revoked info) }
    if grantPolicyInfoList.any revoked then (erased, services.unSetPolicy targetTokenId path)
    else (erased, ERR_OK)

-- A failed UnSetAllPolicyByTokenAsync is reported through funcResult and keeps the index entry.
def revokeFileUriPermission (tokenId : UInt32) : UriPermissionManagerStubImpl × Option Int :=
  if tokenId ∉ s.permissionTokenMap then (s, none)
  else
    let (s, _) := s.revokeMapUriPermission tokenId
    let s := s.revokePolicyUriPermission tokenId
    let ret := services.unSetAllPolicyByTokenAsync tokenId
    if ret ≠ ERR_OK then (s, some ret)
    else ({ s with permissionTokenMap := s.permissionTokenMap.erase tokenId }, none)

end UriPermissionManagerStubImpl

end AbilityRuntime.UriPermission
