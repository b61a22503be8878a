import AbilityRuntime.Library.Answers
import AbilityRuntime.UriPermission.Store

set_option autoImplicit false

namespace AbilityRuntime.UriPermission

open Library Prod

def FILE_SCHEME : String := "file"
def ANCO_SCHEME : String := "content"
def DOCS_AUTHORITY : String := "docs"
def MEDIA_AUTHORITY : String := "media"

inductive PolicyType where
  | UNKNOWN
  | SELF_PATH
  | AUTHORIZATION_PATH
  | OTHERS_PATH
deriving DecidableEq, Repr

structure TypedPolicyInfo extends PolicyInfo where
  type : PolicyType := .UNKNOWN
deriving DecidableEq, Repr

structure CheckResult where
  result : Bool := false
  permissionType : PolicyType := .UNKNOWN

structure UriReader where
  getScheme : String -> String
  getAuthority : String -> String
  getRealPathBySA : String -> String

def getPathPolicyInfoFromUri (reader : UriReader) (uri : String) (flag : UInt32) : TypedPolicyInfo where
  path := reader.getRealPathBySA uri
  mode := (flag &&& 3).toUInt64

structure Parties where
  mode : UInt32
  callerAlterBundleName : String
  targetAlterBundleName : String
  haveSandboxAccessPermission : Bool

structure BatchUri where
  mediaUris : List String := []
  mediaIndexes : List Nat := []
  otherUris : List String := []
  otherIndexes : List Nat := []
  otherPolicyInfos : List TypedPolicyInfo := []
  contentUris : List String := []
  contentIndexes : List Nat := []
  selfBundlePolicyInfos : List TypedPolicyInfo := []
  proxyIndexesByPolicy : List Nat := []
  checkResult : List CheckResult := []
  isDocsUriVec : List Bool := []
  targetBundleUriCount : Nat := 0
  isTargetBundleUri : List Bool := []
  validUriCount : Nat := 0
  totalUriCount : Nat := 0

namespace BatchUri

def isPermitted (batch : BatchUri) (index : Nat) : Bool :=
  ((batch.checkResult[index]?).getD {}).result

def permissionType (batch : BatchUri) (index : Nat) : PolicyType :=
  ((batch.checkResult[index]?).getD {}).permissionType

def isTarget (batch : BatchUri) (index : Nat) : Bool := (batch.isTargetBundleUri[index]?).getD false

def isDocs (batch : BatchUri) (index : Nat) : Bool := (batch.isDocsUriVec[index]?).getD false

def addOther (batch : BatchUri) (uri : String) (index : Nat) : BatchUri :=
  { batch with
    otherUris := batch.otherUris ++ [uri]
    otherIndexes := batch.otherIndexes ++ [index] }

def initFileUriInfo (reader : UriReader) (parties : Parties) (batch : BatchUri) (uri : String)
    (index : Nat) : BatchUri :=
  let authority := reader.getAuthority uri
  if authority = MEDIA_AUTHORITY then
    { batch with
      mediaUris := batch.mediaUris ++ [uri]
      mediaIndexes := batch.mediaIndexes ++ [index] }
  else if authority = DOCS_AUTHORITY then
    { batch with isDocsUriVec := batch.isDocsUriVec.set index true }.addOther uri index
  else
    let isTarget := parties.targetAlterBundleName ≠ "" ∧ authority = parties.targetAlterBundleName
    let batch := { batch with isTargetBundleUri := batch.isTargetBundleUri.set index isTarget }
    if authority ≠ "" ∧
        (parties.haveSandboxAccessPermission ∨ authority = parties.callerAlterBundleName) then
      let permissionType := if authority = parties.callerAlterBundleName then .SELF_PATH else .UNKNOWN
      let batch := { batch with checkResult := batch.checkResult.set index ⟨true, permissionType⟩ }
      if isTarget then { batch with targetBundleUriCount := batch.targetBundleUriCount + 1 }
      else if parties.mode > 0 then
        let policyInfo := { getPathPolicyInfoFromUri reader uri parties.mode with type := permissionType }
        { batch with selfBundlePolicyInfos := batch.selfBundlePolicyInfos ++ [policyInfo] }
      else batch
    else batch.addOther uri index

def initUri (reader : UriReader) (parties : Parties) (batch : BatchUri) (uri : String) (index : Nat) :
    BatchUri :=
  let scheme := reader.getScheme uri
  if scheme ≠ FILE_SCHEME ∧ scheme ≠ ANCO_SCHEME then batch
  else
    let batch := { batch with validUriCount := batch.validUriCount + 1 }
    if scheme = ANCO_SCHEME then
      { batch with
        contentUris := batch.contentUris ++ [uri]
        contentIndexes := batch.contentIndexes ++ [index] }
    else batch.initFileUriInfo reader parties uri index

def init (reader : UriReader) (parties : Parties) (uriVec : List String) : BatchUri :=
  if uriVec.isEmpty then {}
  else
    uriVec.zipIdx.foldl (fun batch (uri, index) => batch.initUri reader parties uri index)
      { totalUriCount := uriVec.length
        checkResult := List.replicate uriVec.length {}
        isDocsUriVec := List.replicate uriVec.length false
        isTargetBundleUri := List.replicate uriVec.length false }

def setMediaUriCheckResult (batch : BatchUri) (mediaUriResult : List Bool) : BatchUri :=
  { batch with
    checkResult := scatter (fun check result => { check with result }) batch.mediaIndexes mediaUriResult
      batch.checkResult }

def setOtherUriCheckResult (batch : BatchUri) (otherUriResult : List Bool) : BatchUri :=
  { batch with
    checkResult := scatter (fun check result => { check with result }) batch.otherIndexes otherUriResult
      batch.checkResult
    targetBundleUriCount := batch.targetBundleUriCount +
      (batch.otherIndexes.zip otherUriResult).countP fun (index, result) =>
        result && batch.isTarget index }

def getNeedCheckProxyPermissionURI (batch : BatchUri) : BatchUri × List TypedPolicyInfo :=
  let asked := (batch.otherIndexes.zip batch.otherPolicyInfos).filter fun (index, _) =>
    !batch.isPermitted index
  ({ batch with proxyIndexesByPolicy := batch.proxyIndexesByPolicy ++ asked.map fst },
    asked.map snd)

-- A proxy's permission is of its own type.
def setProxyResult (check : CheckResult) (result : Bool) : CheckResult :=
  { result
    permissionType := if result then .AUTHORIZATION_PATH else check.permissionType }

def setCheckProxyByPolicyResult (batch : BatchUri) (proxyResultByPolicy : List Bool) : BatchUri × Bool :=
  if proxyResultByPolicy.length ≠ batch.proxyIndexesByPolicy.length then (batch, false)
  else
    ({ batch with
        checkResult := scatter setProxyResult batch.proxyIndexesByPolicy proxyResultByPolicy
          batch.checkResult
        targetBundleUriCount := batch.targetBundleUriCount +
          (batch.proxyIndexesByPolicy.zip proxyResultByPolicy).countP fun (index, result) =>
            result && batch.isTarget index
        proxyIndexesByPolicy := [] },
      true)

def setCheckProxyByContentUriResult (batch : BatchUri) (contentUriResult : List Bool) :
    BatchUri × Bool :=
  if contentUriResult.length ≠ batch.contentIndexes.length then (batch, false)
  else
    ({ batch with
        checkResult := scatter setProxyResult batch.contentIndexes contentUriResult batch.checkResult },
      true)

def getPermissionedUriCount (batch : BatchUri) : Nat := batch.checkResult.countP (·.result)

def getUriToGrantByPolicy (batch : BatchUri) : List TypedPolicyInfo × List TypedPolicyInfo × Nat :=
  let granted := ((batch.otherIndexes.zip batch.otherPolicyInfos).filter fun (index, _) =>
    batch.isPermitted index && !batch.isTarget index).map fun (index, policyInfo) =>
      (index, { policyInfo with type := batch.permissionType index })
  let docs := granted.filter fun (index, _) => batch.isDocs index
  let bundles := granted.filter fun (index, _) => !batch.isDocs index
  (docs.map snd, batch.selfBundlePolicyInfos ++ bundles.map snd,
    batch.selfBundlePolicyInfos.length + granted.length)

-- The loop of the other GetUriToGrantByPolicy, which stops at a uri that is not permitted.
def grantAllByPolicy (batch : BatchUri) :
    List (Nat × TypedPolicyInfo) -> List TypedPolicyInfo -> List TypedPolicyInfo × Bool
  | [], policyVec => (policyVec, true)
  | (index, policyInfo) :: rest, policyVec =>
    if !batch.isPermitted index then (policyVec, false)
    else if batch.isTarget index then batch.grantAllByPolicy rest policyVec
    else
      batch.grantAllByPolicy rest
        (policyVec ++ [{ policyInfo with type := batch.permissionType index }])

def getAllUriToGrantByPolicy (batch : BatchUri) : List TypedPolicyInfo × Bool :=
  batch.grantAllByPolicy (batch.otherIndexes.zip batch.otherPolicyInfos) batch.selfBundlePolicyInfos

end BatchUri

structure TokenIdPermission where
  sandboxAccess : Bool
  fileAccessManager : Bool
  rwDownload : Bool
  rwDeskTop : Bool
  rwDocuments : Bool
  proxyAuthorizationUri : Bool

-- What is asked of other services for one batch. Only the media manager's answers are taken
-- without a look at their number.
structure CheckAnswers where
  mediaLibraryEnabled : Bool
  checkMedia : List String -> List Bool
  checkMedia_length : ∀ uris, (checkMedia uris).length = uris.length
  checkCollaborator : Option (String -> Int)
  sandboxManagerEnabled : Bool
  checkPersistPolicy : List TypedPolicyInfo -> Int × List Bool
  verifyUriPermissionByPolicy : List TypedPolicyInfo -> List Bool
  verifyContentUriPermission : List String -> Int × List Bool

namespace FilePermissionManager

def PERMISSION_GRANTED : Int := 1
def PERMISSION_DENIED : Int := 2
def FILE_MANAGER_AUTHORITY : String := "docs"
def STORAGE_URI : String := "/storage"
def APPDATA_URI : String := "/storage/Users/currentUser/appdata/"
def DOWNLOAD_PATH : String := "/storage/Users/currentUser/Download"
def DESKTOP_PATH : String := "/storage/Users/currentUser/Desktop"
def DOCUMENTS_PATH : String := "/storage/Users/currentUser/Documents"

def startsWithIgnoreCase (path start : String) : Bool :=
  (start.toList.map Char.toLower).isPrefixOf (path.toList.map Char.toLower)

def isPathInDir (path dir : String) : Bool :=
  dir.toList.isPrefixOf path.toList &&
    (path.toList.length == dir.toList.length || path.toList[dir.toList.length]? == some '/')

def checkDocsUriPermission (tokenPermission : TokenIdPermission)
    (checkCollaborator : Option (String -> Int)) (path : String) : Bool :=
  if startsWithIgnoreCase path APPDATA_URI then tokenPermission.sandboxAccess
  else
    let ret := checkCollaborator.map fun func => func path
    if ret = some PERMISSION_GRANTED then true
    else if ret = some PERMISSION_DENIED then false
    else if STORAGE_URI.toList.isPrefixOf path.toList then tokenPermission.fileAccessManager
    else false

-- The first directory under Download belongs to the bundle it is named after.
def downloadDirname (filePath : String) : List Char :=
  let path := filePath.toList.drop DOWNLOAD_PATH.toList.length
  let path := if path.head? = some '/' then path.drop 1 else path
  path.takeWhile (· ≠ '/')

def checkFileManagerUriPermission (tokenPermission : TokenIdPermission) (filePath bundleName : String) :
    Bool :=
  if isPathInDir filePath DOWNLOAD_PATH then
    let dirname := downloadDirname filePath
    if dirname ≠ [] ∧ bundleName ≠ "" ∧ dirname = bundleName.toList then true
    else tokenPermission.rwDownload
  else if isPathInDir filePath DESKTOP_PATH then tokenPermission.rwDeskTop
  else if isPathInDir filePath DOCUMENTS_PATH then tokenPermission.rwDocuments
  else false

def isOpen (reader : UriReader) (tokenPermission : TokenIdPermission)
    (checkCollaborator : Option (String -> Int)) (bundleName uri : String) : Bool :=
  let path := reader.getRealPathBySA uri
  reader.getAuthority uri == FILE_MANAGER_AUTHORITY &&
    (checkFileManagerUriPermission tokenPermission path bundleName ||
      checkDocsUriPermission tokenPermission checkCollaborator path)

def checkUriPersistentPermission (reader : UriReader) (tokenPermission : TokenIdPermission)
    (answers : CheckAnswers) (flag : UInt32) (bundleName : String) (uriVec : List String) :
    List Bool × List TypedPolicyInfo :=
  let opened := isOpen reader tokenPermission answers.checkCollaborator bundleName
  let policyOf := fun uri => getPathPolicyInfoFromUri reader uri flag
  let resultCodes := uriVec.map opened
  let asked := uriVec.zipIdx.filter fun (uri, _) => !opened uri
  let persistPolicys := asked.map fun (uri, _) => policyOf uri
  let resultIndex := asked.map snd
  if !answers.sandboxManagerEnabled || persistPolicys.isEmpty then (resultCodes, uriVec.map policyOf)
  else
    let (ret, persistResultCodes) := answers.checkPersistPolicy persistPolicys
    if ret = 0 ∧ persistResultCodes.length = resultIndex.length then
      (scatter (fun _ result => result) resultIndex persistResultCodes resultCodes, uriVec.map policyOf)
    else (resultCodes, uriVec.map policyOf)

end FilePermissionManager

namespace UriPermissionManagerStubImpl

open BatchUri FilePermissionManager

def checkProxyUriPermission (tokenPermission : TokenIdPermission) (answers : CheckAnswers)
    (batchUri : BatchUri) : BatchUri × Int :=
  if !tokenPermission.proxyAuthorizationUri then (batchUri, CHECK_PERMISSION_FAILED)
  else
    let (batchUri, proxyUrisByPolicy) := batchUri.getNeedCheckProxyPermissionURI
    let batchUri := if proxyUrisByPolicy.isEmpty then batchUri
      else (batchUri.setCheckProxyByPolicyResult
        (answers.verifyUriPermissionByPolicy proxyUrisByPolicy)).1
    if batchUri.contentUris.isEmpty then (batchUri, ERR_OK)
    else
      let (ret, contentUriResults) := answers.verifyContentUriPermission batchUri.contentUris
      if ret = ERR_OK then ((batchUri.setCheckProxyByContentUriResult contentUriResults).1, ERR_OK)
      else (batchUri, ERR_OK)

def checkUriPermission (reader : UriReader) (tokenPermission : TokenIdPermission)
    (answers : CheckAnswers) (flag : UInt32) (callerAlterableBundleName : String)
    (batchUri : BatchUri) : BatchUri × Int :=
  let flag := flag &&& FLAG_READ_WRITE_URI
  let batchUri := if answers.mediaLibraryEnabled && !batchUri.mediaUris.isEmpty then
      batchUri.setMediaUriCheckResult (answers.checkMedia batchUri.mediaUris)
    else batchUri
  let batchUri := if batchUri.otherUris.isEmpty then batchUri
    else
      let (otherUriResult, otherPolicyInfos) := checkUriPersistentPermission reader tokenPermission
        answers flag callerAlterableBundleName batchUri.otherUris
      { batchUri with otherPolicyInfos }.setOtherUriCheckResult otherUriResult
  let batchUri := if batchUri.getPermissionedUriCount ≠ batchUri.validUriCount then
      (checkProxyUriPermission tokenPermission answers batchUri).1
    else batchUri
  (batchUri, if batchUri.getPermissionedUriCount = 0 then CHECK_PERMISSION_FAILED else ERR_OK)

end UriPermissionManagerStubImpl

end AbilityRuntime.UriPermission
