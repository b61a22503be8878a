import AbilityRuntime.UriPermission.BatchUri

set_option autoImplicit false

namespace AbilityRuntime.UriPermission

open Library FilePermissionManager UriPermissionManagerStubImpl Prod Function

inductive UriClass where
  | invalid
  | content
  | media
  | docs
  | own
  | bundle
deriving DecidableEq, Repr

def UriClass.isOther : UriClass -> Bool
  | .docs | .bundle => true
  | _ => false

section Classes

variable (reader : UriReader) (parties : Parties) (uri : String)

def classOf : UriClass :=
  let authority := reader.getAuthority uri
  if reader.getScheme uri = ANCO_SCHEME then .content
  else if reader.getScheme uri ≠ FILE_SCHEME then .invalid
  else if authority = MEDIA_AUTHORITY then .media
  else if authority = DOCS_AUTHORITY then .docs
  else if authority ≠ "" ∧
      (parties.haveSandboxAccessPermission ∨ authority = parties.callerAlterBundleName) then .own
  else .bundle

def isDocsUri : Bool := classOf reader parties uri = .docs

def isTargetUri : Bool :=
  (classOf reader parties uri = .own ∨ classOf reader parties uri = .bundle) ∧
    parties.targetAlterBundleName ≠ "" ∧ reader.getAuthority uri = parties.targetAlterBundleName

def ownType : PolicyType :=
  if reader.getAuthority uri = parties.callerAlterBundleName then .SELF_PATH else .UNKNOWN

def firstCheck : CheckResult :=
  if classOf reader parties uri = .own then ⟨true, ownType reader parties uri⟩ else {}

def ownPolicy : TypedPolicyInfo :=
  { getPathPolicyInfoFromUri reader uri parties.mode with type := ownType reader parties uri }

def isOwnGranted : Bool :=
  classOf reader parties uri = .own ∧ ¬ isTargetUri reader parties uri ∧ parties.mode > 0

end Classes

namespace BatchUri

variable {reader : UriReader} {parties : Parties} {uriVec : List String}

def uriAt (uriVec : List String) (index : Nat) : String := uriVec.getD index ""

def indexesOf (uriVec : List String) (count : Nat) (p : String -> Bool) : List Nat :=
  (List.range count).filter fun index => p (uriAt uriVec index)

def filled {Value : Type} (uriVec : List String) (count : Nat) (value : String -> Value) (empty : Value) :
    List Value :=
  (List.range uriVec.length).map fun index =>
    if index < count then value (uriAt uriVec index) else empty

theorem indexesOf_succ (count : Nat) (p : String -> Bool) :
    indexesOf uriVec (count + 1) p =
      if p (uriAt uriVec count) then indexesOf uriVec count p ++ [count] else indexesOf uriVec count p := by
  rw [indexesOf, List.range_succ, List.filter_append, List.filter_singleton]
  cases p (uriAt uriVec count) <;> simp [indexesOf]

theorem filled_set {Value : Type} {count : Nat} {value : String -> Value} {empty new : Value}
    (same : value (uriAt uriVec count) = new) :
    (filled uriVec count value empty).set count new = filled uriVec (count + 1) value empty := by
  rw [filled, set_map_range, filled, <- same]
  refine List.map_congr_left fun index _ => ?_
  split_ifs with last
  all_goals first | rfl | omega | rw [last]

theorem filled_skip {Value : Type} {count : Nat} {value : String -> Value} {empty : Value}
    (same : value (uriAt uriVec count) = empty) :
    filled uriVec count value empty = filled uriVec (count + 1) value empty := by
  refine List.map_congr_left fun index _ => ?_
  by_cases last : index = count
  · simp [last, same]
  · simp only [show index < count + 1 ↔ index < count by omega]

def initialised (reader : UriReader) (parties : Parties) (uriVec : List String) (count : Nat) :
    BatchUri where
  mediaUris := (indexesOf uriVec count (classOf reader parties · = .media)).map (uriAt uriVec)
  mediaIndexes := indexesOf uriVec count (classOf reader parties · = .media)
  otherUris := (indexesOf uriVec count (classOf reader parties · |>.isOther)).map (uriAt uriVec)
  otherIndexes := indexesOf uriVec count (classOf reader parties · |>.isOther)
  contentUris := (indexesOf uriVec count (classOf reader parties · = .content)).map (uriAt uriVec)
  contentIndexes := indexesOf uriVec count (classOf reader parties · = .content)
  selfBundlePolicyInfos := (indexesOf uriVec count (isOwnGranted reader parties)).map fun index =>
    ownPolicy reader parties (uriAt uriVec index)
  checkResult := filled uriVec count (firstCheck reader parties) {}
  isDocsUriVec := filled uriVec count (isDocsUri reader parties) false
  targetBundleUriCount :=
    (indexesOf uriVec count fun uri => classOf reader parties uri = .own ∧ isTargetUri reader parties uri).length
  isTargetBundleUri := filled uriVec count (isTargetUri reader parties) false
  validUriCount := (indexesOf uriVec count (classOf reader parties · ≠ .invalid)).length
  totalUriCount := uriVec.length

theorem initUri_eq (batch : BatchUri) (uri : String) (index : Nat) :
    batch.initUri reader parties uri index =
      match classOf reader parties uri with
      | .invalid => batch
      | .content =>
        { batch with
          validUriCount := batch.validUriCount + 1
          contentUris := batch.contentUris ++ [uri]
          contentIndexes := batch.contentIndexes ++ [index] }
      | .media =>
        { batch with
          validUriCount := batch.validUriCount + 1
          mediaUris := batch.mediaUris ++ [uri]
          mediaIndexes := batch.mediaIndexes ++ [index] }
      | .docs =>
        { batch with
          validUriCount := batch.validUriCount + 1
          isDocsUriVec := batch.isDocsUriVec.set index true
          otherUris := batch.otherUris ++ [uri]
          otherIndexes := batch.otherIndexes ++ [index] }
      | .own =>
        { batch with
          validUriCount := batch.validUriCount + 1
          isTargetBundleUri := batch.isTargetBundleUri.set index (isTargetUri reader parties uri)
          checkResult := batch.checkResult.set index ⟨true, ownType reader parties uri⟩
          targetBundleUriCount := batch.targetBundleUriCount + (isTargetUri reader parties uri).toNat
          selfBundlePolicyInfos := batch.selfBundlePolicyInfos ++
            if isOwnGranted reader parties uri then [ownPolicy reader parties uri] else [] }
      | .bundle =>
        { batch with
          validUriCount := batch.validUriCount + 1
          isTargetBundleUri := batch.isTargetBundleUri.set index (isTargetUri reader parties uri)
          otherUris := batch.otherUris ++ [uri]
          otherIndexes := batch.otherIndexes ++ [index] } := by
  by_cases anco : reader.getScheme uri = ANCO_SCHEME
  · simp [initUri, classOf, anco]
  by_cases file : reader.getScheme uri = FILE_SCHEME
  swap
  · simp [initUri, classOf, anco, file]
  have ne : FILE_SCHEME ≠ ANCO_SCHEME := by decide
  by_cases media : reader.getAuthority uri = MEDIA_AUTHORITY
  · simp [initUri, initFileUriInfo, classOf, file, ne, media]
  by_cases docs : reader.getAuthority uri = DOCS_AUTHORITY
  · have apart : DOCS_AUTHORITY ≠ MEDIA_AUTHORITY := by decide
    simp [initUri, initFileUriInfo, addOther, classOf, file, ne, docs, apart]
  by_cases own : reader.getAuthority uri ≠ "" ∧
      (parties.haveSandboxAccessPermission ∨ reader.getAuthority uri = parties.callerAlterBundleName)
  · have ownClass : classOf reader parties uri = .own := by
      rw [classOf, if_neg anco, if_neg (not_not.mpr file), if_neg media, if_neg docs, if_pos own]
    have target : isTargetUri reader parties uri = decide (parties.targetAlterBundleName ≠ "" ∧
        reader.getAuthority uri = parties.targetAlterBundleName) := by
      simp [isTargetUri, ownClass]
    rw [ownClass, initUri, if_neg (fun invalid => invalid.1 file), if_neg anco, initFileUriInfo,
      if_neg media, if_neg docs]
    simp only [if_pos own]
    cases aimed : isTargetUri reader parties uri with
    | true =>
      have named := of_decide_eq_true (target.symm.trans aimed)
      simp [named, isOwnGranted, aimed, ownType]
    | false =>
      have unnamed := of_decide_eq_false (target.symm.trans aimed)
      by_cases mode : parties.mode > 0
      · simp [unnamed, isOwnGranted, aimed, ownType, mode, ownClass, ownPolicy]
      · simp [unnamed, isOwnGranted, aimed, ownType, mode]
  · have bundleClass : classOf reader parties uri = .bundle := by
      rw [classOf, if_neg anco, if_neg (not_not.mpr file), if_neg media, if_neg docs, if_neg own]
    rw [bundleClass, initUri, if_neg (fun invalid => invalid.1 file), if_neg anco, initFileUriInfo,
      if_neg media, if_neg docs]
    simp [if_neg own, addOther, isTargetUri, bundleClass]

theorem initUri_initialised (count : Nat) :
    (initialised reader parties uriVec count).initUri reader parties (uriAt uriVec count) count =
      initialised reader parties uriVec (count + 1) := by
  have unchecked (other : classOf reader parties (uriAt uriVec count) ≠ .own) :
      filled uriVec count (firstCheck reader parties) {} =
        filled uriVec (count + 1) (firstCheck reader parties) {} :=
    filled_skip (by simp [firstCheck, other])
  have undocumented (other : classOf reader parties (uriAt uriVec count) ≠ .docs) :
      filled uriVec count (isDocsUri reader parties) false =
        filled uriVec (count + 1) (isDocsUri reader parties) false :=
    filled_skip (by simp [isDocsUri, other])
  have untargeted (own : classOf reader parties (uriAt uriVec count) ≠ .own)
      (bundle : classOf reader parties (uriAt uriVec count) ≠ .bundle) :
      filled uriVec count (isTargetUri reader parties) false =
        filled uriVec (count + 1) (isTargetUri reader parties) false :=
    filled_skip (by simp [isTargetUri, own, bundle])
  have targeted : (filled uriVec count (isTargetUri reader parties) false).set count
      (isTargetUri reader parties (uriAt uriVec count)) =
        filled uriVec (count + 1) (isTargetUri reader parties) false :=
    filled_set rfl
  rw [initUri_eq]
  cases uriClass : classOf reader parties (uriAt uriVec count) with
  | invalid | content | media =>
    simp [initialised, indexesOf_succ, uriClass, UriClass.isOther, isOwnGranted, unchecked, undocumented,
      untargeted]
  | docs =>
    have docs : (filled uriVec count (isDocsUri reader parties) false).set count true =
        filled uriVec (count + 1) (isDocsUri reader parties) false :=
      filled_set (by simp [isDocsUri, uriClass])
    simp [initialised, indexesOf_succ, uriClass, UriClass.isOther, isOwnGranted, unchecked, docs,
      untargeted]
  | own =>
    have checked : (filled uriVec count (firstCheck reader parties) {}).set count
        ⟨true, ownType reader parties (uriAt uriVec count)⟩ =
          filled uriVec (count + 1) (firstCheck reader parties) {} :=
      filled_set (by simp [firstCheck, uriClass])
    cases target : isTargetUri reader parties (uriAt uriVec count) with
    | true =>
      simp [initialised, indexesOf_succ, uriClass, UriClass.isOther, isOwnGranted, checked, undocumented,
        target, <- targeted]
    | false =>
      by_cases mode : parties.mode > 0 <;>
        simp [initialised, indexesOf_succ, uriClass, UriClass.isOther, isOwnGranted, checked,
          undocumented, target, <- targeted, mode]
  | bundle =>
    simp [initialised, indexesOf_succ, uriClass, UriClass.isOther, isOwnGranted, unchecked, undocumented,
      targeted]

theorem zipIdx_eq (uriVec : List String) :
    uriVec.zipIdx = (List.range uriVec.length).map fun index => (uriAt uriVec index, index) := by
  apply List.ext_getElem
  · simp
  · intro index first second
    rw [List.length_zipIdx] at first
    simp [uriAt, first]

theorem filled_zero {Value : Type} (value : String -> Value) (empty : Value) :
    filled uriVec 0 value empty = List.replicate uriVec.length empty := by
  simp [filled, List.map_const']

theorem init_eq (uriVec : List String) :
    init reader parties uriVec = initialised reader parties uriVec uriVec.length := by
  have steps (count : Nat) :
      (List.range count).foldl
        (fun batch index => batch.initUri reader parties (uriAt uriVec index) index)
        (initialised reader parties uriVec 0) = initialised reader parties uriVec count := by
    induction count with
    | zero => rfl
    | succ count ih => rw [List.range_succ, List.foldl_append, ih, List.foldl_cons, List.foldl_nil,
        initUri_initialised]
  have start : initialised reader parties uriVec 0 =
      { totalUriCount := uriVec.length
        checkResult := List.replicate uriVec.length {}
        isDocsUriVec := List.replicate uriVec.length false
        isTargetBundleUri := List.replicate uriVec.length false } := by
    simp [initialised, filled_zero, indexesOf]
  unfold init
  split
  next none =>
    rw [List.isEmpty_iff.mp none]
    rfl
  · rw [zipIdx_eq, List.foldl_map, <- start]
    exact steps uriVec.length

end BatchUri

structure Request where
  reader : UriReader
  parties : Parties
  uriVec : List String
  tokenPermission : TokenIdPermission
  answers : CheckAnswers
  flag : UInt32

namespace Request

open BatchUri

variable (req : Request)

def total : Nat := req.uriVec.length

def uri (index : Nat) : String := uriAt req.uriVec index

def uriClass (index : Nat) : UriClass := classOf req.reader req.parties (req.uri index)

def isTarget (index : Nat) : Bool := isTargetUri req.reader req.parties (req.uri index)

def isDocs (index : Nat) : Bool := isDocsUri req.reader req.parties (req.uri index)

def indexes (p : UriClass -> Bool) : List Nat :=
  (List.range req.total).filter fun index => p (req.uriClass index)

def mediaAsked : List Nat := req.indexes (· = .media)

def contentAsked : List Nat := req.indexes (· = .content)

def others : List Nat := req.indexes UriClass.isOther

def opened (index : Nat) : Bool :=
  isOpen req.reader req.tokenPermission req.answers.checkCollaborator
    req.parties.callerAlterBundleName (req.uri index)

def policyOf (index : Nat) : TypedPolicyInfo :=
  getPathPolicyInfoFromUri req.reader (req.uri index) (req.flag &&& FLAG_READ_WRITE_URI)

def mediaGiven : List Bool :=
  if req.answers.mediaLibraryEnabled then
    req.answers.checkMedia (req.mediaAsked.map req.uri)
  else []

def persistAsked : List Nat := req.others.filter (!req.opened ·)

def persistGiven : List Bool :=
  let (ret, codes) := req.answers.checkPersistPolicy (req.persistAsked.map req.policyOf)
  if req.answers.sandboxManagerEnabled ∧ ret = 0 ∧ codes.length = req.persistAsked.length then
    codes
  else []

def ownAnswer (index : Nat) : Bool :=
  req.opened index || (answerTo req.persistAsked req.persistGiven index).getD false

def proxyAsked : List Nat := req.others.filter (!req.ownAnswer ·)

def proxyGiven : List Bool :=
  let results := req.answers.verifyUriPermissionByPolicy (req.proxyAsked.map req.policyOf)
  if req.tokenPermission.proxyAuthorizationUri ∧ results.length = req.proxyAsked.length then
    results
  else []

def contentGiven : List Bool :=
  let (ret, results) := req.answers.verifyContentUriPermission (req.contentAsked.map req.uri)
  if req.tokenPermission.proxyAuthorizationUri ∧ ret = ERR_OK ∧
      results.length = req.contentAsked.length then results
  else []

def proxyAnswer (index : Nat) : Bool :=
  (answerTo req.proxyAsked req.proxyGiven index).getD false

def permitted (index : Nat) : Bool :=
  match req.uriClass index with
  | .invalid => false
  | .own => true
  | .content => (answerTo req.contentAsked req.contentGiven index).getD false
  | .media => (answerTo req.mediaAsked req.mediaGiven index).getD false
  | .docs | .bundle => req.ownAnswer index || req.proxyAnswer index

def grantedPolicy (index : Nat) : TypedPolicyInfo :=
  if req.uriClass index = .own then ownPolicy req.reader req.parties (req.uri index)
  else
    { req.policyOf index with
      type := if req.ownAnswer index then .UNKNOWN else .AUTHORIZATION_PATH }

def grantable (index : Nat) : Bool :=
  req.permitted index && !req.isTarget index &&
    match req.uriClass index with
    | .own => decide (req.parties.mode > 0)
    | .docs | .bundle => true
    | _ => false

def checked : BatchUri :=
  (checkUriPermission req.reader req.tokenPermission
    req.answers req.flag req.parties.callerAlterBundleName
    (init req.reader req.parties req.uriVec)).1

section Indexes

variable {req} {index : Nat} {p : UriClass -> Bool}

theorem mem_indexes : index ∈ req.indexes p ↔ index < req.total ∧ p (req.uriClass index) := by
  rw [indexes, List.mem_filter, List.mem_range]

theorem indexes_nodup : (req.indexes p).Nodup := List.nodup_range.filter _

theorem persistAsked_sublist : req.persistAsked.Sublist req.others := List.filter_sublist

theorem proxyAsked_sublist : req.proxyAsked.Sublist req.others := List.filter_sublist

theorem answerTo_indexes {given : List Bool} (other : p (req.uriClass index) = false) :
    answerTo (req.indexes p) given index = none := by
  refine answerTo_of_not_mem fun mem => ?_
  rw [mem_indexes, other] at mem
  exact Bool.false_ne_true mem.2

end Indexes

theorem checkUriPersistentPermission_eq :
    checkUriPersistentPermission req.reader req.tokenPermission
        req.answers (req.flag &&& FLAG_READ_WRITE_URI) req.parties.callerAlterBundleName
        (req.others.map req.uri) =
      (req.others.map req.ownAnswer, req.others.map req.policyOf) := by
  have distinct : req.others.Nodup := indexes_nodup
  have asked : (req.others.map req.uri).zipIdx.filter (fun item =>
      !FilePermissionManager.isOpen req.reader req.tokenPermission
        req.answers.checkCollaborator req.parties.callerAlterBundleName item.1) =
      (req.others.zipIdx.filter fun item => !req.opened item.1).map (map req.uri id) := by
    rw [List.zipIdx_map, List.filter_map]
    rfl
  have resultIndex : ((req.others.zipIdx.filter fun item => !req.opened item.1).map
      (map req.uri id)).map snd =
        (req.others.zipIdx.filter fun item => !req.opened item.1).map snd := by
    rw [List.map_map]
    rfl
  have items : (req.others.zipIdx.filter fun item => !req.opened item.1).map fst =
      req.persistAsked := by
    rw [persistAsked]
    conv_rhs => rw [<- List.zipIdx_map_fst 0 req.others, List.filter_map]
    rfl
  have policies : ((req.others.zipIdx.filter fun item => !req.opened item.1).map
      (map req.uri id)).map (fun item =>
        getPathPolicyInfoFromUri req.reader item.1 (req.flag &&& FLAG_READ_WRITE_URI)) =
      req.persistAsked.map req.policyOf := by
    rw [<- items, List.map_map, List.map_map]
    rfl
  have count : ((req.others.zipIdx.filter fun item => !req.opened item.1).map snd).length =
      req.persistAsked.length := by
    rw [<- items, List.length_map, List.length_map]
  have codes : (req.others.map req.uri).map (isOpen req.reader
      req.tokenPermission req.answers.checkCollaborator req.parties.callerAlterBundleName) =
        req.others.map req.opened := by
    rw [List.map_map]
    rfl
  have unanswered (none : req.persistAsked = [] ∨ req.persistGiven = []) :
      req.others.map req.opened = req.others.map req.ownAnswer := by
    rcases none with none | none <;> simp [ownAnswer, none]
  unfold checkUriPersistentPermission
  simp only [asked, resultIndex, policies, count, codes]
  split_ifs with skipped used
  · rw [unanswered, List.map_map]
    · rfl
    rw [Bool.or_eq_true, Bool.not_eq_true', List.isEmpty_iff, List.map_eq_nil_iff] at skipped
    rcases skipped with disabled | none
    · simp [persistGiven, disabled]
    · exact Or.inl none
  · have enabled : req.answers.sandboxManagerEnabled = true := by
      by_contra disabled
      simp [disabled] at skipped
    have given : req.persistGiven =
        (req.answers.checkPersistPolicy (req.persistAsked.map req.policyOf)).2 :=
      if_pos ⟨enabled, used⟩
    rw [scatter_unknown req.opened distinct, <- given, List.map_map]
    rfl
  · have given : req.persistGiven = [] := if_neg fun all => used all.2
    rw [unanswered (Or.inr given), List.map_map]
    rfl

def batch (checks : Nat -> CheckResult) (policies : List TypedPolicyInfo) (left : List Nat) : BatchUri :=
  { initialised req.reader req.parties req.uriVec req.total with
    checkResult := (List.range req.total).map checks
    otherPolicyInfos := policies
    targetBundleUriCount :=
      (List.range req.total).countP fun index => (checks index).result && req.isTarget index
    proxyIndexesByPolicy := left }

def initCheck (index : Nat) : CheckResult :=
  firstCheck req.reader req.parties (req.uri index)

def mediaCheck (index : Nat) : CheckResult :=
  if req.uriClass index = .media then
    { result := (answerTo req.mediaAsked req.mediaGiven index).getD false }
  else req.initCheck index

def otherCheck (index : Nat) : CheckResult :=
  if (req.uriClass index).isOther then { result := req.ownAnswer index }
  else req.mediaCheck index

def policyCheck (index : Nat) : CheckResult :=
  if (req.uriClass index).isOther && req.proxyAnswer index then ⟨true, .AUTHORIZATION_PATH⟩
  else req.otherCheck index

def finalCheck (index : Nat) : CheckResult :=
  if req.uriClass index = .content ∧
      (answerTo req.contentAsked req.contentGiven index).getD false then
    ⟨true, .AUTHORIZATION_PATH⟩
  else req.policyCheck index

section Batches

variable {req} {checks : Nat -> CheckResult} {policies : List TypedPolicyInfo} {left : List Nat}
  {index : Nat}

theorem batch_congr {other : Nat -> CheckResult}
    (same : ∀ index < req.total, checks index = other index) :
    req.batch checks policies left = req.batch other policies left := by
  have results : (List.range req.total).map checks = (List.range req.total).map other :=
    List.map_congr_left fun index mem => same index (List.mem_range.mp mem)
  have counts : (List.range req.total).countP
      (fun index => (checks index).result && req.isTarget index) =
      (List.range req.total).countP fun index => (other index).result && req.isTarget index := by
    refine List.countP_congr fun index mem => ?_
    rw [same index (List.mem_range.mp mem)]
  simp only [batch, results, counts]

section

variable (inside : index < req.total)
include inside

theorem batch_isPermitted :
    (req.batch checks policies left).isPermitted index = (checks index).result := by
  simp [batch, BatchUri.isPermitted, inside]

theorem batch_permissionType :
    (req.batch checks policies left).permissionType index = (checks index).permissionType := by
  simp [batch, BatchUri.permissionType, inside]

theorem batch_isTarget :
    (req.batch checks policies left).isTarget index = req.isTarget index := by
  have bound : index < req.uriVec.length := inside
  simp [batch, initialised, filled, BatchUri.isTarget, inside, bound, isTarget, uri]

theorem batch_isDocs :
    (req.batch checks policies left).isDocs index = req.isDocs index := by
  have bound : index < req.uriVec.length := inside
  simp [batch, initialised, filled, BatchUri.isDocs, inside, bound, isDocs, uri]

end

@[simp] theorem batch_mediaIndexes :
    (req.batch checks policies left).mediaIndexes = req.mediaAsked := rfl

@[simp] theorem batch_mediaUris :
    (req.batch checks policies left).mediaUris = req.mediaAsked.map req.uri := rfl

@[simp] theorem batch_otherIndexes :
    (req.batch checks policies left).otherIndexes = req.others := rfl

@[simp] theorem batch_otherUris :
    (req.batch checks policies left).otherUris = req.others.map req.uri := rfl

@[simp] theorem batch_contentIndexes :
    (req.batch checks policies left).contentIndexes = req.contentAsked := rfl

@[simp] theorem batch_contentUris :
    (req.batch checks policies left).contentUris = req.contentAsked.map req.uri := rfl

@[simp] theorem batch_otherPolicyInfos :
    (req.batch checks policies left).otherPolicyInfos = policies := rfl

@[simp] theorem batch_proxyIndexesByPolicy :
    (req.batch checks policies left).proxyIndexesByPolicy = left := rfl

theorem init_batch :
    init req.reader req.parties req.uriVec = req.batch req.initCheck [] [] := by
  have results : filled req.uriVec req.total (firstCheck req.reader req.parties) {} =
      (List.range req.total).map req.initCheck := by
    refine List.map_congr_left fun index mem => ?_
    have inside : index < req.total := List.mem_range.mp mem
    rw [if_pos inside]
    rfl
  have counts : (indexesOf req.uriVec req.total fun uri =>
      classOf req.reader req.parties uri = .own ∧
        isTargetUri req.reader req.parties uri).length =
      (List.range req.total).countP fun index =>
        (req.initCheck index).result && req.isTarget index := by
    rw [indexesOf, <- List.countP_eq_length_filter]
    refine List.countP_congr fun index _ => ?_
    by_cases own : classOf req.reader req.parties (uriAt req.uriVec index) = .own <;>
      simp [initCheck, firstCheck, isTarget, uri, own]
  rw [init_eq]
  rw [batch, <- results, <- counts]
  rfl

section Rounds

variable {set : CheckResult -> Bool -> CheckResult} {asked : List Nat} {given : List Bool}
  {next : Nat -> CheckResult}

theorem targets_kept
    (kept : ∀ index < req.total, req.isTarget index = true ->
      (next index).result = (checks index).result) :
    (req.batch checks policies left).targetBundleUriCount =
      (req.batch next policies left).targetBundleUriCount := by
  refine List.countP_congr fun index mem => ?_
  cases target : req.isTarget index with
  | false => simp
  | true => rw [kept index (List.mem_range.mp mem) target]

theorem targets_counted (distinct : asked.Nodup) (inside : ∀ index ∈ asked, index < req.total)
    (added : ∀ index < req.total, req.isTarget index = true ->
      (next index).result = ((checks index).result || (answerTo asked given index).getD false))
    (fresh : ∀ index < req.total, req.isTarget index = true → (checks index).result = true →
      (answerTo asked given index).getD false = false) :
    (req.batch checks policies left).targetBundleUriCount +
        ((asked.zip given).countP fun (index, result) =>
          result && (req.batch checks policies left).isTarget index) =
      (req.batch next policies left).targetBundleUriCount := by
  have answers : (asked.zip given).countP (fun (index, result) =>
      result && (req.batch checks policies left).isTarget index) =
        (asked.zip given).countP fun (index, result) => result && req.isTarget index := by
    refine List.countP_congr fun (index, result) mem => ?_
    simp only [batch_isTarget (inside index (List.of_mem_zip mem).1)]
  rw [answers, countP_answers req.isTarget distinct inside]
  refine countP_either _ _ _ (fun index mem => ?_) fun index mem counted => ?_
  · cases target : req.isTarget index with
    | false => simp
    | true => simp [added index (List.mem_range.mp mem) target]
  · rw [Bool.and_eq_true] at counted
    rw [fresh index (List.mem_range.mp mem) counted.2 counted.1, Bool.false_and]

theorem batch_round {later : List Nat} {targets : Nat} (distinct : asked.Nodup)
    (step : ∀ index < req.total,
      ((answerTo asked given index).map (set (checks index))).getD (checks index) = next index)
    (counted : targets = (req.batch next policies left).targetBundleUriCount) :
    { req.batch checks policies left with
      checkResult := scatter set asked given (req.batch checks policies left).checkResult
      targetBundleUriCount := targets
      proxyIndexesByPolicy := later } = req.batch next policies later := by
  have results : scatter set asked given (req.batch checks policies left).checkResult =
      (req.batch next policies left).checkResult := by
    rw [batch, scatter_map_range set checks distinct]
    exact List.map_congr_left fun index mem => step index (List.mem_range.mp mem)
  rw [results, counted]
  rfl

end Rounds

theorem isTarget_class (target : req.isTarget index = true) :
    req.uriClass index = .own ∨ req.uriClass index = .bundle :=
  (of_decide_eq_true target).1

theorem initCheck_other (other : req.uriClass index ≠ .own) : req.initCheck index = {} :=
  if_neg other

theorem mediaCheck_step :
    ((answerTo req.mediaAsked req.mediaGiven index).map fun result =>
      { req.initCheck index with result }).getD (req.initCheck index) =
        req.mediaCheck index := by
  unfold mediaCheck
  split
  next media =>
    have unknown : req.initCheck index = {} := initCheck_other (by simp [media])
    cases answerTo req.mediaAsked req.mediaGiven index <;> simp [unknown]
  next other =>
    have none : answerTo req.mediaAsked req.mediaGiven index = none :=
      answerTo_indexes (by simpa using other)
    rw [none]
    rfl

theorem mediaCheck_kept (target : req.isTarget index = true) :
    (req.mediaCheck index).result = (req.initCheck index).result := by
  rw [mediaCheck, if_neg]
  rcases isTarget_class target with own | bundle
  · simp [own]
  · simp [bundle]

theorem setMediaUriCheckResult_batch :
    (req.batch req.initCheck policies left).setMediaUriCheckResult req.mediaGiven =
      req.batch req.mediaCheck policies left := by
  rw [setMediaUriCheckResult, batch_mediaIndexes]
  exact batch_round indexes_nodup (fun _ _ => mediaCheck_step) (targets_kept fun _ _ => mediaCheck_kept)

theorem mediaCheck_unasked (none : req.mediaAsked = [] ∨ req.mediaGiven = []) :
    req.mediaCheck index = req.initCheck index := by
  rw [<- mediaCheck_step]
  rcases none with none | none <;> simp [none]

theorem mediaCheck_other (other : (req.uriClass index).isOther = true) :
    req.mediaCheck index = {} := by
  cases kind : req.uriClass index <;> rw [kind] at other
  case docs | bundle =>
    rw [mediaCheck, if_neg (by simp [kind]), initCheck_other (by simp [kind])]
  all_goals cases other

theorem otherCheck_step (inside : index < req.total) :
    ((answerTo req.others (req.others.map req.ownAnswer) index).map fun result =>
      { req.mediaCheck index with result }).getD (req.mediaCheck index) =
        req.otherCheck index := by
  rw [answerTo_self]
  cases other : (req.uriClass index).isOther with
  | true =>
    have mem : index ∈ req.others := mem_indexes.mpr ⟨inside, other⟩
    simp [mem, otherCheck, other, mediaCheck_other other]
  | false =>
    have absent : index ∉ req.others := fun mem => by simp [mem_indexes.mp mem] at other
    simp [absent, otherCheck, other]

theorem otherCheck_targets :
    (req.batch req.mediaCheck policies left).targetBundleUriCount +
        ((req.others.zip (req.others.map req.ownAnswer)).countP fun (index, result) =>
          result && (req.batch req.mediaCheck policies left).isTarget index) =
      (req.batch req.otherCheck policies left).targetBundleUriCount := by
  refine targets_counted indexes_nodup (fun index mem => (mem_indexes.mp mem).1) ?_ ?_
  · intro index inside target
    rw [<- otherCheck_step inside, answerTo_self]
    by_cases mem : index ∈ req.others
    · simp [mem, mediaCheck_other (mem_indexes.mp mem).2]
    · simp [mem]
  · intro index inside target permitted
    rw [answerTo_self, if_neg]
    · rfl
    intro mem
    simp [mediaCheck_other (mem_indexes.mp mem).2] at permitted

theorem setOtherUriCheckResult_batch :
    (req.batch req.mediaCheck policies left).setOtherUriCheckResult
        (req.others.map req.ownAnswer) = req.batch req.otherCheck policies left := by
  exact batch_round indexes_nodup (fun _ => otherCheck_step) otherCheck_targets

theorem otherCheck_other (other : (req.uriClass index).isOther = true) :
    req.otherCheck index = { result := req.ownAnswer index } :=
  if_pos other

theorem mem_proxyAsked :
    index ∈ req.proxyAsked ↔ index ∈ req.others ∧ req.ownAnswer index = false := by
  rw [proxyAsked, List.mem_filter, Bool.not_eq_true']

theorem proxyAnswer_absent (absent : index ∉ req.proxyAsked) : req.proxyAnswer index = false := by
  rw [proxyAnswer, answerTo_of_not_mem absent]
  rfl

theorem policyCheck_step :
    ((answerTo req.proxyAsked req.proxyGiven index).map
      (setProxyResult (req.otherCheck index))).getD (req.otherCheck index) =
        req.policyCheck index := by
  by_cases asked : index ∈ req.proxyAsked
  · obtain ⟨mem, refused⟩ := mem_proxyAsked.mp asked
    have other := (mem_indexes.mp mem).2
    have proxy : req.proxyAnswer index =
        (answerTo req.proxyAsked req.proxyGiven index).getD false := rfl
    rw [policyCheck, other, Bool.true_and, proxy, otherCheck_other other, refused]
    cases answerTo req.proxyAsked req.proxyGiven index with
    | none => rfl
    | some result => cases result <;> rfl
  · rw [answerTo_of_not_mem asked, policyCheck, proxyAnswer_absent asked]
    simp

theorem policyCheck_targets :
    (req.batch req.otherCheck policies left).targetBundleUriCount +
        ((req.proxyAsked.zip req.proxyGiven).countP fun (index, result) =>
          result && (req.batch req.otherCheck policies left).isTarget index) =
      (req.batch req.policyCheck policies left).targetBundleUriCount := by
  refine targets_counted (proxyAsked_sublist.nodup indexes_nodup)
    (fun index mem => (mem_indexes.mp (mem_proxyAsked.mp mem).1).1) ?_ ?_
  · intro index _ _
    rw [<- policyCheck_step]
    by_cases asked : index ∈ req.proxyAsked
    · obtain ⟨mem, refused⟩ := mem_proxyAsked.mp asked
      rw [otherCheck_other (mem_indexes.mp mem).2, refused]
      cases answerTo req.proxyAsked req.proxyGiven index <;> simp [setProxyResult]
    · simp [answerTo_of_not_mem asked]
  · intro index _ _ permitted
    refine proxyAnswer_absent fun asked => ?_
    obtain ⟨mem, refused⟩ := mem_proxyAsked.mp asked
    rw [otherCheck_other (mem_indexes.mp mem).2, refused] at permitted
    cases permitted

theorem policyCheck_content (content : req.uriClass index = .content) :
    req.policyCheck index = {} := by
  simp [policyCheck, otherCheck, mediaCheck, content, UriClass.isOther, initCheck_other]

theorem finalCheck_step :
    ((answerTo req.contentAsked req.contentGiven index).map
      (setProxyResult (req.policyCheck index))).getD (req.policyCheck index) =
        req.finalCheck index := by
  unfold finalCheck
  by_cases content : req.uriClass index = .content
  · rw [policyCheck_content content]
    cases answerTo req.contentAsked req.contentGiven index with
    | none => simp
    | some result => cases result <;> simp [content, setProxyResult]
  · have none : answerTo req.contentAsked req.contentGiven index = none :=
      answerTo_indexes (by simpa using content)
    simp [none]

theorem finalCheck_kept (target : req.isTarget index = true) :
    (req.finalCheck index).result = (req.policyCheck index).result := by
  rw [finalCheck, if_neg]
  rcases isTarget_class target with own | bundle
  · simp [own]
  · simp [bundle]

theorem others_zip (f : Nat -> TypedPolicyInfo) :
    req.others.zip (req.others.map f) = req.others.map fun index => (index, f index) := by
  have paired : (req.others.map id).zip (req.others.map f) =
      req.others.map fun index => (id index, f index) := List.zip_map'
  rwa [List.map_id] at paired

theorem getNeedCheckProxyPermissionURI_batch :
    (req.batch req.otherCheck (req.others.map req.policyOf) []).getNeedCheckProxyPermissionURI =
      (req.batch req.otherCheck (req.others.map req.policyOf) req.proxyAsked,
        req.proxyAsked.map req.policyOf) := by
  have refused : req.others.filter ((fun entry : Nat × TypedPolicyInfo =>
      !(req.batch req.otherCheck (req.others.map req.policyOf) []).isPermitted entry.1) ∘
        fun index => (index, req.policyOf index)) = req.proxyAsked := by
    refine List.filter_congr fun index mem => ?_
    obtain ⟨inside, other⟩ := mem_indexes.mp mem
    rw [comp_apply, batch_isPermitted inside, otherCheck_other other]
  have names : req.proxyAsked.map (fst ∘ fun index => (index, req.policyOf index)) =
      req.proxyAsked := List.map_id' _
  unfold getNeedCheckProxyPermissionURI
  simp only [batch_otherIndexes, batch_otherPolicyInfos, batch_proxyIndexesByPolicy, others_zip,
    List.filter_map, refused, List.map_map, names, List.nil_append]
  rfl

theorem policyCheck_unasked (none : req.proxyAsked = [] ∨ req.proxyGiven = []) :
    req.policyCheck index = req.otherCheck index := by
  rw [<- policyCheck_step]
  rcases none with none | none <;> simp [none]

theorem finalCheck_unasked (none : req.contentAsked = [] ∨ req.contentGiven = []) :
    req.finalCheck index = req.policyCheck index := by
  rw [<- finalCheck_step]
  rcases none with none | none <;> simp [none]

theorem setCheckProxyByPolicyResult_batch
    (allowed : req.tokenPermission.proxyAuthorizationUri = true) :
    ∃ left, ((req.batch req.otherCheck policies req.proxyAsked).setCheckProxyByPolicyResult
      (req.answers.verifyUriPermissionByPolicy (req.proxyAsked.map req.policyOf))).1 =
        req.batch req.policyCheck policies left := by
  unfold setCheckProxyByPolicyResult
  split
  next differ =>
    have given : req.proxyGiven = [] := if_neg fun all => differ all.2
    exact ⟨_, batch_congr fun index _ => (policyCheck_unasked (Or.inr given)).symm⟩
  next same =>
    have given : req.proxyGiven = req.answers.verifyUriPermissionByPolicy
        (req.proxyAsked.map req.policyOf) := if_pos ⟨allowed, not_not.mp same⟩
    rw [<- given]
    exact ⟨[], batch_round (proxyAsked_sublist.nodup indexes_nodup) (fun _ _ => policyCheck_step)
      policyCheck_targets⟩

theorem setCheckProxyByContentUriResult_batch
    (allowed : req.tokenPermission.proxyAuthorizationUri = true) {ret : Int} {results : List Bool}
    (answered : req.answers.verifyContentUriPermission (req.contentAsked.map req.uri) =
      (ret, results)) :
    (if ret = ERR_OK then
        (((req.batch req.policyCheck policies left).setCheckProxyByContentUriResult results).1, ERR_OK)
      else (req.batch req.policyCheck policies left, ERR_OK)).1 =
        req.batch req.finalCheck policies left := by
  have given : req.contentGiven =
      if ret = ERR_OK ∧ results.length = req.contentAsked.length then results else [] := by
    simp [contentGiven, answered, allowed]
  unfold setCheckProxyByContentUriResult
  rw [batch_contentIndexes]
  split
  next ok =>
    split
    next differ =>
      rw [if_neg fun all => differ all.2] at given
      exact batch_congr fun index _ => (finalCheck_unasked (Or.inr given)).symm
    next same =>
      rw [if_pos ⟨ok, not_not.mp same⟩] at given
      rw [<- given]
      exact batch_round indexes_nodup (fun _ _ => finalCheck_step)
        (targets_kept fun _ _ => finalCheck_kept)
  next failed =>
    rw [if_neg fun all => failed all.1] at given
    exact batch_congr fun index _ => (finalCheck_unasked (Or.inr given)).symm

theorem checkProxyUriPermission_batch :
    ∃ left, (checkProxyUriPermission req.tokenPermission req.answers
      (req.batch req.otherCheck (req.others.map req.policyOf) [])).1 =
        req.batch req.finalCheck (req.others.map req.policyOf) left := by
  unfold checkProxyUriPermission
  cases allowed : req.tokenPermission.proxyAuthorizationUri with
  | false =>
    have unproxied : req.proxyGiven = [] := by simp [proxyGiven, allowed]
    have unread : req.contentGiven = [] := by simp [contentGiven, allowed]
    exact ⟨[], batch_congr fun index _ =>
      ((finalCheck_unasked (Or.inr unread)).trans (policyCheck_unasked (Or.inr unproxied))).symm⟩
  | true =>
    simp only [Bool.not_true, Bool.false_eq_true, if_false, getNeedCheckProxyPermissionURI_batch]
    obtain ⟨left, policies⟩ : ∃ left,
        (if (req.proxyAsked.map req.policyOf).isEmpty then
            req.batch req.otherCheck (req.others.map req.policyOf) req.proxyAsked
          else ((req.batch req.otherCheck (req.others.map req.policyOf)
            req.proxyAsked).setCheckProxyByPolicyResult
              (req.answers.verifyUriPermissionByPolicy (req.proxyAsked.map req.policyOf))).1) =
          req.batch req.policyCheck (req.others.map req.policyOf) left := by
      split
      next none =>
        rw [List.isEmpty_iff, List.map_eq_nil_iff] at none
        exact ⟨_, batch_congr fun index _ => (policyCheck_unasked (Or.inl none)).symm⟩
      · exact setCheckProxyByPolicyResult_batch allowed
    refine ⟨left, ?_⟩
    rw [policies, batch_contentUris]
    split
    next none =>
      rw [List.isEmpty_iff, List.map_eq_nil_iff] at none
      exact batch_congr fun index _ => (finalCheck_unasked (Or.inl none)).symm
    · exact setCheckProxyByContentUriResult_batch allowed rfl

theorem mediaStep_batch :
    (if req.answers.mediaLibraryEnabled &&
        !(req.batch req.initCheck policies left).mediaUris.isEmpty then
      (req.batch req.initCheck policies left).setMediaUriCheckResult
        (req.answers.checkMedia (req.batch req.initCheck policies left).mediaUris)
      else req.batch req.initCheck policies left) =
        req.batch req.mediaCheck policies left := by
  rw [batch_mediaUris]
  split
  next asked =>
    rw [Bool.and_eq_true] at asked
    have given : req.mediaGiven = req.answers.checkMedia (req.mediaAsked.map req.uri) :=
      if_pos asked.1
    rw [<- given]
    exact setMediaUriCheckResult_batch
  next unasked =>
    refine batch_congr fun index _ => (mediaCheck_unasked ?_).symm
    cases enabled : req.answers.mediaLibraryEnabled with
    | false => exact Or.inr (if_neg (by simp [enabled]))
    | true =>
      rw [enabled, Bool.true_and, Bool.not_eq_true', Bool.not_eq_false, List.isEmpty_iff,
        List.map_eq_nil_iff] at unasked
      exact Or.inl unasked

theorem otherStep_batch (req : Request) :
    (if (req.batch req.mediaCheck [] []).otherUris.isEmpty then
        req.batch req.mediaCheck [] []
      else
        let (otherUriResult, otherPolicyInfos) :=
          checkUriPersistentPermission req.reader req.tokenPermission
            req.answers (req.flag &&& FLAG_READ_WRITE_URI) req.parties.callerAlterBundleName
            (req.batch req.mediaCheck [] []).otherUris
        { req.batch req.mediaCheck [] [] with otherPolicyInfos }.setOtherUriCheckResult
          otherUriResult) =
      req.batch req.otherCheck (req.others.map req.policyOf) [] := by
  rw [batch_otherUris]
  split
  next none =>
    rw [List.isEmpty_iff, List.map_eq_nil_iff] at none
    rw [none, List.map_nil]
    refine batch_congr fun index inside => ?_
    rw [<- otherCheck_step inside, none]
    rfl
  · rw [checkUriPersistentPermission_eq]
    exact setOtherUriCheckResult_batch

theorem finalCheck_complete (inside : index < req.total)
    (complete : (req.batch req.otherCheck policies left).getPermissionedUriCount =
      (req.batch req.otherCheck policies left).validUriCount) :
    req.otherCheck index = req.finalCheck index := by
  have counts : (List.range req.total).countP (fun index => (req.otherCheck index).result) =
      (List.range req.total).countP fun index => decide (req.uriClass index ≠ .invalid) := by
    rw [getPermissionedUriCount, batch, List.countP_map] at complete
    conv_rhs => rw [List.countP_eq_length_filter]
    exact complete
  have valid (index : Nat) (permitted : (req.otherCheck index).result = true) :
      req.uriClass index ≠ .invalid := by
    intro invalid
    simp [otherCheck, mediaCheck, initCheck_other, invalid, UriClass.isOther] at permitted
  have permitted (known : req.uriClass index ≠ .invalid) : (req.otherCheck index).result = true :=
    all_of_countP_eq (fun index _ permitted => decide_eq_true (valid index permitted)) counts index
      (List.mem_range.mpr inside) (decide_eq_true known)
  have offline : req.uriClass index ≠ .content := by
    intro content
    have result := permitted (by simp [content])
    simp [otherCheck, mediaCheck, initCheck_other, content, UriClass.isOther] at result
  have unproxied : req.proxyAnswer index = false := by
    refine proxyAnswer_absent fun asked => ?_
    obtain ⟨mem, refused⟩ := mem_proxyAsked.mp asked
    have other := (mem_indexes.mp mem).2
    have result := permitted fun invalid => by simp [invalid, UriClass.isOther] at other
    rw [otherCheck_other other, refused] at result
    cases result
  simp [finalCheck, offline, policyCheck, unproxied]

theorem checked_batch (req : Request) :
    ∃ left, req.checked =
      req.batch req.finalCheck (req.others.map req.policyOf) left := by
  unfold checked checkUriPermission
  rw [init_batch]
  simp only [mediaStep_batch]
  have others := otherStep_batch req
  simp only [others]
  split
  · exact checkProxyUriPermission_batch
  next complete =>
    exact ⟨[], batch_congr fun index inside => finalCheck_complete inside (not_not.mp complete)⟩

theorem finalCheck_result : (req.finalCheck index).result = req.permitted index := by
  unfold permitted finalCheck policyCheck otherCheck mediaCheck
  cases kind : req.uriClass index with
  | invalid => simp [UriClass.isOther, initCheck_other, kind]
  | own => simp [UriClass.isOther, initCheck, firstCheck, show classOf _ _ _ = _ from kind]
  | content =>
    cases (answerTo req.contentAsked req.contentGiven index).getD false <;>
      simp [UriClass.isOther, initCheck_other, kind]
  | media => simp [UriClass.isOther]
  | docs => cases req.proxyAnswer index <;> simp [UriClass.isOther]
  | bundle => cases req.proxyAnswer index <;> simp [UriClass.isOther]

section

variable (other : (req.uriClass index).isOther = true)
include other

theorem finalCheck_other (permitted : req.permitted index = true) :
    (req.finalCheck index).permissionType =
      if req.ownAnswer index then .UNKNOWN else .AUTHORIZATION_PATH := by
  have offline : req.uriClass index ≠ .content := by
    intro content
    simp [content, UriClass.isOther] at other
  rw [<- finalCheck_result] at permitted
  simp only [finalCheck, offline, policyCheck, otherCheck, other, false_and, if_false, Bool.true_and,
    if_true] at permitted ⊢
  cases answered : req.ownAnswer index with
  | true =>
    have absent : req.proxyAnswer index = false :=
      proxyAnswer_absent fun asked => by simp [(mem_proxyAsked.mp asked).2] at answered
    simp [absent]
  | false =>
    rw [answered] at permitted
    cases proxied : req.proxyAnswer index with
    | false => simp [proxied] at permitted
    | true => simp

theorem permitted_other :
    req.permitted index = (req.ownAnswer index || req.proxyAnswer index) := by
  cases kind : req.uriClass index <;> rw [kind] at other
  case docs | bundle => simp [permitted, kind]
  all_goals cases other

theorem grantable_other :
    req.grantable index = (req.permitted index && !req.isTarget index) := by
  cases kind : req.uriClass index <;> rw [kind] at other
  case docs | bundle => simp [grantable, kind]
  all_goals cases other

theorem grantedPolicy_other (permitted : req.permitted index = true) :
    { req.policyOf index with type := (req.finalCheck index).permissionType } =
      req.grantedPolicy index := by
  have foreign : req.uriClass index ≠ .own := by
    intro own
    simp [own, UriClass.isOther] at other
  rw [grantedPolicy, if_neg foreign, finalCheck_other other permitted]

end

theorem others_granted :
    ((req.others.zip (req.others.map req.policyOf)).filter fun entry =>
        (req.batch req.finalCheck policies left).isPermitted entry.1 &&
          !(req.batch req.finalCheck policies left).isTarget entry.1).map (fun entry =>
      (entry.1, { entry.2 with
        type := (req.batch req.finalCheck policies left).permissionType entry.1 })) =
      (req.others.filter req.grantable).map fun index => (index, req.grantedPolicy index) := by
  have chosen : req.others.filter ((fun entry : Nat × TypedPolicyInfo =>
      (req.batch req.finalCheck policies left).isPermitted entry.1 &&
        !(req.batch req.finalCheck policies left).isTarget entry.1) ∘
          fun index => (index, req.policyOf index)) = req.others.filter req.grantable := by
    refine List.filter_congr fun index mem => ?_
    obtain ⟨inside, other⟩ := mem_indexes.mp mem
    rw [comp_apply, batch_isPermitted inside, batch_isTarget inside, finalCheck_result,
      grantable_other other]
  rw [others_zip, List.filter_map, chosen, List.map_map]
  refine List.map_congr_left fun index mem => ?_
  obtain ⟨mem, granted⟩ := List.mem_filter.mp mem
  obtain ⟨inside, other⟩ := mem_indexes.mp mem
  rw [grantable_other other, Bool.and_eq_true] at granted
  rw [comp_apply, batch_permissionType inside, grantedPolicy_other other granted.1]

theorem own_granted :
    (req.batch checks policies left).selfBundlePolicyInfos =
      ((List.range req.total).filter fun index =>
        req.grantable index && decide (req.uriClass index = .own)).map req.grantedPolicy := by
  have chosen : indexesOf req.uriVec req.total (isOwnGranted req.reader req.parties) =
      (List.range req.total).filter fun index =>
        req.grantable index && decide (req.uriClass index = .own) := by
    refine List.filter_congr fun index _ => ?_
    by_cases own : req.uriClass index = .own
    · have ownUri : classOf req.reader req.parties (uriAt req.uriVec index) = .own := own
      simp [isOwnGranted, ownUri, grantable, own, permitted, isTarget, uri]
    · have foreign : classOf req.reader req.parties (uriAt req.uriVec index) ≠ .own := own
      simp [isOwnGranted, foreign, own]
  change (indexesOf req.uriVec req.total _).map _ = _
  rw [chosen]
  refine List.map_congr_left fun index mem => ?_
  have own := of_decide_eq_true (Bool.and_eq_true_iff.mp (List.mem_filter.mp mem).2).2
  rw [grantedPolicy, if_pos own]
  rfl

theorem grantable_class (granted : req.grantable index = true) :
    req.uriClass index = .own ∨ (req.uriClass index).isOther = true := by
  cases kind : req.uriClass index <;> simp [grantable, kind, UriClass.isOther] at granted ⊢

theorem isDocs_iff : req.isDocs index = true ↔ req.uriClass index = .docs := by
  rw [isDocs, isDocsUri, decide_eq_true_iff]
  rfl

theorem others_filter (p : Nat -> Bool) :
    (req.others.filter req.grantable).filter p =
      (List.range req.total).filter fun index =>
        req.grantable index && p index && decide (req.uriClass index ≠ .own) := by
  rw [others, indexes, List.filter_filter, List.filter_filter]
  refine List.filter_congr fun index _ => ?_
  cases granted : req.grantable index with
  | false => simp
  | true =>
    rcases grantable_class granted with own | other
    · simp [own, UriClass.isOther]
    · have foreign : req.uriClass index ≠ .own := by
        intro own
        simp [own, UriClass.isOther] at other
      simp [other, foreign]

theorem granted_perm (req : Request) (p : Nat -> Bool)
    (own : ∀ index, req.uriClass index = .own -> p index = true) :
    ((List.range req.total).filter (fun index =>
        req.grantable index && decide (req.uriClass index = .own)) ++
      (req.others.filter req.grantable).filter p).Perm
        ((List.range req.total).filter fun index => req.grantable index && p index) := by
  have parts := List.filter_append_perm (fun index => decide (req.uriClass index = .own))
    ((List.range req.total).filter fun index => req.grantable index && p index)
  rw [List.filter_filter, List.filter_filter] at parts
  rw [others_filter]
  have front : (List.range req.total).filter (fun index =>
      req.grantable index && decide (req.uriClass index = .own)) =
      (List.range req.total).filter fun index =>
        decide (req.uriClass index = .own) && (req.grantable index && p index) := by
    refine List.filter_congr fun index _ => ?_
    by_cases kind : req.uriClass index = .own
    · simp [kind, own index kind]
    · simp [kind]
  have back : (List.range req.total).filter (fun index =>
      req.grantable index && p index && decide (req.uriClass index ≠ .own)) =
      (List.range req.total).filter fun index =>
        !decide (req.uriClass index = .own) && (req.grantable index && p index) := by
    refine List.filter_congr fun index _ => ?_
    rw [Bool.and_comm, decide_not]
  rw [front, back]
  exact parts

theorem isDocs_granted (f : Bool -> Bool) :
    (req.others.filter req.grantable).filter ((fun entry : Nat × TypedPolicyInfo =>
      f ((req.batch checks policies left).isDocs entry.1)) ∘
        fun index => (index, req.grantedPolicy index)) =
      (req.others.filter req.grantable).filter fun index => f (req.isDocs index) := by
  refine List.filter_congr fun index mem => ?_
  rw [comp_apply, batch_isDocs (mem_indexes.mp (List.mem_of_mem_filter mem)).1]

theorem own_not_docs (own : req.uriClass index = .own) : req.isDocs index = false := by
  cases docs : req.isDocs index with
  | false => rfl
  | true => rw [isDocs_iff.mp docs] at own; cases own

theorem getUriToGrantByPolicy_batch {docs bundles : List TypedPolicyInfo} {count : Nat}
    (returned : (req.batch req.finalCheck (req.others.map req.policyOf) left).getUriToGrantByPolicy =
      (docs, bundles, count)) :
    docs = ((List.range req.total).filter fun index =>
        req.grantable index && req.isDocs index).map req.grantedPolicy ∧
      bundles.Perm (((List.range req.total).filter fun index =>
        req.grantable index && !req.isDocs index).map req.grantedPolicy) ∧
      count = ((List.range req.total).filter req.grantable).length := by
  unfold getUriToGrantByPolicy at returned
  simp only [batch_otherIndexes, batch_otherPolicyInfos, others_granted, List.filter_map, List.map_map,
    List.length_map, own_granted, Prod.mk.injEq] at returned
  obtain ⟨rfl, rfl, rfl⟩ := returned
  have snd : (snd ∘ fun index => (index, req.grantedPolicy index)) = req.grantedPolicy := rfl
  rw [snd]
  refine ⟨?_, ?_, ?_⟩
  · rw [isDocs_granted fun docs => docs, others_filter]
    refine congrArg (List.map _) (List.filter_congr fun index _ => ?_)
    cases docs : req.isDocs index with
    | false => simp
    | true => simp [isDocs_iff.mp docs]
  · rw [isDocs_granted fun docs => !docs, <- List.map_append]
    exact (granted_perm req _ fun index own => by rw [own_not_docs own]; rfl).map _
  · have split := (granted_perm req (fun _ => true) fun _ _ => rfl).length_eq
    simpa using split

theorem grantAllByPolicy_eq (batch : BatchUri) (entries : List (Nat × TypedPolicyInfo))
    (policyVec : List TypedPolicyInfo) :
    (batch.grantAllByPolicy entries policyVec).2 = entries.all (fun entry => batch.isPermitted entry.1) ∧
      ((batch.grantAllByPolicy entries policyVec).2 = true ->
        (batch.grantAllByPolicy entries policyVec).1 = policyVec ++
          ((entries.filter fun entry => batch.isPermitted entry.1 && !batch.isTarget entry.1).map
            fun entry => (entry.1, { entry.2 with type := batch.permissionType entry.1 })).map snd) := by
  induction entries generalizing policyVec with
  | nil => simp [grantAllByPolicy]
  | cons entry rest ih =>
    rw [grantAllByPolicy]
    cases permitted : batch.isPermitted entry.1 with
    | false => simp [permitted]
    | true =>
      cases target : batch.isTarget entry.1 with
      | true => simpa [permitted, target] using ih policyVec
      | false =>
        have later := ih (policyVec ++ [{ entry.2 with type := batch.permissionType entry.1 }])
        simpa [permitted, target] using later

theorem getAllUriToGrantByPolicy_batch {policyVec : List TypedPolicyInfo} {complete : Bool}
    (returned : (req.batch req.finalCheck (req.others.map req.policyOf) left).getAllUriToGrantByPolicy =
      (policyVec, complete)) :
    complete = req.others.all req.permitted ∧
      (complete = true -> policyVec.Perm
        (((List.range req.total).filter req.grantable).map req.grantedPolicy)) := by
  have granted := grantAllByPolicy_eq
    (req.batch req.finalCheck (req.others.map req.policyOf) left)
    (req.others.zip (req.others.map req.policyOf))
    (req.batch req.finalCheck (req.others.map req.policyOf) left).selfBundlePolicyInfos
  rw [others_granted, own_granted] at granted
  unfold getAllUriToGrantByPolicy at returned
  rw [batch_otherIndexes, batch_otherPolicyInfos, own_granted] at returned
  rw [returned] at granted
  obtain ⟨whole, policies⟩ := granted
  refine ⟨?_, fun all => ?_⟩
  · refine whole.trans ?_
    rw [others_zip, List.all_map, Bool.eq_iff_iff, List.all_eq_true, List.all_eq_true]
    refine forall₂_congr fun index mem => ?_
    rw [comp_apply, batch_isPermitted (mem_indexes.mp mem).1, finalCheck_result]
  · have split := (granted_perm req (fun _ => true) fun _ _ => rfl).map req.grantedPolicy
    rw [List.map_append] at split
    simp only [List.filter_true, Bool.and_true] at split
    have listed : policyVec = _ := policies all
    rw [listed, List.map_map]
    exact split

end Batches

inductive BatchClass where
  | content
  | media
  | other
  | own

def belongs (index : Nat) : BatchClass -> Prop
  | .content => index ∈ req.checked.contentIndexes
  | .media => index ∈ req.checked.mediaIndexes
  | .other => index ∈ req.checked.otherIndexes
  | .own => req.uriClass index = .own

/-- What the vectors of a checked batch say about the uris they came from. -/
structure Correct : Prop where
  classified : ∀ index < req.total, req.uriClass index ≠ .invalid ->
    ∃! batchClass, req.belongs index batchClass
  once : req.checked.contentIndexes.Nodup ∧ req.checked.mediaIndexes.Nodup ∧
    req.checked.otherIndexes.Nodup
  answered : req.checked.checkResult.map (·.result) =
    (List.range req.total).map req.permitted
  mediaPlaces : ∀ place index : Nat, req.mediaAsked[place]? = some index ->
    req.permitted index = (req.mediaGiven[place]?).getD false
  contentPlaces : ∀ place index : Nat, req.contentAsked[place]? = some index ->
    req.permitted index = (req.contentGiven[place]?).getD false
  persistPlaces : ∀ place index : Nat, req.persistAsked[place]? = some index ->
    req.ownAnswer index = (req.persistGiven[place]?).getD false
  proxyPlaces : ∀ place index : Nat, req.proxyAsked[place]? = some index ->
    req.permitted index = (req.proxyGiven[place]?).getD false
  invalid : ∀ index < req.total, req.uriClass index = .invalid ->
    req.checked.isPermitted index = false
  targets : req.checked.targetBundleUriCount =
    (List.range req.total).countP fun index => req.permitted index && req.isTarget index
  policies : ∀ docs bundles count, req.checked.getUriToGrantByPolicy = (docs, bundles, count) ->
    docs = ((List.range req.total).filter fun index =>
        req.grantable index && req.isDocs index).map req.grantedPolicy ∧
      bundles.Perm (((List.range req.total).filter fun index =>
        req.grantable index && !req.isDocs index).map req.grantedPolicy) ∧
      count = ((List.range req.total).filter req.grantable).length
  allPolicies : ∀ policyVec complete, req.checked.getAllUriToGrantByPolicy = (policyVec, complete) ->
    complete = req.others.all req.permitted ∧
      (complete = true -> policyVec.Perm
        (((List.range req.total).filter req.grantable).map req.grantedPolicy))

theorem belongs_iff {req : Request} {index : Nat} (inside : index < req.total)
    (batchClass : BatchClass) :
    req.belongs index batchClass ↔
      match batchClass with
      | .content => req.uriClass index = .content
      | .media => req.uriClass index = .media
      | .other => (req.uriClass index).isOther = true
      | .own => req.uriClass index = .own := by
  obtain ⟨left, checked⟩ := req.checked_batch
  cases batchClass with
  | content => rw [belongs, checked, batch_contentIndexes, contentAsked, mem_indexes]; simp [inside]
  | media => rw [belongs, checked, batch_mediaIndexes, mediaAsked, mem_indexes]; simp [inside]
  | other => rw [belongs, checked, batch_otherIndexes, others, mem_indexes]; simp [inside]
  | own => rfl

theorem classified {index : Nat} (inside : index < req.total)
    (valid : req.uriClass index ≠ .invalid) : ∃! batchClass, req.belongs index batchClass := by
  simp only [belongs_iff inside]
  cases kind : req.uriClass index with
  | invalid => exact absurd kind valid
  | content => exact ⟨.content, rfl, by rintro (_ | _ | _ | _) <;> simp [UriClass.isOther]⟩
  | media => exact ⟨.media, rfl, by rintro (_ | _ | _ | _) <;> simp [UriClass.isOther]⟩
  | docs => exact ⟨.other, rfl, by rintro (_ | _ | _ | _) <;> simp⟩
  | own => exact ⟨.own, rfl, by rintro (_ | _ | _ | _) <;> simp [UriClass.isOther]⟩
  | bundle => exact ⟨.other, rfl, by rintro (_ | _ | _ | _) <;> simp⟩

theorem checkUriPermission_correct : req.Correct where
  classified _ inside valid := req.classified inside valid
  once := by
    obtain ⟨left, checked⟩ := req.checked_batch
    rw [checked, batch_contentIndexes, batch_mediaIndexes, batch_otherIndexes]
    exact ⟨indexes_nodup, indexes_nodup, indexes_nodup⟩
  answered := by
    obtain ⟨left, checked⟩ := req.checked_batch
    rw [checked, batch, List.map_map]
    exact List.map_congr_left fun index _ => finalCheck_result
  mediaPlaces place index asked := by
    have media := (mem_indexes.mp (List.mem_of_getElem? asked)).2
    have distinct : req.mediaAsked.Nodup := indexes_nodup
    rw [permitted, of_decide_eq_true media]
    rw [answerTo_getElem distinct asked]
  contentPlaces place index asked := by
    have content := (mem_indexes.mp (List.mem_of_getElem? asked)).2
    have distinct : req.contentAsked.Nodup := indexes_nodup
    rw [permitted, of_decide_eq_true content]
    rw [answerTo_getElem distinct asked]
  persistPlaces place index asked := by
    have distinct : req.persistAsked.Nodup := persistAsked_sublist.nodup indexes_nodup
    have closed := (List.mem_filter.mp (List.mem_of_getElem? asked)).2
    rw [Bool.not_eq_true'] at closed
    rw [ownAnswer, closed, Bool.false_or, answerTo_getElem distinct asked]
  proxyPlaces place index asked := by
    have distinct : req.proxyAsked.Nodup := proxyAsked_sublist.nodup indexes_nodup
    obtain ⟨mem, refused⟩ := mem_proxyAsked.mp (List.mem_of_getElem? asked)
    rw [permitted_other (mem_indexes.mp mem).2, refused, Bool.false_or, proxyAnswer,
      answerTo_getElem distinct asked]
  invalid index inside invalid := by
    obtain ⟨left, checked⟩ := req.checked_batch
    rw [checked, batch_isPermitted inside, finalCheck_result, permitted, invalid]
  targets := by
    obtain ⟨left, checked⟩ := req.checked_batch
    rw [checked, batch]
    simp only [finalCheck_result]
  policies docs bundles count returned := by
    obtain ⟨left, checked⟩ := req.checked_batch
    rw [checked] at returned
    exact getUriToGrantByPolicy_batch returned
  allPolicies policyVec complete returned := by
    obtain ⟨left, checked⟩ := req.checked_batch
    rw [checked] at returned
    exact getAllUriToGrantByPolicy_batch returned

def sharedNotes : Request where
  reader :=
    { getScheme uri := if uri = "content://notes/1" then "content" else "file"
      getAuthority uri := if uri = "content://notes/1" then "notes" else "mail"
      getRealPathBySA _ := "/data/storage/el2/base/1" }
  parties :=
    { mode := 0
      callerAlterBundleName := "mail"
      targetAlterBundleName := "notes"
      haveSandboxAccessPermission := false }
  uriVec := ["content://notes/1", "file://mail/data/storage/el2/base/1"]
  tokenPermission := ⟨false, false, false, false, false, true⟩
  answers :=
    { mediaLibraryEnabled := true
      checkMedia uris := uris.map fun _ => false
      checkMedia_length uris := by simp
      checkCollaborator := none
      sandboxManagerEnabled := true
      checkPersistPolicy policies := (0, policies.map fun _ => false)
      verifyUriPermissionByPolicy policies := policies.map fun _ => false
      verifyContentUriPermission uris := (ERR_OK, uris.map fun _ => true) }
  flag := 1

theorem content_of_target_is_not_counted :
    sharedNotes.checked.checkResult.map (·.result) = [true, true] ∧
      (List.range 2).countP (fun index => sharedNotes.checked.isPermitted index &&
        sharedNotes.reader.getAuthority (sharedNotes.uri index) ==
          sharedNotes.parties.targetAlterBundleName) = 1 ∧
      sharedNotes.checked.targetBundleUriCount = 0 ∧
      sharedNotes.checked.getUriToGrantByPolicy = ([], [], 0) := by
  decide

end Request

end AbilityRuntime.UriPermission
