import Mathlib.Data.List.TakeWhile
import AbilityRuntime.UriPermission.Grants

set_option autoImplicit false

namespace AbilityRuntime.UriPermission

open RecordMap List Prod

def isShared (ret : Int) : Bool := ret == 0 || ret == -EEXIST

def Covered (info : GrantInfo) (list : List GrantInfo) : Prop :=
  ∃ item, list.find? (fun item => item.fromTokenId == info.fromTokenId &&
    item.targetTokenId == info.targetTokenId) = some item ∧ item.flag &&& info.flag = info.flag

namespace UriPermissionManagerStubImpl

variable {s : UriPermissionManagerStubImpl} {info : GrantInfo} {list : List GrantInfo}

theorem flag_widened (flag added : UInt32) : (flag ||| added) &&& added = added := by
  rw [<- UInt32.toBitVec_inj]
  ext bit inside
  simp only [UInt32.toBitVec_and, UInt32.toBitVec_or, BitVec.getElem_and, BitVec.getElem_or]
  cases flag.toBitVec[bit] <;> simp

theorem mergeGrantInfo_covered (info : GrantInfo) (list : List GrantInfo) :
    Covered info (mergeGrantInfo info list) := by
  induction list with
  | nil => exact ⟨info, by simp [mergeGrantInfo], UInt32.and_self⟩
  | cons item rest ih =>
    rw [mergeGrantInfo]
    by_cases same : item.fromTokenId = info.fromTokenId ∧ item.targetTokenId = info.targetTokenId
    · rw [if_pos same]
      split
      · exact ⟨_, find?_cons_of_pos (by simp [same]), flag_widened _ _⟩
      next has => exact ⟨item, find?_cons_of_pos (by simp [same]), not_not.mp has⟩
    · obtain ⟨found, first, has⟩ := ih
      rw [if_neg same]
      exact ⟨found, by rw [find?_cons_of_neg (by simpa using same), first], has⟩

theorem mergeGrantInfo_eq_self : mergeGrantInfo info list = list ↔ Covered info list := by
  constructor
  · intro same
    rw [<- same]
    exact mergeGrantInfo_covered info list
  · rintro ⟨found, first, has⟩
    induction list with
    | nil => cases first
    | cons item rest ih =>
      rw [mergeGrantInfo]
      by_cases same : item.fromTokenId = info.fromTokenId ∧ item.targetTokenId = info.targetTokenId
      · rw [find?_cons_of_pos (by simp [same])] at first
        cases first
        rw [if_pos same, if_neg (not_not_intro has)]
      · rw [find?_cons_of_neg (by simpa using same)] at first
        rw [if_neg same, ih first]

theorem addTempUriPermission_records (uri key : String) (flag fromTokenId targetTokenId : UInt32) :
    records (s.addTempUriPermission uri flag fromTokenId targetTokenId).uriMap key =
      if uri = key then mergeGrantInfo ⟨flag, fromTokenId, targetTokenId⟩ (records s.uriMap key)
      else records s.uriMap key := by
  rw [addTempUriPermission]
  cases found : s.uriMap[uri]? with
  | none =>
    rw [records_insert]
    split
    next same =>
      rw [<- same, records, found]
      rfl
    · rfl
  | some infoList =>
    rw [records_insert]
    split
    next same => rw [<- same, records_of_some found]
    · rfl

def addedFiles (files : List (String × Int)) (successCount : Nat) : List (String × Int) :=
  if successCount = 0 then files.dropWhile fun item => !isShared item.2 else files

theorem addShareFiles_spec (flag callerTokenId targetTokenId : UInt32) (files : List (String × Int))
    (successCount : Nat) :
    (addShareFiles flag callerTokenId targetTokenId files s successCount).2 =
        successCount + (addedFiles files successCount).length ∧
      ∀ key, records (addShareFiles flag callerTokenId targetTokenId files s successCount).1.uriMap
          key =
        if key ∈ (addedFiles files successCount).map fst then
          mergeGrantInfo ⟨flag, callerTokenId, targetTokenId⟩ (records s.uriMap key)
        else records s.uriMap key := by
  induction files generalizing s successCount with
  | nil => simp [addShareFiles, addedFiles]
  | cons file rest ih =>
    obtain ⟨uri, ret⟩ := file
    rw [addShareFiles]
    by_cases skipped : ret ≠ 0 ∧ ret ≠ -EEXIST ∧ successCount = 0
    · have unshared : isShared ret = false := by simp [isShared, skipped]
      have same : addedFiles ((uri, ret) :: rest) successCount = addedFiles rest successCount := by
        simp [addedFiles, skipped.2.2, unshared]
      rw [if_pos skipped, same]
      exact ih successCount
    · have all : addedFiles ((uri, ret) :: rest) successCount = (uri, ret) :: rest := by
        rw [addedFiles]
        split
        next zero =>
          have shared : isShared ret = true := by
            by_contra unshared
            rw [isShared, Bool.or_eq_true, beq_iff_eq, beq_iff_eq, not_or] at unshared
            exact skipped ⟨unshared.1, unshared.2, zero⟩
          simp [shared]
        · rfl
      have later : addedFiles rest (successCount + 1) = rest := if_neg (Nat.succ_ne_zero _)
      obtain ⟨count, added⟩ := ih (s := s.addTempUriPermission uri flag callerTokenId targetTokenId)
        (successCount + 1)
      rw [later] at count added
      rw [if_neg skipped, all]
      refine ⟨by rw [count, length_cons]; omega, fun key => ?_⟩
      rw [added, addTempUriPermission_records]
      by_cases own : uri = key
      · -- a uri that comes again finds its record widened already
        have listed : key ∈ ((uri, ret) :: rest).map fst := by simp [own]
        rw [if_pos own, if_pos listed, mergeGrantInfo_eq_self.mpr (mergeGrantInfo_covered _ _),
          ite_self]
      · have listed : key ∈ ((uri, ret) :: rest).map fst ↔ key ∈ rest.map fst := by
          simp [Ne.symm own]
        simp only [if_neg own, listed]

section Batch

variable (services : Services) (s : UriPermissionManagerStubImpl) (uriVec : List String)
  (flag callerTokenId targetTokenId : UInt32)

def shareResults : List Int :=
  if uriVec.isEmpty then []
  else services.createShareFile uriVec targetTokenId (flag &&& FLAG_READ_WRITE_URI)

def sharedUris : List String :=
  ((uriVec.zip (shareResults services uriVec flag targetTokenId)).filter
    fun item => isShared item.2).map fst

def grantedInfo : GrantInfo := ⟨flag &&& FLAG_READ_WRITE_URI, callerTokenId, targetTokenId⟩

/-- The uris that could be shared are recorded and no others, and the call succeeds when one was. -/
structure GrantsShared : Prop where
  recorded : ∀ uri, records (s.grantBatchUriPermissionImpl services uriVec flag callerTokenId
      targetTokenId).1.uriMap uri =
    if uri ∈ sharedUris services uriVec flag targetTokenId then
      mergeGrantInfo (grantedInfo flag callerTokenId targetTokenId) (records s.uriMap uri)
    else records s.uriMap uri
  answer : (s.grantBatchUriPermissionImpl services uriVec flag callerTokenId targetTokenId).2 =
      ERR_OK ↔
    ∃ ret ∈ shareResults services uriVec flag targetTokenId, isShared ret = true

end Batch

variable {services : Services} {uriVec : List String} {flag callerTokenId targetTokenId : UInt32}

theorem grantsShared_unchanged {ret : Int}
    (unchanged : s.grantBatchUriPermissionImpl services uriVec flag callerTokenId targetTokenId =
      (s, ret)) :
    GrantsShared services s uriVec flag callerTokenId targetTokenId ↔
      (∀ uri ∈ sharedUris services uriVec flag targetTokenId,
        Covered (grantedInfo flag callerTokenId targetTokenId) (records s.uriMap uri)) ∧
      (ret = ERR_OK ↔
        ∃ ret ∈ shareResults services uriVec flag targetTokenId, isShared ret = true) := by
  constructor
  · rintro ⟨recorded, answer⟩
    rw [unchanged] at recorded answer
    refine ⟨fun uri mem => ?_, answer⟩
    have same := recorded uri
    rw [if_pos mem] at same
    exact mergeGrantInfo_eq_self.mp same.symm
  · rintro ⟨covered, answer⟩
    constructor
    case answer => rw [unchanged]; exact answer
    case recorded =>
      intro uri
      rw [unchanged]
      split
      next mem => exact (mergeGrantInfo_eq_self.mpr (covered uri mem)).symm
      · rfl

theorem dropWhile_eq_nil_iff (results : List Int) (sameLength : results.length = uriVec.length) :
    (uriVec.zip results).dropWhile (fun item => !isShared item.2) = [] ↔
      ¬∃ ret ∈ results, isShared ret = true := by
  rw [List.dropWhile_eq_nil_iff]
  constructor
  · rintro none ⟨ret, mem, shared⟩
    have second : (uriVec.zip results).map snd = results := map_snd_zip (by omega)
    rw [<- second] at mem
    obtain ⟨item, inside, rfl⟩ := mem_map.mp mem
    have unshared := none item inside
    rw [shared] at unshared
    cases unshared
  · intro none item mem
    by_contra shared
    exact none ⟨item.2, (of_mem_zip mem).2, by simpa using shared⟩

theorem grantBatch_answered (s : UriPermissionManagerStubImpl) (callerTokenId : UInt32)
    (feature : services.hasStorageFeature = true) (some : uriVec ≠ [])
    (answered : (shareResults services uriVec flag targetTokenId).length = uriVec.length) :
    let added := (uriVec.zip (shareResults services uriVec flag targetTokenId)).dropWhile
      fun item => !isShared item.2
    ((s.grantBatchUriPermissionImpl services uriVec flag callerTokenId targetTokenId).2 = ERR_OK ↔
      added ≠ []) ∧
    ∀ key, records (s.grantBatchUriPermissionImpl services uriVec flag callerTokenId
        targetTokenId).1.uriMap key =
      if key ∈ added.map fst then
        mergeGrantInfo (grantedInfo flag callerTokenId targetTokenId) (records s.uriMap key)
      else records s.uriMap key := by
  intro added
  have called : shareResults services uriVec flag targetTokenId =
      services.createShareFile uriVec targetTokenId (flag &&& FLAG_READ_WRITE_URI) := by
    simp [shareResults, some]
  obtain ⟨count, recorded⟩ := addShareFiles_spec (s := s) (flag &&& FLAG_READ_WRITE_URI)
    callerTokenId targetTokenId (uriVec.zip (shareResults services uriVec flag targetTokenId)) 0
  have dropped : addedFiles (uriVec.zip (shareResults services uriVec flag targetTokenId)) 0 =
      added := if_pos rfl
  rw [dropped, Nat.zero_add] at count
  rw [dropped] at recorded
  have unequal : INNER_ERR ≠ ERR_OK := by decide
  rw [grantBatchUriPermissionImpl, if_neg (by simpa using some)]
  simp only [feature, Bool.not_true, Bool.false_eq_true, if_false, <- called]
  cases results : shareResults services uriVec flag targetTokenId with
  | nil =>
    rw [results] at answered
    exact absurd (length_eq_zero_iff.mp answered.symm) some
  | cons first rest =>
    rw [results] at count recorded answered
    simp only [answered, ne_eq, not_true_eq_false, if_false]
    split
    next zero =>
      rw [zero, eq_comm, length_eq_zero_iff] at count
      exact ⟨by simp [count, unequal], recorded⟩
    next positive =>
      have grown : added ≠ [] := fun none => positive (by rw [count, none, length_nil])
      exact ⟨by simp [grown], recorded⟩

-- The loop does not leave out a file that was shared.
theorem mem_added {results : List Int} {uri : String}
    (shared : uri ∈ ((uriVec.zip results).filter fun item => isShared item.2).map fst) :
    uri ∈ ((uriVec.zip results).dropWhile fun item => !isShared item.2).map fst := by
  obtain ⟨item, inside, rfl⟩ := mem_map.mp shared
  obtain ⟨mem, success⟩ := mem_filter.mp inside
  have split := takeWhile_append_dropWhile (p := fun item : String × Int => !isShared item.2)
    (l := uriVec.zip results)
  rw [<- split] at mem
  rcases mem_append.mp mem with before | after
  · have failed := mem_takeWhile_imp before
    rw [success] at failed
    cases failed
  · exact mem_map_of_mem after

/-- What failed after a shared file must be recorded anyway, and extra answers claim nothing. -/
theorem grantsShared_iff (feature : services.hasStorageFeature = true) :
    GrantsShared services s uriVec flag callerTokenId targetTokenId ↔
      if (shareResults services uriVec flag targetTokenId).length = uriVec.length then
        ∀ item ∈ (uriVec.zip (shareResults services uriVec flag targetTokenId)).dropWhile
            fun item => !isShared item.2,
          item.1 ∈ sharedUris services uriVec flag targetTokenId ∨
            Covered (grantedInfo flag callerTokenId targetTokenId) (records s.uriMap item.1)
      else
        (∀ uri ∈ sharedUris services uriVec flag targetTokenId,
          Covered (grantedInfo flag callerTokenId targetTokenId) (records s.uriMap uri)) ∧
        ((shareResults services uriVec flag targetTokenId).head? = some ERR_OK ↔
          ∃ ret ∈ shareResults services uriVec flag targetTokenId, isShared ret = true) := by
  by_cases noUri : uriVec = []
  · have unchanged : s.grantBatchUriPermissionImpl services uriVec flag callerTokenId targetTokenId =
        (s, INNER_ERR) := by
      simp [grantBatchUriPermissionImpl, noUri]
    rw [grantsShared_unchanged unchanged]
    simp [shareResults, sharedUris, noUri, INNER_ERR, ERR_OK]
  · by_cases answered : (shareResults services uriVec flag targetTokenId).length = uriVec.length
    · obtain ⟨answer, recorded⟩ := grantBatch_answered s callerTokenId feature noUri answered
      rw [if_pos answered]
      constructor
      · intro kept item mem
        by_cases shared : item.1 ∈ sharedUris services uriVec flag targetTokenId
        · exact .inl shared
        · have same := kept.recorded item.1
          rw [if_neg shared, recorded, if_pos (List.mem_map_of_mem mem)] at same
          exact .inr (mergeGrantInfo_eq_self.mp same)
      · intro covered
        constructor
        case answer => rw [answer, ne_eq, dropWhile_eq_nil_iff _ answered, not_not]
        case recorded =>
          intro uri
          rw [recorded]
          by_cases shared : uri ∈ sharedUris services uriVec flag targetTokenId
          · rw [if_pos shared, if_pos (mem_added shared)]
          · split
            next mem =>
              obtain ⟨item, inside, rfl⟩ := List.mem_map.mp mem
              exact mergeGrantInfo_eq_self.mpr ((covered item inside).resolve_left shared)
            · rfl
    · have called : shareResults services uriVec flag targetTokenId =
          services.createShareFile uriVec targetTokenId (flag &&& FLAG_READ_WRITE_URI) := by
        simp [shareResults, noUri]
      have unchanged : s.grantBatchUriPermissionImpl services uriVec flag callerTokenId
          targetTokenId =
            (s, (shareResults services uriVec flag targetTokenId).head?.getD INNER_ERR) := by
        rw [grantBatchUriPermissionImpl, if_neg (by simpa using noUri)]
        simp only [feature, Bool.not_true, Bool.false_eq_true, if_false, <- called]
        split
        next none => rw [none]; rfl
        next first rest results =>
          rw [if_pos answered, results]
          rfl
      rw [grantsShared_unchanged unchanged, if_neg answered]
      cases (shareResults services uriVec flag targetTokenId).head? <;> simp [INNER_ERR, ERR_OK]

def sharesFirst : Services where
  isFoundationCall := true
  isUdmfOrPasteboardCall := false
  callingTokenId := 10
  hasStorageFeature := true
  createShareFile := fun _ _ _ => [0, -1]
  deleteShareFile := fun _ _ => ERR_OK
  setPolicy := fun _ policies _ _ _ => (ERR_OK, policies.map fun _ => 0)
  unSetPolicy := fun _ _ => ERR_OK
  unSetAllPolicyByTokenAsync := fun _ => ERR_OK
  verifyPermissionByTokenId := fun _ => true
  startAccessingPolicy := fun _ _ => ERR_OK
  getAlterableBundleNameByTokenId := fun _ => "com.example.caller"
  getAuthority := fun _ => "docs"
  revokeUriPermission := none

def sharesBoth : Services := { sharesFirst with createShareFile := fun _ _ _ => [0, -17] }

theorem grantsShared_sharesBoth :
    GrantsShared sharesBoth initial ["file://docs/a", "file://docs/b"] 1 10 20 := by
  have all : ∀ item ∈ (["file://docs/a", "file://docs/b"].zip
      (shareResults sharesBoth ["file://docs/a", "file://docs/b"] 1 20)).dropWhile
        fun item => !isShared item.2,
      item.1 ∈ sharedUris sharesBoth ["file://docs/a", "file://docs/b"] 1 20 := by
    decide +kernel
  refine (grantsShared_iff rfl).mpr ?_
  exact fun item mem => .inl (all item mem)

theorem sharesFirst_records_second :
    ¬GrantsShared sharesFirst initial ["file://docs/a", "file://docs/b"] 1 10 20 := by
  intro kept
  have unchanged := kept.recorded "file://docs/b"
  exact absurd unchanged (by decide +kernel)

end UriPermissionManagerStubImpl

end AbilityRuntime.UriPermission
