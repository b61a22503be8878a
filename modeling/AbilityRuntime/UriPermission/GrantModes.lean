import AbilityRuntime.UriPermission.BatchUriChecks
import AbilityRuntime.UriPermission.Verification

set_option autoImplicit false

namespace AbilityRuntime.UriPermission

open BatchUri UriPermissionManagerStubImpl List Prod Request

def ERR_CODE_GRANT_URI_PERMISSION : Int := 2097216
def ERR_NOT_SYSTEM_APP : Int := 2097209
def ERR_CODE_INVALID_URI_FLAG : Int := 2097212
def ERR_CODE_INVALID_URI_TYPE : Int := 2097213
def ERR_URI_LIST_OUT_OF_RANGE : Int := 2097245
def ERR_UPMS_INVALID_CALLER_TOKENID : Int := 2097342
def ERR_UPMS_INVALID_TARGET_TOKENID : Int := 2097343
def MAX_URI_COUNT : Nat := 200000
def U0_USER_ID : Int := 0

structure PartyInfo extends FUDAppInfo where
  isSA : Bool

inductive Overload where
  | bundleName (isSAOrSystemAppCall : Bool) (getTokenIdByBundleName : Int)
      (callerAlterableBundleName targetAlterableBundleName : String)
  | tokenId (isPrivileged : Bool) (oriCallerTokenId targetTokenId : UInt32)
      (callerInfo targetInfo : Option PartyInfo)

structure GrantCall where
  overload : Overload
  uriVec : List String
  flag : UInt32
  isSandboxApp : Bool
  haveSandboxAccessPermission : Bool
  isUdmfOrPasteboardCall : Bool
  reader : UriReader
  tokenPermission : TokenIdPermission
  answers : CheckAnswers

namespace GrantCall

variable (call : GrantCall)

def checkUriCount : Int :=
  if call.uriVec.isEmpty || call.uriVec.length > MAX_URI_COUNT then ERR_URI_LIST_OUT_OF_RANGE
  else ERR_OK

def checkFlag : Int :=
  if call.flag &&& FLAG_READ_WRITE_URI = 0 then ERR_CODE_INVALID_URI_FLAG else ERR_OK

def checkCalledBySandBox : Int :=
  if call.isSandboxApp then ERR_CODE_GRANT_URI_PERMISSION else ERR_OK

def checkUsers : Option PartyInfo -> Option PartyInfo -> Int
  | none, _ => ERR_UPMS_INVALID_CALLER_TOKENID
  | some _, none => ERR_UPMS_INVALID_TARGET_TOKENID
  | some callerInfo, some targetInfo =>
    if callerInfo.userId ≠ targetInfo.userId ∧ !callerInfo.isSA ∧ callerInfo.userId ≠ U0_USER_ID ∧
        targetInfo.userId ≠ U0_USER_ID then ERR_UPMS_INVALID_TARGET_TOKENID
    else ERR_OK

-- The checks of an overload in their order; the first that fails gives the result.
def checks : List Int :=
  match call.overload with
  | .bundleName isSAOrSystemAppCall getTokenIdByBundleName _ _ =>
    [if isSAOrSystemAppCall then ERR_OK else ERR_NOT_SYSTEM_APP, call.checkCalledBySandBox,
      call.checkUriCount, call.checkFlag, getTokenIdByBundleName]
  | .tokenId isPrivileged oriCallerTokenId targetTokenId callerInfo targetInfo =>
    [if isPrivileged then ERR_OK else CHECK_PERMISSION_FAILED, call.checkCalledBySandBox,
      call.checkFlag, call.checkUriCount,
      if oriCallerTokenId = 0 then ERR_UPMS_INVALID_CALLER_TOKENID else ERR_OK,
      if targetTokenId = 0 then ERR_UPMS_INVALID_TARGET_TOKENID else ERR_OK,
      checkUsers callerInfo targetInfo]

def alterBundleNames : String × String :=
  match call.overload with
  | .bundleName _ _ caller target => (caller, target)
  | .tokenId _ _ _ caller target =>
    (caller.elim "" (·.alterBundleName), target.elim "" (·.alterBundleName))

def rwMode : UInt32 := (call.flag ||| FLAG_READ_URI) &&& (FLAG_READ_WRITE_URI ||| FLAG_PERSIST_URI)

def req : Request where
  reader := call.reader
  parties :=
    { mode := call.rwMode
      callerAlterBundleName := call.alterBundleNames.1
      targetAlterBundleName := call.alterBundleNames.2
      haveSandboxAccessPermission := call.haveSandboxAccessPermission }
  uriVec := call.uriVec
  tokenPermission := call.tokenPermission
  answers := call.answers
  flag := call.flag

def grantUriPermissionInner (batchUri : BatchUri) : List (List TypedPolicyInfo) :=
  let (docspolicyVec, bundlepolicyVec, _) := batchUri.getUriToGrantByPolicy
  if call.answers.sandboxManagerEnabled then [bundlepolicyVec, docspolicyVec].filter (!·.isEmpty)
  else []

def grantUriPermission : Except Int (List (List TypedPolicyInfo)) :=
  match call.checks.find? (· ≠ ERR_OK) with
  | some ret => .error ret
  | none =>
    let req := call.req
    let batchUri := init call.reader req.parties call.uriVec
    if batchUri.validUriCount = 0 then .error ERR_CODE_INVALID_URI_TYPE
    else
      let (batchUri, checkRet) := checkUriPermission call.reader call.tokenPermission call.answers
        call.flag req.parties.callerAlterBundleName batchUri
      if checkRet ≠ ERR_OK ∧ (!call.isUdmfOrPasteboardCall ∨ batchUri.contentUris.isEmpty) then
        .error checkRet
      else .ok (call.grantUriPermissionInner batchUri)

def grantMode : UInt64 := ((call.flag ||| FLAG_READ_URI) &&& FLAG_READ_WRITE_URI).toUInt64

variable {call}

theorem grantMode_eq_iff : (call.flag &&& FLAG_READ_WRITE_URI &&& 3).toUInt64 = call.grantMode ↔
    call.flag &&& FLAG_READ_URI ≠ 0 := by
  have modes : ∀ bits < 4, bits = (bits ||| 1) &&& 3 ↔ bits &&& 1 ≠ 0 := by decide
  have low : call.flag.toNat &&& 3 < 4 := Nat.lt_of_le_of_lt Nat.and_le_right (by decide)
  have read : call.flag.toNat &&& 1 = call.flag.toNat &&& 3 &&& 1 := (Nat.and_assoc _ 3 1).symm
  have widened : (call.flag.toNat ||| 1) &&& 3 = (call.flag.toNat &&& 3 ||| 1) &&& 3 := by
    rw [Nat.and_or_distrib_right, Nat.and_or_distrib_right, Nat.and_assoc, Nat.and_self]
  rw [grantMode, UInt32.toUInt64_inj, <- UInt32.toNat_inj, ne_eq, <- UInt32.toNat_inj]
  change call.flag.toNat &&& 3 &&& 3 = (call.flag.toNat ||| 1) &&& 3 ↔ call.flag.toNat &&& 1 ≠ 0
  rw [Nat.and_assoc, widened, read]
  exact modes _ low

theorem own_mode {index : Nat} (own : call.req.uriClass index = .own) :
    (call.req.grantedPolicy index).mode = call.grantMode := by
  rw [grantedPolicy, if_pos own]
  change (call.rwMode &&& 3).toUInt64 = _
  rw [rwMode, UInt32.and_assoc]
  rfl

theorem other_mode_iff {index : Nat} (other : (call.req.uriClass index).isOther = true) :
    (call.req.grantedPolicy index).mode = call.grantMode ↔ call.flag &&& FLAG_READ_URI ≠ 0 := by
  have foreign : call.req.uriClass index ≠ .own := by
    intro own
    simp [own, UriClass.isOther] at other
  rw [<- grantMode_eq_iff, grantedPolicy, if_neg foreign]
  rfl

theorem mem_grantUriPermissionInner (batchUri : BatchUri) (policy : TypedPolicyInfo) :
    (∃ policies ∈ call.grantUriPermissionInner batchUri, policy ∈ policies) ↔
      call.answers.sandboxManagerEnabled = true ∧
        (policy ∈ batchUri.getUriToGrantByPolicy.2.1 ∨ policy ∈ batchUri.getUriToGrantByPolicy.1) := by
  have parts (lists : List (List TypedPolicyInfo)) :
      (∃ policies ∈ lists.filter (!·.isEmpty), policy ∈ policies) ↔
        ∃ policies ∈ lists, policy ∈ policies := by
    refine exists_congr fun policies => ?_
    rw [mem_filter, and_assoc]
    refine and_congr_right fun _ => and_iff_right_of_imp fun mem => ?_
    simp [ne_nil_of_mem mem]
  unfold grantUriPermissionInner
  dsimp only
  split
  next enabled => rw [parts]; simp [enabled]
  next disabled => simp [disabled]

theorem mem_handed {handed : List (List TypedPolicyInfo)}
    (accepted : call.grantUriPermission = .ok handed) (policy : TypedPolicyInfo) :
    (∃ policies ∈ handed, policy ∈ policies) ↔ call.answers.sandboxManagerEnabled = true ∧
      ∃ index < call.req.total, call.req.grantable index = true ∧
        call.req.grantedPolicy index = policy := by
  have made : handed = call.grantUriPermissionInner call.req.checked := by
    unfold grantUriPermission at accepted
    split at accepted
    · cases accepted
    · dsimp only at accepted
      split at accepted
      · cases accepted
      · split at accepted
        · cases accepted
        · exact (Except.ok.inj accepted).symm
  obtain ⟨left, checked⟩ := call.req.checked_batch
  rw [made, mem_grantUriPermissionInner, checked]
  rcases returned : (call.req.batch _ _ left).getUriToGrantByPolicy with ⟨docs, bundles, count⟩
  obtain ⟨rfl, same, -⟩ := getUriToGrantByPolicy_batch returned
  rw [same.mem_iff]
  refine and_congr_right fun _ => ?_
  simp only [mem_map, mem_filter, mem_range, <- exists_or]
  refine exists_congr fun index => ?_
  cases call.req.isDocs index <;> simp [and_assoc]

/-- The policies carry the mode exactly if reading is asked for or no uri is of the two kinds. -/
theorem grant_mode_iff {handed : List (List TypedPolicyInfo)}
    (accepted : call.grantUriPermission = .ok handed) :
    (∀ policies ∈ handed, ∀ policy ∈ policies, policy.mode = call.grantMode) ↔
      (call.answers.sandboxManagerEnabled = true -> call.flag &&& FLAG_READ_URI ≠ 0 ∨
        ∀ index < call.req.total, (call.req.uriClass index).isOther = true ->
          call.req.grantable index = false) := by
  constructor
  · intro same enabled
    refine or_iff_not_imp_left.mpr fun unread index inside other => ?_
    by_contra granted
    obtain ⟨policies, list, mem⟩ := (mem_handed accepted _).mpr
      ⟨enabled, index, inside, by simpa using granted, rfl⟩
    exact unread ((other_mode_iff other).mp (same policies list _ mem))
  · intro condition policies list policy mem
    obtain ⟨enabled, index, inside, granted, rfl⟩ := (mem_handed accepted _).mp ⟨policies, list, mem⟩
    by_cases own : call.req.uriClass index = .own
    · exact own_mode own
    · have other : (call.req.uriClass index).isOther = true :=
        (grantable_class granted).resolve_left own
      refine (other_mode_iff other).mpr ((condition enabled).resolve_right fun none => ?_)
      exact absurd granted (by simp [none index inside other])

def writeGrant : GrantCall where
  overload := .tokenId true 1 2 (some ⟨⟨1, "mail", 100⟩, false⟩) (some ⟨⟨2, "notes", 100⟩, false⟩)
  uriVec := ["file://mail/a", "file://docs/storage/b"]
  flag := 2
  isSandboxApp := false
  haveSandboxAccessPermission := false
  isUdmfOrPasteboardCall := false
  reader :=
    { getScheme _ := "file"
      getAuthority uri := if uri = "file://mail/a" then "mail" else "docs"
      getRealPathBySA uri := if uri = "file://mail/a" then "/mail/a" else "/storage/b" }
  tokenPermission := ⟨false, true, false, false, false, false⟩
  answers := sharedNotes.answers

theorem readGrant_modes :
    ∃ handed, { writeGrant with flag := 3 }.grantUriPermission = .ok handed ∧
      ∀ policies ∈ handed, ∀ policy ∈ policies, policy.mode = 3 :=
  ⟨_, rfl, (@grant_mode_iff { writeGrant with flag := 3 } _ rfl).mpr fun _ => .inl (by decide)⟩

theorem writeGrant_divided : writeGrant.grantMode = 3 ∧
    writeGrant.grantUriPermission =
      .ok [[⟨⟨"/mail/a", 3⟩, .SELF_PATH⟩], [⟨⟨"/storage/b", 2⟩, .UNKNOWN⟩]] :=
  ⟨rfl, rfl⟩

end GrantCall

namespace UriUtils

def MAX_URI_COUNT : Nat := 500
def API20 : Int := 20

structure Want where
  uri : String
  stream : List String

variable (getScheme : String -> String) (apiVersion : Int)

def getUriListFromWant (want : Want) : Option (Want × List String) :=
  if want.stream = [] ∧ want.uri = "" then none
  else if want.uri = "" then
    let uriVec := want.stream.take MAX_URI_COUNT
    some ({ want with stream := uriVec }, uriVec)
  else
    let uriVec := want.stream.take (MAX_URI_COUNT - 1)
    some ({ want with stream := uriVec }, want.uri :: uriVec)

def processWantUri (checkResult : Bool) (want : Want) : Want × List String :=
  if want.uri = "" then (want, [])
  else if checkResult then (want, [want.uri])
  else if getScheme want.uri = FILE_SCHEME ∨ (getScheme want.uri = "" ∧ API20 ≤ apiVersion) then
    ({ want with uri := "" }, [])
  else (want, [])

-- The permissioned uris and the new stream after one more of the checked uris.
def processStreamUri (lists : List String × List String) (checked : String × CheckResult) :
    List String × List String :=
  if checked.2.result then (lists.1 ++ [checked.1], lists.2 ++ [checked.1])
  else if getScheme checked.1 ≠ FILE_SCHEME ∧ apiVersion < API20 then
    (lists.1, lists.2 ++ [checked.1])
  else lists

def getPermissionedUriList (uriVec : List String) (checkResults : List CheckResult) (want : Want) :
    Want × List String :=
  if uriVec.length ≠ checkResults.length then (want, [])
  else
    let startIndex := if want.uri = "" then 0 else 1
    let (want, permissionedUris) :=
      processWantUri getScheme apiVersion (checkResults.headD {}).result want
    let lists := ((uriVec.zip checkResults).drop startIndex).foldl
      (processStreamUri getScheme apiVersion) (permissionedUris, [])
    (if lists.2.length ≠ checkResults.length - startIndex then { want with stream := lists.2 }
      else want, lists.1)

def grantUriPermissionInner (uriVec : List String) (checkResults : List CheckResult)
    (want : Want) : Want × Option (List String × List PolicyType) :=
  let (want, permissionUris) := getPermissionedUriList getScheme apiVersion uriVec checkResults want
  (want, if permissionUris = [] then none
    else some (permissionUris, (checkResults.filter (·.result)).map (·.permissionType)))

def Want.held (want : Want) : List String :=
  if want.uri = "" then want.stream else want.uri :: want.stream

abbrev Checked := String × CheckResult

def permitted (pairs : List Checked) : List Checked := pairs.filter (·.2.result)

def streamKeeps (pair : Checked) : Bool :=
  pair.2.result || decide (getScheme pair.1 ≠ FILE_SCHEME ∧ apiVersion < API20)

def uriKeeps (pair : Checked) : Bool :=
  pair.2.result || decide (¬(getScheme pair.1 = FILE_SCHEME ∨
    (getScheme pair.1 = "" ∧ API20 ≤ apiVersion)))

/-- What the want holds and what is returned after its uris are checked with these results. -/
structure HandsOver (pairs : List Checked) (after : Want) (given : List String)
    (kept : List Checked) : Prop where
  held : after.held = kept.map fst
  examined : kept.Sublist pairs
  bounded : after.held.length ≤ MAX_URI_COUNT
  checked : ∀ pair ∈ kept, getScheme pair.1 = FILE_SCHEME -> pair.2.result = true
  retained : permitted kept = permitted pairs
  returned : given = (permitted pairs).map fst
  again : getUriListFromWant after = (if kept = [] then none else some (after, kept.map fst)) ∧
    (kept ≠ [] -> getPermissionedUriList getScheme apiVersion (kept.map fst)
      (kept.map snd) after = (after, given))

section Lists

variable {getScheme apiVersion}

theorem processStreamUri_foldl (pairs : List Checked) (lists : List String × List String) :
    pairs.foldl (processStreamUri getScheme apiVersion) lists =
      (lists.1 ++ (permitted pairs).map fst,
        lists.2 ++ (pairs.filter (streamKeeps getScheme apiVersion)).map fst) := by
  induction pairs generalizing lists with
  | nil => simp [permitted]
  | cons pair rest ih =>
    rw [foldl_cons, ih]
    unfold processStreamUri permitted
    by_cases result : pair.2.result = true
    · simp [result, streamKeeps]
    · by_cases keeps : getScheme pair.1 ≠ FILE_SCHEME ∧ apiVersion < API20
      · simp [result, streamKeeps, keeps]
      · simp [result, streamKeeps, keeps]

theorem zip_pairs (pairs : List Checked) : (pairs.map fst).zip (pairs.map snd) = pairs :=
  (zip_of_prod rfl rfl).symm

theorem stream_written (pairs : List Checked) (uri : String) :
    (if (pairs.filter (streamKeeps getScheme apiVersion)).length ≠ pairs.length then
        (⟨uri, (pairs.filter (streamKeeps getScheme apiVersion)).map fst⟩ : Want)
      else ⟨uri, pairs.map fst⟩) =
      ⟨uri, (pairs.filter (streamKeeps getScheme apiVersion)).map fst⟩ := by
  split
  · rfl
  next same =>
    rw [not_not, length_filter_eq_length_iff] at same
    rw [filter_eq_self.mpr same]

theorem getPermissioned_stream (pairs : List Checked) :
    getPermissionedUriList getScheme apiVersion (pairs.map fst) (pairs.map snd)
        ⟨"", pairs.map fst⟩ =
      (⟨"", (pairs.filter (streamKeeps getScheme apiVersion)).map fst⟩,
        (permitted pairs).map fst) := by
  have written := @stream_written getScheme apiVersion pairs ""
  rw [getPermissionedUriList, if_neg (by simp)]
  simp only [processWantUri, if_true, zip_pairs, drop_zero, processStreamUri_foldl,
    nil_append, Nat.sub_zero, length_map, written]

theorem getPermissioned_uri (pair : Checked) (pairs : List Checked) (some : pair.1 ≠ "") :
    getPermissionedUriList getScheme apiVersion ((pair :: pairs).map fst)
        ((pair :: pairs).map snd) ⟨pair.1, pairs.map fst⟩ =
      (⟨if uriKeeps getScheme apiVersion pair then pair.1 else "",
          (pairs.filter (streamKeeps getScheme apiVersion)).map fst⟩,
        (permitted (pair :: pairs)).map fst) := by
  have written := @stream_written getScheme apiVersion pairs
  unfold getPermissionedUriList processWantUri
  by_cases result : pair.2.result = true
  · simpa [some, zip_pairs, processStreamUri_foldl, result, uriKeeps, permitted]
      using written pair.1
  · by_cases erased : getScheme pair.1 = FILE_SCHEME ∨ (getScheme pair.1 = "" ∧ API20 ≤ apiVersion)
    · simpa [some, zip_pairs, processStreamUri_foldl, result, uriKeeps, permitted, erased]
        using written ""
    · simpa [some, zip_pairs, processStreamUri_foldl, result, uriKeeps, permitted, erased]
        using written pair.1

theorem handsOver_stream (pairs : List Checked) (bounded : pairs.length ≤ MAX_URI_COUNT) :
    HandsOver getScheme apiVersion pairs
      ⟨"", (pairs.filter (streamKeeps getScheme apiVersion)).map fst⟩
      ((permitted pairs).map fst) (pairs.filter (streamKeeps getScheme apiVersion)) := by
  have short := (length_filter_le (streamKeeps getScheme apiVersion) pairs).trans bounded
  have again : permitted (pairs.filter (streamKeeps getScheme apiVersion)) = permitted pairs := by
    simp only [permitted, filter_filter]
    exact filter_congr fun pair _ => by cases result : pair.2.result <;> simp [streamKeeps, result]
  refine ⟨by simp [Want.held], filter_sublist, by simpa [Want.held] using short, ?_, again, rfl,
    ?_, fun _ => ?_⟩
  · intro pair mem file
    simpa [streamKeeps, file] using (mem_filter.mp mem).2
  · simp only [getUriListFromWant, and_true, if_true, map_eq_nil_iff]
    rw [take_of_length_le (by simpa using short)]
  · rw [getPermissioned_stream, filter_filter, again]
    simp

theorem handsOver_uri (pair : Checked) (pairs : List Checked) (some : pair.1 ≠ "")
    (bounded : pairs.length ≤ MAX_URI_COUNT - 1) : ∃ kept,
    HandsOver getScheme apiVersion (pair :: pairs)
      ⟨if uriKeeps getScheme apiVersion pair then pair.1 else "",
        (pairs.filter (streamKeeps getScheme apiVersion)).map fst⟩
      ((permitted (pair :: pairs)).map fst) kept := by
  have stream := @handsOver_stream getScheme apiVersion pairs (bounded.trans (by decide))
  have short := (length_filter_le (streamKeeps getScheme apiVersion) pairs).trans bounded
  have retained : permitted (pair :: pairs.filter (streamKeeps getScheme apiVersion)) =
      permitted (pair :: pairs) := by
    simpa only [permitted, filter_cons] using
      congrArg (fun rest => if pair.2.result then pair :: rest else rest) stream.retained
  by_cases keeps : uriKeeps getScheme apiVersion pair = true
  · refine ⟨pair :: pairs.filter (streamKeeps getScheme apiVersion), ?_, .cons_cons pair stream.examined,
      ?_, ?_, retained, rfl, ?_, fun _ => ?_⟩
    · simp [Want.held, keeps, some]
    · simp only [MAX_URI_COUNT] at short
      simp [Want.held, keeps, some, MAX_URI_COUNT]
      omega
    · intro other mem file
      obtain rfl | tail := mem_cons.mp mem
      · simpa [uriKeeps, file] using keeps
      · exact stream.checked other tail file
    · simp only [getUriListFromWant, keeps, if_true, some, and_false, if_false]
      rw [take_of_length_le (by simpa using short)]
      simp
    · rw [if_pos keeps, map_cons, map_cons]
      have uri := @getPermissioned_uri getScheme apiVersion pair
        (pairs.filter (streamKeeps getScheme apiVersion)) some
      rw [retained, if_pos keeps, filter_filter] at uri
      simpa using uri
  · have refused : pair.2.result = false := by
      cases result : pair.2.result
      · rfl
      · simp [uriKeeps, result] at keeps
    have same : permitted (pair :: pairs) = permitted pairs := by simp [permitted, refused]
    rw [if_neg keeps, same]
    exact ⟨_, { stream with
      examined := stream.examined.cons pair
      retained := stream.retained.trans same.symm
      returned := by rw [same] }⟩

end Lists

/-- The want keeps every permitted uri in its order and lends each with the type of its check. -/
theorem permitted_uris_kept (want : Want) :
    (getUriListFromWant want = none -> want.held = []) ∧
    ∀ (given : Want) (uriVec : List String) (checkResults : List CheckResult),
      getUriListFromWant want = some (given, uriVec) -> checkResults.length = uriVec.length ->
      let pairs := uriVec.zip checkResults
      let after := getPermissionedUriList getScheme apiVersion uriVec checkResults given
      (∃ kept, HandsOver getScheme apiVersion pairs after.1 after.2 kept) ∧
        grantUriPermissionInner getScheme apiVersion uriVec checkResults given =
          (after.1, if permitted pairs = [] then none
            else some ((permitted pairs).map fst, (permitted pairs).map (·.2.permissionType))) := by
  refine ⟨?_, fun given uriVec checkResults listed sized => ?_⟩
  · unfold getUriListFromWant
    split
    next empty => simp [Want.held, empty]
    · split <;> simp
  have uris : (uriVec.zip checkResults).map fst = uriVec := map_fst_zip sized.ge
  have results : (uriVec.zip checkResults).map snd = checkResults := map_snd_zip sized.le
  generalize uriVec.zip checkResults = pairs at uris results
  subst uris results
  have hands : ∃ kept, HandsOver getScheme apiVersion pairs
      (getPermissionedUriList getScheme apiVersion (pairs.map fst) (pairs.map snd) given).1
      (getPermissionedUriList getScheme apiVersion (pairs.map fst) (pairs.map snd) given).2
      kept := by
    unfold getUriListFromWant at listed
    split at listed
    · cases listed
    split at listed
    next empty =>
      simp only [Option.some.injEq, Prod.mk.injEq] at listed
      obtain ⟨rfl, stream⟩ := listed
      rw [empty, stream, getPermissioned_stream]
      have bounded : pairs.length ≤ MAX_URI_COUNT := by
        rw [<- length_map (f := fst), <- stream]
        exact length_take_le _ _
      exact ⟨_, handsOver_stream pairs bounded⟩
    next present =>
      simp only [Option.some.injEq, Prod.mk.injEq] at listed
      obtain ⟨rfl, spliced⟩ := listed
      cases pairs with
      | nil => cases spliced
      | cons pair rest =>
        obtain ⟨uri, stream⟩ := cons.inj spliced
        rw [uri] at present
        rw [uri, stream, getPermissioned_uri pair rest present]
        have bounded : rest.length ≤ MAX_URI_COUNT - 1 := by
          rw [<- length_map (f := fst), <- stream]
          exact length_take_le _ _
        exact handsOver_uri pair rest present bounded
  refine ⟨hands, ?_⟩
  obtain ⟨kept, hands⟩ := hands
  simp only [grantUriPermissionInner, hands.returned, map_eq_nil_iff, filter_map, List.map_map]
  rfl

theorem fileWant_granted :
    (grantUriPermissionInner (fun _ => "file") 20 ["file://a/1", "file://a/2"]
      [⟨false, .UNKNOWN⟩, ⟨true, .SELF_PATH⟩] ⟨"file://a/1", ["file://a/2"]⟩).2 =
      some (["file://a/2"], [.SELF_PATH]) :=
  congrArg snd ((permitted_uris_kept (fun _ => "file") 20 ⟨"file://a/1", ["file://a/2"]⟩).2
    _ _ [⟨false, .UNKNOWN⟩, ⟨true, .SELF_PATH⟩] rfl rfl).2

end UriUtils

end AbilityRuntime.UriPermission
