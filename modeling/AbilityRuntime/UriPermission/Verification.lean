import AbilityRuntime.Library.TextLines
import AbilityRuntime.UriPermission.Store

set_option autoImplicit false

namespace AbilityRuntime.UriPermission

open RecordMap Library Std.ExtTreeMap List UriPermissionManagerStubImpl

def FLAG_READ_URI : UInt32 := 1
def FLAG_WRITE_URI : UInt32 := 2
def DISTRIBUTED_DOCS_URI_MARK : List Char := "?networkid=".toList

def isDistributedSubDirUri (inputUri cachedUri : String) : Bool :=
  match splitAtFirst DISTRIBUTED_DOCS_URI_MARK inputUri.toList,
    splitAtFirst DISTRIBUTED_DOCS_URI_MARK cachedUri.toList with
  | some (iTempUri, iTempNetworkId), some (cTempUri, cTempNetworkId) =>
    (cTempUri ++ ['/']).isPrefixOf iTempUri && iTempNetworkId == cTempNetworkId
  | _, _ => false

def hasUriPermission (list : List GrantInfo) (flag tokenId : UInt32) : Bool :=
  list.any fun info =>
    info.targetTokenId == tokenId && (info.flag ||| FLAG_READ_URI) &&& flag != 0

namespace UriPermissionManagerStubImpl

def verifySubDirUriPermission (s : UriPermissionManagerStubImpl) (uriStr : String)
    (newFlag tokenId : UInt32) : Bool :=
  match splitAtFirst DISTRIBUTED_DOCS_URI_MARK uriStr.toList with
  | none => false
  | some _ =>
    -- the walk from the greatest key stops at the first directory, whoever it was granted to
    match s.uriMap.toList.reverse.find? fun entry => isDistributedSubDirUri uriStr entry.1 with
    | none => false
    | some (_, list) => hasUriPermission list newFlag tokenId

def verifySingleUriPermissionByMap (s : UriPermissionManagerStubImpl) (uri : String)
    (flag tokenId : UInt32) : Bool :=
  if (s.uriMap[uri]?).any fun list => hasUriPermission list flag tokenId then true
  else s.verifySubDirUriPermission uri flag tokenId

def requestedFlag (flag : UInt32) : UInt32 :=
  if flag &&& FLAG_WRITE_URI ≠ 0 then FLAG_WRITE_URI else FLAG_READ_URI

def verifyUriPermissionByMap (s : UriPermissionManagerStubImpl) (uriVec : List String)
    (flag tokenId : UInt32) : List Bool :=
  uriVec.map fun uri => s.verifySingleUriPermissionByMap uri (requestedFlag flag) tokenId

end UriPermissionManagerStubImpl

def GrantInfo.Sufficient (info : GrantInfo) (flag : UInt32) : Prop :=
  flag &&& FLAG_WRITE_URI ≠ 0 -> info.flag &&& FLAG_WRITE_URI ≠ 0

/-- The path of the uri lies below that of the directory, on the same network. -/
def DirectoryOf (uri dir : String) : Prop :=
  ∃ path below network,
    splitAtFirst DISTRIBUTED_DOCS_URI_MARK uri.toList = some (path ++ '/' :: below, network) ∧
    splitAtFirst DISTRIBUTED_DOCS_URI_MARK dir.toList = some (path, network)

variable {s : UriPermissionManagerStubImpl} {uri dir other : String} {flag tokenId : UInt32}

def UriPermissionManagerStubImpl.GrantedAt (s : UriPermissionManagerStubImpl) (uri : String)
    (flag tokenId : UInt32) : Prop :=
  ∃ info ∈ records s.uriMap uri, info.targetTokenId = tokenId ∧ info.Sufficient flag

theorem hasUriPermission_iff (list : List GrantInfo) (flag tokenId : UInt32) :
    hasUriPermission list (UriPermissionManagerStubImpl.requestedFlag flag) tokenId = true ↔
      ∃ info ∈ list, info.targetTokenId = tokenId ∧ info.Sufficient flag := by
  have bits (info : GrantInfo) :
      (info.flag ||| FLAG_READ_URI) &&& UriPermissionManagerStubImpl.requestedFlag flag ≠ 0 ↔
        info.Sufficient flag := by
    have distributes (mask : UInt32) : (info.flag ||| FLAG_READ_URI) &&& mask =
        info.flag &&& mask ||| FLAG_READ_URI &&& mask := by
      rw [<- UInt32.toBitVec_inj]
      simp [BitVec.and_or_distrib_right]
    rw [GrantInfo.Sufficient, UriPermissionManagerStubImpl.requestedFlag, distributes]
    split
    next write =>
      have apart : FLAG_READ_URI &&& FLAG_WRITE_URI = 0 := by decide
      simp [apart, write]
    next read =>
      have own : FLAG_READ_URI &&& FLAG_READ_URI ≠ 0 := by decide
      rw [ne_eq, UInt32.or_eq_zero_iff]
      exact ⟨fun _ write => absurd write read, fun _ both => own both.2⟩
  simp only [hasUriPermission, any_eq_true, Bool.and_eq_true, beq_iff_eq, bne_iff_ne, bits]

theorem isDistributedSubDirUri_iff : isDistributedSubDirUri uri dir = true ↔ DirectoryOf uri dir := by
  unfold isDistributedSubDirUri DirectoryOf
  split
  next iTempUri iTempNetworkId cTempUri cTempNetworkId input cached =>
    rw [input, cached, Bool.and_eq_true, isPrefixOf_iff_prefix, beq_iff_eq]
    constructor
    · rintro ⟨⟨below, split⟩, rfl⟩
      exact ⟨cTempUri, below, iTempNetworkId, by simp [<- split], rfl⟩
    · rintro ⟨path, below, network, own, directory⟩
      cases own
      cases directory
      exact ⟨⟨below, by simp⟩, rfl⟩
  next neither =>
    constructor
    · intro found; cases found
    · rintro ⟨path, below, network, own, directory⟩
      exact absurd directory (neither _ _ _ _ own)

theorem DirectoryOf.outer_greater (outer : DirectoryOf uri dir) (inner : DirectoryOf uri other)
    (shorter : dir.length < other.length) : other < dir := by
  obtain ⟨path, below, network, uriSplit, dirSplit⟩ := outer
  obtain ⟨deeper, rest, sameNetwork, uriSplit', otherSplit⟩ := inner
  rw [uriSplit] at uriSplit'
  obtain ⟨samePath, rfl⟩ := Prod.mk.inj (Option.some.inj uriSplit')
  obtain ⟨dirText, mark⟩ := splitAtFirst_some dirSplit
  obtain ⟨otherText, -⟩ := splitAtFirst_some otherSplit
  have lengths : path.length < deeper.length := by
    rw [<- String.length_toList, <- String.length_toList, dirText, otherText, length_append,
      length_append] at shorter
    omega
  have within : path ++ ['/'] <+: deeper := by
    have first : path ++ ['/'] <+: path ++ '/' :: below := ⟨below, by simp⟩
    have second : deeper <+: path ++ '/' :: below := ⟨'/' :: rest, samePath.symm⟩
    exact prefix_of_prefix_length_le first second
      (by rw [length_append, length_singleton]; exact lengths)
  obtain ⟨inside, rfl⟩ := within
  obtain ⟨tail, rfl⟩ := mark
  rw [String.lt_iff_toList_lt, dirText, otherText, append_assoc, append_assoc]
  refine append_left_lt ?_
  exact cons_lt_cons_iff.mpr (.inl (by decide))

theorem DirectoryOf.eq_of_length (first : DirectoryOf uri dir) (second : DirectoryOf uri other)
    (same : dir.length = other.length) : dir = other := by
  obtain ⟨path, below, network, uriSplit, dirSplit⟩ := first
  obtain ⟨path', rest, sameNetwork, uriSplit', otherSplit⟩ := second
  rw [uriSplit] at uriSplit'
  obtain ⟨samePath, rfl⟩ := Prod.mk.inj (Option.some.inj uriSplit')
  obtain ⟨dirText, -⟩ := splitAtFirst_some dirSplit
  obtain ⟨otherText, -⟩ := splitAtFirst_some otherSplit
  rw [<- String.length_toList, <- String.length_toList, dirText, otherText, length_append,
    length_append, Nat.add_right_cancel_iff] at same
  rw [<- String.toList_inj, dirText, otherText, (append_inj samePath same).1]

structure UriPermissionManagerStubImpl.Outermost (s : UriPermissionManagerStubImpl)
    (uri dir : String) : Prop where
  cached : dir ∈ s.uriMap
  directory : DirectoryOf uri dir
  shortest : ∀ other ∈ s.uriMap, DirectoryOf uri other -> dir.length ≤ other.length

theorem UriPermissionManagerStubImpl.Outermost.unique (outer : s.Outermost uri dir)
    (outer' : s.Outermost uri other) : dir = other :=
  outer.directory.eq_of_length outer'.directory (Nat.le_antisymm
    (outer.shortest other outer'.cached outer'.directory)
    (outer'.shortest dir outer.cached outer.directory))

theorem findDirectory_outermost {list : List GrantInfo}
    (found : (s.uriMap.toList.reverse.find? fun entry => isDistributedSubDirUri uri entry.1) =
      some (dir, list)) :
    s.Outermost uri dir ∧ s.uriMap[dir]? = some list := by
  obtain ⟨directory, greater, smaller, split, skipped⟩ := find?_eq_some_iff_append.mp found
  have listed : (dir, list) ∈ s.uriMap.toList := by
    rw [<- mem_reverse, split]
    exact mem_append_right _ mem_cons_self
  have here : s.uriMap[dir]? = some list := mem_toList_iff_getElem?_eq_some.mp listed
  refine ⟨⟨?_, isDistributedSubDirUri_iff.mp directory, fun other cached inside => ?_⟩, here⟩
  · exact mem_iff_isSome_getElem?.mpr (by rw [here]; rfl)
  · obtain ⟨otherList, there⟩ :=
      Option.isSome_iff_exists.mp (mem_iff_isSome_getElem?.mp cached)
    have mem : (other, otherList) ∈ greater ++ (dir, list) :: smaller := by
      rw [<- split, mem_reverse]
      exact mem_toList_iff_getElem?_eq_some.mpr there
    have ordered : (greater ++ (dir, list) :: smaller).Pairwise fun later earlier =>
        compare earlier.1 later.1 = .lt := by
      rw [<- split, pairwise_reverse]
      exact ordered_keys_toList
    rcases mem_append.mp mem with before | after
    · have skip := skipped _ before
      rw [isDistributedSubDirUri_iff.mpr inside] at skip
      cases skip
    · rcases mem_cons.mp after with same | below
      · cases same; exact le_refl _
      · have less := (pairwise_cons.mp (pairwise_append.mp ordered).2.1).1 _ below
        by_contra shorter
        have more := inside.outer_greater (isDistributedSubDirUri_iff.mp directory)
          (Nat.lt_of_not_le shorter)
        exact absurd (compare_lt_iff_lt.mp less) more.asymm

theorem verifySubDirUriPermission_iff :
    s.verifySubDirUriPermission uri (requestedFlag flag) tokenId = true ↔
      ∃ dir, s.Outermost uri dir ∧ s.GrantedAt dir flag tokenId := by
  have granted {dir : String} {list : List GrantInfo} (here : s.uriMap[dir]? = some list) :
      hasUriPermission list (requestedFlag flag) tokenId = true ↔ s.GrantedAt dir flag tokenId := by
    rw [hasUriPermission_iff, GrantedAt, records_of_some here]
  rw [verifySubDirUriPermission]
  split
  next unmarked =>
    simp only [Bool.false_eq_true, false_iff]
    rintro ⟨dir, ⟨-, ⟨path, below, network, split, -⟩, -⟩, -⟩
    rw [unmarked] at split
    cases split
  · split
    next none =>
      simp only [Bool.false_eq_true, false_iff]
      rintro ⟨dir, outer, -⟩
      obtain ⟨list, here⟩ := Option.isSome_iff_exists.mp (mem_iff_isSome_getElem?.mp outer.cached)
      have listed := mem_toList_iff_getElem?_eq_some.mpr here
      exact find?_eq_none.mp none _ (mem_reverse.mpr listed)
        (isDistributedSubDirUri_iff.mpr outer.directory)
    next dir list found =>
      obtain ⟨outer, here⟩ := findDirectory_outermost found
      rw [granted here]
      constructor
      · exact fun sufficient => ⟨dir, outer, sufficient⟩
      · rintro ⟨other, outer', sufficient⟩
        rwa [outer.unique outer']

theorem verifySingleUriPermissionByMap_iff :
    s.verifySingleUriPermissionByMap uri (requestedFlag flag) tokenId = true ↔
      s.GrantedAt uri flag tokenId ∨ ∃ dir, s.Outermost uri dir ∧ s.GrantedAt dir flag tokenId := by
  have own : (s.uriMap[uri]?).any (fun list => hasUriPermission list
      (requestedFlag flag) tokenId) = true ↔ s.GrantedAt uri flag tokenId := by
    rw [GrantedAt, records]
    cases s.uriMap[uri]? with
    | none => simp
    | some list => rw [Option.any_some, hasUriPermission_iff, Option.getD_some]
  rw [verifySingleUriPermissionByMap]
  split
  next here => simp [own.mp here]
  next absent =>
    rw [verifySubDirUriPermission_iff, or_iff_right fun here => absent (own.mpr here)]

/-- What was granted is found, unless an outermost directory hides an inner grant. -/
theorem verifies_iff (s : UriPermissionManagerStubImpl) (uri : String) (flag tokenId : UInt32) :
    (s.verifySingleUriPermissionByMap uri (requestedFlag flag) tokenId = true ↔
      s.GrantedAt uri flag tokenId ∨ ∃ dir, DirectoryOf uri dir ∧ s.GrantedAt dir flag tokenId) ↔
    s.GrantedAt uri flag tokenId ∨
      (∀ dir, DirectoryOf uri dir -> ¬s.GrantedAt dir flag tokenId) ∨
      ∃ dir, s.Outermost uri dir ∧ s.GrantedAt dir flag tokenId := by
  rw [verifySingleUriPermissionByMap_iff]
  constructor
  · intro finds
    by_cases inner : ∃ dir, DirectoryOf uri dir ∧ s.GrantedAt dir flag tokenId
    · exact (finds.mpr (.inr inner)).imp_right .inr
    · exact .inr (.inl fun dir inside granted => inner ⟨dir, inside, granted⟩)
  · intro condition
    constructor
    · exact fun found => found.imp_right fun ⟨dir, outer, granted⟩ => ⟨dir, outer.directory, granted⟩
    · rintro (own | ⟨dir, inside, granted⟩)
      · exact .inl own
      · rcases condition with own | none | outer
        · exact .inl own
        · exact absurd granted (none dir inside)
        · exact .inr outer

def sharedDirectories : UriPermissionManagerStubImpl :=
  { initial with
    uriMap := ((∅ : Std.ExtTreeMap String (List GrantInfo)).insert "file://docs/a?networkid=1"
      [⟨1, 10, 30⟩]).insert "file://docs/a/b?networkid=1" [⟨1, 10, 20⟩] }

theorem sharedDirectories_hidden :
    ¬(sharedDirectories.verifySingleUriPermissionByMap "file://docs/a/b/c?networkid=1"
        (requestedFlag 1) 20 = true ↔
      sharedDirectories.GrantedAt "file://docs/a/b/c?networkid=1" 1 20 ∨
        ∃ dir, DirectoryOf "file://docs/a/b/c?networkid=1" dir ∧
          sharedDirectories.GrantedAt dir 1 20) := by
  have refused : sharedDirectories.verifySingleUriPermissionByMap "file://docs/a/b/c?networkid=1"
      (UriPermissionManagerStubImpl.requestedFlag 1) 20 = false := by decide +kernel
  have directory : DirectoryOf "file://docs/a/b/c?networkid=1" "file://docs/a/b?networkid=1" :=
    isDistributedSubDirUri_iff.mp (by decide +kernel)
  have granted : sharedDirectories.GrantedAt "file://docs/a/b?networkid=1" 1 20 :=
    ⟨⟨1, 10, 20⟩, by decide +kernel, rfl, fun write => absurd (by decide) write⟩
  intro found
  rw [found.mpr (.inr ⟨_, directory, granted⟩)] at refused
  cases refused

end AbilityRuntime.UriPermission
