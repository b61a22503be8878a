import Mathlib.Data.Option.Basic
import Mathlib.Data.List.TakeDrop
import AbilityRuntime.Library.Decimal
import AbilityRuntime.Library.TextLines

set_option autoImplicit false

namespace AbilityRuntime.AgentCards

open Std

structure Identifier where
  value : String
  numeric : Bool

structure SemVer where
  major : String
  minor : String
  patch : String
  prerelease : List Identifier

def isAsciiDigitString (value : String) : Bool := value ≠ "" && value.toList.all Char.isDigit

def hasLeadingZero (value : String) : Bool :=
  1 < value.utf8ByteSize && value.toList.head? = some '0'

def isValidIdentifierChar (ch : Char) : Bool := ch.isAlphanum || ch = '-'

-- A dot at either end and two in a row leave an identifier empty.
def splitIdentifiers (value : List Char) : Option (List String) := do
  let identifiers := value.splitOn '.'
  guard (identifiers.all (· ≠ []))
  return identifiers.map String.ofList

def parseCore (core : List Char) : Option SemVer := do
  let [major, minor, patch] <- splitIdentifiers core | none
  guard (isAsciiDigitString major && isAsciiDigitString minor && isAsciiDigitString patch)
  guard (!(hasLeadingZero major || hasLeadingZero minor || hasLeadingZero patch))
  return { major, minor, patch, prerelease := [] }

def parseIdentifier (identifier : String) : Option Identifier := do
  guard (identifier.toList.all isValidIdentifierChar)
  let numeric := isAsciiDigitString identifier
  guard (!(numeric && hasLeadingZero identifier))
  return { value := identifier, numeric }

def parsePreRelease (value : List Char) : Option (List Identifier) := do
  let identifiers <- splitIdentifiers value
  identifiers.mapM parseIdentifier

def validateBuild (value : List Char) : Bool :=
  (splitIdentifiers value).any (·.all fun identifier => identifier.toList.all isValidIdentifierChar)

def parseSemVerInternal (value : String) : Option SemVer := do
  guard (value ≠ "")
  let (versionPart, build) := value.toList.span (· ≠ '+')
  guard (build = [] || validateBuild build.tail)
  let (core, prerelease) := versionPart.span (· ≠ '-')
  let version <- parseCore core
  match prerelease with
  | [] => return version
  | _ :: prerelease => return { version with prerelease := <- parsePreRelease prerelease }

def compareNumericString (left right : String) : Ordering :=
  if left.utf8ByteSize ≠ right.utf8ByteSize then
    if left.utf8ByteSize < right.utf8ByteSize then .lt else .gt
  else if left = right then .eq
  else if left < right then .lt else .gt

def compareCore (left right : SemVer) : Ordering :=
  (compareNumericString left.major right.major).then
    ((compareNumericString left.minor right.minor).then
      (compareNumericString left.patch right.patch))

def compareIdentifier (left right : Identifier) : Ordering :=
  if left.value = right.value ∧ left.numeric = right.numeric then .eq
  else if left.numeric ∧ right.numeric then compareNumericString left.value right.value
  else if left.numeric ≠ right.numeric then if left.numeric then .lt else .gt
  else if left.value < right.value then .lt else .gt

def comparePrerelease : List Identifier -> List Identifier -> Ordering
  | [], [] => .eq
  | [], _ => .gt
  | _, [] => .lt
  | left, right => left.compareLex compareIdentifier right

inductive SemVerCompareResult where
  | less
  | equal
  | greater
  | invalid
deriving DecidableEq, Repr

def SemVerCompareResult.ofOrdering : Ordering -> SemVerCompareResult
  | .lt => less
  | .eq => equal
  | .gt => greater

def compareVersions (left right : SemVer) : Ordering :=
  (compareCore left right).then (comparePrerelease left.prerelease right.prerelease)

def compareSemVer (left right : String) : SemVerCompareResult :=
  match parseSemVerInternal left, parseSemVerInternal right with
  | some left, some right => .ofOrdering (compareVersions left right)
  | _, _ => .invalid

def isValidSemVer (version : String) : Bool := (parseSemVerInternal version).isSome

example : compareSemVer "1.2.0-rc.2+a" "1.2.0-rc.10" = .less := by decide +kernel
example : compareSemVer "1.2.0+a" "1.2.0" = .equal := by decide +kernel

/-! ### The order of the versions -/

theorem transCmp_on {A B : Type} (view : A -> B) (cmp : B -> B -> Ordering) [TransCmp cmp] :
    TransCmp fun left right => cmp (view left) (view right) where
  eq_swap := @fun _ _ => OrientedCmp.eq_swap
  isLE_trans := @fun _ _ _ first second => TransCmp.isLE_trans first second

theorem compareNumericString_eq :
    compareNumericString = compareLex (compareOn String.utf8ByteSize) compare := by
  funext left right
  have texts : compare left right = compareOfLessAndEq left right := rfl
  have sizes : compareOn String.utf8ByteSize left right =
      compareOfLessAndEq left.utf8ByteSize right.utf8ByteSize := rfl
  rw [compareNumericString, compareLex, sizes, texts, compareOfLessAndEq, compareOfLessAndEq]
  by_cases same : left.utf8ByteSize = right.utf8ByteSize
  · by_cases equal : left = right
    · simp [equal]
    · simp [same, equal]
  · by_cases less : left.utf8ByteSize < right.utf8ByteSize <;> simp [same, less]

instance : TransCmp compareNumericString := by
  rw [compareNumericString_eq]
  infer_instance

theorem compareIdentifier_eq :
    compareIdentifier = compareLex (compareOn fun identifier => !identifier.numeric)
      (compareLex (compareOn fun identifier =>
        if identifier.numeric then identifier.value.utf8ByteSize else 0)
        (compareOn Identifier.value)) := by
  funext left right
  obtain ⟨left, leftNumeric⟩ := left
  obtain ⟨right, rightNumeric⟩ := right
  have texts : compare left right = compareOfLessAndEq left right := rfl
  have numericBelow : compare false true = .lt := rfl
  have alphanumericAbove : compare true false = .gt := rfl
  cases leftNumeric <;> cases rightNumeric
  · by_cases equal : left = right <;>
      simp [compareIdentifier, compareLex, compareOn, texts, compareOfLessAndEq, equal]
  · simp [compareIdentifier, compareLex, compareOn, alphanumericAbove]
  · simp [compareIdentifier, compareLex, compareOn, numericBelow]
  · rw [compareIdentifier, compareNumericString_eq]
    by_cases equal : left = right <;> simp [compareLex, compareOn, equal]

instance : TransCmp compareIdentifier := by
  rw [compareIdentifier_eq]
  infer_instance

theorem comparePrerelease_eq :
    comparePrerelease =
      compareLex (compareOn List.isEmpty) (List.compareLex compareIdentifier) := by
  funext left right
  have filledBelow : compare false true = .lt := rfl
  have emptyAbove : compare true false = .gt := rfl
  cases left <;> cases right <;>
    simp [comparePrerelease, compareLex, compareOn, List.compareLex, filledBelow, emptyAbove]

instance : TransCmp comparePrerelease := by
  rw [comparePrerelease_eq]
  infer_instance

instance : TransCmp compareVersions := by
  have major := transCmp_on SemVer.major compareNumericString
  have minor := transCmp_on SemVer.minor compareNumericString
  have patch := transCmp_on SemVer.patch compareNumericString
  have prerelease := transCmp_on SemVer.prerelease comparePrerelease
  exact inferInstanceAs (TransCmp (compareLex (compareLex _ (compareLex _ _)) _))

def NotOlder (later earlier : String) : Prop :=
  isValidSemVer later ∧ isValidSemVer earlier ∧ compareSemVer later earlier ≠ .less

theorem notOlder_iff {later earlier : String} :
    NotOlder later earlier ↔ ∃ left right, parseSemVerInternal later = some left ∧
      parseSemVerInternal earlier = some right ∧ (compareVersions left right).isGE := by
  unfold NotOlder isValidSemVer compareSemVer
  cases parseSemVerInternal later with
  | none => simp
  | some left =>
    cases parseSemVerInternal earlier with
    | none => simp
    | some right =>
      cases compared : compareVersions left right <;>
        simp [SemVerCompareResult.ofOrdering, compared]

theorem NotOlder.refl {version : String} (valid : isValidSemVer version) :
    NotOlder version version := by
  obtain ⟨parsed, found⟩ := Option.isSome_iff_exists.mp valid
  exact notOlder_iff.mpr ⟨parsed, parsed, found, found, Ordering.isGE_of_eq_eq ReflCmp.compare_self⟩

theorem NotOlder.trans {latest later earlier : String} (second : NotOlder latest later)
    (first : NotOlder later earlier) : NotOlder latest earlier := by
  obtain ⟨left, middle, latestParsed, laterParsed, above⟩ := notOlder_iff.mp second
  obtain ⟨middle', right, laterParsed', earlierParsed, below⟩ := notOlder_iff.mp first
  have same : middle' = middle := Option.some.inj (laterParsed'.symm.trans laterParsed)
  rw [same] at below
  exact notOlder_iff.mpr ⟨left, right, latestParsed, earlierParsed, TransCmp.isGE_trans above below⟩

open Library Decimal List

/-! ### The grammar of Semantic Versioning 2.0.0 -/

def NumericIdentifier (text : String) : Prop :=
  text ≠ "" ∧ Digits text.toList ∧ (text.toList.head? = some '0' -> text = "0")

def BuildIdentifier (text : String) : Prop :=
  text ≠ "" ∧ ∀ char ∈ text.toList, char.isAlphanum ∨ char = '-'

def PreReleaseIdentifier (text : String) : Prop :=
  NumericIdentifier text ∨ BuildIdentifier text ∧ ¬ Digits text.toList

structure Version where
  major : String
  minor : String
  patch : String
  prerelease : List String
  build : List String
  numeric : ∀ text ∈ [major, minor, patch], NumericIdentifier text
  prereleased : ∀ text ∈ prerelease, PreReleaseIdentifier text
  built : ∀ text ∈ build, BuildIdentifier text

def dotted (texts : List String) : List Char := ['.'].intercalate (texts.map String.toList)

def marked (mark : Char) (texts : List String) : List Char :=
  if texts = [] then [] else mark :: dotted texts

def Version.text (version : Version) : String :=
  .ofList (dotted [version.major, version.minor, version.patch] ++
    marked '-' version.prerelease ++ marked '+' version.build)

def identifierOf (text : String) : Identifier := ⟨text, isAsciiDigitString text⟩

def Version.parsed (version : Version) : SemVer :=
  ⟨version.major, version.minor, version.patch, version.prerelease.map identifierOf⟩

variable {text : String} {texts : List String} {version : Version}

theorem isAsciiDigitString_iff : isAsciiDigitString text ↔ text ≠ "" ∧ Digits text.toList := by
  simp [isAsciiDigitString, Digits]

theorem utf8ByteSize_digits {digits : List Char} (isDigits : Digits digits) :
    (String.ofList digits).utf8ByteSize = digits.length := by
  induction digits with
  | nil => rfl
  | cons char rest ih =>
    have bounds := isDigit_bounds (isDigits char mem_cons_self)
    have zero : '0'.toNat = 48 := rfl
    have small : char.utf8Size = 1 :=
      if_pos (UInt32.le_iff_toNat_le.mpr (by change char.toNat ≤ 127; omega))
    rw [String.ofList_cons, String.utf8ByteSize_append, String.utf8ByteSize_singleton, small,
      ih fun other mem => isDigits other (mem_cons_of_mem _ mem), length_cons, Nat.add_comm]

theorem utf8ByteSize_eq (digits : Digits text.toList) :
    text.utf8ByteSize = text.toList.length := by
  rw [<- utf8ByteSize_digits digits, String.ofList_toList]

theorem numericIdentifier_iff :
    NumericIdentifier text ↔ isAsciiDigitString text ∧ hasLeadingZero text = false := by
  rw [isAsciiDigitString_iff, NumericIdentifier, <- and_assoc]
  refine and_congr_right fun ⟨filled, digits⟩ => ?_
  rw [hasLeadingZero, utf8ByteSize_eq digits]
  cases chars : text.toList with
  | nil => exact absurd (String.toList_eq_nil_iff.mp chars) filled
  | cons first rest =>
    rw [<- String.toList_inj, chars]
    cases rest <;> simp

theorem splitIdentifiers_eq_some {chars : List Char} :
    splitIdentifiers chars = some texts ↔
      texts ≠ [] ∧ (∀ text ∈ texts, text ≠ "" ∧ '.' ∉ text.toList) ∧ dotted texts = chars := by
  have split : splitIdentifiers chars = some texts ↔
      [] ∉ chars.splitOn '.' ∧ (chars.splitOn '.').map String.ofList = texts := by
    simp only [splitIdentifiers, Option.bind_eq_bind, Option.bind_eq_some_iff, Option.guard_eq_some', all_eq_true,
      Option.pure_def, Option.some.injEq, decide_eq_true_eq]
    exact ⟨fun ⟨_, filled, same⟩ => ⟨fun empty => filled _ empty rfl, same⟩, fun ⟨filled, same⟩ =>
      ⟨(), fun piece mem empty => filled (empty ▸ mem), same⟩⟩
  rw [split]
  constructor
  · rintro ⟨filled, rfl⟩
    refine ⟨by simp, fun text mem => ?_, ?_⟩
    · obtain ⟨piece, inside, rfl⟩ := mem_map.mp mem
      rw [String.toList_ofList]
      refine ⟨fun empty => filled ?_, notMem_splitOn inside⟩
      rwa [<- String.toList_eq_nil_iff.mpr empty, String.toList_ofList]
    · simp [dotted, intercalate_splitOn]
  · rintro ⟨some, apart, rfl⟩
    have pieces : (dotted texts).splitOn '.' = texts.map String.toList := by
      refine splitOn_intercalate '.' (fun piece mem => ?_) (by simpa using some)
      obtain ⟨text, inside, rfl⟩ := mem_map.mp mem
      exact (apart text inside).2
    simpa [pieces] using fun mem => (apart _ mem).1 rfl

theorem NumericIdentifier.built (numeric : NumericIdentifier text) : BuildIdentifier text := by
  obtain ⟨filled, digits, _⟩ := numeric
  refine ⟨filled, fun char mem => .inl ?_⟩
  rw [Char.isAlphanum, digits char mem, Bool.or_true]

theorem PreReleaseIdentifier.built (prereleased : PreReleaseIdentifier text) : BuildIdentifier text :=
  prereleased.elim NumericIdentifier.built And.left

theorem NumericIdentifier.notMem (numeric : NumericIdentifier text) : '-' ∉ text.toList :=
  fun mem => absurd (numeric.2.1 _ mem) (by decide)

theorem BuildIdentifier.notMem (built : BuildIdentifier text) : '.' ∉ text.toList ∧ '+' ∉ text.toList :=
  ⟨fun mem => absurd (built.2 _ mem) (by decide), fun mem => absurd (built.2 _ mem) (by decide)⟩

theorem isValidIdentifierChar_iff {char : Char} :
    isValidIdentifierChar char ↔ char.isAlphanum ∨ char = '-' := by
  simp [isValidIdentifierChar]

theorem parseIdentifier_eq_some {identifier : Identifier} (filled : text ≠ "") :
    parseIdentifier text = some identifier ↔
      PreReleaseIdentifier text ∧ identifierOf text = identifier := by
  have digits : isAsciiDigitString text ↔ Digits text.toList := by
    rw [isAsciiDigitString_iff, and_iff_right filled]
  simp only [parseIdentifier, Option.bind_eq_bind, Option.bind_eq_some_iff, Option.guard_eq_some',
    Option.pure_def, Option.some.injEq, all_eq_true, isValidIdentifierChar_iff]
  constructor
  · rintro ⟨_, valid, _, unpadded, same⟩
    refine ⟨?_, same⟩
    by_cases isDigits : Digits text.toList
    · refine .inl (numericIdentifier_iff.mpr ⟨digits.mpr isDigits, ?_⟩)
      simpa [digits.mpr isDigits] using unpadded
    · exact .inr ⟨⟨filled, valid⟩, isDigits⟩
  · rintro ⟨prereleased, same⟩
    refine ⟨(), prereleased.built.2, (), ?_, same⟩
    rcases prereleased with numeric | ⟨built, other⟩
    · simp [(numericIdentifier_iff.mp numeric).2]
    · simp [Bool.eq_false_iff.mpr (mt digits.mp other)]

theorem validateBuild_iff {chars : List Char} :
    validateBuild chars ↔
      ∃ texts, texts ≠ [] ∧ (∀ text ∈ texts, BuildIdentifier text) ∧ dotted texts = chars := by
  rw [validateBuild, Option.any_eq_true]
  simp only [splitIdentifiers_eq_some, all_eq_true, isValidIdentifierChar_iff]
  refine exists_congr fun texts => ⟨?_, ?_⟩
  · rintro ⟨⟨some, apart, same⟩, valid⟩
    exact ⟨some, fun text mem => ⟨(apart text mem).1, valid text mem⟩, same⟩
  · rintro ⟨some, built, same⟩
    exact ⟨⟨some, fun text mem => ⟨(built text mem).1, (built text mem).notMem.1⟩, same⟩,
      fun text mem => (built text mem).2⟩

theorem parsePreRelease_eq_some {chars : List Char} {identifiers : List Identifier} :
    parsePreRelease chars = some identifiers ↔
      ∃ texts, (texts ≠ [] ∧ (∀ text ∈ texts, PreReleaseIdentifier text) ∧ dotted texts = chars) ∧
        texts.map identifierOf = identifiers := by
  have parsed : ∀ texts : List String, (∀ text ∈ texts, text ≠ "") -> ∀ identifiers,
      texts.mapM parseIdentifier = some identifiers ↔
        (∀ text ∈ texts, PreReleaseIdentifier text) ∧ texts.map identifierOf = identifiers := by
    intro texts filled
    induction texts with
    | nil => simp [eq_comm]
    | cons text texts ih =>
      intro identifiers
      rw [forall_mem_cons] at filled
      simp only [mapM_cons, Option.bind_eq_bind, Option.bind_eq_some_iff,
        parseIdentifier_eq_some filled.1, ih filled.2, forall_mem_cons, map_cons]
      aesop
  simp only [parsePreRelease, Option.bind_eq_bind, Option.bind_eq_some_iff, splitIdentifiers_eq_some]
  refine exists_congr fun texts => ⟨?_, ?_⟩
  · rintro ⟨⟨some, apart, same⟩, all⟩
    obtain ⟨prereleased, rest⟩ := (parsed texts (fun text mem => (apart text mem).1) _).mp all
    exact ⟨⟨some, prereleased, same⟩, rest⟩
  · rintro ⟨⟨some, prereleased, same⟩, rest⟩
    have built := fun text mem => (prereleased text mem).built
    exact ⟨⟨some, fun text mem => ⟨(built text mem).1, (built text mem).notMem.1⟩, same⟩,
      (parsed texts (fun text mem => (built text mem).1) _).mpr ⟨prereleased, rest⟩⟩

theorem span_eq_iff {mark : Char} {chars front back : List Char} :
    chars.span (· ≠ mark) = (front, back) ↔
      front ++ back = chars ∧ mark ∉ front ∧ (back = [] ∨ ∃ rest, back = mark :: rest) := by
  rw [span_eq_takeWhile_dropWhile]
  constructor
  · rintro ⟨⟩
    refine ⟨takeWhile_append_dropWhile, fun mem => ?_, ?_⟩
    · simpa using all_eq_true.mp all_takeWhile _ mem
    · have first := head?_dropWhile_not (fun char => decide (char ≠ mark)) chars
      cases back : chars.dropWhile fun char => decide (char ≠ mark) with
      | nil => exact .inl rfl
      | cons char rest =>
        rw [back] at first
        exact .inr ⟨rest, congrArg (· :: rest) (by simpa using first)⟩
  · rintro ⟨rfl, apart, first⟩
    have inside : ∀ char ∈ front, decide (char ≠ mark) := fun char mem =>
      decide_eq_true fun same => apart (same ▸ mem)
    rw [takeWhile_append_of_pos inside, dropWhile_append_of_pos inside]
    rcases first with rfl | ⟨rest, rfl⟩ <;> simp

theorem parseCore_eq_some {chars : List Char} {parsed : SemVer} :
    parseCore chars = some parsed ↔ ∃ major minor patch,
      ((∀ text ∈ [major, minor, patch], NumericIdentifier text) ∧
        dotted [major, minor, patch] = chars) ∧ ⟨major, minor, patch, []⟩ = parsed := by
  have apart : ∀ texts : List String, (∀ text ∈ texts, NumericIdentifier text) ->
      ∀ text ∈ texts, text ≠ "" ∧ '.' ∉ text.toList := fun texts numeric text mem =>
    ⟨(numeric text mem).built.1, (numeric text mem).built.notMem.1⟩
  simp only [parseCore, Option.bind_eq_bind, Option.bind_eq_some_iff, splitIdentifiers_eq_some]
  constructor
  · rintro ⟨texts, ⟨some, filled, same⟩, parse⟩
    match texts, parse with
    | [major, minor, patch], parse =>
      simp only [Option.bind_eq_some_iff, Option.guard_eq_some', Option.pure_def,
        Option.some.injEq, Bool.and_eq_true, Bool.not_eq_true', Bool.or_eq_false_iff] at parse
      obtain ⟨_, ⟨⟨first, second⟩, third⟩, _, ⟨⟨one, two⟩, three⟩, built⟩ := parse
      refine ⟨major, minor, patch, ⟨?_, same⟩, built⟩
      simp [numericIdentifier_iff, *]
  · rintro ⟨major, minor, patch, ⟨numeric, same⟩, built⟩
    refine ⟨_, ⟨by simp, apart _ numeric, same⟩, ?_⟩
    simp only [numericIdentifier_iff, forall_mem_cons] at numeric
    simp [numeric, built]

theorem mem_dotted {char : Char} (mem : char ∈ dotted texts) :
    char = '.' ∨ ∃ text ∈ texts, char ∈ text.toList := by
  induction texts with
  | nil => cases mem
  | cons text texts ih =>
    cases texts with
    | nil => exact .inr ⟨text, mem_cons_self, by simpa [dotted] using mem⟩
    | cons next texts =>
      have parts : dotted (text :: next :: texts) = text.toList ++ '.' :: dotted (next :: texts) := by
        simp [dotted, intercalate_cons_cons]
      rw [parts, mem_append, mem_cons] at mem
      rcases mem with inside | dot | later
      · exact .inr ⟨text, mem_cons_self, inside⟩
      · exact .inl dot
      · exact (ih later).imp_right fun ⟨other, mem, inside⟩ =>
          ⟨other, mem_cons_of_mem _ mem, inside⟩

theorem marked_cases (mark : Char) (texts : List String) :
    texts = [] ∧ marked mark texts = [] ∨ texts ≠ [] ∧ marked mark texts = mark :: dotted texts := by
  by_cases none : texts = [] <;> simp [marked, none]

theorem marked_starts (mark : Char) (texts : List String) :
    marked mark texts = [] ∨ ∃ rest, marked mark texts = mark :: rest :=
  (marked_cases mark texts).imp And.right fun some => ⟨_, some.2⟩

theorem Version.notMem (version : Version) :
    '-' ∉ dotted [version.major, version.minor, version.patch] ∧
      '+' ∉ dotted [version.major, version.minor, version.patch] ++ marked '-' version.prerelease := by
  have built : ∀ texts : List String, (∀ text ∈ texts, BuildIdentifier text) -> '+' ∉ dotted texts := by
    intro texts built mem
    rcases mem_dotted mem with dot | ⟨text, inside, char⟩
    · cases dot
    · exact (built text inside).notMem.2 char
  constructor
  · intro mem
    rcases mem_dotted mem with dot | ⟨text, inside, char⟩
    · cases dot
    · exact (version.numeric text inside).notMem char
  · have core := built _ fun text mem => (version.numeric text mem).built
    have prerelease := built _ fun text mem => (version.prereleased text mem).built
    rcases marked_cases '-' version.prerelease with none | some
    · simpa [none.2] using core
    · simpa [some.2, core] using prerelease

theorem parse_text : parseSemVerInternal version.text = some version.parsed := by
  obtain ⟨dash, plus⟩ := version.notMem
  have cut : version.text.toList.span (· ≠ '+') = _ :=
    span_eq_iff.mpr ⟨String.toList_ofList.symm, plus, marked_starts _ _⟩
  have again := span_eq_iff.mpr ⟨rfl, dash, marked_starts '-' version.prerelease⟩
  have core := parseCore_eq_some.mpr ⟨_, _, _, ⟨version.numeric, rfl⟩, rfl⟩
  have valid : marked '+' version.build = [] ∨ validateBuild (marked '+' version.build).tail := by
    refine (marked_cases '+' version.build).imp And.right fun some => ?_
    exact validateBuild_iff.mpr ⟨_, some.1, version.built, by rw [some.2, tail_cons]⟩
  have filled : version.text ≠ "" := by
    intro empty
    rw [<- String.toList_eq_nil_iff, Version.text, String.toList_ofList] at empty
    rw [append_eq_nil_iff.mp (append_eq_nil_iff.mp empty).1 |>.1] at core
    simp [parseCore, splitIdentifiers] at core
  simp only [parseSemVerInternal, Option.bind_eq_bind, Option.bind_eq_some_iff,
    Option.guard_eq_some', cut, again]
  refine ⟨(), filled, (), by simpa using valid, _, core, ?_⟩
  rcases marked_cases '-' version.prerelease with none | some
  · rw [none.2, Version.parsed, none.1, map_nil]
    rfl
  · have parsed := parsePreRelease_eq_some.mpr ⟨_, ⟨some.1, version.prereleased, rfl⟩, rfl⟩
    rw [some.2]
    exact Option.bind_eq_some_iff.mpr ⟨_, parsed, rfl⟩

theorem text_of_parse {value : String} {parsed : SemVer}
    (parse : parseSemVerInternal value = some parsed) : ∃ version : Version, version.text = value := by
  cases cut : value.toList.span (· ≠ '+') with
  | mk front build =>
    cases again : front.span (· ≠ '-') with
    | mk core prerelease =>
      obtain ⟨whole, plus, begins⟩ := span_eq_iff.mp cut
      obtain ⟨rfl, dash, starts⟩ := span_eq_iff.mp again
      simp only [parseSemVerInternal, Option.bind_eq_bind, Option.bind_eq_some_iff,
        Option.guard_eq_some', cut, again] at parse
      obtain ⟨_, filled, _, valid, version, parsedCore, rest⟩ := parse
      obtain ⟨major, minor, patch, ⟨numeric, rfl⟩, rfl⟩ := parseCore_eq_some.mp parsedCore
      have prereleases : ∃ texts, (∀ text ∈ texts, PreReleaseIdentifier text) ∧
          marked '-' texts = prerelease := by
        rcases starts with rfl | ⟨chars, rfl⟩
        · exact ⟨[], forall_mem_nil _, rfl⟩
        · obtain ⟨identifiers, parsed, same⟩ := Option.bind_eq_some_iff.mp rest
          obtain ⟨texts, ⟨some, prereleased, rfl⟩, same⟩ := parsePreRelease_eq_some.mp parsed
          exact ⟨texts, prereleased, if_neg some⟩
      have builds : ∃ texts, (∀ text ∈ texts, BuildIdentifier text) ∧ marked '+' texts = build := by
        rcases begins with rfl | ⟨chars, rfl⟩
        · exact ⟨[], forall_mem_nil _, rfl⟩
        · obtain ⟨texts, some, built, rfl⟩ := validateBuild_iff.mp (by simpa using valid)
          exact ⟨texts, built, if_neg some⟩
      obtain ⟨texts, prereleased, rfl⟩ := prereleases
      obtain ⟨others, built, rfl⟩ := builds
      exact ⟨⟨_, _, _, texts, others, numeric, prereleased, built⟩,
        String.toList_inj.mp (String.toList_ofList.trans whole)⟩

/-! ### The precedence of the versions -/

def identifierPrecedence (left right : String) : Ordering :=
  match isAsciiDigitString left, isAsciiDigitString right with
  | true, true => compare (value left.toList) (value right.toList)
  | true, false => .lt
  | false, true => .gt
  | false, false => compare left right

def Version.precedence (left right : Version) : Ordering :=
  (compare (value left.major.toList) (value right.major.toList)).then <|
  (compare (value left.minor.toList) (value right.minor.toList)).then <|
  (compare (value left.patch.toList) (value right.patch.toList)).then <|
  match left.prerelease, right.prerelease with
  | [], [] => .eq
  | [], _ => .gt
  | _, [] => .lt
  | left, right => left.compareLex identifierPrecedence right

structure OrdersVersions : Prop where
  accepts : ∀ value, isValidSemVer value ↔ ∃ version : Version, version.text = value
  invalid : ∀ left right, compareSemVer left right = .invalid ↔
    ¬ (isValidSemVer left ∧ isValidSemVer right)
  precedence : ∀ left right : Version,
    compareSemVer left.text right.text = .ofOrdering (left.precedence right)
  equal : Equivalence fun left right : {value // isValidSemVer value} =>
    compareSemVer left right = .equal
  less : ∀ left middle right, compareSemVer left middle = .less ->
    compareSemVer middle right = .less -> compareSemVer left right = .less
  swap : ∀ left right, compareSemVer left right = .less ↔ compareSemVer right left = .greater

variable {left right : String}

theorem NumericIdentifier.value_lt_iff (first : NumericIdentifier left)
    (second : NumericIdentifier right) :
    value left.toList < value right.toList ↔ left.utf8ByteSize < right.utf8ByteSize ∨
      left.utf8ByteSize = right.utf8ByteSize ∧ left < right := by
  have shorter : ∀ {left right}, NumericIdentifier left -> NumericIdentifier right ->
      left.toList.length < right.toList.length -> value left.toList < value right.toList := by
    intro left right first second less
    obtain ⟨_, isDigits, head⟩ := second
    have filled := mt String.toList_eq_nil_iff.mp first.1
    cases chars : right.toList with
    | nil => simp [chars] at less
    | cons char rest =>
      rw [chars] at isDigits head less
      have bounds := isDigit_bounds (isDigits char mem_cons_self)
      have positive : 1 ≤ digit char := by
        by_contra zero
        have padded : right = "0" := by
          refine head (congrArg some (Char.toNat_inj.mp ?_))
          rw [digit] at zero
          omega
        obtain ⟨_, rfl⟩ := cons.inj (chars.symm.trans (congrArg String.toList padded))
        exact filled (length_eq_zero_iff.mp (Nat.lt_one_iff.mp less))
      have below := value_lt first.2.1
      have power : 10 ^ left.toList.length ≤ 10 ^ rest.length :=
        Nat.pow_le_pow_right (by decide) (Nat.lt_succ_iff.mp less)
      have top := Nat.mul_le_mul_left (10 ^ rest.length) positive
      rw [value_cons]
      omega
  rw [utf8ByteSize_eq first.2.1, utf8ByteSize_eq second.2.1]
  rcases Nat.lt_trichotomy left.toList.length right.toList.length with less | same | more
  · simp [less, shorter first second less]
  · rw [String.lt_iff_toList_lt, lt_iff_value same first.2.1 second.2.1]
    simp [same]
  · have := shorter second first more
    omega

theorem compareNumericString_value (first : NumericIdentifier left)
    (second : NumericIdentifier right) :
    compareNumericString left right = compare (value left.toList) (value right.toList) := by
  have below := first.value_lt_iff second
  have above := second.value_lt_iff first
  rcases Nat.lt_trichotomy (value left.toList) (value right.toList) with less | same | more
  · rw [Nat.compare_eq_lt.mpr less]
    rcases below.mp less with shorter | ⟨size, smaller⟩
    · simp [compareNumericString, shorter, shorter.ne]
    · simp [compareNumericString, size, smaller, smaller.ne]
  · rw [Nat.compare_eq_eq.mpr same]
    have equal : left = right := by
      have size : left.utf8ByteSize = right.utf8ByteSize := by omega
      rcases Std.lt_trichotomy left right with smaller | equal | greater
      · exact absurd (below.mpr (.inr ⟨size, smaller⟩)) same.not_lt
      · exact equal
      · exact absurd (above.mpr (.inr ⟨size.symm, greater⟩)) same.not_gt
    simp [compareNumericString, equal]
  · rw [Nat.compare_eq_gt.mpr more]
    rcases above.mp more with shorter | ⟨size, smaller⟩
    · simp [compareNumericString, shorter.ne', shorter.not_gt]
    · simp [compareNumericString, size, smaller.not_gt, smaller.ne']

theorem PreReleaseIdentifier.numeric (prereleased : PreReleaseIdentifier text)
    (digits : isAsciiDigitString text) : NumericIdentifier text :=
  prereleased.resolve_right fun other => other.2 (isAsciiDigitString_iff.mp digits).2

theorem compareIdentifier_precedence (first : PreReleaseIdentifier left)
    (second : PreReleaseIdentifier right) :
    compareIdentifier (identifierOf left) (identifierOf right) = identifierPrecedence left right := by
  rw [compareIdentifier, identifierPrecedence, identifierOf, identifierOf]
  cases leftKind : isAsciiDigitString left <;> cases rightKind : isAsciiDigitString right
  · have texts : compare left right = compareOfLessAndEq left right := rfl
    rw [texts, compareOfLessAndEq]
    by_cases equal : left = right <;> simp [equal]
  · simp
  · simp
  · rw [<- compareNumericString_value (first.numeric leftKind) (second.numeric rightKind)]
    by_cases equal : left = right <;> simp [equal, compareNumericString]

theorem compareLex_precedence {lefts rights : List String}
    (first : ∀ text ∈ lefts, PreReleaseIdentifier text)
    (second : ∀ text ∈ rights, PreReleaseIdentifier text) :
    (lefts.map identifierOf).compareLex compareIdentifier (rights.map identifierOf) =
      lefts.compareLex identifierPrecedence rights := by
  induction lefts generalizing rights with
  | nil => cases rights <;> rfl
  | cons left lefts ih =>
    cases rights with
    | nil => rfl
    | cons right rights =>
      rw [forall_mem_cons] at first second
      rw [map_cons, map_cons, List.compareLex_cons_cons,
        List.compareLex_cons_cons,
        compareIdentifier_precedence first.1 second.1, ih first.2 second.2]

theorem compareVersions_precedence (left right : Version) :
    compareVersions left.parsed right.parsed = left.precedence right := by
  have core := left.numeric
  have others := right.numeric
  simp only [forall_mem_cons] at core others
  have prerelease := compareLex_precedence left.prereleased right.prereleased
  rw [compareVersions, compareCore, Version.precedence]
  simp only [Version.parsed, compareNumericString_value, core, others, Ordering.then_assoc]
  congr 3
  cases first : left.prerelease <;> cases second : right.prerelease
  · rfl
  · rfl
  · rfl
  · rw [first, second] at prerelease
    exact prerelease

theorem ofOrdering_inj {first second : Ordering} :
    SemVerCompareResult.ofOrdering first = .ofOrdering second ↔ first = second := by
  cases first <;> cases second <;> simp [SemVerCompareResult.ofOrdering]

theorem ofOrdering_ne_invalid {order : Ordering} :
    SemVerCompareResult.ofOrdering order ≠ .invalid := by
  cases order <;> simp [SemVerCompareResult.ofOrdering]

theorem compareSemVer_eq_iff {order : Ordering} :
    compareSemVer left right = .ofOrdering order ↔ ∃ first second,
      parseSemVerInternal left = some first ∧ parseSemVerInternal right = some second ∧
        compareVersions first second = order := by
  unfold compareSemVer
  cases parseSemVerInternal left <;> cases parseSemVerInternal right <;>
    simp [ofOrdering_inj, ofOrdering_ne_invalid.symm]

theorem compareSemVer_trans {middle : String} {order : Ordering}
    (trans : ∀ first second third, compareVersions first second = order ->
      compareVersions second third = order -> compareVersions first third = order)
    (below : compareSemVer left middle = .ofOrdering order)
    (above : compareSemVer middle right = .ofOrdering order) :
    compareSemVer left right = .ofOrdering order := by
  obtain ⟨first, second, parse, between, lower⟩ := compareSemVer_eq_iff.mp below
  obtain ⟨same, third, again, last, upper⟩ := compareSemVer_eq_iff.mp above
  obtain rfl := Option.some.inj (between.symm.trans again)
  exact compareSemVer_eq_iff.mpr ⟨first, third, parse, last, trans _ _ _ lower upper⟩

theorem compareSemVer_swap {order : Ordering} (compared : compareSemVer left right = .ofOrdering order) :
    compareSemVer right left = .ofOrdering order.swap := by
  obtain ⟨first, second, parse, again, rfl⟩ := compareSemVer_eq_iff.mp compared
  exact compareSemVer_eq_iff.mpr ⟨second, first, again, parse, OrientedCmp.eq_swap⟩

theorem semVer_ordered : OrdersVersions where
  accepts value := by
    rw [isValidSemVer, Option.isSome_iff_exists]
    refine ⟨fun ⟨parsed, parse⟩ => text_of_parse parse, ?_⟩
    rintro ⟨version, rfl⟩
    exact ⟨_, parse_text⟩
  invalid left right := by
    unfold compareSemVer isValidSemVer
    cases parseSemVerInternal left <;> cases parseSemVerInternal right <;>
      simp [ofOrdering_ne_invalid]
  precedence left right := by
    simp [compareSemVer, parse_text, compareVersions_precedence]
  equal := {
    refl := fun version => by
      obtain ⟨parsed, parse⟩ := Option.isSome_iff_exists.mp version.2
      exact (@compareSemVer_eq_iff _ _ .eq).mpr ⟨_, _, parse, parse, ReflCmp.compare_self⟩
    symm := fun same => @compareSemVer_swap _ _ .eq same
    trans := fun first second => @compareSemVer_trans _ _ _ .eq (fun _ _ _ => TransCmp.eq_trans) first second }
  less _ _ _ := @compareSemVer_trans _ _ _ .lt fun _ _ _ => TransCmp.lt_trans
  swap _ _ := ⟨@compareSemVer_swap _ _ .lt, @compareSemVer_swap _ _ .gt⟩

end AbilityRuntime.AgentCards
