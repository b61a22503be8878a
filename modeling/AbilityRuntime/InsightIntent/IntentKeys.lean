import AbilityRuntime.InsightIntent.InsightIntentDbCache
import Std.Data.String.ToInt

set_option autoImplicit false

namespace AbilityRuntime.InsightIntent

open Library String List Nat

theorem slash_notMem_nat (number : Nat) : '/' ∉ (toString number).toList := by
  intro inside
  have digits : '/' ∈ toDigits 10 number := by simpa [repr] using inside
  exact absurd (isDigit_of_mem_toDigits (by decide) (by decide) digits) (by decide)

theorem slash_notMem_int (number : Int) : '/' ∉ (toString number).toList := by
  cases number with
  | ofNat natural => exact slash_notMem_nat natural
  | negSucc natural =>
    have text : (toString (Int.negSucc natural)).toList =
        '-' :: (toString (natural + 1)).toList := by
      simp [Int.repr]
    rw [text, mem_cons, not_or]
    exact ⟨by decide, slash_notMem_nat _⟩

theorem toString_nat_ne (number : Nat) : toString number ≠ "" := by
  intro empty
  have chars : toDigits 10 number = [] := by simpa [repr] using congrArg toList empty
  exact toDigits_ne_nil chars

theorem toString_int_inj {first second : Int} (same : toString first = toString second) :
    first = second :=
  Int.repr_injective same

structure RowName where
  userId : Int
  bundleName : String
  moduleName : String
  intentName : String
  versionCode : Nat

namespace RowName

def key (row : RowName) : String :=
  intentKey row.userId row.bundleName row.moduleName row.intentName row.versionCode

structure SlashFree (row : RowName) : Prop where
  bundle : '/' ∉ row.bundleName.toList
  module : '/' ∉ row.moduleName.toList
  intent : '/' ∉ row.intentName.toList

variable {row other : RowName}

theorem key_chars (row : RowName) :
    row.key.toList =
      (toString row.userId).toList ++ '/' :: (row.bundleName.toList ++ '/' ::
        (row.moduleName.toList ++ '/' :: (row.intentName.toList ++ '/' ::
          (toString row.versionCode).toList))) := by
  simp [key, intentKey, moduleKey, bundleKey, userKey]

theorem beginsWith_userKey (row : RowName) (userId : Int) :
    beginsWith (userKey userId) row.key = true ↔ userId = row.userId := by
  have start : (userKey userId).toList = (toString userId).toList ++ '/' :: [] := by simp [userKey]
  rw [beginsWith, isPrefixOf_iff_prefix, start, key_chars,
    prefix_delimited (slash_notMem_int _) (slash_notMem_int _), toList_inj]
  constructor
  · exact fun same => toString_int_inj same.1
  · rintro rfl
    exact ⟨rfl, nil_prefix⟩

theorem beginsWith_bundleKey (free : row.SlashFree) (userId : Int) {bundleName : String}
    (bundle : '/' ∉ bundleName.toList) :
    beginsWith (bundleKey userId bundleName) row.key = true ↔
      userId = row.userId ∧ bundleName = row.bundleName := by
  have start : (bundleKey userId bundleName).toList =
      (toString userId).toList ++ '/' :: (bundleName.toList ++ '/' :: []) := by
    simp [bundleKey, userKey]
  rw [beginsWith, isPrefixOf_iff_prefix, start, key_chars,
    prefix_delimited (slash_notMem_int _) (slash_notMem_int _),
    prefix_delimited bundle free.bundle, toList_inj, toList_inj]
  constructor
  · exact fun same => ⟨toString_int_inj same.1, same.2.1⟩
  · rintro ⟨rfl, rfl⟩
    exact ⟨rfl, rfl, nil_prefix⟩

theorem beginsWith_moduleKey (free : row.SlashFree) (userId : Int) {bundleName moduleName : String}
    (bundle : '/' ∉ bundleName.toList) (module : '/' ∉ moduleName.toList) :
    beginsWith (moduleKey userId bundleName moduleName) row.key = true ↔
      userId = row.userId ∧ bundleName = row.bundleName ∧ moduleName = row.moduleName := by
  have start : (moduleKey userId bundleName moduleName).toList =
      (toString userId).toList ++ '/' :: (bundleName.toList ++ '/' ::
        (moduleName.toList ++ '/' :: [])) := by
    simp [moduleKey, bundleKey, userKey]
  rw [beginsWith, isPrefixOf_iff_prefix, start, key_chars,
    prefix_delimited (slash_notMem_int _) (slash_notMem_int _),
    prefix_delimited bundle free.bundle, prefix_delimited module free.module, toList_inj,
    toList_inj, toList_inj]
  constructor
  · exact fun same => ⟨toString_int_inj same.1, same.2.1, same.2.2.1⟩
  · rintro ⟨rfl, rfl, rfl⟩
    exact ⟨rfl, rfl, rfl, nil_prefix⟩

theorem splitStringBySlash_key (free : row.SlashFree) :
    splitStringBySlash row.key =
      [toString row.userId, row.bundleName, row.moduleName, row.intentName,
        toString row.versionCode] := by
  let afterModule := row.intentName ++ "/" ++ toString row.versionCode
  let afterBundle := row.moduleName ++ "/" ++ afterModule
  let afterUser := row.bundleName ++ "/" ++ afterBundle
  have whole : row.key.toList = (toString row.userId).toList ++ '/' :: afterUser.toList := by
    simp [key_chars, afterUser, afterBundle, afterModule]
  have user := textLines_delimited whole (slash_notMem_int _)
  have bundle := @textLines_delimited '/' afterUser row.bundleName afterBundle
    (by simp [afterUser]) free.bundle
  have module := @textLines_delimited '/' afterBundle row.moduleName afterModule
    (by simp [afterBundle]) free.module
  have intent := @textLines_delimited '/' afterModule row.intentName (toString row.versionCode)
    (by simp [afterModule]) free.intent
  have last := textLines_of_notMem (slash_notMem_nat row.versionCode) (toString_nat_ne _)
  rw [splitStringBySlash, user, bundle, module, intent, last]

theorem key_inj (free : row.SlashFree) (otherFree : other.SlashFree) (same : row.key = other.key) :
    row = other := by
  have parts := (splitStringBySlash_key free).symm.trans
    ((congrArg splitStringBySlash same).trans (splitStringBySlash_key otherFree))
  simp only [cons.injEq, and_true] at parts
  obtain ⟨user, bundle, module, intent, version⟩ := parts
  cases row
  cases other
  simp only [RowName.mk.injEq]
  exact ⟨toString_int_inj user, bundle, module, intent, repr_injective version⟩

end RowName

end AbilityRuntime.InsightIntent
