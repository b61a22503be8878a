import AbilityRuntime.AppExitReason.ExitReasonStore
import AbilityRuntime.Library.Decimal

set_option autoImplicit false

namespace AbilityRuntime.AppExitReason

open Library List String AList

variable (calls : KvCalls) (store : KvStore) (bundleName : String) (accessTokenId : UInt32)

def Own (key : String) : Prop :=
  key = toKey accessTokenId ∨ ∃ extensionName, key = bundleName ++ separator ++ extensionName

structure DeletesOwn : Prop where
  foreign : ∀ key, ¬Own bundleName accessTokenId key ->
    (deleteAppExitReason calls store bundleName accessTokenId).1.lookup key = store.lookup key
  own : (deleteAppExitReason calls store bundleName accessTokenId).2 = .errOk ->
    ∀ key, Own bundleName accessTokenId key ->
      (deleteAppExitReason calls store bundleName accessTokenId).1.lookup key = none

def Matches (key : String) : Prop :=
  (toKey accessTokenId).toList <:+: key.toList ∨ (bundleName ++ separator).toList <:+: key.toList

instance (key : String) : Decidable (Matches bundleName accessTokenId key) :=
  inferInstanceAs (Decidable (_ ∨ _))

def Reaches : Prop :=
  bundleName ≠ "" ∧ accessTokenId ≠ invalidTokenId ∧ calls.checkKvStore ∧ calls.getEntries

def NoForeignMatch : Prop :=
  Reaches calls bundleName accessTokenId -> ∀ key ∈ store, Matches bundleName accessTokenId key ->
    calls.delete key -> Own bundleName accessTokenId key

variable {calls store bundleName accessTokenId} {key : String}

theorem isDigit_of_mem_toKey {token : UInt32} {char : Char} (mem : char ∈ (toKey token).toList) :
    char.isDigit := by
  have digits : (toKey token).toList = Nat.toDigits 10 token.toNat := Nat.toList_repr
  exact Decimal.digits_toDigits _ char (digits ▸ mem)

theorem own_of_setAppExitReason {now : Int64} {abilityList : List String}
    {exitReason : ExitReason} {processInfo : RunningProcessInfo} {withKillMsg : Bool}
    {value : Json} (submitted : (setAppExitReason calls now bundleName accessTokenId abilityList
      exitReason processInfo withKillMsg).2 = some (key, value)) :
    Own bundleName accessTokenId key := by
  unfold setAppExitReason at submitted
  split at submitted
  · cases submitted
  · split at submitted
    · cases submitted
    · cases submitted; exact .inl rfl

theorem own_of_setUIExtension {now : String -> Int64} {extensionList : List String}
    {exitReason : ExitReason} {processInfo : RunningProcessInfo} {withKillMsg : Bool}
    {value : Json} (submitted : (key, value) ∈ (setUIExtensionAbilityExitReason calls now bundleName
      extensionList exitReason processInfo withKillMsg).2) :
    Own bundleName accessTokenId key := by
  unfold setUIExtensionAbilityExitReason at submitted
  split at submitted
  · cases submitted
  · split at submitted
    · cases submitted
    · obtain ⟨extension, -, same⟩ := mem_map.mp submitted
      cases same
      exact .inr ⟨extension, rfl⟩

theorem Own.matches (own : Own bundleName accessTokenId key) :
    Matches bundleName accessTokenId key := by
  rcases own with rfl | ⟨extensionName, rfl⟩
  · exact .inl (infix_refl _)
  · refine .inr ?_
    have whole : (bundleName ++ separator ++ extensionName).toList =
        (bundleName ++ separator).toList ++ extensionName.toList := toList_append
    rw [whole]
    exact (prefix_append _ _).isInfix

section Loop

variable (held : KvStore × Bool) (keys : List String)

theorem deleteEntry_eq :
    deleteEntry calls (toKey accessTokenId) (bundleName ++ separator) held key =
      if Matches bundleName accessTokenId key then
        if calls.delete key then (held.1.erase key, held.2) else (held.1, false)
      else held := by
  have missed : (¬(toKey accessTokenId).toList <:+: key.toList ∧
      ¬(bundleName ++ separator).toList <:+: key.toList) ↔
        ¬Matches bundleName accessTokenId key := not_or.symm
  unfold deleteEntry
  by_cases found : Matches bundleName accessTokenId key
  · rw [if_pos found, if_neg fun both => missed.mp both found]
  · rw [if_neg found, if_pos (missed.mpr found)]

theorem lookup_deleteEntry (first : String) :
    (deleteEntry calls (toKey accessTokenId) (bundleName ++ separator) held first).1.lookup key =
      if key = first ∧ Matches bundleName accessTokenId key ∧ calls.delete key then none
      else held.1.lookup key := by
  rw [deleteEntry_eq]
  by_cases found : Matches bundleName accessTokenId first
  · rw [if_pos found]
    by_cases deletes : calls.delete first
    · rw [if_pos deletes, KeyedMap.lookup_erase_eq]
      by_cases same : key = first
      · rw [if_pos same, if_pos ⟨same, same ▸ found, same ▸ deletes⟩]
      · rw [if_neg same, if_neg fun both => same both.1]
    · rw [if_neg deletes, if_neg]
      rintro ⟨rfl, -, deleted⟩
      exact deletes deleted
  · rw [if_neg found, if_neg]
    rintro ⟨rfl, matched, -⟩
    exact found matched

theorem lookup_deleteEntries :
    (keys.foldl (deleteEntry calls (toKey accessTokenId) (bundleName ++ separator))
        held).1.lookup key =
      if key ∈ keys ∧ Matches bundleName accessTokenId key ∧ calls.delete key then none
      else held.1.lookup key := by
  induction keys generalizing held with
  | nil => simp
  | cons first rest ih =>
    rw [foldl_cons, ih, lookup_deleteEntry]
    by_cases deleted : Matches bundleName accessTokenId key ∧ calls.delete key
    · simp only [deleted, and_true, mem_cons]
      by_cases same : key = first <;> simp [same]
    · simp [deleted]

theorem deleted_of_succeeded
    (succeeded : (keys.foldl
      (deleteEntry calls (toKey accessTokenId) (bundleName ++ separator)) held).2 = true) :
    held.2 = true ∧ ∀ key ∈ keys, Matches bundleName accessTokenId key -> calls.delete key := by
  induction keys generalizing held with
  | nil => exact ⟨succeeded, by simp⟩
  | cons first rest ih =>
    obtain ⟨now, later⟩ := ih _ succeeded
    rw [deleteEntry_eq] at now
    by_cases found : Matches bundleName accessTokenId first
    · rw [if_pos found] at now
      by_cases deletes : calls.delete first
      · rw [if_pos deletes] at now
        exact ⟨now, forall_mem_cons.mpr ⟨fun _ => deletes, later⟩⟩
      · rw [if_neg deletes] at now
        cases now
    · rw [if_neg found] at now
      exact ⟨now, forall_mem_cons.mpr ⟨fun matched => absurd matched found, later⟩⟩

end Loop

theorem deleteAppExitReason_of_reaches (reaches : Reaches calls bundleName accessTokenId) :
    let (after, succeeded) := store.keys.foldl
      (deleteEntry calls (toKey accessTokenId) (bundleName ++ separator)) (store, true)
    deleteAppExitReason calls store bundleName accessTokenId =
      (after, if succeeded then .errOk else .errInvalidOperation) := by
  obtain ⟨named, valid, ready, readable⟩ := reaches
  simp [deleteAppExitReason, named, valid, ready, readable]

theorem deleteAppExitReason_of_refused (store : KvStore) (refused : ¬Reaches calls bundleName accessTokenId) :
    (deleteAppExitReason calls store bundleName accessTokenId).1 = store ∧
      (deleteAppExitReason calls store bundleName accessTokenId).2 ≠ .errOk := by
  unfold deleteAppExitReason
  split
  · exact ⟨rfl, nofun⟩
  next valid =>
    split
    · exact ⟨rfl, nofun⟩
    next ready =>
      split
      · exact ⟨rfl, nofun⟩
      next readable =>
        rw [not_or] at valid
        exact absurd ⟨valid.1, valid.2, by simpa using ready, by simpa using readable⟩ refused

theorem lookup_deleteAppExitReason (reaches : Reaches calls bundleName accessTokenId) :
    (deleteAppExitReason calls store bundleName accessTokenId).1.lookup key =
      if Matches bundleName accessTokenId key ∧ calls.delete key then none
      else store.lookup key := by
  rw [deleteAppExitReason_of_reaches reaches, lookup_deleteEntries]
  by_cases stored : key ∈ store.keys
  · simp only [stored, true_and]
  · have missing : store.lookup key = none := lookup_eq_none.mpr stored
    simp only [stored, false_and, missing, ite_self]

theorem NoForeignMatch.deletesOwn (none : NoForeignMatch calls store bundleName accessTokenId) :
    DeletesOwn calls store bundleName accessTokenId := by
  by_cases reaches : Reaches calls bundleName accessTokenId
  · refine ⟨fun key foreign => ?_, fun succeeded key own => ?_⟩
    · rw [lookup_deleteAppExitReason reaches]
      by_cases stored : key ∈ store
      · rw [if_neg]
        exact fun ⟨matched, deletes⟩ => foreign (none reaches key stored matched deletes)
      · rw [lookup_eq_none.mpr stored, ite_self]
    · rw [deleteAppExitReason_of_reaches reaches] at succeeded
      have deleted := deleted_of_succeeded (store, true) store.keys (by
        by_contra failed
        rw [if_neg failed] at succeeded
        cases succeeded)
      rw [lookup_deleteAppExitReason reaches]
      by_cases stored : key ∈ store
      · rw [if_pos ⟨own.matches, deleted.2 key stored own.matches⟩]
      · rw [lookup_eq_none.mpr stored, ite_self]
  · obtain ⟨same, failed⟩ := deleteAppExitReason_of_refused store reaches
    exact ⟨fun key _ => by rw [same], fun succeeded => absurd succeeded failed⟩

theorem DeletesOwn.noForeignMatch (deletes : DeletesOwn calls store bundleName accessTokenId) :
    NoForeignMatch calls store bundleName accessTokenId := by
  intro reaches key stored matched succeeds
  by_contra foreign
  have kept := deletes.foreign key foreign
  rw [lookup_deleteAppExitReason reaches, if_pos ⟨matched, succeeds⟩] at kept
  exact lookup_eq_none.mp kept.symm stored

theorem deletesOwn_iff : DeletesOwn calls store bundleName accessTokenId ↔
    NoForeignMatch calls store bundleName accessTokenId :=
  ⟨DeletesOwn.noForeignMatch, NoForeignMatch.deletesOwn⟩

theorem longerBundle_deleted :
    let reasons := (setUIExtensionAbilityExitReason .succeed (fun _ => 1000) "com.demo.mail"
      ["ShareExtension"] {} {} false).2
    ¬DeletesOwn .succeed (reasons.foldl (fun store (key, value) => store.insert key value) ∅)
      "demo.mail" 537919488 := by
  intro reasons deletes
  have stored : "com.demo.mail:ShareExtension" ∈
      reasons.foldl (fun store (key, value) => store.insert key value) (∅ : KvStore) := by
    simp [reasons, setUIExtensionAbilityExitReason, KvCalls.succeed, separator, AList.mem_keys]
  have matched : Matches "demo.mail" 537919488 "com.demo.mail:ShareExtension" :=
    .inr ⟨"com.".toList, "ShareExtension".toList, by decide⟩
  rcases deletes.noForeignMatch ⟨by decide, by decide, rfl, rfl⟩ _ stored matched rfl with
    same | ⟨extensionName, same⟩
  · have mem : 'c' ∈ (toKey 537919488).toList := by
      rw [<- same]
      decide
    exact absurd (isDigit_of_mem_toKey mem) (by decide)
  · have chars := congrArg toList same
    simp [separator] at chars

end AbilityRuntime.AppExitReason
