import Mathlib
import AbilityRuntime.ExitReason.AppExitReasonDataManager
import AbilityRuntime.Library.Runs

set_option autoImplicit false

namespace AbilityRuntime.ExitReason

open Library Function List

structure Entry where
  accessTokenId : UInt32
  moduleName : String
  abilityName : String
  deriving DecidableEq

def Entry.recoverInfo (entry : Entry) : String := entry.moduleName ++ entry.abilityName

abbrev Entries := Entry -> Option Int32

inductive RecoverCall
  | add (entry : Entry) (sessionId : Int32)
  | delete (entry : Entry)
  | deleteBySessionId (sessionId : Int32) (uninitialised : UInt32)
  | deleteAll (tokenId : UInt32)
  | get (entry : Entry)
  | getTokenId (sessionId : Int32) (uninitialised : UInt32)

def Entries.handle (entries : Entries) : RecoverCall -> Entries
  | .add entry sessionId => update entries entry (some sessionId)
  | .delete entry => update entries entry none
  | .deleteBySessionId sessionId _ => fun entry =>
    if entries entry = some sessionId then none else entries entry
  | .deleteAll tokenId => fun entry =>
    if entry.accessTokenId = tokenId then none else entries entry
  | .get _ | .getTokenId _ _ => entries

namespace AppExitReasonDataManager

def handle (errInvalidValue : UInt32) (store : KvStore) : RecoverCall -> Option KvStore
  | .add entry sessionId =>
    (addAbilityRecoverInfo store entry.accessTokenId entry.moduleName entry.abilityName
      sessionId).map (·.1)
  | .delete entry =>
    (deleteAbilityRecoverInfo store entry.accessTokenId entry.moduleName entry.abilityName).map (·.1)
  | .deleteBySessionId sessionId uninitialised =>
    (deleteAbilityRecoverInfoBySessionId errInvalidValue uninitialised store sessionId).map (·.1)
  | .deleteAll tokenId => some (deleteAllRecoverInfoByTokenId store tokenId).1
  | .get _ | .getTokenId _ _ => some store

end AppExitReasonDataManager

open AppExitReasonDataManager

/-- The store, `none` once an index was out of range, beside the map that the calls make. -/
structure Recovery where
  store : Option KvStore
  entries : Entries

def recoverMachine (errInvalidValue : UInt32) : Machine Recovery RecoverCall where
  start := ⟨some fun _ => none, fun _ => none⟩
  step recovery call :=
    ⟨recovery.store.bind (handle errInvalidValue · call), recovery.entries.handle call⟩

def Recovery.Answers (errInvalidValue : UInt32) (recovery : Recovery) : RecoverCall -> Prop
  | .get entry => recovery.store.map (fun store => (getAbilityRecoverInfo store
      entry.accessTokenId entry.moduleName entry.abilityName).2) =
        some (recovery.entries entry).isSome
  | .getTokenId sessionId uninitialised => ∀ entry, recovery.entries entry = some sessionId ->
    recovery.store.map (getTokenIdBySessionID errInvalidValue uninitialised · sessionId) =
      some entry.accessTokenId
  | _ => True

/-- No index was out of range, and the two lists of a token go together. -/
def Recovery.Level (recovery : Recovery) : Prop :=
  ∃ store, recovery.store = some store ∧ ∀ tokenId recoverInfoList sessionIdList,
    store (getAbilityRecoverInfoKey tokenId) = some (.recoverInfo recoverInfoList sessionIdList) ->
      recoverInfoList.length = sessionIdList.length

def RefinesLastSessions (errInvalidValue : UInt32) (calls : List RecoverCall) : Prop :=
  (recoverMachine errInvalidValue).EveryStep calls (Recovery.Answers errInvalidValue) ∧
    (recoverMachine errInvalidValue).Throughout calls Recovery.Level

namespace Entries

def HasSession (entries : Entries) (number : UInt32) : Prop :=
  ∃ entry sessionId, entries entry = some sessionId ∧ sessionId.toUInt32 = number

def HasToken (entries : Entries) (tokenId : UInt32) : Prop :=
  ∃ entry sessionId, entries entry = some sessionId ∧ entry.accessTokenId = tokenId

/-- No other live entry of the same token has the two names run together to the same text. -/
def Spelt (entries : Entries) (entry : Entry) : Prop :=
  ∀ other sessionId, entries other = some sessionId -> other.accessTokenId = entry.accessTokenId ->
    other.recoverInfo = entry.recoverInfo -> other = entry

/-- An entry comes with its own session or with numbers that are not in use. -/
structure Admits (entries : Entries) (entry : Entry) (sessionId : Int32) : Prop where
  again : ∀ last, entries entry = some last -> last = sessionId
  spelt : entries.Spelt entry
  nonneg : 0 ≤ sessionId
  unused : ∀ other, entries other = some sessionId -> other = entry
  own : sessionId.toUInt32 ≠ entry.accessTokenId
  session : ¬ entries.HasToken sessionId.toUInt32
  token : ¬ entries.HasSession entry.accessTokenId

/-- The number an unknown session is looked up under is not that of a live session. -/
def Fits (errInvalidValue : UInt32) (entries : Entries) : RecoverCall -> Prop
  | .add entry sessionId => entries.Admits entry sessionId
  | .delete entry => entries.Spelt entry ∧ ¬ entries.HasSession entry.accessTokenId
  | .deleteBySessionId sessionId uninitialised =>
    (∃ entry, entries entry = some sessionId) ∨
      ((entries.HasToken sessionId.toUInt32 -> ¬ entries.HasSession uninitialised) ∧
        (¬ entries.HasToken sessionId.toUInt32 -> ¬ entries.HasSession errInvalidValue))
  | .deleteAll tokenId => ¬ entries.HasSession tokenId
  | .get entry => entries.Spelt entry
  | .getTokenId _ _ => True

structure Separate (entries : Entries) : Prop where
  nonneg : ∀ entry sessionId, entries entry = some sessionId -> 0 ≤ sessionId
  spelt : ∀ entry sessionId, entries entry = some sessionId -> entries.Spelt entry
  distinct : ∀ entry other sessionId, entries entry = some sessionId ->
    entries other = some sessionId -> other = entry
  numbers : ∀ number, entries.HasSession number -> ¬ entries.HasToken number

end Entries

structure RowsOf (entries : Entries) (tokenId : UInt32) (rows : List (Entry × Int32)) : Prop where
  nodup : rows.Nodup
  live : ∀ row, row ∈ rows ↔ row.1.accessTokenId = tokenId ∧ entries row.1 = some row.2

def listed (rows : List (Entry × Int32)) : Option Value :=
  if rows = [] then none
  else some (.recoverInfo (rows.map fun row => row.1.recoverInfo) (rows.map fun row => row.2))

/-- What stands under a number: the token of the session, or the entries of the token. -/
inductive Kept (entries : Entries) (number : UInt32) : Option Value -> Prop
  | session (entry : Entry) (sessionId : Int32) (live : entries entry = some sessionId)
    (own : sessionId.toUInt32 = number) :
    Kept entries number (some (.accessTokenId entry.accessTokenId))
  | token (rows : List (Entry × Int32)) (rowsOf : RowsOf entries number rows)
    (noSession : ¬ entries.HasSession number) : Kept entries number (listed rows)

structure Stored (store : KvStore) (entries : Entries) : Prop where
  separate : entries.Separate
  kept : ∀ number, Kept entries number (store (getAbilityRecoverInfoKey number))

namespace AppExitReasonDataManager

theorem getAbilityRecoverInfoKey_inj {number other : UInt32} :
    getAbilityRecoverInfoKey number = getAbilityRecoverInfoKey other ↔ number = other := by
  refine ⟨fun same => ?_, congrArg _⟩
  have digits := (String.append_right_inj _).mp same
  exact UInt32.toNat_inj.mp (Nat.repr_injective digits)

theorem getSessionIdKey_eq {sessionId : Int32} (nonneg : 0 ≤ sessionId) :
    getSessionIdKey sessionId = getAbilityRecoverInfoKey sessionId.toUInt32 := by
  rw [getSessionIdKey, getAbilityRecoverInfoKey, Int32.toNat_toUInt32_of_le nonneg,
    <- Int32.cast_toNatClampNeg sessionId nonneg]
  rfl

theorem toUInt32_inj {sessionId other : Int32} :
    sessionId.toUInt32 = other.toUInt32 ↔ sessionId = other :=
  ⟨fun same => by simpa using congrArg UInt32.toInt32 same, congrArg _⟩

variable {store : KvStore}

theorem put_number (store : KvStore) (number other : UInt32) (value : Value) :
    store.put (getAbilityRecoverInfoKey number) value (getAbilityRecoverInfoKey other) =
      if other = number then some value else store (getAbilityRecoverInfoKey other) := by
  rw [KvStore.put, update_apply]
  simp only [getAbilityRecoverInfoKey_inj]

theorem delete_number (store : KvStore) (number other : UInt32) :
    store.delete (getAbilityRecoverInfoKey number) (getAbilityRecoverInfoKey other) =
      if other = number then none else store (getAbilityRecoverInfoKey other) := by
  rw [KvStore.delete, update_apply]
  simp only [getAbilityRecoverInfoKey_inj]

theorem innerDeleteSessionId_number (store : KvStore) {sessionId : Int32} (nonneg : 0 ≤ sessionId)
    (number : UInt32) :
    innerDeleteSessionId store sessionId (getAbilityRecoverInfoKey number) =
      if number = sessionId.toUInt32 then none else store (getAbilityRecoverInfoKey number) := by
  rw [innerDeleteSessionId, getSessionIdKey_eq nonneg, delete_number]

theorem innerDeleteSessionIds_number (sessionIdList : List Int32) (store : KvStore)
    (nonneg : ∀ sessionId ∈ sessionIdList, 0 ≤ sessionId) (number : UInt32) :
    sessionIdList.foldl innerDeleteSessionId store (getAbilityRecoverInfoKey number) =
      if number ∈ sessionIdList.map Int32.toUInt32 then none
      else store (getAbilityRecoverInfoKey number) := by
  induction sessionIdList generalizing store with
  | nil => simp
  | cons sessionId rest ih =>
    rw [foldl_cons, ih _ fun other inside => nonneg other (mem_cons_of_mem _ inside),
      innerDeleteSessionId_number store (nonneg sessionId mem_cons_self)]
    by_cases same : number = sessionId.toUInt32 <;> simp [same]

theorem removeElement_of_nodup {recoverInfoList : List String} (nodup : recoverInfoList.Nodup)
    {index : Nat} {recoverInfo : String} (place : recoverInfoList[index]? = some recoverInfo) :
    removeElement recoverInfoList index recoverInfo = recoverInfoList.filter (· ≠ recoverInfo) := by
  have general : ∀ rest done kept : List String, recoverInfoList = done ++ rest ->
      kept.length ≤ done.length -> (∀ other ∈ kept, other ∈ done) ->
        rest.foldl (fun kept other =>
          if other = (kept[index]?).getD recoverInfo then kept else kept ++ [other]) kept =
        kept ++ rest.filter (· ≠ recoverInfo) := by
    intro rest
    induction rest with
    | nil => simp
    | cons other rest ih =>
      intro done kept split shorter earlier
      have fresh : other ∉ done := by
        rw [split, nodup_append] at nodup
        exact fun again => nodup.2.2 other again other mem_cons_self rfl
      have same : other = (kept[index]?).getD recoverInfo ↔ other = recoverInfo := by
        rcases lt_or_ge index kept.length with inside | outside
        · have now : kept[index] ∈ done := earlier _ (getElem_mem inside)
          have before : recoverInfo ∈ done := by
            rw [split, getElem?_append_left (inside.trans_le shorter)] at place
            exact mem_of_getElem? place
          rw [getElem?_eq_getElem inside, Option.getD_some]
          exact iff_of_false (fun eq => fresh (eq ▸ now)) (fun eq => fresh (eq ▸ before))
        · rw [getElem?_eq_none outside, Option.getD_none]
      rw [foldl_cons, if_congr same rfl rfl]
      by_cases equal : other = recoverInfo
      · rw [if_pos equal, ih (done ++ [other]) kept (by simpa using split)
          (by simpa using Nat.le_succ_of_le shorter)
          (fun entry inside => mem_append_left _ (earlier entry inside))]
        simp [equal]
      · rw [if_neg equal, ih (done ++ [other]) (kept ++ [other]) (by simpa using split)
          (by simpa using shorter)
          (fun entry inside => by
            rw [mem_append] at inside ⊢
            exact inside.imp_left (earlier entry))]
        simp [equal]
  simpa [removeElement] using general recoverInfoList [] [] rfl le_rfl nofun

end AppExitReasonDataManager

variable {entries after : Entries} {rows : List (Entry × Int32)} {tokenId number : UInt32}

namespace RowsOf

theorem transfer (rowsOf : RowsOf entries tokenId rows)
    (same : ∀ entry sessionId, entry.accessTokenId = tokenId ->
      (after entry = some sessionId ↔ entries entry = some sessionId)) :
    RowsOf after tokenId rows := by
  refine ⟨rowsOf.nodup, fun row => ?_⟩
  rw [rowsOf.live]
  exact and_congr_right fun own => (same row.1 row.2 own).symm

theorem eq_nil_iff (rowsOf : RowsOf entries tokenId rows) :
    rows = [] ↔ ¬ entries.HasToken tokenId := by
  rw [eq_nil_iff_forall_not_mem]
  refine ⟨?_, fun noToken row inside => ?_⟩
  · rintro none ⟨entry, sessionId, live, own⟩
    exact none (entry, sessionId) ((rowsOf.live _).mpr ⟨own, live⟩)
  · obtain ⟨own, live⟩ := (rowsOf.live row).mp inside
    exact noToken ⟨row.1, row.2, live, own⟩

theorem nil (noToken : ¬ entries.HasToken tokenId) : RowsOf entries tokenId [] := by
  refine ⟨nodup_nil, fun row => ?_⟩
  refine iff_of_false not_mem_nil ?_
  rintro ⟨own, live⟩
  exact noToken ⟨row.1, row.2, live, own⟩

theorem names (rowsOf : RowsOf entries tokenId rows) (separate : entries.Separate) :
    ∀ row ∈ rows, ∀ other ∈ rows, row.1.recoverInfo = other.1.recoverInfo -> row = other := by
  intro row inside other otherInside same
  obtain ⟨own, live⟩ := (rowsOf.live row).mp inside
  obtain ⟨otherOwn, otherLive⟩ := (rowsOf.live other).mp otherInside
  have entry := separate.spelt _ _ otherLive _ _ live (own.trans otherOwn.symm) same
  rw [entry, otherLive] at live
  exact Prod.ext entry (Option.some.inj live).symm

theorem sessions (rowsOf : RowsOf entries tokenId rows) (separate : entries.Separate) :
    ∀ row ∈ rows, ∀ other ∈ rows, row.2 = other.2 -> row = other := by
  intro row inside other otherInside same
  have live := ((rowsOf.live row).mp inside).2
  have otherLive := ((rowsOf.live other).mp otherInside).2
  rw [<- same] at otherLive
  exact Prod.ext (separate.distinct _ _ _ otherLive live) same

end RowsOf

theorem Kept.transfer {value : Option Value} (kept : Kept entries number value)
    (same : ∀ entry sessionId, entry.accessTokenId = number ∨ sessionId.toUInt32 = number ->
      (after entry = some sessionId ↔ entries entry = some sessionId)) :
    Kept after number value := by
  cases kept with
  | session entry sessionId live own =>
    exact .session entry sessionId ((same entry sessionId (.inr own)).mpr live) own
  | token rows rowsOf noSession =>
    refine .token rows (rowsOf.transfer fun entry sessionId own => same entry sessionId (.inl own)) ?_
    rintro ⟨entry, sessionId, live, own⟩
    exact noSession ⟨entry, sessionId, (same entry sessionId (.inr own)).mp live, own⟩

namespace Entries

def Within (after entries : Entries) : Prop :=
  ∀ entry sessionId, after entry = some sessionId -> entries entry = some sessionId

theorem Within.hasSession (within : after.Within entries) (session : after.HasSession number) :
    entries.HasSession number := by
  obtain ⟨entry, sessionId, live, own⟩ := session
  exact ⟨entry, sessionId, within entry sessionId live, own⟩

theorem Within.hasToken (within : after.Within entries) (token : after.HasToken number) :
    entries.HasToken number := by
  obtain ⟨entry, sessionId, live, own⟩ := token
  exact ⟨entry, sessionId, within entry sessionId live, own⟩

theorem Within.separate (within : after.Within entries) (separate : entries.Separate) :
    after.Separate where
  nonneg entry sessionId live := separate.nonneg entry sessionId (within _ _ live)
  spelt entry sessionId live other otherSession otherLive :=
    separate.spelt entry sessionId (within _ _ live) other otherSession (within _ _ otherLive)
  distinct entry other sessionId live otherLive :=
    separate.distinct entry other sessionId (within _ _ live) (within _ _ otherLive)
  numbers number session token :=
    separate.numbers number (within.hasSession session) (within.hasToken token)

section Admitted

variable {entry : Entry} {sessionId : Int32}

theorem update_some {other : Entry} {otherSession : Int32}
    (live : update entries entry (some sessionId) other = some otherSession) :
    (other = entry ∧ otherSession = sessionId) ∨ entries other = some otherSession := by
  rw [update_apply] at live
  split at live
  next same => exact .inl ⟨same, (Option.some.inj live).symm⟩
  · exact .inr live

theorem hasSession_update
    (session : HasSession (update entries entry (some sessionId)) number) :
    number = sessionId.toUInt32 ∨ entries.HasSession number := by
  obtain ⟨other, otherSession, live, own⟩ := session
  obtain ⟨-, rfl⟩ | earlier := update_some live
  · exact .inl own.symm
  · exact .inr ⟨other, otherSession, earlier, own⟩

theorem hasToken_update
    (token : HasToken (update entries entry (some sessionId)) number) :
    number = entry.accessTokenId ∨ entries.HasToken number := by
  obtain ⟨other, otherSession, live, own⟩ := token
  obtain ⟨rfl, -⟩ | earlier := update_some live
  · exact .inl own.symm
  · exact .inr ⟨other, otherSession, earlier, own⟩

theorem Admits.separate (admits : entries.Admits entry sessionId) (separate : entries.Separate) :
    Separate (update entries entry (some sessionId)) where
  nonneg other otherSession live := by
    obtain ⟨-, rfl⟩ | earlier := update_some live
    · exact admits.nonneg
    · exact separate.nonneg other otherSession earlier
  spelt one oneSession oneLive other otherSession otherLive token spelling := by
    obtain ⟨rfl, -⟩ | oneEarlier := update_some oneLive
    · obtain ⟨rfl, -⟩ | otherEarlier := update_some otherLive
      · rfl
      · exact admits.spelt other otherSession otherEarlier token spelling
    · obtain ⟨rfl, -⟩ | otherEarlier := update_some otherLive
      · exact (admits.spelt one oneSession oneEarlier token.symm spelling.symm).symm
      · exact separate.spelt one oneSession oneEarlier other otherSession otherEarlier token spelling
  distinct one other session oneLive otherLive := by
    obtain ⟨rfl, rfl⟩ | oneEarlier := update_some oneLive
    · obtain ⟨rfl, -⟩ | otherEarlier := update_some otherLive
      · rfl
      · exact admits.unused other otherEarlier
    · obtain ⟨rfl, rfl⟩ | otherEarlier := update_some otherLive
      · exact (admits.unused one oneEarlier).symm
      · exact separate.distinct one other session oneEarlier otherEarlier
  numbers number session token := by
    rcases hasSession_update session with rfl | session
    · rcases hasToken_update token with own | token
      · exact admits.own own
      · exact admits.session token
    · rcases hasToken_update token with rfl | token
      · exact admits.token session
      · exact separate.numbers number session token

end Admitted

end Entries

namespace Stored

variable {store next : KvStore} {entry : Entry} {sessionId : Int32}

theorem empty : Stored (fun _ => none) fun _ => none where
  separate := ⟨nofun, nofun, nofun, nofun⟩
  kept _ := .token [] (.nil nofun) nofun

section

variable (stored : Stored store entries)
include stored

theorem atSession (live : entries entry = some sessionId) :
    store (getAbilityRecoverInfoKey sessionId.toUInt32) =
      some (.accessTokenId entry.accessTokenId) := by
  have session : entries.HasSession sessionId.toUInt32 := ⟨entry, sessionId, live, rfl⟩
  have kept := stored.kept sessionId.toUInt32
  generalize store (getAbilityRecoverInfoKey sessionId.toUInt32) = value at kept ⊢
  cases kept with
  | session other otherSession otherLive own =>
    rw [toUInt32_inj.mp own] at otherLive
    rw [stored.separate.distinct _ _ _ live otherLive]
  | token rows rowsOf noSession => exact absurd session noSession

theorem atToken (noSession : ¬ entries.HasSession tokenId) :
    ∃ rows, RowsOf entries tokenId rows ∧ store (getAbilityRecoverInfoKey tokenId) = listed rows := by
  have kept := stored.kept tokenId
  generalize store (getAbilityRecoverInfoKey tokenId) = value at kept ⊢
  cases kept with
  | session entry sessionId live own => exact absurd ⟨entry, sessionId, live, own⟩ noSession
  | token rows rowsOf _ => exact ⟨rows, rowsOf, rfl⟩

theorem noSession (live : entries entry = some sessionId) :
    ¬ entries.HasSession entry.accessTokenId :=
  fun session => stored.separate.numbers _ session ⟨entry, sessionId, live, rfl⟩

theorem added (admits : entries.Admits entry sessionId) (unknown : entries entry = none)
    (rowsOf : RowsOf entries entry.accessTokenId rows)
    (changed : ∀ number, next (getAbilityRecoverInfoKey number) =
      if number = sessionId.toUInt32 then some (.accessTokenId entry.accessTokenId)
      else if number = entry.accessTokenId then listed (rows ++ [(entry, sessionId)])
      else store (getAbilityRecoverInfoKey number)) :
    Stored next (update entries entry (some sessionId)) := by
  refine ⟨admits.separate stored.separate, fun number => ?_⟩
  rw [changed]
  split
  next own => exact .session entry sessionId (update_self ..) own.symm
  next notSession =>
    split
    next own =>
      subst own
      refine .token _ ⟨?_, fun row => ?_⟩ fun session =>
        (Entries.hasSession_update session).elim notSession admits.token
      · refine rowsOf.nodup.append (nodup_singleton _) ?_
        rw [disjoint_singleton]
        intro again
        rw [((rowsOf.live _).mp again).2] at unknown
        cases unknown
      · rw [mem_append, mem_singleton, rowsOf.live, update_apply]
        split
        next same => simp [same, unknown, Prod.ext_iff, eq_comm]
        next ne => simp [Prod.ext_iff, ne]
    next notToken =>
      refine (stored.kept number).transfer fun other otherSession own => ?_
      rw [update_apply]
      split
      next same =>
        subst same
        rw [unknown]
        refine iff_of_false (fun eq => ?_) nofun
        rw [Option.some.injEq] at eq
        rcases own with token | session
        · exact notToken token.symm
        · exact notSession (eq ▸ session.symm)
      · rfl

theorem dropped (noSession : ¬ entries.HasSession tokenId) (rowsOf : RowsOf entries tokenId rows)
    (gone : Entry -> Prop) [DecidablePred gone]
    (own : ∀ entry, gone entry -> entry.accessTokenId = tokenId)
    (changed : ∀ number, next (getAbilityRecoverInfoKey number) =
      if number = tokenId then listed (rows.filter fun row => ¬ gone row.1)
      else if ∃ row ∈ rows, gone row.1 ∧ row.2.toUInt32 = number then none
      else store (getAbilityRecoverInfoKey number)) :
    Stored next fun entry => if gone entry then none else entries entry := by
  have left : ∀ entry sessionId, (if gone entry then none else entries entry) = some sessionId ↔
      ¬ gone entry ∧ entries entry = some sessionId := by
    intro entry sessionId
    by_cases out : gone entry <;> simp [out]
  have within : Entries.Within (fun entry => if gone entry then none else entries entry) entries :=
    fun entry sessionId live => ((left entry sessionId).mp live).2
  refine ⟨within.separate stored.separate, fun number => ?_⟩
  rw [changed]
  split
  next token =>
    subst token
    refine .token _ ⟨rowsOf.nodup.filter _, fun row => ?_⟩
      fun session => noSession (within.hasSession session)
    rw [mem_filter, rowsOf.live, decide_eq_true_iff, left]
    tauto
  next notToken =>
    split
    next ended =>
      obtain ⟨row, inside, out, session⟩ := ended
      have rowLive := ((rowsOf.live row).mp inside).2
      refine .token [] (.nil fun token => ?_) ?_
      · exact stored.separate.numbers _ ⟨row.1, row.2, rowLive, session⟩ (within.hasToken token)
      · rintro ⟨other, otherSession, live, otherOwn⟩
        obtain ⟨stays, otherLive⟩ := (left other otherSession).mp live
        rw [toUInt32_inj.mp (otherOwn.trans session.symm)] at otherLive
        exact stays (stored.separate.distinct _ _ _ rowLive otherLive ▸ out)
    next notEnded =>
      refine (stored.kept number).transfer fun other otherSession about => ?_
      rw [left]
      refine and_iff_right_of_imp fun otherLive out => ?_
      rcases about with token | session
      · exact notToken (token.symm.trans (own other out))
      · exact notEnded ⟨(other, otherSession),
          (rowsOf.live _).mpr ⟨own other out, otherLive⟩, out, session⟩

theorem removed (live : entries entry = some sessionId)
    (rowsOf : RowsOf entries entry.accessTokenId rows)
    (changed : ∀ number, next (getAbilityRecoverInfoKey number) =
      if number = entry.accessTokenId then listed (rows.filter (· ≠ (entry, sessionId)))
      else if number = sessionId.toUInt32 then none
      else store (getAbilityRecoverInfoKey number)) :
    Stored next (update entries entry none) := by
  have sole : ∀ row ∈ rows, row = (entry, sessionId) ↔ row.1 = entry := by
    intro row inside
    refine ⟨fun same => same ▸ rfl, fun same => Prod.ext same ?_⟩
    have rowLive := ((rowsOf.live row).mp inside).2
    rw [same, live] at rowLive
    exact (Option.some.inj rowLive).symm
  have filtered : rows.filter (· ≠ (entry, sessionId)) = rows.filter fun row => ¬ row.1 = entry :=
    filter_congr fun row inside => by simp [sole row inside]
  have ended : ∀ number, (∃ row ∈ rows, row.1 = entry ∧ row.2.toUInt32 = number) ↔
      number = sessionId.toUInt32 := by
    intro number
    constructor
    · rintro ⟨row, inside, same, rfl⟩
      rw [(sole row inside).mpr same]
    · rintro rfl
      exact ⟨(entry, sessionId), (rowsOf.live _).mpr ⟨rfl, live⟩, rfl, rfl⟩
  have update : update entries entry none =
      fun other => if other = entry then none else entries other :=
    funext fun other => update_apply ..
  rw [update]
  refine stored.dropped (stored.noSession live) rowsOf (· = entry) ?_ fun number => ?_
  · exact fun other same => congrArg Entry.accessTokenId same
  · rw [changed, filtered]
    exact if_congr Iff.rfl rfl (if_congr (ended number).symm rfl rfl)

theorem removedAll (noSession : ¬ entries.HasSession tokenId) (rowsOf : RowsOf entries tokenId rows)
    (changed : ∀ number, next (getAbilityRecoverInfoKey number) =
      if number = tokenId then none
      else if number ∈ rows.map (fun row => row.2.toUInt32) then none
      else store (getAbilityRecoverInfoKey number)) :
    Stored next fun entry => if entry.accessTokenId = tokenId then none else entries entry := by
  have none : rows.filter (fun row => ¬ row.1.accessTokenId = tokenId) = [] := by
    rw [filter_eq_nil_iff]
    intro row inside
    simp [((rowsOf.live row).mp inside).1]
  have ended : ∀ number, (∃ row ∈ rows, row.1.accessTokenId = tokenId ∧
      row.2.toUInt32 = number) ↔ number ∈ rows.map fun row => row.2.toUInt32 := by
    intro number
    rw [mem_map]
    refine exists_congr fun row => and_congr_right fun inside => ?_
    exact and_iff_right ((rowsOf.live row).mp inside).1
  refine stored.dropped noSession rowsOf (·.accessTokenId = tokenId) (fun _ own => own)
    fun number => ?_
  rw [changed, none]
  exact if_congr Iff.rfl rfl (if_congr (ended number).symm rfl rfl)

end

end Stored

end AbilityRuntime.ExitReason
