import AbilityRuntime.ExitReason.RecoverInfo
import AbilityRuntime.Library.FirstMatch

set_option autoImplicit false

namespace AbilityRuntime.ExitReason

open Library AppExitReasonDataManager Function List

variable {entries : Entries} {tokenId : UInt32}

namespace AppExitReasonDataManager

variable {store : KvStore} {entry : Entry} {sessionId : Int32}

theorem listed_lists (rows : List (Entry × Int32)) :
    ((listed rows).map convertAbilityRecoverInfoFromValue).getD ([], []) =
      (rows.map fun row => row.1.recoverInfo, rows.map fun row => row.2) := by
  unfold listed
  split
  next none => simp [none]
  · rfl

theorem addAbilityRecoverInfo_stored (stored : Stored store entries)
    (admits : entries.Admits entry sessionId) :
    ∃ next, (addAbilityRecoverInfo store entry.accessTokenId entry.moduleName entry.abilityName
      sessionId).map (·.1) = some next ∧
      Stored next (update entries entry (some sessionId)) := by
  obtain ⟨rows, rowsOf, list⟩ := stored.atToken admits.token
  unfold addAbilityRecoverInfo
  dsimp only
  rw [list, listed_lists]
  split
  next index found =>
    obtain ⟨row, inside, spelling, place⟩ := row_of_idxOf (fun row => row.2) found
    obtain ⟨own, live⟩ := (rowsOf.live row).mp inside
    rw [admits.spelt row.1 row.2 live own spelling] at live
    rw [if_pos (List.getElem?_eq_some_iff.mp place).1]
    refine ⟨store, rfl, ?_⟩
    rwa [<- admits.again row.2 live, <- live, update_eq_self]
  next missing =>
    have unknown : entries entry = none := by
      rw [Option.eq_none_iff_forall_ne_some]
      intro session live
      rw [List.idxOf?_eq_none_iff] at missing
      exact missing (List.mem_map.mpr ⟨(entry, session), (rowsOf.live _).mpr ⟨rfl, live⟩, rfl⟩)
    refine ⟨_, rfl, stored.added admits unknown rowsOf fun number => ?_⟩
    dsimp only
    rw [innerAddSessionId, getSessionIdKey_eq admits.nonneg, put_number, put_number]
    simp [listed, Entry.recoverInfo]

theorem updated_number (store : KvStore) (nonneg : 0 ≤ sessionId) (tokenId number : UInt32)
    (rows : List (Entry × Int32)) :
    let updated := updateAbilityRecoverInfo (innerDeleteSessionId store sessionId) tokenId
      (rows.map fun row => row.1.recoverInfo) (rows.map fun row => row.2)
    (if rows = [] then innerDeleteAbilityRecoverInfo updated tokenId else updated)
        (getAbilityRecoverInfoKey number) =
      if number = tokenId then listed rows
      else if number = sessionId.toUInt32 then none
      else store (getAbilityRecoverInfoKey number) := by
  dsimp only [updateAbilityRecoverInfo]
  unfold listed
  split
  next none =>
    rw [innerDeleteAbilityRecoverInfo, delete_number, put_number, delete_number,
      innerDeleteSessionId_number store nonneg]
    by_cases own : number = tokenId <;> simp [own]
  · rw [put_number, delete_number, innerDeleteSessionId_number store nonneg]
    by_cases own : number = tokenId <;> simp [own]

theorem deleteAbilityRecoverInfo_stored (stored : Stored store entries)
    (spelt : entries.Spelt entry) (noSession : ¬ entries.HasSession entry.accessTokenId) :
    ∃ next, (deleteAbilityRecoverInfo store entry.accessTokenId entry.moduleName
      entry.abilityName).map (·.1) = some next ∧
      Stored next (update entries entry none) := by
  obtain ⟨rows, rowsOf, list⟩ := stored.atToken noSession
  have unchanged (missing : entry.recoverInfo ∉ rows.map fun row => row.1.recoverInfo) :
      Stored store (update entries entry none) := by
    have unknown : entries entry = none := by
      rw [Option.eq_none_iff_forall_ne_some]
      intro session live
      exact missing (mem_map.mpr ⟨(entry, session), (rowsOf.live _).mpr ⟨rfl, live⟩, rfl⟩)
    rwa [<- unknown, update_eq_self]
  unfold deleteAbilityRecoverInfo
  rw [list, listed]
  split
  next absent =>
    split at absent
    next none => exact ⟨store, rfl, unchanged (by simp [none])⟩
    · cases absent
  next value present =>
    split at present
    · cases present
    next filled =>
      cases present
      dsimp only [convertAbilityRecoverInfoFromValue]
      rw [<- Entry.recoverInfo]
      split
      next missing =>
        rw [idxOf?_eq_none_iff] at missing
        rw [if_neg (by simpa using filled)]
        exact ⟨store, rfl, unchanged missing⟩
      next index found =>
        obtain ⟨row, inside, spelling, place⟩ := row_of_idxOf (fun row => row.2) found
        obtain ⟨own, live⟩ := (rowsOf.live row).mp inside
        obtain ⟨other, sessionId⟩ := row
        obtain rfl : other = entry := spelt other sessionId live own spelling
        have names := filter_ne_column (rowsOf.names stored.separate) inside
        have sessions := filter_ne_column (rowsOf.sessions stored.separate) inside
        rw [place]
        dsimp only
        rw [names, sessions]
        have nonneg := stored.separate.nonneg _ _ live
        refine ⟨_, ?_, stored.removed live rowsOf (updated_number store nonneg _ · _)⟩
        simp only [List.isEmpty_iff, map_eq_nil_iff]
        split <;> rfl

theorem getTokenIdBySessionID_live (errInvalidValue uninitialised : UInt32)
    (stored : Stored store entries) (live : entries entry = some sessionId) :
    getTokenIdBySessionID errInvalidValue uninitialised store sessionId = entry.accessTokenId := by
  rw [getTokenIdBySessionID, stored.atSession live]
  rfl

theorem getTokenIdBySessionID_stray {errInvalidValue uninitialised : UInt32}
    (stored : Stored store entries) (unknown : ∀ entry, entries entry ≠ some sessionId)
    (taken : entries.HasToken sessionId.toUInt32 -> ¬ entries.HasSession uninitialised)
    (free : ¬ entries.HasToken sessionId.toUInt32 -> ¬ entries.HasSession errInvalidValue) :
    ¬ entries.HasSession (getTokenIdBySessionID errInvalidValue uninitialised store sessionId) := by
  have noSession : ¬ entries.HasSession sessionId.toUInt32 := by
    rintro ⟨other, otherSession, live, own⟩
    rw [toUInt32_inj.mp own] at live
    exact unknown other live
  obtain ⟨rows, rowsOf, list⟩ := stored.atToken noSession
  rw [getTokenIdBySessionID, list, listed]
  split
  next absent =>
    split at absent
    next none => exact free (rowsOf.eq_nil_iff.mp none)
    · cases absent
  next value present =>
    split at present
    · cases present
    next filled =>
      cases present
      exact taken (not_not.mp (mt rowsOf.eq_nil_iff.mpr filled))

theorem deleteAbilityRecoverInfoBySessionId_live (errInvalidValue uninitialised : UInt32)
    (stored : Stored store entries) (live : entries entry = some sessionId) :
    ∃ next, (deleteAbilityRecoverInfoBySessionId errInvalidValue uninitialised store
      sessionId).map (·.1) = some next ∧ Stored next (update entries entry none) := by
  obtain ⟨rows, rowsOf, list⟩ := stored.atToken (stored.noSession live)
  have inside : (entry, sessionId) ∈ rows := (rowsOf.live _).mpr ⟨rfl, live⟩
  have filled : rows ≠ [] := ne_nil_of_mem inside
  unfold deleteAbilityRecoverInfoBySessionId
  rw [getTokenIdBySessionID_live errInvalidValue uninitialised stored live]
  dsimp only
  rw [list, listed, if_neg filled]
  dsimp only
  rw [convertAbilityRecoverInfoFromValue]
  split
  next missing =>
    rw [idxOf?_eq_none_iff] at missing
    exact absurd (mem_map.mpr ⟨_, inside, rfl⟩) missing
  next index found =>
    obtain ⟨row, rowInside, same, place⟩ := row_of_idxOf (fun row => row.1.recoverInfo) found
    obtain rfl : row = (entry, sessionId) := rowsOf.sessions stored.separate _ rowInside _ inside same
    have nodup := rowsOf.nodup.map_on (rowsOf.names stored.separate)
    have names := filter_ne_column (rowsOf.names stored.separate) inside
    have sessions := filter_ne_column (rowsOf.sessions stored.separate) inside
    rw [place]
    dsimp only
    rw [removeElement_of_nodup nodup place, names, sessions]
    have nonneg := stored.separate.nonneg _ _ live
    refine ⟨_, ?_, stored.removed live rowsOf (updated_number store nonneg _ · _)⟩
    simp only [List.isEmpty_iff, map_eq_nil_iff]
    split <;> rfl

theorem deleteAbilityRecoverInfoBySessionId_unknown {errInvalidValue uninitialised : UInt32}
    (stored : Stored store entries) (unknown : ∀ entry, entries entry ≠ some sessionId)
    (stray : ¬ entries.HasSession
      (getTokenIdBySessionID errInvalidValue uninitialised store sessionId)) :
    (deleteAbilityRecoverInfoBySessionId errInvalidValue uninitialised store sessionId).map (·.1) =
      some store := by
  obtain ⟨rows, rowsOf, list⟩ := stored.atToken stray
  unfold deleteAbilityRecoverInfoBySessionId
  dsimp only
  rw [list, listed]
  split
  · rfl
  next value present =>
    split at present
    · cases present
    next filled =>
      cases present
      dsimp only [convertAbilityRecoverInfoFromValue]
      have missing : sessionId ∉ rows.map fun row => row.2 := by
        rintro inside
        obtain ⟨row, rowInside, rfl⟩ := mem_map.mp inside
        exact unknown row.1 ((rowsOf.live row).mp rowInside).2
      rw [idxOf?_eq_none_iff.mpr missing]
      simp [filled]

theorem deleteAllRecoverInfoByTokenId_stored (stored : Stored store entries)
    (noSession : ¬ entries.HasSession tokenId) :
    Stored (deleteAllRecoverInfoByTokenId store tokenId).1
      fun entry => if entry.accessTokenId = tokenId then none else entries entry := by
  obtain ⟨rows, rowsOf, list⟩ := stored.atToken noSession
  have nonneg : ∀ sessionId ∈ rows.map fun row => row.2, 0 ≤ sessionId := by
    intro sessionId inside
    obtain ⟨row, rowInside, rfl⟩ := mem_map.mp inside
    exact stored.separate.nonneg _ _ ((rowsOf.live row).mp rowInside).2
  refine stored.removedAll noSession rowsOf fun number => ?_
  unfold deleteAllRecoverInfoByTokenId
  rw [list, listed]
  split
  next absent =>
    split at absent
    next none =>
      by_cases own : number = tokenId
      · simp [own, list, listed, none]
      · simp [own, none]
    · cases absent
  next value present =>
    split at present
    · cases present
    · cases present
      dsimp only [convertAbilityRecoverInfoFromValue, innerDeleteAbilityRecoverInfo]
      rw [delete_number, innerDeleteSessionIds_number _ store nonneg, map_map]
      rfl

end AppExitReasonDataManager

namespace Stored

variable {store : KvStore}

theorem handle (errInvalidValue : UInt32) (stored : Stored store entries) (call : RecoverCall)
    (fits : entries.Fits errInvalidValue call) :
    ∃ next, AppExitReasonDataManager.handle errInvalidValue store call = some next ∧
      Stored next (entries.handle call) := by
  cases call with
  | add entry sessionId => exact addAbilityRecoverInfo_stored stored fits
  | delete entry => exact deleteAbilityRecoverInfo_stored stored fits.1 fits.2
  | deleteAll tokenId => exact ⟨_, rfl, deleteAllRecoverInfoByTokenId_stored stored fits⟩
  | get entry => exact ⟨store, rfl, stored⟩
  | getTokenId sessionId uninitialised => exact ⟨store, rfl, stored⟩
  | deleteBySessionId sessionId uninitialised =>
    by_cases known : ∃ entry, entries entry = some sessionId
    · obtain ⟨entry, live⟩ := known
      have ended : entries.handle (.deleteBySessionId sessionId uninitialised) =
          update entries entry none := by
        funext other
        rw [update_apply]
        refine if_congr ⟨fun same => ?_, fun same => same ▸ live⟩ rfl rfl
        exact stored.separate.distinct _ _ _ live same
      rw [ended]
      exact deleteAbilityRecoverInfoBySessionId_live errInvalidValue uninitialised stored live
    · have unknown : ∀ entry, entries entry ≠ some sessionId := not_exists.mp known
      obtain ⟨taken, free⟩ := fits.resolve_left known
      have same : entries.handle (.deleteBySessionId sessionId uninitialised) = entries :=
        funext fun other => if_neg (unknown other)
      rw [same]
      exact ⟨store, deleteAbilityRecoverInfoBySessionId_unknown stored unknown
        (getTokenIdBySessionID_stray stored unknown taken free), stored⟩

theorem reported (stored : Stored store entries) {entry : Entry} (spelt : entries.Spelt entry) :
    (getAbilityRecoverInfo store entry.accessTokenId entry.moduleName entry.abilityName).2 =
      (entries entry).isSome := by
  have kept := stored.kept entry.accessTokenId
  rw [getAbilityRecoverInfo]
  generalize store (getAbilityRecoverInfoKey entry.accessTokenId) = value at kept
  cases kept with
  | session other sessionId live own =>
    cases known : entries entry with
    | none => rfl
    | some session =>
      exact absurd ⟨entry, session, known, rfl⟩
        (stored.separate.numbers _ ⟨other, sessionId, live, own⟩)
  | token rows rowsOf =>
    have listing : entry.recoverInfo ∈ rows.map (fun row => row.1.recoverInfo) ↔
        (entries entry).isSome := by
      rw [mem_map, Option.isSome_iff_exists]
      constructor
      · rintro ⟨row, inside, spelling⟩
        obtain ⟨own, live⟩ := (rowsOf.live row).mp inside
        exact ⟨row.2, spelt row.1 row.2 live own spelling ▸ live⟩
      · rintro ⟨sessionId, live⟩
        exact ⟨(entry, sessionId), (rowsOf.live _).mpr ⟨rfl, live⟩, rfl⟩
    unfold listed
    by_cases none : rows = []
    · simpa [none] using listing
    · rw [if_neg none, Bool.eq_iff_iff, <- listing]
      exact isSome_idxOf?

theorem lengths (stored : Stored store entries) {recoverInfoList : List String}
    {sessionIdList : List Int32} (found : store (getAbilityRecoverInfoKey tokenId) =
      some (.recoverInfo recoverInfoList sessionIdList)) :
    recoverInfoList.length = sessionIdList.length := by
  have kept := stored.kept tokenId
  rw [found] at kept
  generalize value : some (Value.recoverInfo recoverInfoList sessionIdList) = stored at kept
  cases kept with
  | session => cases value
  | token rows =>
    unfold listed at value
    split at value
    · cases value
    · cases value
      simp

end Stored

theorem recover_info_refines_last_sessions (errInvalidValue : UInt32) (calls : List RecoverCall)
    (fit : (recoverMachine errInvalidValue).EveryStep calls
      fun recovery call => recovery.entries.Fits errInvalidValue call) :
    RefinesLastSessions errInvalidValue calls := by
  have kept : (recoverMachine errInvalidValue).Throughout calls fun recovery =>
      ∃ store, recovery.store = some store ∧ Stored store recovery.entries := by
    refine fit.throughout ?_ ?_
    · exact ⟨_, rfl, .empty⟩
    · rintro recovery call ⟨store, present, stored⟩ fits
      obtain ⟨next, handled, stored⟩ := stored.handle errInvalidValue call fits
      refine ⟨next, ?_, stored⟩
      dsimp only [recoverMachine]
      rw [present, Option.bind_some, handled]
  constructor
  · intro done call rest split
    obtain ⟨store, present, stored⟩ := kept done (call :: rest) split
    have fits := fit done call rest split
    cases call with
    | get entry => simp [Recovery.Answers, present, stored.reported fits]
    | getTokenId sessionId uninitialised =>
      intro entry live
      rw [present, Option.map_some,
        getTokenIdBySessionID_live errInvalidValue uninitialised stored live]
    | _ => trivial
  · intro done rest split
    obtain ⟨store, present, stored⟩ := kept done rest split
    exact ⟨store, present, fun _ _ _ => stored.lengths⟩

def mainEntry : Entry := ⟨100, "entry", "MainAbility"⟩

theorem added_twice_and_deleted_refines : RefinesLastSessions 22
    [.add mainEntry 1, .add mainEntry 1, .getTokenId 1 0, .deleteBySessionId 1 0,
      .get mainEntry] := by
  have once : ∀ other session, update (fun _ => none) mainEntry (some (1 : Int32)) other =
      some session -> other = mainEntry ∧ session = 1 := by
    intro other session live
    exact (Entries.update_some live).resolve_right nofun
  refine recover_info_refines_last_sessions 22 _ (Machine.StepsFrom.everyStep ?_)
  refine ⟨?_, ?_, trivial, .inl ⟨mainEntry, by decide⟩, ?_, trivial⟩
  · exact ⟨nofun, nofun, by decide, nofun, by decide, nofun, nofun⟩
  · refine ⟨fun last live => (once mainEntry last live).2,
      fun other session live _ _ => (once other session live).1, by decide,
      fun other live => (once other 1 live).1, by decide, ?_, ?_⟩
    · rintro ⟨other, session, live, token⟩
      exact absurd ((once other session live).1 ▸ token) (by decide)
    · rintro ⟨other, session, live, number⟩
      exact absurd ((once other session live).2 ▸ number) (by decide)
  · intro other session live _ _
    by_contra ne
    refine absurd live ?_
    simp [recoverMachine, Entries.handle, update_of_ne ne]

theorem second_session_is_lost : ¬ ∀ calls, RefinesLastSessions 22 calls := by
  intro refines
  have answers := (refines [.add mainEntry 1, .add mainEntry 2, .getTokenId 2 0]).1
    [.add mainEntry 1, .add mainEntry 2] (.getTokenId 2 0) [] rfl mainEntry (by decide +kernel)
  revert answers
  decide +kernel

end AbilityRuntime.ExitReason
