import AbilityRuntime.AutoStartup.AutoStartupChanges

set_option autoImplicit false

namespace AbilityRuntime.AutoStartup

open Library Mission AbilityAutoStartupDataManager AbilityAutoStartupService List AutoStartupStep AutoStartupService

/-- An entry that the operation replaces is put again whenever it is deleted. -/
def ReplacesSafely (env : Environment) (store : KvStore) (calls : KvCalls)
    (info : AutoStartupInfo) (isByEDM : Bool) : Prop :=
  ∀ entry ∈ store, isEqual env entry.key info = true ->
    (isByEDM = false ->
      (convertAutoStartupStatusFromValue env entry.value {}).isEdmForce = false) ->
    calls.delete 0 = .success -> calls.put = .success

def Dumped (json : Nlohmann) (info : AutoStartupInfo) (isAutoStartup isEdmForce : Bool) : Prop :=
  json.Reads (.ofList (keyMembers info)) ∧
    json.Reads (.ofList (valueMembers info isAutoStartup isEdmForce))

variable {env : Environment} {service : AutoStartupService} {calls : KvCalls}
  {info : AutoStartupInfo}

section Inner

variable (sound : Coherent env service)
  (perm : (env.getEntries service.store).Perm service.store)
  (intact : Intact service.store calls)

include sound perm intact

theorem innerSetApplicationAutoStartup_performed (dumped : Dumped env.json info true false)
    (safe : ReplacesSafely env service.store calls info false) :
    Performed env service
      (fun application => application = info.application ∧
        ∀ status, service.lastWritten application = some status -> status.isEdmForce = false)
      (Function.update service.lastWritten info.application (some (info.status true false)))
      (innerSetApplicationAutoStartup env service.store calls info) := by
  rw [innerSetApplicationAutoStartup]
  rcases sound.query_cases perm intact info with
    ⟨code, failed, isOther, query⟩ | ⟨unwritten, query⟩ | ⟨entry, present, same, query⟩
  · rw [query]
    dsimp only
    rw [if_pos (by simp [failed, isOther])]
    exact performed_refused failed
  · rw [query]
    dsimp only
    have inserted := sound.insert intact dumped.1 dumped.2 unwritten
    exact { inserted with
      others := fun other kept apart =>
      inserted.others other kept fun isThis => apart ⟨isThis, fun status written => by
        rw [isThis, unwritten] at written
        cases written⟩ }
  · rw [query]
    dsimp only
    rw [if_neg (by simp), if_neg nofun]
    split
    · exact performed_refused nofun
    next notForced =>
      rw [Bool.not_eq_true] at notForced
      have updated := sound.update intact dumped.1 dumped.2 present same
        (safe entry present ((sound.isEqual_iff present info).2 same) fun _ => notForced)
      refine { updated with
        others := fun other kept apart =>
        updated.others other kept fun isThis => apart ⟨isThis, fun status written => ?_⟩ }
      rw [isThis, <- same, sound.status present, Option.some.injEq] at written
      exact written ▸ notForced

theorem innerCancelApplicationAutoStartup_performed :
    Performed env service
      (fun application => application = info.application ∧
        ∀ status, service.lastWritten application = some status -> status.isEdmForce = false)
      (Function.update service.lastWritten info.application
        ((service.lastWritten info.application).filter (!·.isAutoStartup)))
      (innerCancelApplicationAutoStartup env service.store calls info) := by
  rw [innerCancelApplicationAutoStartup]
  rcases sound.query_cases perm intact info with
    ⟨code, failed, -, query⟩ | ⟨unwritten, query⟩ | ⟨entry, present, same, query⟩
  · rw [query]
    dsimp only
    rw [if_pos failed]
    exact performed_refused failed
  · rw [query]
    exact performed_refused nofun
  · have written := sound.status present
    rw [same] at written
    rw [query, written]
    dsimp only
    rw [if_neg (by simp)]
    split
    · exact performed_refused nofun
    next notForced =>
      rw [Bool.not_eq_true] at notForced
      split
      next starts =>
        split
        · exact performed_refused nofun
        · rw [Option.filter_some_neg (by simp [starts])]
          have deleted := sound.delete intact present same
          refine { deleted with
            others := fun other kept apart =>
            deleted.others other kept fun isThis => apart ⟨isThis, fun status found => ?_⟩ }
          rw [isThis, written, Option.some.injEq] at found
          exact found ▸ notForced
      next rests =>
        rw [Option.filter_some_pos (by simp [rests]), <- written, Function.update_eq_self]
        exact ⟨fun _ => rfl, fun _ => sound, fun _ kept _ => kept⟩

theorem innerApplicationAutoStartupByEDM_performed {isSet flag : Bool}
    (dumped : Dumped env.json info isSet flag)
    (safe : ReplacesSafely env service.store calls info true) :
    Performed env service (· = info.application)
      (Function.update service.lastWritten info.application (some (info.status isSet flag)))
      (innerApplicationAutoStartupByEDM env service.store calls info isSet flag) := by
  rw [innerApplicationAutoStartupByEDM]
  rcases sound.query_cases perm intact info with
    ⟨code, failed, isOther, query⟩ | ⟨unwritten, query⟩ | ⟨entry, present, same, query⟩
  · rw [query]
    dsimp only
    rw [if_pos (by simp [failed, isOther])]
    exact performed_refused failed
  · rw [query]
    exact sound.insert intact dumped.1 dumped.2 unwritten
  · rw [query]
    exact sound.update intact dumped.1 dumped.2 present same
      (safe entry present ((sound.isEqual_iff present info).2 same) nofun)

end Inner

theorem deleteEntries_all {accessTokenId : String} {delete : Nat -> Status} (list : List Entry) :
    ∀ (done : Nat) (store : KvStore),
      (∀ number < (list.filter fun item => isEqualToken env item.key accessTokenId).length,
        delete (done + number) = .success) ->
      deleteEntries env accessTokenId delete done list store =
        (store.filter fun entry => ¬∃ item ∈ list,
          isEqualToken env item.key accessTokenId = true ∧ entry.key = item.key, .errOk) := by
  induction list with
  | nil =>
    simp [deleteEntries]
  | cons item rest ih =>
    intro done store succeeds
    rw [deleteEntries]
    by_cases isToken : isEqualToken env item.key accessTokenId = true
    · rw [filter_cons, if_pos isToken, length_cons] at succeeds
      have first : delete done = .success := succeeds 0 (Nat.succ_pos _)
      have later := ih (done + 1) (store.delete item.key) fun number inside => by
        rw [Nat.add_assoc, Nat.add_comm 1]
        exact succeeds (number + 1) (Nat.succ_lt_succ inside)
      rw [if_pos isToken, if_neg (not_not.2 first), later, KvStore.delete, filter_filter]
      congr 2
      simp [isToken, Bool.and_comm]
    · rw [filter_cons, if_neg isToken] at succeeds
      rw [if_neg isToken, ih done store succeeds]
      simp [isToken]

theorem deleteEntries_first {accessTokenId : String} {delete : Nat -> Status} {done : Nat}
    (failed : delete done ≠ .success) (store : KvStore) {list : List Entry}
    (listed : ∃ item ∈ list, isEqualToken env item.key accessTokenId = true) :
    deleteEntries env accessTokenId delete done list store =
      (restoreKvStore store (delete done), .errInvalidOperation) := by
  induction list with
  | nil =>
    obtain ⟨item, present, -⟩ := listed
    cases present
  | cons item rest ih =>
    rw [deleteEntries]
    by_cases isToken : isEqualToken env item.key accessTokenId = true
    · rw [if_pos isToken, if_pos failed]
    · obtain ⟨other, present, matched⟩ := listed
      rw [if_neg isToken]
      refine ih ⟨other, ?_, matched⟩
      rcases mem_cons.1 present with rfl | behind
      · exact absurd matched isToken
      · exact behind

theorem toString_toInt32 {tokenId : UInt32} (small : tokenId < 2147483648) :
    toString tokenId.toInt32.toInt = toString tokenId.toNat := by
  have same : tokenId.toInt32.toInt = (tokenId.toNat : Int) := by
    have bound : 2 * tokenId.toBitVec.toNat < 2 ^ 32 := by
      have less := UInt32.lt_iff_toNat_lt.1 small
      rw [UInt32.toNat_toBitVec]
      change tokenId.toNat < 2147483648 at less
      omega
    rw [<- Int32.toInt_toBitVec, UInt32.toBitVec_toInt32, BitVec.toInt_eq_toNat_of_lt bound]
    rfl
  rw [same]
  rfl

/-- A clean-up finds the entries of its token, and does not fail after a first deletion. -/
def CleansUp (env : Environment) (store : KvStore) (calls : KvCalls) (tokenId : UInt32) :
    Prop :=
  let accessTokenId := toString tokenId.toInt32.toInt
  (tokenId < 2147483648 ∨ ∀ entry ∈ store,
    isEqualToken env entry.key accessTokenId = false ∧
      isEqualToken env entry.key (toString tokenId.toNat) = false) ∧
  (calls.delete 0 = .success ->
    ∀ number < (store.filter fun item => isEqualToken env item.key accessTokenId).length,
      calls.delete number = .success)

theorem Coherent.cleanUp (sound : Coherent env service)
    (perm : (env.getEntries service.store).Perm service.store)
    (intact : Intact service.store calls) (bundleName : String) {tokenId : UInt32}
    (cleansUp : CleansUp env service.store calls tokenId) :
    Performed env service (·.accessTokenId = toString tokenId.toNat)
      (fun application =>
        if application.accessTokenId = toString tokenId.toNat then none
        else service.lastWritten application)
      (AbilityAutoStartupService.deleteAutoStartupData env service.store calls bundleName
        tokenId) := by
  obtain ⟨signed, succeeds⟩ := cleansUp
  have sameToken : ∀ entry ∈ service.store,
      isEqualToken env entry.key (toString tokenId.toInt32.toInt) = true ↔
        (applicationOf env entry.key).accessTokenId = toString tokenId.toNat := by
    intro entry present
    rw [<- sound.isEqualToken_iff present]
    rcases signed with small | apart
    · rw [toString_toInt32 small]
    · rw [(apart entry present).1, (apart entry present).2]
  rw [AbilityAutoStartupService.deleteAutoStartupData, deleteAutoStartupDataOfToken]
  split
  · exact performed_refused nofun
  · split
    · exact performed_refused nofun
    · split
      · exact performed_restored intact.getEntries nofun
      · by_cases stops : calls.delete 0 ≠ .success ∧ ∃ item ∈ env.getEntries service.store,
          isEqualToken env item.key (toString tokenId.toInt32.toInt) = true
        · rw [deleteEntries_first stops.1 service.store stops.2]
          exact performed_restored intact.delete nofun
        · have all : ∀ number < ((env.getEntries service.store).filter fun item =>
              isEqualToken env item.key (toString tokenId.toInt32.toInt)).length,
              calls.delete (0 + number) = .success := by
            intro number inside
            rw [Nat.zero_add]
            rw [(perm.filter _).length_eq] at inside
            refine succeeds ?_ number inside
            by_contra failed
            obtain ⟨item, present⟩ := exists_mem_of_length_pos (Nat.zero_lt_of_lt inside)
            rw [mem_filter] at present
            exact stops ⟨failed, item, perm.mem_iff.2 present.1, present.2⟩
          rw [deleteEntries_all _ 0 _ all]
          have kept : (service.store.filter fun entry =>
              ¬∃ item ∈ env.getEntries service.store,
                isEqualToken env item.key (toString tokenId.toInt32.toInt) = true ∧
                  entry.key = item.key) =
              service.store.filter fun entry =>
                ¬(applicationOf env entry.key).accessTokenId = toString tokenId.toNat := by
            refine filter_congr fun entry present => decide_eq_decide.2 (not_congr ⟨?_, ?_⟩)
            · rintro ⟨item, listed, isToken, same⟩
              rw [same]
              exact (sameToken item (perm.mem_iff.1 listed)).1 isToken
            · exact fun isToken =>
                ⟨entry, perm.mem_iff.2 present, (sameToken entry present).2 isToken, rfl⟩
          rw [kept]
          exact ⟨fun refused => absurd rfl refused,
            fun _ => sound.remove (·.accessTokenId = toString tokenId.toNat),
            fun entry present apart => mem_filter.2 ⟨present, by simpa using apart⟩⟩

section

variable {isConcerned : Application -> Prop} {written : Application -> Option AutoStartupStatus}

theorem performed_unless {code : ErrCode} {result : KvStore × ErrCode}
    (passed : Performed env service isConcerned written result) :
    Performed env service isConcerned written
      (if code ≠ .errOk then (service.store, code) else result) := by
  split
  next denied => exact performed_refused denied
  · exact passed

theorem performed_ofAbility {checks : Checks} {result : AutoStartupAbilityData -> KvStore × ErrCode}
    (passed : ∀ abilityData, checks.abilityData = some abilityData ->
      Performed env service isConcerned written (result abilityData)) :
    Performed env service isConcerned written
      (match checks.getAbilityInfo with
      | .error code => (service.store, code)
      | .ok abilityData => result abilityData) := by
  rw [Checks.getAbilityInfo]
  cases given : checks.abilityData with
  | none => exact performed_refused nofun
  | some abilityData =>
    dsimp only
    split_ifs
    · exact performed_refused nofun
    · exact performed_refused nofun
    · exact passed abilityData given

end

theorem Performed.weaken {isConcerned isTouched : Application -> Prop}
    {written : Application -> Option AutoStartupStatus} {result : KvStore × ErrCode}
    (performed : Performed env service isConcerned written result)
    (fewer : ∀ application, isConcerned application -> isTouched application) :
    Performed env service isTouched written result where
  __ := performed
  others entry present apart := performed.others entry present fun isThis => apart (fewer _ isThis)

namespace AutoStartupStep

def fullInfo? : AutoStartupStep -> Option AutoStartupInfo
  | .setApplicationAutoStartup info checks _ | .cancelApplicationAutoStartup info checks _ =>
    checks.abilityData.map (info.withAbilityData · .user)
  | .setApplicationAutoStartupByEDM info _ isHiddenStart checks _ =>
    checks.abilityData.map ({ info.withAbilityData · .system with isHiddenStart })
  | .cancelApplicationAutoStartupByEDM info _ checks _ =>
    checks.abilityData.map (info.withAbilityData · .system)
  | .deleteAutoStartupData _ _ _ => none

def Dumped (json : Nlohmann) (step : AutoStartupStep) : Prop :=
  ∀ info ∈ step.fullInfo?, match step with
    | .setApplicationAutoStartup _ _ _ => AutoStartup.Dumped json info true false
    | .setApplicationAutoStartupByEDM _ flag _ _ _ => AutoStartup.Dumped json info true flag
    | .cancelApplicationAutoStartupByEDM _ flag _ _ => AutoStartup.Dumped json info false flag
    | .cancelApplicationAutoStartup _ _ _ | .deleteAutoStartupData _ _ _ => True

end AutoStartupStep

namespace AutoStartupService

def Keeps (env : Environment) (service : AutoStartupService) (step : AutoStartupStep) :
    Prop :=
  match step with
  | .setApplicationAutoStartup _ _ calls => Intact service.store calls ∧
    ∀ info ∈ step.fullInfo?, ReplacesSafely env service.store calls info false
  | .setApplicationAutoStartupByEDM _ _ _ _ calls
  | .cancelApplicationAutoStartupByEDM _ _ _ calls => Intact service.store calls ∧
    ∀ info ∈ step.fullInfo?, ReplacesSafely env service.store calls info true
  | .cancelApplicationAutoStartup _ _ calls => Intact service.store calls
  | .deleteAutoStartupData _ tokenId calls => Intact service.store calls ∧
    CleansUp env service.store calls tokenId

instance (store : KvStore) (calls : KvCalls) : Decidable (Intact store calls) :=
  inferInstanceAs (Decidable (_ = _ ∨ _ ≠ _ ∧ _ ≠ _ ∧ _ ≠ _))

instance (env : Environment) (store : KvStore) (calls : KvCalls) (info : AutoStartupInfo)
    (isByEDM : Bool) : Decidable (ReplacesSafely env store calls info isByEDM) :=
  inferInstanceAs (Decidable (∀ entry ∈ store, _ -> (_ -> _ = _) -> _ -> _ = _))

instance (env : Environment) (store : KvStore) (calls : KvCalls) (tokenId : UInt32) :
    Decidable (CleansUp env store calls tokenId) :=
  inferInstanceAs (Decidable ((_ ∨ ∀ entry ∈ store, _ = _ ∧ _ = _) ∧ (_ -> ∀ number < _, _ = _)))

instance decidableKeeps (env : Environment) (service : AutoStartupService) :
    ∀ step, Decidable (service.Keeps env step)
  | .setApplicationAutoStartup info checks calls =>
    inferInstanceAs (Decidable (Intact service.store calls ∧
      ∀ full ∈ (setApplicationAutoStartup info checks calls).fullInfo?,
        ReplacesSafely env service.store calls full false))
  | .setApplicationAutoStartupByEDM info flag isHiddenStart checks calls =>
    inferInstanceAs (Decidable (Intact service.store calls ∧
      ∀ full ∈ (setApplicationAutoStartupByEDM info flag isHiddenStart checks
        calls).fullInfo?, ReplacesSafely env service.store calls full true))
  | .cancelApplicationAutoStartupByEDM info flag checks calls =>
    inferInstanceAs (Decidable (Intact service.store calls ∧
      ∀ full ∈ (cancelApplicationAutoStartupByEDM info flag checks calls).fullInfo?,
        ReplacesSafely env service.store calls full true))
  | .cancelApplicationAutoStartup _ _ calls => inferInstanceAs (Decidable (Intact _ calls))
  | .deleteAutoStartupData _ tokenId calls =>
    inferInstanceAs (Decidable (Intact _ calls ∧ CleansUp env _ calls tokenId))

def mayChange (service : AutoStartupService) : AutoStartupStep -> Application -> Prop
  | .setApplicationAutoStartup _ _ _, application
  | .cancelApplicationAutoStartup _ _ _, application =>
    ∀ status, service.lastWritten application = some status -> status.isEdmForce = false
  | .setApplicationAutoStartupByEDM _ _ _ _ _, _ | .cancelApplicationAutoStartupByEDM _ _ _ _, _
  | .deleteAutoStartupData _ _ _, _ => True

end AutoStartupService

theorem Coherent.perform (sound : Coherent env service)
    (perm : (env.getEntries service.store).Perm service.store) {step : AutoStartupStep}
    (dumped : step.Dumped env.json) (keeps : service.Keeps env step) :
    Performed env service (service.mayChange step)
      (written service.lastWritten step) (service.perform env step) := by
  cases step with
  | setApplicationAutoStartup info checks calls =>
    obtain ⟨intact, safe⟩ := keeps
    refine performed_unless ?_
    split
    · exact performed_refused nofun
    · refine performed_ofAbility fun abilityData given => performed_unless ?_
      have isFull : (setApplicationAutoStartup info checks calls).fullInfo? =
          some (info.withAbilityData abilityData .user) := by
        rw [fullInfo?, given, Option.map_some]
      rw [written, given]
      exact (innerSetApplicationAutoStartup_performed sound perm intact (dumped _ isFull)
        (safe _ isFull)).weaken fun application concerned => concerned.2
  | cancelApplicationAutoStartup info checks calls =>
    refine performed_unless (performed_ofAbility fun abilityData given => performed_unless ?_)
    rw [written, given]
    exact (innerCancelApplicationAutoStartup_performed sound perm keeps).weaken
      fun application concerned => concerned.2
  | setApplicationAutoStartupByEDM info flag isHiddenStart checks calls =>
    obtain ⟨intact, safe⟩ := keeps
    refine performed_unless (performed_ofAbility fun abilityData given =>
      performed_unless (performed_unless ?_))
    have isFull : (setApplicationAutoStartupByEDM info flag isHiddenStart checks
        calls).fullInfo? = some { info.withAbilityData abilityData .system with isHiddenStart } := by
      rw [fullInfo?, given, Option.map_some]
    rw [written, given]
    exact (innerApplicationAutoStartupByEDM_performed sound perm intact (dumped _ isFull)
      (safe _ isFull)).weaken fun _ _ => trivial
  | cancelApplicationAutoStartupByEDM info flag checks calls =>
    obtain ⟨intact, safe⟩ := keeps
    refine performed_unless (performed_ofAbility fun abilityData given => performed_unless ?_)
    have isFull : (cancelApplicationAutoStartupByEDM info flag checks
        calls).fullInfo? = some (info.withAbilityData abilityData .system) := by
      rw [fullInfo?, given, Option.map_some]
    rw [written, given]
    exact (innerApplicationAutoStartupByEDM_performed sound perm intact (dumped _ isFull)
      (safe _ isFull)).weaken fun _ _ => trivial
  | deleteAutoStartupData bundleName tokenId calls =>
    exact (sound.cleanUp perm keeps.1 bundleName keeps.2).weaken fun _ _ => trivial

namespace AutoStartupService

structure Good (env : Environment) (service : AutoStartupService) : Prop where
  once : (service.store.map fun entry => applicationOf env entry.key).Nodup
  query : ∀ info calls, isInvalid info = false -> calls.hasKvStore = true ->
    calls.getEntries = .success ->
    match service.lastWritten info.application with
    | none => queryAutoStartupData env service.store calls info =
        (service.store, .errNameNotFound, {}, "")
    | some status => ∃ originKey, queryAutoStartupData env service.store calls info =
        (service.store, .errOk, status, originKey)

/-- An error leaves the store as it was, and a set or cancel an entry that is forced. -/
structure Leaves (env : Environment) (service : AutoStartupService)
    (step : AutoStartupStep) : Prop where
  failed : (service.perform env step).2 ≠ .errOk ->
    (service.perform env step).1 = service.store
  forced : ∀ entry ∈ service.store,
    (convertAutoStartupStatusFromValue env entry.value {}).isEdmForce = true ->
    match step with
    | .setApplicationAutoStartup _ _ _ | .cancelApplicationAutoStartup _ _ _ =>
      entry ∈ (service.perform env step).1
    | .setApplicationAutoStartupByEDM _ _ _ _ _ | .cancelApplicationAutoStartupByEDM _ _ _ _
    | .deleteAutoStartupData _ _ _ => True

end AutoStartupService

open AutoStartupService

section

variable (sound : Coherent env service)
include sound

theorem Coherent.good (perm : (env.getEntries service.store).Perm service.store) :
    service.Good env where
  once := sound.once
  query info calls valid hasKvStore isRead := by
    rcases sound.query_found perm valid hasKvStore isRead with
      ⟨unwritten, query⟩ | ⟨entry, present, same, query⟩
    · rw [unwritten]
      exact query
    · rw [<- same, sound.status present]
      exact ⟨entry.key, query⟩

theorem Coherent.leaves {step : AutoStartupStep}
    (performed : Performed env service (service.mayChange step)
      (written service.lastWritten step) (service.perform env step)) :
    service.Leaves env step where
  failed := performed.failed
  forced entry present isForced := by
    have spared : ¬∀ status, service.lastWritten (applicationOf env entry.key) =
        some status -> status.isEdmForce = false := fun free => by
      rw [free _ (sound.status present)] at isForced
      cases isForced
    cases step with
    | setApplicationAutoStartup _ _ _ | cancelApplicationAutoStartup _ _ _ =>
      exact performed.others entry present spared
    | setApplicationAutoStartupByEDM _ _ _ _ _ | cancelApplicationAutoStartupByEDM _ _ _ _
    | deleteAutoStartupData _ _ _ => trivial

theorem Coherent.step {step : AutoStartupStep}
    (performed : Performed env service (service.mayChange step)
      (written service.lastWritten step) (service.perform env step)) :
    Coherent env (service.step env step) := by
  by_cases isOk : (service.perform env step).2 = .errOk
  · have after := performed.sound isOk
    have same : service.step env step =
        ⟨(service.perform env step).1, written service.lastWritten step⟩ := by
      simp [AutoStartupService.step, isOk]
    rwa [same]
  · have same : service.step env step = service := by
      simp [AutoStartupService.step, isOk, performed.failed isOk]
    rwa [same]

end

theorem coherent_start : Coherent env {} where
  holds := nofun
  once := nodup_nil
  stored := nofun

/-- The store is what was written last, as long as no call corrupts it or stops half way. -/
theorem autoStartup_good (env : Environment)
    (getEntries : ∀ store, (env.getEntries store).Perm store) (steps : List AutoStartupStep)
    (dumped : ∀ step ∈ steps, step.Dumped env.json)
    (keeps : (abilityAutoStartupService env).EveryStep steps (Keeps env)) :
    (abilityAutoStartupService env).Throughout steps (Good env) ∧
      (abilityAutoStartupService env).EveryStep steps (Leaves env) := by
  have both : (abilityAutoStartupService env).EveryStep steps fun service step =>
      service.Keeps env step ∧ step.Dumped env.json := by
    intro done step rest split
    exact ⟨keeps done step rest split, dumped step (by simp [split])⟩
  have sound := both.throughout coherent_start fun service step sound keeps =>
    sound.step (sound.perform (getEntries _) keeps.2 keeps.1)
  constructor
  · exact fun reached rest split => (sound reached rest split).good (getEntries _)
  · intro reached step rest split
    have before := sound reached (step :: rest) split
    have kept := both reached step rest split
    exact before.leaves (before.perform (getEntries _) kept.2 kept.1)

def dumpNode : JsonNode -> String
  | .string value => "\"" ++ value ++ "\""
  | .number value => toString value
  | .boolean value => if value then "true" else "false"
  | .other => "null"

def dumpObject (object : JsonObject) : String :=
  "\x7b" ++ ",".intercalate (object.toList.map fun mem =>
    "\"" ++ mem.1 ++ "\":" ++ dumpNode mem.2) ++ "\x7d"

def readingBack (objects : List JsonObject) : Environment where
  json := { dump := dumpObject, parse := fun text => objects.find? (dumpObject · = text) }
  getEntries store := store

def notes : AutoStartupInfo where
  bundleName := "notes"
  abilityName := "sync"

def notesData : AutoStartupAbilityData where
  accessTokenId := "77"
  userId := 100
  setterUserId := 100

def notesChecks : Checks where
  abilityData := some notesData

def notesEnvironment : Environment :=
  let byUser := notes.withAbilityData notesData .user
  let byEDM := notes.withAbilityData notesData .system
  readingBack [.ofList (keyMembers byUser), .ofList (valueMembers byUser true false),
    .ofList (valueMembers byEDM true true)]

theorem notes_dumped (setterType : AutoStartupSetterType) (isEdmForce : Bool)
    (isWritten : setterType = .user ∧ isEdmForce = false ∨
      setterType = .system ∧ isEdmForce = true) :
    Dumped notesEnvironment.json (notes.withAbilityData notesData setterType) true isEdmForce := by
  rcases isWritten with ⟨rfl, rfl⟩ | ⟨rfl, rfl⟩
  · exact ⟨⟨by decide, by decide⟩, ⟨by decide, by decide⟩⟩
  · exact ⟨⟨by decide, by decide⟩, ⟨by decide, by decide⟩⟩

theorem autoStartup_good_notes :
    let steps : List AutoStartupStep :=
      [.setApplicationAutoStartup notes notesChecks {},
        .setApplicationAutoStartupByEDM notes true false notesChecks {},
        .setApplicationAutoStartup notes notesChecks {},
        .cancelApplicationAutoStartup notes notesChecks {}, .deleteAutoStartupData "files" 78 {}]
    let service := (abilityAutoStartupService notesEnvironment).run steps
    (service.store.map fun entry =>
        convertAutoStartupStatusFromValue notesEnvironment entry.value {}) =
      [(notes.withAbilityData notesData .system).status true true] ∧
      (abilityAutoStartupService notesEnvironment).Throughout steps (Good notesEnvironment) ∧
      (abilityAutoStartupService notesEnvironment).EveryStep steps (Leaves notesEnvironment) := by
  intro steps service
  refine ⟨by decide +kernel, autoStartup_good notesEnvironment List.Perm.refl steps ?_
    (Machine.StepsFrom.everyStep (by decide +kernel))⟩
  intro step present
  simp only [steps, List.mem_cons, List.not_mem_nil, or_false] at present
  rcases present with rfl | rfl | rfl | rfl | rfl
  · rintro info ⟨⟩
    exact notes_dumped .user false (.inl ⟨rfl, rfl⟩)
  · rintro info ⟨⟩
    exact notes_dumped .system true (.inr ⟨rfl, rfl⟩)
  · rintro info ⟨⟩
    exact notes_dumped .user false (.inl ⟨rfl, rfl⟩)
  · exact fun _ _ => trivial
  · nofun

theorem failedUpdate_loses_entry :
    let steps : List AutoStartupStep :=
      [.setApplicationAutoStartup notes notesChecks {},
        .setApplicationAutoStartup notes notesChecks { put := .error }]
    let before := (abilityAutoStartupService notesEnvironment).run (steps.take 1)
    (before.perform notesEnvironment steps[1]).2 = .errInvalidOperation ∧
      before.store.length = 1 ∧
      ((abilityAutoStartupService notesEnvironment).run steps).store = [] ∧
      ¬(abilityAutoStartupService notesEnvironment).EveryStep steps (Leaves notesEnvironment) := by
  intro steps before
  refine ⟨by decide, by decide, by decide, fun leaves => ?_⟩
  have same := (leaves (steps.take 1) steps[1] [] rfl).failed (by decide)
  exact absurd (congrArg List.length same) (by decide)

end AbilityRuntime.AutoStartup
