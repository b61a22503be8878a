import AbilityRuntime.AppRunning.MultiUserConfiguration

set_option autoImplicit false

namespace AbilityRuntime.AppRunning.MultiUser

open Library AppRunning.Configuration ConfigurationUpdate KeyedMap AppMgrServiceInner ServiceCall

namespace MultiUserConfigurationMgr

def stored (mgr : MultiUserConfigurationMgr) (userId : Int) (key : String) : Option String :=
  (mgr.getConfigurationByUserId userId).lookup key

def newLanguage (mgr : MultiUserConfigurationMgr) (userId : Int) (accounts : Accounts) :
    Option String :=
  match mgr.multiUserConfiguration.lookup userId with
  | some _ => none
  | none =>
    let language := accounts.getLanguageFromUserId userId
    if language = "" || mgr.globalConfiguration.lookup systemLanguage = some language then none
    else some language

def Handles (accounts : Accounts) (userId other : Int) : Prop :=
  other = userId ∨ other = 0 ∧ userId = accounts.getForegroundOsAccountLocalId

instance (accounts : Accounts) (userId other : Int) : Decidable (Handles accounts userId other) :=
  inferInstanceAs (Decidable (_ ∨ _ ∧ _))

variable {mgr : MultiUserConfigurationMgr} {userId other : Int} {config : Configuration}
  {accounts : Accounts}

theorem userConfiguration_of_none (kept : mgr.newLanguage userId accounts = none) (key : String) :
    (mgr.userConfiguration userId accounts).lookup key = mgr.stored userId key := by
  unfold newLanguage at kept
  unfold userConfiguration stored getConfigurationByUserId
  cases found : mgr.multiUserConfiguration.lookup userId with
  | some own => rfl
  | none =>
    rw [found] at kept
    dsimp only at kept ⊢
    rw [Option.getD_none]
    split
    next spoken =>
      rw [lookup_insert_eq]
      split
      next same =>
        have global : mgr.globalConfiguration.lookup systemLanguage =
            some (accounts.getLanguageFromUserId userId) := by
          by_contra ne
          simp [spoken, ne] at kept
        rw [same, global]
      · rfl
    · rfl

theorem userConfiguration_of_some {language : String}
    (taken : mgr.newLanguage userId accounts = some language) :
    mgr.stored userId systemLanguage ≠ some language ∧
      ∀ key, (mgr.userConfiguration userId accounts).lookup key =
        if key = systemLanguage then some language else mgr.stored userId key := by
  unfold newLanguage at taken
  unfold userConfiguration stored getConfigurationByUserId
  cases found : mgr.multiUserConfiguration.lookup userId with
  | some own =>
    rw [found] at taken
    cases taken
  | none =>
    rw [found] at taken
    dsimp only at taken ⊢
    split at taken
    · cases taken
    next fresh =>
      cases taken
      rw [Bool.or_eq_true, not_or, decide_eq_true_eq, decide_eq_true_eq] at fresh
      rw [Option.getD_none, if_pos fresh.1]
      exact ⟨fresh.2, fun key => lookup_insert_eq ..⟩

theorem setOrUpdateConfigByUserId_stored (key : String) :
    (mgr.setOrUpdateConfigByUserId userId config accounts).1.stored other key =
      if other = userId then
        (config.lookup key).or ((mgr.userConfiguration userId accounts).lookup key)
      else mgr.stored other key := by
  change (((mgr.multiUserConfiguration.insert userId
    (updated (mgr.userConfiguration userId accounts) config)).lookup other).getD
      mgr.globalConfiguration).lookup key = _
  rw [lookup_insert_eq]
  split
  · rw [Option.getD_some, updated_lookup]
  · rfl

theorem setOrUpdateConfigByUserId_userConfiguration (ne : other ≠ userId) :
    (mgr.setOrUpdateConfigByUserId userId config accounts).1.userConfiguration other accounts =
      mgr.userConfiguration other accounts := by
  unfold userConfiguration setOrUpdateConfigByUserId
  rw [lookup_insert_eq, if_neg ne]

theorem handleConfiguration_stored (key : String) :
    (mgr.handleConfiguration userId config accounts).1.stored other key =
      if userId = -1 then (config.lookup key).or (mgr.stored other key)
      else if Handles accounts userId other then
        (config.lookup key).or ((mgr.userConfiguration other accounts).lookup key)
      else mgr.stored other key := by
  unfold handleConfiguration
  by_cases all : userId = -1
  · rw [if_pos all, if_pos all]
    change (((mapValues (fun userConfig => updated userConfig config)
      mgr.multiUserConfiguration).lookup other).getD
        (updated mgr.globalConfiguration config)).lookup key = _
    rw [lookup_mapValues]
    unfold stored getConfigurationByUserId
    cases mgr.multiUserConfiguration.lookup other with
    | none => exact updated_lookup ..
    | some own => exact updated_lookup ..
  · rw [if_neg all, if_neg all]
    dsimp only
    by_cases foreground : userId ≠ 0 ∧ userId = accounts.getForegroundOsAccountLocalId
    · rw [if_pos (by simpa using foreground)]
      rw [setOrUpdateConfigByUserId_stored,
        setOrUpdateConfigByUserId_userConfiguration (Ne.symm foreground.1),
        setOrUpdateConfigByUserId_stored]
      by_cases zero : other = 0
      · rw [if_pos zero, if_pos (.inr ⟨zero, foreground.2⟩), zero]
      · rw [if_neg zero]
        by_cases same : other = userId
        · rw [if_pos same, if_pos (.inl same), same]
        · rw [if_neg same, if_neg (by simp [Handles, same, zero])]
    · rw [if_neg (by simpa using foreground)]
      rw [setOrUpdateConfigByUserId_stored]
      by_cases same : other = userId
      · rw [if_pos same, if_pos (.inl same), same]
      · rw [if_neg same, if_neg]
        rintro (already | ⟨zero, account⟩)
        · exact same already
        · exact foreground ⟨fun empty => same (zero.trans empty.symm), account⟩

def comparedConfiguration (mgr : MultiUserConfigurationMgr) (userId : Int) (accounts : Accounts) :
    Configuration :=
  if userId = -1 then mgr.globalConfiguration else mgr.userConfiguration userId accounts

def Changes (mgr : MultiUserConfigurationMgr) (config : Configuration) (userId : Int)
    (accounts : Accounts) : Prop :=
  hasTheme config = true ∨ ¬Within config (mgr.comparedConfiguration userId accounts)

def ChangesUser0 (mgr : MultiUserConfigurationMgr) (config : Configuration) (userId : Int)
    (accounts : Accounts) : Prop :=
  userId ≠ -1 ∧ userId ≠ 0 ∧ userId = accounts.getForegroundOsAccountLocalId ∧
    ¬Within config (mgr.userConfiguration 0 accounts)

instance : Decidable (mgr.Changes config userId accounts) :=
  inferInstanceAs (Decidable (_ = true ∨ ¬Within _ _))

instance : Decidable (mgr.ChangesUser0 config userId accounts) :=
  inferInstanceAs (Decidable (_ ∧ _ ∧ _ ∧ ¬Within _ _))

theorem handleConfiguration_changeKeyV :
    (mgr.handleConfiguration userId config accounts).2.1.isEmpty =
      decide (Within config (mgr.comparedConfiguration userId accounts)) := by
  unfold handleConfiguration comparedConfiguration
  split
  next all => rw [compareDifferent_isEmpty]
  next single =>
    dsimp only
    split
    · exact compareDifferent_isEmpty ..
    · exact compareDifferent_isEmpty ..

theorem handleConfiguration_isNotifyUser0 :
    (mgr.handleConfiguration userId config accounts).2.2 =
      decide (mgr.ChangesUser0 config userId accounts) := by
  unfold handleConfiguration
  split
  next all => simp [ChangesUser0, all]
  next single =>
    dsimp only
    split
    next foreground =>
      rw [Bool.and_eq_true, decide_eq_true_eq, decide_eq_true_eq] at foreground
      change (!(compareDifferent ((mgr.setOrUpdateConfigByUserId userId config
        accounts).1.userConfiguration 0 accounts) config).isEmpty) = _
      rw [compareDifferent_isEmpty,
        setOrUpdateConfigByUserId_userConfiguration (Ne.symm foreground.1)]
      simp [ChangesUser0, single, foreground.1, <- foreground.2]
    next background =>
      rw [Bool.and_eq_true, decide_eq_true_eq, decide_eq_true_eq] at background
      refine (decide_eq_false fun changes => ?_).symm
      exact background ⟨changes.2.1, changes.2.2.1⟩

theorem dealWithUserConfiguration_eq :
    dealWithUserConfiguration mgr config userId accounts =
      ((mgr.handleConfiguration userId config accounts).1,
        if mgr.Changes config userId accounts then some userId
        else if mgr.ChangesUser0 config userId accounts then some 0 else none) := by
  unfold dealWithUserConfiguration
  have changes := @handleConfiguration_changeKeyV mgr userId config accounts
  have changesUser0 := @handleConfiguration_isNotifyUser0 mgr userId config accounts
  generalize mgr.handleConfiguration userId config accounts = handled at changes changesUser0 ⊢
  dsimp only at changes changesUser0 ⊢
  rw [changes, changesUser0]
  by_cases reported : mgr.Changes config userId accounts
  · rw [if_pos reported, if_pos (by simpa [Changes] using reported)]
  · rw [if_neg reported, if_neg (by simpa [Changes] using reported)]
    by_cases user0 : mgr.ChangesUser0 config userId accounts
    · simp [user0]
    · simp [user0]

def Sends (mgr : MultiUserConfigurationMgr) (config : Configuration) (userId : Int)
    (accounts : Accounts) (other : Int) : Prop :=
  mgr.Changes config userId accounts ∧ (userId = -1 ∨ other = 0 ∨ other = userId) ∨
    mgr.ChangesUser0 config userId accounts ∧ other = 0

instance : Decidable (mgr.Sends config userId accounts other) :=
  inferInstanceAs (Decidable (_ ∧ _ ∨ _ ∧ _))

/-- The processes of a user have what the user has, once the update has been sent. -/
def Follows (mgr : MultiUserConfigurationMgr) (config : Configuration) (userId : Int)
    (accounts : Accounts) (other : Int) : Prop :=
  ∀ key, (mgr.handleConfiguration userId config accounts).1.stored other key =
    if mgr.Sends config userId accounts other then (config.lookup key).or (mgr.stored other key)
    else mgr.stored other key

/-- The users whose processes an update leaves behind. -/
def KeepsUser (mgr : MultiUserConfigurationMgr) (config : Configuration) (userId : Int)
    (accounts : Accounts) (other : Int) : Prop :=
  if userId = -1 then
    ¬mgr.Changes config userId accounts -> Within config (mgr.getConfigurationByUserId other)
  else if Handles accounts userId other then
    mgr.newLanguage other accounts = none ∨
      mgr.Sends config userId accounts other ∧ systemLanguage ∈ config
  else other = 0 -> mgr.Changes config userId accounts ->
    Within config (mgr.getConfigurationByUserId 0)

theorem within_of_not_sends (single : userId ≠ -1) (handled : Handles accounts userId other)
    (silent : ¬mgr.Sends config userId accounts other) :
    Within config (mgr.userConfiguration other accounts) := by
  rw [Sends, not_or, not_and, not_and] at silent
  rcases handled with rfl | ⟨rfl, foreground⟩
  · have unchanged : ¬mgr.Changes config other accounts :=
      fun changes => silent.1 changes (.inr (.inr rfl))
    rw [Changes, comparedConfiguration, if_neg single, not_or, not_not] at unchanged
    exact unchanged.2
  · by_contra outside
    by_cases zero : userId = 0
    · have unchanged : ¬mgr.Changes config userId accounts :=
        fun changes => silent.1 changes (.inr (.inl rfl))
      rw [Changes, comparedConfiguration, if_neg single, zero, not_or, not_not] at unchanged
      exact outside unchanged.2
    · exact silent.2 ⟨single, zero, foreground, outside⟩ rfl

theorem follows_iff : mgr.Follows config userId accounts other ↔
    mgr.KeepsUser config userId accounts other := by
  unfold Follows KeepsUser
  simp only [handleConfiguration_stored]
  by_cases all : userId = -1
  · simp only [if_pos all]
    have user0 : ¬mgr.ChangesUser0 config userId accounts := fun changes => changes.1 all
    by_cases reported : mgr.Changes config userId accounts
    · have sends : mgr.Sends config userId accounts other := .inl ⟨reported, .inl all⟩
      simp [sends, reported]
    · have silent : ¬mgr.Sends config userId accounts other := by simp [Sends, reported, user0]
      simp only [if_neg silent, reported, not_false_eq_true, forall_const]
      exact within_iff.symm
  · simp only [if_neg all]
    by_cases handled : Handles accounts userId other
    · simp only [if_pos handled]
      constructor
      · intro follows
        cases taken : mgr.newLanguage other accounts with
        | none => exact .inl rfl
        | some language =>
          obtain ⟨ne, lookups⟩ := userConfiguration_of_some taken
          have spoken := follows systemLanguage
          rw [lookups systemLanguage, if_pos rfl] at spoken
          by_cases sends : mgr.Sends config userId accounts other
          · refine .inr ⟨sends, ?_⟩
            rw [if_pos sends] at spoken
            cases found : config.lookup systemLanguage with
            | some value => exact mem_of_lookup found
            | none =>
              rw [found] at spoken
              exact absurd spoken.symm ne
          · rw [if_neg sends] at spoken
            have within := within_of_not_sends all handled sends
            have unchanged := within.or_lookup systemLanguage
            rw [lookups systemLanguage, if_pos rfl] at unchanged
            exact absurd (spoken.symm.trans unchanged) ne
      · rintro (kept | ⟨sends, speaks⟩) key
        · rw [userConfiguration_of_none kept]
          split
          · rfl
          next silent =>
            have within := within_of_not_sends all handled silent
            have unchanged := within.or_lookup key
            rwa [userConfiguration_of_none kept] at unchanged
        · rw [if_pos sends]
          cases taken : mgr.newLanguage other accounts with
          | none => rw [userConfiguration_of_none taken]
          | some language =>
            rw [(userConfiguration_of_some taken).2 key]
            split
            next same =>
              obtain ⟨value, found⟩ := Option.isSome_iff_exists.mp (AList.lookup_isSome.mpr speaks)
              rw [same, found]
              rfl
            · rfl
    · simp only [if_neg handled]
      rw [Handles, not_or, not_and] at handled
      by_cases zero : other = 0
      · subst zero
        have background := handled.2 rfl
        have user0 : ¬mgr.ChangesUser0 config userId accounts :=
          fun changes => background changes.2.2.1
        by_cases reported : mgr.Changes config userId accounts
        · have sends : mgr.Sends config userId accounts 0 := .inl ⟨reported, .inr (.inl rfl)⟩
          simp only [if_pos sends, reported, forall_const]
          rw [within_iff]
          exact forall_congr' fun key => eq_comm
        · have silent : ¬mgr.Sends config userId accounts 0 := by simp [Sends, reported, user0]
          simp [silent, reported]
      · have silent : ¬mgr.Sends config userId accounts other := by
          simp [Sends, all, zero, handled.1]
        simp [silent, zero]

/-- Nothing is said to have changed only when no user's configuration has changed. -/
def Reports (mgr : MultiUserConfigurationMgr) (config : Configuration) (userId : Int)
    (accounts : Accounts) : Prop :=
  (dealWithUserConfiguration mgr config userId accounts).2 = none ->
    ∀ other key, (dealWithUserConfiguration mgr config userId accounts).1.stored
      other key = mgr.stored other key

def KeepsReport (mgr : MultiUserConfigurationMgr) (config : Configuration) (userId : Int)
    (accounts : Accounts) : Prop :=
  ¬mgr.Changes config userId accounts -> ¬mgr.ChangesUser0 config userId accounts ->
    if userId = -1 then
      ∀ own ∈ KeyedMap.values mgr.multiUserConfiguration, Within config own
    else mgr.newLanguage userId accounts = none ∧
      (userId = accounts.getForegroundOsAccountLocalId -> mgr.newLanguage 0 accounts = none)

theorem not_reported_iff :
    (dealWithUserConfiguration mgr config userId accounts).2 = none ↔
      ¬mgr.Changes config userId accounts ∧ ¬mgr.ChangesUser0 config userId accounts := by
  rw [dealWithUserConfiguration_eq]
  split
  next changes => simp [changes]
  next same =>
    split
    next changes => simp [changes]
    next kept => simp [same, kept]

theorem within_all_iff (global : Within config mgr.globalConfiguration) :
    (∀ other, Within config (mgr.getConfigurationByUserId other)) ↔
      ∀ own ∈ values mgr.multiUserConfiguration, Within config own := by
  constructor
  · intro all own present
    obtain ⟨other, found⟩ := mem_values.mp present
    have within := all other
    rwa [getConfigurationByUserId, found, Option.getD_some] at within
  · intro owns other
    unfold getConfigurationByUserId
    cases found : mgr.multiUserConfiguration.lookup other with
    | none => exact global
    | some own => exact owns own (mem_values.mpr ⟨other, found⟩)

theorem kept_iff (single : userId ≠ -1) (handled : Handles accounts userId other)
    (same : ¬mgr.Changes config userId accounts) (kept : ¬mgr.ChangesUser0 config userId accounts) :
    (∀ key, (config.lookup key).or ((mgr.userConfiguration other accounts).lookup key) =
      mgr.stored other key) ↔ mgr.newLanguage other accounts = none := by
  have silent : ¬mgr.Sends config userId accounts other := by simp [Sends, same, kept]
  have within := within_of_not_sends single handled silent
  constructor
  · intro equal
    cases taken : mgr.newLanguage other accounts with
    | none => rfl
    | some language =>
      obtain ⟨ne, lookups⟩ := userConfiguration_of_some taken
      have spoken := equal systemLanguage
      rw [within.or_lookup, lookups systemLanguage, if_pos rfl] at spoken
      exact absurd spoken.symm ne
  · intro none key
    rw [within.or_lookup, userConfiguration_of_none none]

theorem reports_iff : mgr.Reports config userId accounts ↔
    mgr.KeepsReport config userId accounts := by
  unfold Reports KeepsReport
  rw [not_reported_iff, and_imp]
  refine forall₂_congr fun same kept => ?_
  rw [show (dealWithUserConfiguration mgr config userId accounts).1 =
    (mgr.handleConfiguration userId config accounts).1 by rw [dealWithUserConfiguration_eq]]
  simp only [handleConfiguration_stored]
  by_cases all : userId = -1
  · simp only [if_pos all]
    rw [Changes, comparedConfiguration, if_pos all, not_or, not_not] at same
    rw [<- within_all_iff same.2]
    exact forall_congr' fun other => within_iff.symm
  · simp only [if_neg all]
    constructor
    · intro unchanged
      refine ⟨(kept_iff all (.inl rfl) same kept).mp fun key => ?_, fun foreground =>
        (kept_iff all (.inr ⟨rfl, foreground⟩) same kept).mp fun key => ?_⟩
      · have := unchanged userId key
        rwa [if_pos (.inl rfl)] at this
      · have := unchanged 0 key
        rwa [if_pos (.inr ⟨rfl, foreground⟩)] at this
    · rintro ⟨own, user0⟩ other key
      split
      next handled =>
        refine (kept_iff all handled same kept).mpr ?_ key
        rcases handled with rfl | ⟨rfl, foreground⟩
        · exact own
        · exact user0 foreground
      · rfl

end MultiUserConfigurationMgr

namespace AppMgrServiceInner

open MultiUserConfigurationMgr

/-- A process that is not in the background has what its user would be launched with now. -/
def InStep (service : AppMgrServiceInner) : Prop :=
  ∀ recordId process, service.processes.lookup recordId = some process ->
    process.record.state ≠ .create -> process.record.state ≠ .background ->
      ∀ key, (received process.configurations).lookup key =
        service.multiUserConfigurationMgr.stored process.userId key

def ReportsChanges (service : AppMgrServiceInner) : ServiceStep -> Prop
  | .updateForUser config userId accounts =>
    service.multiUserConfigurationMgr.Reports config userId accounts
  | _ => True

def KeepsUsers (service : AppMgrServiceInner) : ServiceStep -> Prop
  | .updateForUser config userId accounts => ∀ process ∈ KeyedMap.values service.processes,
    service.multiUserConfigurationMgr.KeepsUser config userId accounts process.userId
  | _ => True

def KeepsReports (service : AppMgrServiceInner) : ServiceStep -> Prop
  | .updateForUser config userId accounts =>
    service.multiUserConfigurationMgr.KeepsReport config userId accounts
  | _ => True

structure Coherent (service : AppMgrServiceInner) : Prop where
  running : ∀ recordId process, service.processes.lookup recordId = some process ->
    process.record.state = .ready ∨ process.record.state = .foreground
  inStep : service.InStep

variable {service : AppMgrServiceInner} {config : Configuration} {userId : Int}
  {accounts : Accounts}

theorem updateConfiguration_of_running {record : ConfigurationUpdate.AppRunningRecord}
    (running : record.state = .ready ∨ record.state = .foreground) (notifyUserId : Int) :
    (record.updateConfiguration config notifyUserId).sent =
      (if record.isOfUser notifyUserId then record.sent ++ [config] else record.sent) ∧
    (record.updateConfiguration config notifyUserId).state = record.state ∧
    (record.updateConfiguration config notifyUserId).uid = record.uid := by
  have created : record.state ≠ .create := by rcases running with ready | foreground <;> simp [*]
  have direct : record.isUpdatedDirectly = true := by
    rcases running with ready | foreground <;>
      simp [ConfigurationUpdate.AppRunningRecord.isUpdatedDirectly, *]
  unfold ConfigurationUpdate.AppRunningRecord.updateConfiguration
    ConfigurationUpdate.AppRunningRecord.isConcerned
  cases ofUser : record.isOfUser notifyUserId with
  | false => simp
  | true =>
    have still : ({ record with updates := record.updates ++ [config] }).isUpdatedDirectly = true :=
      direct
    simp [created, still, ConfigurationUpdate.AppRunningRecord.send]

def notified (config : Configuration) (notifyUserId : Option Int) (process : Process) : Process :=
  match notifyUserId with
  | none => process
  | some notifyUserId =>
    { process with record := process.record.updateConfiguration config notifyUserId }

theorem updateForUser_lookup (recordId : Nat) :
    (service.updateForUser config userId accounts).processes.lookup recordId =
      (service.processes.lookup recordId).map (notified config
        (dealWithUserConfiguration service.multiUserConfigurationMgr config userId accounts).2) := by
  unfold updateForUser
  split
  next mgr dealt =>
    rw [dealt]
    exact Option.map_id'.symm
  next mgr notifyUserId dealt =>
    rw [dealt]
    exact lookup_mapValues ..

theorem updateForUser_mgr :
    (service.updateForUser config userId accounts).multiUserConfigurationMgr =
      (service.multiUserConfigurationMgr.handleConfiguration userId config accounts).1 := by
  have dealt := @dealWithUserConfiguration_eq service.multiUserConfigurationMgr userId config accounts
  unfold updateForUser
  split
  next mgr same =>
    rw [same] at dealt
    exact congrArg Prod.fst dealt
  next mgr notifyUserId same =>
    rw [same] at dealt
    exact congrArg Prod.fst dealt

theorem isOfUser_iff (process : Process) (notifyUserId : Int) :
    process.record.isOfUser notifyUserId = true ↔
      notifyUserId = -1 ∨ process.userId = 0 ∨ process.userId = notifyUserId := by
  have zero : process.userId = 0 ↔ process.record.uid / baseUserRange = 0 := by
    unfold Process.userId
    omega
  unfold ConfigurationUpdate.AppRunningRecord.isOfUser
  rw [Bool.or_eq_true, Bool.or_eq_true, decide_eq_true_eq, decide_eq_true_eq, decide_eq_true_eq, zero,
    or_assoc]
  rfl

theorem notified_received {process : Process}
    (running : process.record.state = .ready ∨ process.record.state = .foreground) :
    let after := notified config
      (dealWithUserConfiguration service.multiUserConfigurationMgr config userId accounts).2 process
    after.record.state = process.record.state ∧ after.userId = process.userId ∧
      ∀ key, (received after.configurations).lookup key =
        if service.multiUserConfigurationMgr.Sends config userId accounts process.userId then
          (config.lookup key).or ((received process.configurations).lookup key)
        else (received process.configurations).lookup key := by
  have handed (notifyUserId : Int) :
      let after := notified config (some notifyUserId) process
      after.record.state = process.record.state ∧ after.userId = process.userId ∧
        ∀ key, (received after.configurations).lookup key =
          if process.record.isOfUser notifyUserId then
            (config.lookup key).or ((received process.configurations).lookup key)
          else (received process.configurations).lookup key := by
    obtain ⟨sent, state, uid⟩ := @updateConfiguration_of_running config _ running notifyUserId
    refine ⟨state, ?_, fun key => ?_⟩
    · unfold Process.userId notified
      rw [uid]
    · change (received (process.launchConfiguration ::
        (process.record.updateConfiguration config notifyUserId).sent)).lookup key = _
      rw [sent]
      by_cases ofUser : process.record.isOfUser notifyUserId = true
      · rw [if_pos ofUser, if_pos ofUser, <- List.cons_append, received_concat, updated_lookup]; rfl
      · rw [if_neg ofUser, if_neg ofUser]; rfl
  rw [dealWithUserConfiguration_eq]
  split
  next changes =>
    obtain ⟨state, user, received⟩ := handed userId
    refine ⟨state, user, fun key => (received key).trans (if_congr ?_ rfl rfl)⟩
    rw [isOfUser_iff]
    constructor
    · exact fun ofUser => .inl ⟨changes, ofUser⟩
    · rintro (⟨-, ofUser⟩ | ⟨-, zero⟩)
      · exact ofUser
      · exact .inr (.inl zero)
  next same =>
    split
    next changesUser0 =>
      obtain ⟨state, user, received⟩ := handed 0
      refine ⟨state, user, fun key => (received key).trans (if_congr ?_ rfl rfl)⟩
      rw [isOfUser_iff, Sends]
      simp [same, changesUser0]
    next kept =>
      have silent : ¬service.multiUserConfigurationMgr.Sends config userId accounts
          process.userId := by simp [Sends, same, kept]
      exact ⟨rfl, rfl, fun key => (if_neg silent).symm⟩

section

variable (sound : service.Coherent)
include sound

theorem Coherent.follows {recordId : Nat} {process : Process}
    (found : service.processes.lookup recordId = some process) :
    (∀ key, (received (notified config (dealWithUserConfiguration service.multiUserConfigurationMgr
        config userId accounts).2 process).configurations).lookup key =
      (service.updateForUser config userId accounts).multiUserConfigurationMgr.stored
        process.userId key) ↔
    service.multiUserConfigurationMgr.KeepsUser config userId accounts process.userId := by
  have running := sound.running recordId process found
  obtain ⟨-, -, handed⟩ := @notified_received service config userId accounts process running
  have before := sound.inStep recordId process found
    (by rcases running with ready | foreground <;> simp [*])
    (by rcases running with ready | foreground <;> simp [*])
  rw [<- follows_iff, MultiUserConfigurationMgr.Follows, updateForUser_mgr]
  refine forall_congr' fun key => ?_
  rw [handed, before]
  exact eq_comm

theorem Coherent.updateForUser
    (keeps : service.KeepsUsers (.updateForUser config userId accounts)) :
    (service.updateForUser config userId accounts).Coherent := by
  constructor
  · intro recordId after found
    rw [updateForUser_lookup] at found
    obtain ⟨process, held, rfl⟩ := Option.map_eq_some_iff.mp found
    have running := sound.running recordId process held
    rw [(@notified_received service config userId accounts process running).1]
    exact running
  · intro recordId after found _ _ key
    rw [updateForUser_lookup] at found
    obtain ⟨process, held, rfl⟩ := Option.map_eq_some_iff.mp found
    have running := sound.running recordId process held
    rw [(@notified_received service config userId accounts process running).2.1]
    exact (sound.follows held).mpr (keeps process (mem_values.mpr ⟨recordId, held⟩)) key

theorem Coherent.keepsUsers (inStep : (service.updateForUser config userId accounts).InStep) :
    service.KeepsUsers (.updateForUser config userId accounts) := by
  intro process present
  obtain ⟨recordId, held⟩ := mem_values.mp present
  have running := sound.running recordId process held
  obtain ⟨state, user, -⟩ := @notified_received service config userId accounts process running
  refine (sound.follows held).mp fun key => ?_
  have after := inStep recordId _ (by rw [updateForUser_lookup, held]; rfl)
    (by rcases running with ready | foreground <;> simp [*])
    (by rcases running with ready | foreground <;> simp [*]) key
  rwa [user] at after

theorem Coherent.launchApplication (recordId uid : Nat)
    (bundleName : String) : (service.launchApplication recordId uid bundleName).Coherent := by
  unfold AppMgrServiceInner.launchApplication
  split
  · exact sound
  · constructor
    · intro other process found
      rw [lookup_insert_eq] at found
      split at found
      · cases found
        exact .inl rfl
      · exact sound.running other process found
    · intro other process found created background key
      rw [lookup_insert_eq] at found
      split at found
      · cases found
        change (updated ∅ (service.multiUserConfigurationMgr.getConfigurationByUserId _)).lookup key = _
        rw [updated_lookup, AList.lookup_empty, Option.or_none]
        rfl
      · exact sound.inStep other process found created background key

theorem Coherent.applicationForegrounded (recordId : Nat) :
    (service.applicationForegrounded recordId).Coherent := by
  have moved {process : Process}
      (running : process.record.state = .ready ∨ process.record.state = .foreground) :
      process.record.applicationForegrounded.setState =
        { process.record with state := .foreground, foregrounding := false } := by
    unfold ConfigurationUpdate.AppRunningRecord.applicationForegrounded
      ConfigurationUpdate.AppRunningRecord.setState
    rcases running with ready | foreground
    · simp [ready]
    · simp only [foreground]
      split
      · rfl
      next idle =>
        rw [Bool.not_eq_true] at idle
        rw [<- foreground, <- idle]
  constructor
  · intro other process found
    rw [show (service.applicationForegrounded recordId).processes.lookup other = _ from
      lookup_modify ..] at found
    split at found
    · obtain ⟨before, held, rfl⟩ := Option.map_eq_some_iff.mp found
      rw [moved (sound.running recordId before held)]
      exact .inr rfl
    · exact sound.running other process found
  · intro other process found created background key
    rw [show (service.applicationForegrounded recordId).processes.lookup other = _ from
      lookup_modify ..] at found
    split at found
    · obtain ⟨before, held, rfl⟩ := Option.map_eq_some_iff.mp found
      have running := sound.running recordId before held
      rw [moved running]
      exact sound.inStep recordId before held
        (by rcases running with ready | foreground <;> simp [*])
        (by rcases running with ready | foreground <;> simp [*]) key
    · exact sound.inStep other process found created background key

theorem Coherent.step (step : ServiceStep)
    (keeps : service.KeepsUsers step) : (service.step step).Coherent := by
  cases step with
  | launchApplication recordId uid bundleName =>
    exact sound.launchApplication recordId uid bundleName
  | applicationForegrounded recordId => exact sound.applicationForegrounded recordId
  | updateForUser config userId accounts => exact sound.updateForUser keeps

theorem Coherent.keeps {step : ServiceStep}
    (inStep : (service.step step).InStep) : service.KeepsUsers step := by
  cases step with
  | updateForUser config userId accounts => exact sound.keepsUsers inStep
  | launchApplication _ _ _ | applicationForegrounded _ => trivial

end

theorem reportsChanges_iff (step : ServiceStep) :
    service.ReportsChanges step ↔ service.KeepsReports step := by
  cases step with
  | updateForUser config userId accounts => exact reports_iff
  | launchApplication _ _ _ | applicationForegrounded _ => exact .rfl

end AppMgrServiceInner

open AppMgrServiceInner

/-- Processes agree and changes are reported exactly when no update leaves a user behind. -/
theorem appMgrService_inStep_iff (mgr : MultiUserConfigurationMgr) (calls : List ServiceCall) :
    ((appMgrService mgr).Throughout (calls.flatMap steps) InStep ∧
      (appMgrService mgr).EveryStep (calls.flatMap steps) ReportsChanges) ↔
    ((appMgrService mgr).EveryStep (calls.flatMap steps) KeepsUsers ∧
      (appMgrService mgr).EveryStep (calls.flatMap steps) KeepsReports) := by
  have initial : Coherent (appMgrService mgr).start := by
    constructor
    all_goals
      intro recordId process found
      cases found
  refine and_congr ?_ ?_
  · exact @Machine.throughout_iff_everyStep _ _ (appMgrService mgr) (fun _ _ => True) KeepsUsers
      Coherent InStep initial (fun _ step sound _ keeps => sound.step step keeps)
      (fun _ sound => sound.inStep) (fun _ _ sound _ inStep => sound.keeps inStep)
      _ fun _ _ _ _ => trivial
  · exact forall₄_congr fun _ step _ _ => reportsChanges_iff step

theorem globalUpdate_leaves_user :
    let english : Configuration := (∅ : Configuration).insert systemLanguage "en"
    let french : Configuration := (∅ : Configuration).insert systemLanguage "fr"
    let mgr : MultiUserConfigurationMgr :=
      { multiUserConfiguration := (∅ : KeyedMap Int Configuration).insert 100 english
        globalConfiguration := french }
    let calls : List ServiceCall :=
      [.launchApplication 1 20000001 "notes", .updateConfiguration french (-1) {}]
    ¬(appMgrService mgr).Throughout (calls.flatMap steps) InStep ∧
      ¬(appMgrService mgr).EveryStep (calls.flatMap steps) ReportsChanges := by
  constructor
  · intro throughout
    have inStep := throughout _ [] (List.append_nil _).symm
    exact absurd (inStep 1 _ rfl (by decide) (by decide) systemLanguage) (by decide)
  · intro reports
    have reported := reports [.launchApplication 1 20000001 "notes"] _ [] rfl
    exact absurd (reported (by decide) 100 systemLanguage) (by decide)

end AbilityRuntime.AppRunning.MultiUser
