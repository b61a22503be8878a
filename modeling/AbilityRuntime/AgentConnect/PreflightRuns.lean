import AbilityRuntime.AgentConnect.ConnectPreflights

set_option autoImplicit false

namespace AbilityRuntime.AgentConnect

open Library KeyedMap List Option Function PreflightService AList

variable {Card : Type}

/-- Each registration is found once at most, in time, by the attempt it was registered for. -/
structure OneShot (service : PreflightService Card) : Prop where
  once : (service.attempts.filterMap (·.registration)).Nodup
  found : ∀ attempt ∈ service.attempts, ∀ number, attempt.registration = some number ->
    ∃ record, service.registered[number]? = some (attempt.request.want.verificationNonce, record) ∧
      attempt.time < record.expiresAt ∧
      (attempt.matched = true ↔ record.callerUid = attempt.request.callerUid ∧
        record.callerUserId = attempt.request.callerUserId ∧
        isConnectPreflightTargetMatched attempt.request.want record = true)
  missed : ∀ attempt ∈ service.attempts, attempt.registration = none -> attempt.matched = false

def ConnectPreflights.Flagged (state : ConnectPreflights Card) : Prop :=
  ∀ nonce record, state.connectPreflights.lookup nonce = some record ->
    state.connectPreflightCleanupScheduled = true ∧
      state.connectPreflightCleanupAt ≤ record.expiresAt

/-- The records are within the limit, and a task is on its way for the first that expires. -/
structure Scheduled (service : PreflightService Card) : Prop where
  limit : service.mgr.connectPreflights.entries.length ≤ MAX_AGENT_CONNECT_PREFLIGHTS
  flagged : service.mgr.Flagged
  task : service.mgr.connectPreflightCleanupScheduled = true ->
    service.mgr.connectPreflightCleanupAt ∈ service.toSubmit ∨
      service.mgr.connectPreflightCleanupAt ∈ service.outstanding

/-- What makes room and what is taken expires as it should. -/
def KeepsRules (service : PreflightService Card) : PreflightStep Card -> Prop
  | .registerConnectPreflight request draws now => ∀ nonce record,
      service.mgr.registers request draws now = some (nonce, record) ->
      let stored := (service.mgr.pruneExpiredConnectPreflightsLocked now).connectPreflights
      let after := (service.registerConnectPreflight request draws now).mgr.connectPreflights
      if MAX_AGENT_CONNECT_PREFLIGHTS ≤ stored.entries.length then
        ∃ oldest held, stored.lookup oldest = some held ∧
          (∀ other kept, stored.lookup other = some kept -> held.expiresAt ≤ kept.expiresAt) ∧
          after = (stored.erase oldest).insert nonce record
      else after = stored.insert nonce record
  | .tryConsumeConnectPreflight request now => 0 < request.want.verificationNonce ->
      (∀ record, service.mgr.connectPreflights.lookup request.want.verificationNonce =
        some record -> now < record.expiresAt -> service.mgr.finds request now = some record) ∧
      (service.tryConsumeConnectPreflight request now).mgr.connectPreflights.lookup
        request.want.verificationNonce = none
  | .cleanupExpiredConnectPreflights time now =>
      time ∈ service.outstanding -> service.mgr.connectPreflightCleanupScheduled = true ->
      service.mgr.connectPreflightCleanupAt = time ->
      ∀ nonce record, (service.cleanupExpiredConnectPreflights time
        now).mgr.connectPreflights.lookup nonce = some record -> now < record.expiresAt
  | .scheduleConnectPreflightCleanup _ => True

namespace ConnectPreflights

variable {state : ConnectPreflights Card} {now : AgentPreflightTimePoint} {nonce : Int}
  {record : AgentConnectPreflightRecord Card}

theorem lookup_prune :
    (state.pruneExpiredConnectPreflightsLocked now).connectPreflights.lookup nonce = some record ↔
      state.connectPreflights.lookup nonce = some record ∧ now < record.expiresAt := by
  rw [pruneExpiredConnectPreflightsLocked, lookup_filterMapValues, bind_eq_some_iff]
  constructor
  · rintro ⟨held, found, kept⟩
    split at kept
    next later =>
      cases kept
      exact ⟨found, later⟩
    · cases kept
  · rintro ⟨found, later⟩
    exact ⟨record, found, if_pos later⟩

theorem length_prune_le (state : ConnectPreflights Card) (now : AgentPreflightTimePoint) :
    (state.pruneExpiredConnectPreflightsLocked now).connectPreflights.entries.length ≤
      state.connectPreflights.entries.length :=
  length_filterMap_le _ _

theorem earliest_eq_some {earliest : AgentPreflightTimePoint}
    (first : state.getEarliestConnectPreflightExpiryLocked = some earliest) :
    (∃ nonce record, state.connectPreflights.lookup nonce = some record ∧
      record.expiresAt = earliest) ∧
    ∀ nonce record, state.connectPreflights.lookup nonce = some record ->
      earliest ≤ record.expiresAt := by
  obtain ⟨mem, least⟩ := min?_eq_some_iff.1 first
  constructor
  · obtain ⟨record, held, same⟩ := mem_map.1 mem
    obtain ⟨nonce, found⟩ := mem_values.1 held
    exact ⟨nonce, record, found, same⟩
  · exact fun nonce record found =>
      least _ (mem_map_of_mem (mem_values.2 ⟨nonce, found⟩))

theorem earliest_eq_none (none : state.getEarliestConnectPreflightExpiryLocked = none)
    (nonce : Int) : state.connectPreflights.lookup nonce = .none := by
  rw [getEarliestConnectPreflightExpiryLocked, min?_eq_none_iff, map_eq_nil_iff] at none
  by_contra some
  obtain ⟨record, found⟩ := ne_none_iff_exists'.1 some
  have mem := mem_values.2 ⟨nonce, found⟩
  rw [none] at mem
  cases mem

theorem eraseOldest_eq (filled : state.connectPreflights.entries ≠ []) :
    ∃ oldest held, state.connectPreflights.lookup oldest = some held ∧
      (∀ other kept, state.connectPreflights.lookup other = some kept ->
        held.expiresAt ≤ kept.expiresAt) ∧
      state.eraseOldestConnectPreflightLocked =
        { state with connectPreflights := state.connectPreflights.erase oldest } := by
  cases first : state.getEarliestConnectPreflightExpiryLocked with
  | none =>
    exfalso
    rw [getEarliestConnectPreflightExpiryLocked, min?_eq_none_iff, map_eq_nil_iff,
      values, map_eq_nil_iff] at first
    exact filled first
  | some earliest =>
    obtain ⟨⟨nonce, record, found, same⟩, least⟩ := earliest_eq_some first
    have candidates : nonce ∈ state.connectPreflights.keys.filter fun nonce =>
        (state.connectPreflights.lookup nonce).any (·.expiresAt = earliest) :=
      mem_filter.2 ⟨mem_of_lookup found, by simp [found, same]⟩
    cases chosen : state.firstExpiringAt earliest with
    | none =>
      rw [firstExpiringAt, min?_eq_none_iff] at chosen
      rw [chosen] at candidates
      cases candidates
    | some oldest =>
      have due := (mem_filter.1 (min?_eq_some_iff.1 chosen).1).2
      obtain ⟨held, foundOldest, expires⟩ := (any_eq_true _ _).1 due
      refine ⟨oldest, held, foundOldest, fun other kept stored => ?_, ?_⟩
      · exact of_decide_eq_true expires ▸ least other kept stored
      · simp [eraseOldestConnectPreflightLocked, first, chosen]

@[simp] theorem mark_connectPreflights (state : ConnectPreflights Card)
    (expiresAt : AgentPreflightTimePoint) :
    (state.markConnectPreflightCleanupLocked expiresAt).1.connectPreflights =
      state.connectPreflights := by
  unfold markConnectPreflightCleanupLocked
  split <;> rfl

theorem mark_scheduled (state : ConnectPreflights Card) (expiresAt : AgentPreflightTimePoint) :
    (state.markConnectPreflightCleanupLocked expiresAt).1.connectPreflightCleanupScheduled = true ∧
      (state.markConnectPreflightCleanupLocked expiresAt).1.connectPreflightCleanupAt ≤ expiresAt := by
  unfold markConnectPreflightCleanupLocked
  split
  next early => exact early
  · exact ⟨rfl, Int.le_refl _⟩

theorem mark_cases (state : ConnectPreflights Card) (expiresAt : AgentPreflightTimePoint) :
    (state.markConnectPreflightCleanupLocked expiresAt).2 =
        some (state.markConnectPreflightCleanupLocked expiresAt).1.connectPreflightCleanupAt ∧
      (state.connectPreflightCleanupScheduled = true ->
        expiresAt < state.connectPreflightCleanupAt) ∧
      (state.markConnectPreflightCleanupLocked expiresAt).1.connectPreflightCleanupAt = expiresAt ∨
    (state.markConnectPreflightCleanupLocked expiresAt).1 = state ∧
      state.connectPreflightCleanupScheduled = true := by
  unfold markConnectPreflightCleanupLocked
  split
  next early => exact .inr ⟨rfl, early.1⟩
  next late =>
    refine .inl ⟨rfl, fun scheduled => ?_, rfl⟩
    rw [not_and] at late
    exact Int.not_le.1 (late scheduled)

theorem mark_earlier {time : AgentPreflightTimePoint} (expiresAt : AgentPreflightTimePoint)
    (before : state.connectPreflightCleanupScheduled = true ∧
      state.connectPreflightCleanupAt ≤ time) :
    (state.markConnectPreflightCleanupLocked expiresAt).1.connectPreflightCleanupScheduled = true ∧
      (state.markConnectPreflightCleanupLocked expiresAt).1.connectPreflightCleanupAt ≤ time := by
  rcases mark_cases state expiresAt with ⟨_, sooner, same⟩ | ⟨same, _⟩
  · refine ⟨(mark_scheduled state expiresAt).1, ?_⟩
    rw [same]
    exact Int.le_trans (Int.le_of_lt (sooner before.1)) before.2
  · rwa [same]

theorem mark_task (state : ConnectPreflights Card)
    {toSubmit outstanding : List AgentPreflightTimePoint} (expiresAt : AgentPreflightTimePoint)
    (before : state.connectPreflightCleanupScheduled = true ->
      state.connectPreflightCleanupAt ∈ toSubmit ∨ state.connectPreflightCleanupAt ∈ outstanding) :
    (state.markConnectPreflightCleanupLocked expiresAt).1.connectPreflightCleanupAt ∈
        (state.markConnectPreflightCleanupLocked expiresAt).2.toList ++ toSubmit ∨
      (state.markConnectPreflightCleanupLocked expiresAt).1.connectPreflightCleanupAt ∈
        outstanding := by
  rcases mark_cases state expiresAt with ⟨needed, _, _⟩ | ⟨same, scheduled⟩
  · rw [needed]
    exact .inl mem_cons_self
  · rw [same]
    exact (before scheduled).imp_left (mem_append_right _)

theorem lookup_of_freshNonce {draws : List Int} (fresh : state.freshNonce draws = some nonce) :
    nonce ∉ state.connectPreflights := by
  induction draws with
  | nil => cases fresh
  | cons first rest ih =>
    unfold freshNonce at fresh
    split at fresh
    · cases fresh
    · split at fresh
      · exact ih fresh
      next free =>
        cases fresh
        exact free

theorem registerConnectPreflight_eq {request : AgentConnectPreflightRegisterRequest Card}
    {draws : List Int} (registered : state.registers request draws now = some (nonce, record)) :
    state.registerConnectPreflight request draws now =
      ((state.pruneExpiredConnectPreflightsLocked now).makeRoom.store nonce
        record).markConnectPreflightCleanupLocked record.expiresAt := by
  cases draws with
  | nil => simp [registers, freshNonce] at registered
  | cons first rest =>
    have positive : ¬first ≤ 0 := by
      intro none
      simp [registers, freshNonce, none] at registered
    simp [registerConnectPreflight, positive, registered]

theorem registerConnectPreflight_none {request : AgentConnectPreflightRegisterRequest Card}
    {draws : List Int} (unregistered : state.registers request draws now = none) :
    state.registerConnectPreflight request draws now = (state, none) ∨
      state.registerConnectPreflight request draws now =
        (state.pruneExpiredConnectPreflightsLocked now, none) := by
  cases draws with
  | nil => exact .inl rfl
  | cons first rest =>
    by_cases positive : first ≤ 0 <;> simp [registerConnectPreflight, positive, unregistered]

theorem makeRoom_cases (state : ConnectPreflights Card) :
    state.makeRoom = state ∧ state.connectPreflights.entries.length < MAX_AGENT_CONNECT_PREFLIGHTS ∨
      MAX_AGENT_CONNECT_PREFLIGHTS ≤ state.connectPreflights.entries.length ∧
      ∃ oldest held, state.connectPreflights.lookup oldest = some held ∧
        (∀ other kept, state.connectPreflights.lookup other = some kept ->
          held.expiresAt ≤ kept.expiresAt) ∧
        state.makeRoom =
          { state with connectPreflights := state.connectPreflights.erase oldest } := by
  unfold makeRoom
  split
  next full =>
    refine .inr ⟨full, eraseOldest_eq ?_⟩
    intro empty
    rw [empty, length_nil, MAX_AGENT_CONNECT_PREFLIGHTS] at full
    omega
  next room => exact .inl ⟨rfl, not_le.1 room⟩

theorem lookup_of_makeRoom (found : state.makeRoom.connectPreflights.lookup nonce = some record) :
    state.connectPreflights.lookup nonce = some record := by
  rcases makeRoom_cases state with ⟨same, _⟩ | ⟨_, oldest, _, _, _, erased⟩
  · rwa [same] at found
  · rw [erased] at found
    exact lookup_of_erase found

theorem makeRoom_scheduled (state : ConnectPreflights Card) :
    state.makeRoom.connectPreflightCleanupScheduled = state.connectPreflightCleanupScheduled ∧
      state.makeRoom.connectPreflightCleanupAt = state.connectPreflightCleanupAt := by
  rcases makeRoom_cases state with ⟨same, _⟩ | ⟨_, _, _, _, _, erased⟩
  · rw [same]; exact ⟨rfl, rfl⟩
  · rw [erased]; exact ⟨rfl, rfl⟩

theorem Flagged.store (flagged : state.Flagged) (nonce : Int)
    (record : AgentConnectPreflightRecord Card) :
    ((state.makeRoom.store nonce record).markConnectPreflightCleanupLocked
      record.expiresAt).1.Flagged := by
  intro other kept found
  rw [mark_connectPreflights, ConnectPreflights.store, lookup_insert_eq] at found
  split at found
  · cases found
    exact mark_scheduled _ record.expiresAt
  · refine mark_earlier _ ?_
    have before := flagged other kept (lookup_of_makeRoom found)
    rwa [<- (makeRoom_scheduled state).1, <- (makeRoom_scheduled state).2] at before

theorem length_makeRoom_lt (within : state.connectPreflights.entries.length ≤
    MAX_AGENT_CONNECT_PREFLIGHTS) :
    state.makeRoom.connectPreflights.entries.length < MAX_AGENT_CONNECT_PREFLIGHTS := by
  rcases makeRoom_cases state with ⟨same, room⟩ | ⟨full, oldest, held, found, _, erased⟩
  · rwa [same]
  · have fewer := (values_erase_perm found).length_eq
    simp only [values, length_map, length_cons] at fewer
    rw [erased]
    change (state.connectPreflights.erase oldest).entries.length < _
    omega

theorem length_insert_le {map : KeyedMap Int (AgentConnectPreflightRecord Card)} {limit : Nat}
    (free : nonce ∉ map) (within : map.entries.length < limit) :
    (map.insert nonce record).entries.length ≤ limit := by
  rw [insert_of_notMem free]
  exact within

/-- Only the task that is scheduled takes records away, and it schedules the next. -/
theorem cleanup_cases (state : ConnectPreflights Card) (scheduledAt now : AgentPreflightTimePoint) :
    state.cleanupExpiredConnectPreflights scheduledAt now = (state, none) ∧
        (state.connectPreflightCleanupScheduled = true ->
          state.connectPreflightCleanupAt ≠ scheduledAt) ∨
      (state.cleanupExpiredConnectPreflights scheduledAt now).1.connectPreflights =
          (state.pruneExpiredConnectPreflightsLocked now).connectPreflights ∧
        (state.cleanupExpiredConnectPreflights scheduledAt now).1.Flagged ∧
        ((state.cleanupExpiredConnectPreflights scheduledAt
            now).1.connectPreflightCleanupScheduled = true ->
          (state.cleanupExpiredConnectPreflights scheduledAt now).2 =
            some (state.cleanupExpiredConnectPreflights scheduledAt
              now).1.connectPreflightCleanupAt) := by
  unfold cleanupExpiredConnectPreflights
  split
  next other =>
    refine .inl ⟨rfl, fun scheduled same => ?_⟩
    exact other.elim (· scheduled) (· same)
  · right
    dsimp only
    split
    next none =>
      exact ⟨rfl, fun nonce record found => by simp [earliest_eq_none none nonce] at found, nofun⟩
    next earliest first =>
      refine ⟨mark_connectPreflights _ earliest, fun nonce record found => ?_, fun _ => ?_⟩
      · obtain ⟨scheduled, early⟩ := mark_scheduled
          (({ state with connectPreflightCleanupScheduled := false } :
            ConnectPreflights Card).pruneExpiredConnectPreflightsLocked now) earliest
        exact ⟨scheduled, Int.le_trans early ((earliest_eq_some first).2 nonce record found)⟩
      · rcases mark_cases (({ state with connectPreflightCleanupScheduled := false } :
            ConnectPreflights Card).pruneExpiredConnectPreflightsLocked now) earliest with
          ⟨needed, _, _⟩ | ⟨_, scheduled⟩
        · exact needed
        · cases scheduled

end ConnectPreflights

/-- A stored record is that of the last registration of its nonce, and no attempt has found it. -/
structure Coherent (service : PreflightService Card) : Prop extends OneShot service,
    Scheduled service where
  stored : ∀ nonce record, service.mgr.connectPreflights.lookup nonce = some record ->
    service.registered[service.latest nonce]? = some (nonce, record) ∧
      ∀ attempt ∈ service.attempts, attempt.registration ≠ some (service.latest nonce)

namespace Coherent

open ConnectPreflights

variable {service : PreflightService Card} {now : AgentPreflightTimePoint}

theorem initial : Coherent ({} : PreflightService Card) where
  once := nodup_nil
  found := nofun
  missed := nofun
  limit := Nat.zero_le _
  flagged := fun _ _ found => by simp at found
  task := nofun
  stored := fun _ _ found => by simp at found

section

variable (sound : Coherent service)
include sound

theorem shrink {mgr : ConnectPreflights Card}
    (fewer : ∀ nonce record, mgr.connectPreflights.lookup nonce = some record ->
      service.mgr.connectPreflights.lookup nonce = some record)
    (length : mgr.connectPreflights.entries.length ≤ service.mgr.connectPreflights.entries.length)
    (scheduled : mgr.connectPreflightCleanupScheduled =
      service.mgr.connectPreflightCleanupScheduled)
    (time : mgr.connectPreflightCleanupAt = service.mgr.connectPreflightCleanupAt) :
    Coherent { service with mgr } where
  __ := sound
  limit := Nat.le_trans length sound.limit
  flagged := fun nonce record found => by
    rw [scheduled, time]
    exact sound.flagged nonce record (fewer nonce record found)
  task := by
    rw [scheduled]
    exact fun due => time ▸ sound.task due
  stored := fun nonce record found => sound.stored nonce record (fewer nonce record found)

theorem prune (now : AgentPreflightTimePoint) :
    Coherent { service with mgr := service.mgr.pruneExpiredConnectPreflightsLocked now } :=
  sound.shrink (fun _ _ found => (lookup_prune.1 found).1) (length_prune_le _ now) rfl rfl

theorem numbered {attempt : PreflightAttempt} (mem : attempt ∈ service.attempts) :
    attempt.registration ≠ some service.registered.length := by
  intro last
  obtain ⟨record, held, _⟩ := sound.found attempt mem _ last
  rw [getElem?_eq_none (Nat.le_refl _)] at held
  cases held

theorem registers {nonce : Int} {record : AgentConnectPreflightRecord Card}
    {mgr : ConnectPreflights Card} (fresh : nonce ∉ service.mgr.connectPreflights)
    (stored : mgr.connectPreflights =
      service.mgr.makeRoom.connectPreflights.insert nonce record) (flagged : mgr.Flagged)
    {toSubmit : List AgentPreflightTimePoint}
    (task : mgr.connectPreflightCleanupScheduled = true ->
      mgr.connectPreflightCleanupAt ∈ toSubmit ∨
        mgr.connectPreflightCleanupAt ∈ service.outstanding) :
    Coherent { service with
      mgr
      toSubmit
      registered := service.registered ++ [(nonce, record)]
      latest := update service.latest nonce service.registered.length } where
  __ := sound
  found := fun attempt mem number found => by
    obtain ⟨held, registered, outcome⟩ := sound.found attempt mem number found
    refine ⟨held, ?_, outcome⟩
    have earlier := (List.getElem?_eq_some_iff.1 registered).1
    exact (List.getElem?_append_left earlier).trans registered
  limit := by
    have room : nonce ∉ service.mgr.makeRoom.connectPreflights := by
      intro mem
      obtain ⟨held, found⟩ := isSome_iff_exists.1 (lookup_isSome.2 mem)
      exact fresh (mem_of_lookup (lookup_of_makeRoom found))
    rw [stored]
    exact length_insert_le room (length_makeRoom_lt sound.limit)
  flagged := flagged
  task := task
  stored := fun other kept found => by
    change (service.registered ++ [(nonce, record)])[update service.latest nonce
      service.registered.length other]? = some (other, kept) ∧ ∀ attempt ∈ service.attempts,
        attempt.registration ≠ some (update service.latest nonce service.registered.length other)
    rw [stored] at found
    by_cases same : other = nonce
    · subst same
      rw [lookup_insert_eq, if_pos rfl] at found
      cases found
      rw [update_self]
      exact ⟨List.getElem?_concat_length, fun attempt mem => sound.numbered mem⟩
    · rw [lookup_insert_eq, if_neg same] at found
      rw [update_of_ne same]
      obtain ⟨registered, unfound⟩ := sound.stored other kept (lookup_of_makeRoom found)
      have earlier := (List.getElem?_eq_some_iff.1 registered).1
      exact ⟨(List.getElem?_append_left earlier).trans registered, unfound⟩

theorem registerConnectPreflight (request : AgentConnectPreflightRegisterRequest Card)
    (draws : List Int) (now : AgentPreflightTimePoint) :
    Coherent (service.registerConnectPreflight request draws now) := by
  unfold PreflightService.registerConnectPreflight
  cases registered : service.mgr.registers request draws now with
  | none =>
    rcases registerConnectPreflight_none registered with same | same
    · simpa [same] using sound
    · simpa [same] using sound.prune now
  | some entry =>
    obtain ⟨nonce, record⟩ := entry
    have fresh : nonce ∉
        (service.mgr.pruneExpiredConnectPreflightsLocked now).connectPreflights := by
      obtain ⟨_, drawn, same⟩ := map_eq_some_iff.1 registered
      cases same
      exact lookup_of_freshNonce drawn
    have pruned := sound.prune now
    rw [registerConnectPreflight_eq registered]
    generalize service.mgr.pruneExpiredConnectPreflightsLocked now = mgr at *
    have stored := mark_connectPreflights (mgr.makeRoom.store nonce record) record.expiresAt
    have flagged := pruned.flagged.store nonce record
    have task : mgr.makeRoom.connectPreflightCleanupScheduled = true ->
        mgr.makeRoom.connectPreflightCleanupAt ∈ service.toSubmit ∨
          mgr.makeRoom.connectPreflightCleanupAt ∈ service.outstanding := by
      rw [(makeRoom_scheduled mgr).1, (makeRoom_scheduled mgr).2]
      exact pruned.task
    replace task := mark_task (mgr.makeRoom.store nonce record) record.expiresAt task
    exact pruned.registers fresh stored flagged fun _ => task

theorem missed_attempt (request : AgentConnectPreflightConsumeRequest)
    (now : AgentPreflightTimePoint) :
    Coherent { service with attempts := service.attempts ++ [⟨request, now, none, false⟩] } := by
  refine { sound with once := ?_, found := ?_, missed := ?_, stored := ?_ }
  · simpa using sound.once
  · intro attempt mem number found
    rcases mem_append.1 mem with old | new
    · exact sound.found attempt old number found
    · cases mem_singleton.1 new
      cases found
  · intro attempt mem unfound
    rcases mem_append.1 mem with old | new
    · exact sound.missed attempt old unfound
    · cases mem_singleton.1 new
      rfl
  · intro nonce record found
    refine (sound.stored nonce record found).imp_right fun unfound attempt mem => ?_
    rcases mem_append.1 mem with old | new
    · exact unfound attempt old
    · cases mem_singleton.1 new
      nofun

theorem found_attempt {request : AgentConnectPreflightConsumeRequest}
    {record : AgentConnectPreflightRecord Card}
    (found : service.mgr.connectPreflights.lookup request.want.verificationNonce = some record)
    (inTime : now < record.expiresAt) {matched : Bool}
    (outcome : matched = matches? request record) :
    Coherent { service with
      mgr := { service.mgr with
        connectPreflights :=
          service.mgr.connectPreflights.erase request.want.verificationNonce }
      attempts := service.attempts ++
        [⟨request, now, some (service.latest request.want.verificationNonce), matched⟩] } := by
  obtain ⟨registered, unfound⟩ := sound.stored _ _ found
  have fewer := (values_erase_perm found).length_eq
  simp only [values, length_map, length_cons] at fewer
  have shrunk : Coherent { service with
      mgr := { service.mgr with
        connectPreflights :=
          service.mgr.connectPreflights.erase request.want.verificationNonce } } := by
    refine sound.shrink (fun nonce kept other => lookup_of_erase other) ?_ rfl rfl
    change (service.mgr.connectPreflights.erase _).entries.length ≤ _
    omega
  refine { shrunk with once := ?_, found := ?_, missed := ?_, stored := ?_ }
  · rw [filterMap_append]
    refine nodup_append.2 ⟨sound.once, nodup_singleton _, ?_⟩
    intro number old other new same
    obtain ⟨attempt, mem, found⟩ := mem_filterMap.1 old
    cases mem_singleton.1 new
    exact unfound attempt mem (same ▸ found)
  · intro attempt mem number found
    rcases mem_append.1 mem with old | new
    · exact sound.found attempt old number found
    · cases mem_singleton.1 new
      cases found
      refine ⟨record, registered, inTime, ?_⟩
      simp [outcome, matches?, and_assoc]
  · intro attempt mem unfound
    rcases mem_append.1 mem with old | new
    · exact sound.missed attempt old unfound
    · cases mem_singleton.1 new
      cases unfound
  · intro nonce kept other
    obtain ⟨last, unfound⟩ := shrunk.stored nonce kept other
    refine ⟨last, fun attempt mem => ?_⟩
    rcases mem_append.1 mem with old | new
    · exact unfound attempt old
    · -- Two nonces do not have one registration.
      cases mem_singleton.1 new
      intro same
      have number : service.latest request.want.verificationNonce = service.latest nonce :=
        some.inj same
      rw [number] at registered
      obtain ⟨sameNonce, _⟩ := Prod.mk.inj (some.inj (registered.symm.trans last))
      rw [<- sameNonce, lookup_erase] at other
      cases other

theorem tryConsumeConnectPreflight (request : AgentConnectPreflightConsumeRequest)
    (now : AgentPreflightTimePoint) :
    Coherent (service.tryConsumeConnectPreflight request now) := by
  have pruned := sound.prune now
  unfold PreflightService.tryConsumeConnectPreflight ConnectPreflights.tryConsumeConnectPreflight
  by_cases positive : request.want.verificationNonce ≤ 0
  · simpa [finds, positive] using sound.missed_attempt request now
  · cases found : service.mgr.finds request now with
    | none => simpa [positive, found] using pruned.missed_attempt request now
    | some record =>
      have held := found
      rw [finds, if_neg positive] at held
      have inTime := (lookup_prune.1 held).2
      have outcome : (if matches? request record then
          some ({ record with } :
            AgentConnectPreflightConsumeResult Card) else none).isSome =
          matches? request record := by
        cases matches? request record <;> rfl
      simpa [positive, found] using pruned.found_attempt held inTime outcome

theorem scheduleConnectPreflightCleanup (time : AgentPreflightTimePoint) :
    Coherent (service.scheduleConnectPreflightCleanup time) := by
  unfold PreflightService.scheduleConnectPreflightCleanup
  split
  next submitted =>
    refine { sound with task := fun scheduled => ?_ }
    rcases sound.task scheduled with waiting | outstanding
    · by_cases same : service.mgr.connectPreflightCleanupAt = time
      · exact .inr (same ▸ mem_cons_self)
      · exact .inl ((mem_erase_of_ne same).2 waiting)
    · exact .inr (mem_cons_of_mem _ outstanding)
  · exact sound

theorem cleanupExpiredConnectPreflights (time now : AgentPreflightTimePoint) :
    Coherent (service.cleanupExpiredConnectPreflights time now) := by
  unfold PreflightService.cleanupExpiredConnectPreflights
  split
  · rcases cleanup_cases service.mgr time now with ⟨same, other⟩ | ⟨records, flagged, task⟩
    · rw [same]
      refine { sound with task := fun scheduled => ?_ }
      exact (sound.task scheduled).imp_right (mem_erase_of_ne (other scheduled)).2
    · have pruned := sound.prune now
      generalize service.mgr.cleanupExpiredConnectPreflights time now = result at *
      refine { pruned with limit := ?_, flagged := flagged, task := ?_, stored := ?_ }
      · rw [records]
        exact pruned.limit
      · intro scheduled
        change result.1.connectPreflightCleanupAt ∈ result.2.toList ++ _ ∨ _
        rw [task scheduled]
        exact .inl mem_cons_self
      · rw [records]
        exact pruned.stored
  · exact sound

theorem step : ∀ step, Coherent (service.step step)
  | .registerConnectPreflight request draws now =>
    sound.registerConnectPreflight request draws now
  | .tryConsumeConnectPreflight request now => sound.tryConsumeConnectPreflight request now
  | .scheduleConnectPreflightCleanup time => sound.scheduleConnectPreflightCleanup time
  | .cleanupExpiredConnectPreflights time now =>
    sound.cleanupExpiredConnectPreflights time now

end

end Coherent

namespace PreflightService

open ConnectPreflights

theorem keepsRules (service : PreflightService Card) : ∀ step, KeepsRules service step
  | .registerConnectPreflight request draws now => by
    intro nonce record registered stored after
    have stores : after =
        (service.mgr.pruneExpiredConnectPreflightsLocked now).makeRoom.connectPreflights.insert
          nonce record := by
      simp only [after, registerConnectPreflight, registered,
        registerConnectPreflight_eq registered]
      exact mark_connectPreflights _ _
    rcases makeRoom_cases (service.mgr.pruneExpiredConnectPreflightsLocked now) with
      ⟨same, room⟩ | ⟨full, oldest, held, found, least, erased⟩
    · rw [if_neg (Nat.not_le.2 room), stores, same]
    · rw [if_pos full]
      exact ⟨oldest, held, found, least, by rw [stores, erased]⟩
  | .tryConsumeConnectPreflight request now => by
    intro positive
    have given := Int.not_le.2 positive
    constructor
    · intro record found later
      rw [finds, if_neg given]
      exact lookup_prune.2 ⟨found, later⟩
    · simp only [tryConsumeConnectPreflight,
        ConnectPreflights.tryConsumeConnectPreflight, if_neg given]
      cases found : service.mgr.finds request now with
      | none => rwa [finds, if_neg given] at found
      | some record => exact lookup_erase _ _
  | .scheduleConnectPreflightCleanup _ => trivial
  | .cleanupExpiredConnectPreflights time now => by
    intro outstanding scheduled same nonce record found
    rw [cleanupExpiredConnectPreflights, if_pos outstanding] at found
    rcases cleanup_cases service.mgr time now with ⟨_, other⟩ | ⟨records, _, _⟩
    · exact absurd same (other scheduled)
    · rw [records] at found
      exact (lookup_prune.1 found).2

end PreflightService

/-- A preflight matches once at most and in time, and the records stay within the limit. -/
theorem preflights_oneShot (steps : List (PreflightStep Card)) :
    ((preflightService Card).Throughout steps fun service =>
        OneShot service ∧ Scheduled service) ∧
      (preflightService Card).EveryStep steps KeepsRules := by
  constructor
  · intro done _ _
    have sound : Coherent ((preflightService Card).run done) :=
      (preflightService Card).run_invariant Coherent Coherent.initial
        (fun _ step sound => sound.step step) done
    exact ⟨sound.toOneShot, sound.toScheduled⟩
  · exact fun done step _ _ => keepsRules _ step

end AbilityRuntime.AgentConnect
