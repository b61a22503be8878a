import AbilityRuntime.RateLimit.RateLimiter

set_option autoImplicit false

namespace AbilityRuntime.RateLimit

open Library RateLimiter KeyedMap Option List Check Answer Int Prod

theorem eraseExpired_eq {timestamps : List Int} (sorted : timestamps.Pairwise (· ≤ ·))
    (timeBefore : Int) :
    eraseExpired timeBefore timestamps = timestamps.filter (timeBefore ≤ ·) :=
  drop_lowerBound sorted timeBefore

def Sound (watched : Watched) (latest : Int) : Prop :=
  ∀ check : Check, Tracks check.interval latest (watched.limiter.timestamps check)
    (letThrough watched.log check)

theorem Sound.later {watched : Watched} {latest now : Int} (sound : Sound watched latest)
    (passed : latest ≤ now) : Sound watched now :=
  fun check => (sound check).later passed

section Cleaning

variable {interval latest now later : Int} {times : List Int}

theorem cleanSingleCallMap_tracks {callMap : CallMap} {uid : Int}
    (tracked : Tracks interval latest ((callMap.lookup uid).getD []) times)
    (passed : latest ≤ now) :
    Tracks interval now (((cleanSingleCallMap callMap now interval).lookup uid).getD []) times := by
  rw [cleanSingleCallMap, lookup_filterMapValues]
  cases found : callMap.lookup uid with
  | none => simpa [found] using tracked.later passed
  | some timestamps =>
    rw [found, getD_some] at tracked
    rw [bind_some]
    split
    next expired => exact tracked.dropAll passed expired
    · exact tracked.later passed

theorem cleanNestedCallMap_tracks {nestedMap : KeyedMap Int CallMap} {uid tier : Int}
    (tracked : Tracks interval latest ((((nestedMap.lookup uid).getD ∅).lookup tier).getD []) times)
    (passed : latest ≤ now) :
    Tracks interval now
      (((((cleanNestedCallMap nestedMap now interval).lookup uid).getD ∅).lookup tier).getD [])
      times := by
  rw [cleanNestedCallMap, lookup_filterMapValues]
  cases found : nestedMap.lookup uid with
  | none => simpa [found] using tracked.later passed
  | some innerMap =>
    rw [found, getD_some] at tracked
    rw [bind_some, unlessEmpty_getD, lookup_filterMapValues]
    cases held : innerMap.lookup tier with
    | none => simpa [held] using tracked.later passed
    | some timestamps =>
      rw [held, getD_some] at tracked
      have dropped := tracked.drop passed (le_refl (now - interval))
      rw [bind_some, eraseExpired_eq tracked.sorted]
      dsimp only
      split
      next empty => rwa [isEmpty_iff.mp empty] at dropped
      · exact dropped

theorem cleanCallMap_sound {watched : Watched} {cleaning : CleanTimes}
    (sound : Sound watched latest)
    (read : ∀ reading ∈ cleaning.readings, latest ≤ reading ∧ reading ≤ later) :
    Sound { watched with limiter := watched.limiter.cleanCallMap cleaning } later := by
  have gate := read cleaning.gate (by simp [CleanTimes.readings])
  have extension := read cleaning.extension (by simp [CleanTimes.readings])
  have report := read cleaning.report (by simp [CleanTimes.readings])
  have modularObject := read cleaning.modularObject (by simp [CleanTimes.readings])
  intro check
  have before := sound check
  rw [RateLimiter.cleanCallMap]
  split
  · exact before.later (le_trans gate.1 gate.2)
  · cases check with
    | extension uid => exact (cleanSingleCallMap_tracks before extension.1).later extension.2
    | report uid tier => exact (cleanNestedCallMap_tracks before report.1).later report.2
    | modularObject uid =>
      exact (cleanSingleCallMap_tracks before modularObject.1).later modularObject.2

end Cleaning

section Checks

variable {watched : Watched} {now : Int}

theorem length_eraseExpired (sound : Sound watched now) (check : Check) :
    (eraseExpired (now - check.interval) (watched.limiter.timestamps check)).length =
      recentCalls watched.log check now := by
  rw [eraseExpired_eq (sound check).sorted, recentCalls]
  exact (sound check).length_recent

theorem checkTimestamps_fst (timestamps : List Int) (limitInterval : Int) (maxLimit : Nat) :
    (checkTimestamps timestamps now limitInterval maxLimit).1 =
      decide (maxLimit ≤ (eraseExpired (now - limitInterval) timestamps).length) := by
  unfold checkTimestamps
  by_cases full : maxLimit ≤ (eraseExpired (now - limitInterval) timestamps).length
  · simp [full]
  · simp [full]

theorem answer_window (sound : Sound watched now) (check : Check) :
    (watched.limiter.answer now check).1 = windowAnswer watched.log now check := by
  have length := length_eraseExpired sound check
  cases check with
  | extension uid =>
    rw [windowAnswer, <- length]
    simp [answer, countExtension, timestamps, interval]
  | report uid tier =>
    rw [windowAnswer, <- length]
    exact congrArg refused (checkTimestamps_fst _ _ _)
  | modularObject uid =>
    rw [windowAnswer, <- length]
    exact congrArg refused (checkTimestamps_fst _ _ _)

theorem checkTimestamps_snd (timestamps : List Int) (limitInterval : Int) (maxLimit : Nat) :
    (checkTimestamps timestamps now limitInterval maxLimit).2 =
      eraseExpired (now - limitInterval) timestamps ++
        if !(checkTimestamps timestamps now limitInterval maxLimit).1 then [now] else [] := by
  unfold checkTimestamps
  by_cases full : maxLimit ≤ (eraseExpired (now - limitInterval) timestamps).length
  · simp [full]
  · simp [full]

theorem answer_timestamps (limiter : RateLimiter) (check other : Check) :
    (limiter.answer now check).2.timestamps other =
      if other = check then
        eraseExpired (now - check.interval) (limiter.timestamps check) ++
          if (limiter.answer now check).1.letsThrough then [now] else []
      else limiter.timestamps other := by
  cases check with
  | extension uid =>
    cases other with
    | extension one =>
      simp only [answer, countExtension, timestamps, Prod.map,
        lookup_insert_eq, extension.injEq, id]
      split <;> simp [letsThrough, interval]
    | report | modularObject => rfl
  | report uid tier =>
    cases other with
    | report one rank =>
      simp only [answer, checkReportLimit, checkSingleLimit,
        timestamps, Prod.map, lookup_insert_eq, report.injEq, id]
      by_cases user : one = uid
      · subst user
        simp only [if_true, true_and, getD_some, lookup_insert_eq]
        split
        · simp [letsThrough, interval, checkTimestamps_snd]
        · rfl
      · simp [user]
    | extension | modularObject => rfl
  | modularObject uid =>
    cases other with
    | modularObject one =>
      simp only [answer, checkModularObject, checkSingleLimit,
        timestamps, Prod.map, lookup_insert_eq, modularObject.injEq, id]
      split
      · simp [letsThrough, interval, checkTimestamps_snd]
      · rfl
    | extension | report => rfl

theorem check_sound (sound : Sound watched now) (check : Check) :
    Sound (Event.step watched (.check check now)) now := by
  intro other
  simp only [Event.step]
  rw [answer_timestamps, letThrough_append]
  by_cases same : other = check
  · subst same
    have kept := (sound other).drop (le_refl now) (le_refl (now - other.interval))
    rw [if_pos rfl, eraseExpired_eq (sound other).sorted]
    by_cases through : (watched.limiter.answer now other).1.letsThrough = true
    · simpa [through] using kept.add
    · simpa [through] using kept
  · simpa [same, Ne.symm same] using sound other

end Checks

theorem step_sound {watched : Watched} {event : Event} {latest later : Int}
    (sound : Sound watched latest)
    (read : ∀ reading ∈ event.readings, latest ≤ reading ∧ reading ≤ later) :
    Sound (event.step watched) later := by
  cases event with
  | cleanCallMap times => exact cleanCallMap_sound sound read
  | check check now =>
    obtain ⟨after, before⟩ := read now (by simp [Event.readings])
    exact (check_sound (sound.later after) check).later before

theorem exists_first_reading (event : Event) (ordered : event.readings.Pairwise (· ≤ ·)) :
    ∃ first ∈ event.readings, ∀ reading ∈ event.readings, first ≤ reading := by
  cases event with
  | cleanCallMap times =>
    refine ⟨times.gate, by simp [Event.readings, CleanTimes.readings], ?_⟩
    simp only [Event.readings, CleanTimes.readings, pairwise_cons] at ordered
    intro reading mem
    rcases mem_cons.mp mem with rfl | later
    · exact le_refl _
    · exact ordered.1 reading later
  | check check now => exact ⟨now, by simp [Event.readings], by simp [Event.readings]⟩

variable {events : List Event}

theorem nonDecreasing_append {event : Event} (ordered : NonDecreasing (events ++ [event])) :
    NonDecreasing events ∧ event.readings.Pairwise (· ≤ ·) ∧
      ∀ earlier ∈ events.flatMap Event.readings, ∀ reading ∈ event.readings, earlier ≤ reading := by
  rw [NonDecreasing, flatMap_append, flatMap_singleton, pairwise_append] at ordered
  exact ordered

theorem run_sound (ordered : NonDecreasing events) :
    ∀ latest, (∀ reading ∈ events.flatMap Event.readings, reading ≤ latest) ->
      Sound (eventMachine.run events) latest := by
  induction events using reverseRecOn with
  | nil => exact fun latest _ => by rintro (_ | _ | _) <;> exact tracks_nil _ latest
  | append_singleton events event ih =>
    intro latest past
    obtain ⟨before, inner, across⟩ := nonDecreasing_append ordered
    obtain ⟨first, mem, least⟩ := exists_first_reading event inner
    have sound := ih before first fun reading held => across reading held first mem
    rw [Machine.run_concat]
    refine step_sound sound fun reading held => ⟨least reading held, past reading ?_⟩
    rw [flatMap_append, flatMap_singleton]
    exact mem_append_right _ held

theorem run_log (ordered : NonDecreasing events) :
    (eventMachine.run events).log = windowLog (checksOf events) := by
  induction events using reverseRecOn with
  | nil => rfl
  | append_singleton events event ih =>
    obtain ⟨before, inner, across⟩ := nonDecreasing_append ordered
    have earlier := ih before
    rw [Machine.run_concat]
    cases event with
    | cleanCallMap times =>
      have unchecked : checksOf (events ++ [.cleanCallMap times]) = checksOf events := by
        simp [checksOf]
      rw [unchecked, <- earlier]
      rfl
    | check check now =>
      have sound := run_sound before now fun reading held =>
        across reading held now (by simp [Event.readings])
      have answered := answer_window sound check
      have asked : checksOf (events ++ [.check check now]) = checksOf events ++ [(check, now)] := by
        simp [checksOf]
      rw [asked, windowLog_append, <- earlier, <- answered]
      rfl

theorem checks_ordered (ordered : NonDecreasing events) :
    ((checksOf events).map snd).Pairwise (· ≤ ·) := by
  refine Pairwise.sublist ?_ ordered
  clear ordered
  induction events with
  | nil => exact .slnil
  | cons event events ih =>
    cases event with
    | cleanCallMap times => exact ih.trans (sublist_append_right _ _)
    | check check now => exact ih.cons_cons now

variable {checks : List (Check × Int)}

theorem letThrough_asked {check : Check} {time : Int}
    (through : time ∈ letThrough (windowLog checks) check) : time ∈ checks.map snd := by
  induction checks using reverseRecOn with
  | nil => cases through
  | append_singleton checks last ih =>
    rw [windowLog_append, letThrough_append, mem_append] at through
    rw [map_append, mem_append]
    rcases through with old | new
    · exact .inl (ih old)
    · split at new
      · exact .inr new
      · cases new

theorem windowLog_atMost {check : Check} {limit : Nat} (limited : ∀ log now,
      windowAnswer log now check = .refused (limit ≤ recentCalls log check now))
    (ordered : (checks.map snd).Pairwise (· ≤ ·)) :
    AtMost limit check.interval (letThrough (windowLog checks) check) := by
  induction checks using reverseRecOn with
  | nil => exact atMost_nil _ _
  | append_singleton checks last ih =>
    obtain ⟨asked, now⟩ := last
    rw [map_append, pairwise_append] at ordered
    have before := ih ordered.1
    have past : ∀ time ∈ letThrough (windowLog checks) check, time ≤ now := fun time through =>
      ordered.2.2 time (letThrough_asked through) now (by simp)
    rw [windowLog_append, letThrough_append]
    split
    next through =>
      obtain ⟨rfl, through⟩ := through
      rw [limited] at through
      have room := of_decide_eq_false (Bool.not_eq_true' _ ▸ through)
      exact before.add past (Nat.lt_of_not_le room)
    · simpa using before

theorem windowLog_answers {done rest : List Entry} {entry : Entry}
    (split : windowLog checks = done ++ entry :: rest) :
    entry.answer = windowAnswer done entry.now entry.check := by
  induction checks using reverseRecOn generalizing rest with
  | nil => cases done <;> cases split
  | append_singleton checks last ih =>
    rw [windowLog_append] at split
    rcases eq_nil_or_concat rest with rfl | ⟨rest, final, rfl⟩
    · obtain ⟨rfl, same⟩ := append_inj' split rfl
      cases same
      rfl
    · rw [concat_eq_append, <- cons_append, <- append_assoc] at split
      exact ih (append_inj' split rfl).1

def HighestTier (count : Nat) (result : LimitResult) : Prop :=
  if result.limited then
    result.triggeredLimit ∈ extensionTiers ∧ result.triggeredLimit ≤ count ∧
      ∀ tier ∈ extensionTiers, tier ≤ count -> tier ≤ result.triggeredLimit
  else ∀ tier ∈ extensionTiers, count < tier

theorem tierOf_highest (count : Nat) : HighestTier count (tierOf count) := by
  simp only [tierOf, extensionTiers, reverse_cons, reverse_nil,
    nil_append, cons_append, find?_cons, find?_nil, HighestTier]
  grind

/-- What the answer to a call says about the calls let through before it. -/
def RightAnswer (done : List Entry) (entry : Entry) : Prop :=
  match entry.check, entry.answer with
  | .extension uid, .tier result =>
    HighestTier (recentCalls (done ++ [entry]) (.extension uid) entry.now) result
  | .report uid triggeredTier, .refused limited =>
    limited = true ↔ reportMaxLimit ≤ recentCalls done (.report uid triggeredTier) entry.now
  | .modularObject uid, .refused limited =>
    limited = true ↔ modularObjectMaxLimit ≤ recentCalls done (.modularObject uid) entry.now
  | _, _ => False

theorem rightAnswer_of_window {done : List Entry} {entry : Entry}
    (answered : entry.answer = windowAnswer done entry.now entry.check) :
    RightAnswer done entry := by
  obtain ⟨check, now, answer⟩ := entry
  obtain rfl : answer = windowAnswer done now check := answered
  cases check with
  | extension uid =>
    have counted : recentCalls (done ++ [⟨.extension uid, now, windowAnswer done now
        (.extension uid)⟩]) (.extension uid) now = recentCalls done (.extension uid) now + 1 := by
      rw [recentCalls, letThrough_append, countWithin, countP_append]
      have recent : now - extensionLimitIntervalMs ≤ now := by
        rw [extensionLimitIntervalMs]
        omega
      have nonneg : 0 ≤ extensionLimitIntervalMs := by decide
      simp [windowAnswer, letsThrough, recentCalls, countWithin, interval, recent, nonneg]
    simp only [RightAnswer, windowAnswer] at counted ⊢
    rw [counted]
    exact tierOf_highest _
  | report uid tier => simp [RightAnswer, windowAnswer]
  | modularObject uid => simp [RightAnswer, windowAnswer]

theorem limiter_sorted (ordered : NonDecreasing events) (check : Check) :
    ((eventMachine.run events).limiter.timestamps check).Pairwise (· ≤ ·) := by
  obtain ⟨latest, past⟩ : ∃ latest : Int,
      ∀ reading ∈ events.flatMap Event.readings, reading ≤ latest := by
    rcases eq_nil_or_concat (events.flatMap Event.readings) with none | ⟨rest, last, some⟩
    · exact ⟨0, by simp [none]⟩
    · refine ⟨last, ?_⟩
      rw [concat_eq_append] at some
      rw [NonDecreasing, some, pairwise_append] at ordered
      intro reading mem
      rw [some] at mem
      rcases mem_append.mp mem with old | only
      · exact ordered.2.2 reading old last (by simp)
      · exact le_of_eq (mem_singleton.mp only)
  exact (run_sound ordered latest past check).sorted

structure KeepsWindows (calls : List Call) : Prop where
  sorted : callMachine.Throughout calls fun watched =>
    ∀ check, (watched.limiter.timestamps check).Pairwise (· ≤ ·)
  modularObjects : ∀ uid, AtMost modularObjectMaxLimit modularObjectLimitIntervalMs
    (letThrough (callMachine.run calls).log (.modularObject uid))
  reports : ∀ uid triggeredTier, AtMost reportMaxLimit reportLimitIntervalMs
    (letThrough (callMachine.run calls).log (.report uid triggeredTier))
  answers : ∀ done entry rest, (callMachine.run calls).log = done ++ entry :: rest ->
    RightAnswer done entry
  cleaner : ∀ events, NonDecreasing events ->
    checksOf events = checksOf (calls.flatMap Call.events) ->
      (eventMachine.run events).log = (callMachine.run calls).log

theorem rateLimiter_keepsWindows (calls : List Call)
    (ordered : NonDecreasing (calls.flatMap Call.events)) : KeepsWindows calls := by
  have log : (callMachine.run calls).log = windowLog (checksOf (calls.flatMap Call.events)) := by
    rw [callMachine_run, run_log ordered]
  have asked := checks_ordered ordered
  constructor
  case sorted =>
    rintro done rest rfl check
    rw [callMachine_run]
    refine limiter_sorted ?_ check
    rw [NonDecreasing, flatMap_append, flatMap_append, pairwise_append] at ordered
    exact ordered.1
  case modularObjects =>
    intro uid
    rw [log]
    have limited : ∀ log now, windowAnswer log now (.modularObject uid) =
        .refused (modularObjectMaxLimit ≤ recentCalls log (.modularObject uid) now) :=
      fun _ _ => rfl
    exact windowLog_atMost limited asked
  case reports =>
    intro uid triggeredTier
    rw [log]
    have limited : ∀ log now, windowAnswer log now (.report uid triggeredTier) =
        .refused (reportMaxLimit ≤ recentCalls log (.report uid triggeredTier) now) :=
      fun _ _ => rfl
    exact windowLog_atMost limited asked
  case answers =>
    intro done entry rest split
    rw [log] at split
    exact rightAnswer_of_window (windowLog_answers split)
  case cleaner =>
    intro events timely same
    rw [log, run_log timely, same]

theorem twoReports_keepWindows :
    KeepsWindows [.checkExtensionLimit 100 ⟨0, 0, 0, 0⟩ 1, .checkReportLimit 100 50 2,
      .checkReportLimit 100 50 5002,
      .checkModularObjectLimit 100 ⟨70000, 70000, 70001, 70001⟩ 70002] :=
  rateLimiter_keepsWindows _ (by decide)

end AbilityRuntime.RateLimit
