import AbilityRuntime.Library.KeyedMap
import AbilityRuntime.Library.SlidingWindow
import AbilityRuntime.Library.Runs

set_option autoImplicit false

namespace AbilityRuntime.RateLimit

section

open Library KeyedMap

def cleanIntervalMs : Int := 60000
def extensionLimitIntervalMs : Int := 1000
def extensionTiers : List Nat := [50, 100, 200]
def reportLimitIntervalMs : Int := 5000
def reportMaxLimit : Nat := 1
def modularObjectLimitIntervalMs : Int := 1000
def modularObjectMaxLimit : Nat := 20

structure LimitResult where
  limited : Bool
  triggeredLimit : Nat

abbrev CallMap := KeyedMap Int (List Int)

/-- The maps of the singleton, keyed by uid. Times are milliseconds of the steady clock. -/
structure RateLimiter where
  lastCleanTimeMillis : Int
  extensionCallMap : CallMap
  tierReportCallMap : KeyedMap Int CallMap
  modularObjectCallMap : CallMap

def RateLimiter.initial : RateLimiter := ⟨0, ∅, ∅, ∅⟩

-- `erase(begin, lower_bound(timeBefore))`.
def eraseExpired (timeBefore : Int) (timestamps : List Int) : List Int :=
  timestamps.drop (lowerBound timestamps timeBefore)

def cleanSingleCallMap (callMap : CallMap) (currentTime limitInterval : Int) : CallMap :=
  filterMapValues
    (fun timestamps =>
      if timestamps.all (· < currentTime - limitInterval) then none else some timestamps)
    callMap

def cleanNestedCallMap (nestedMap : KeyedMap Int CallMap) (currentTime limitInterval : Int) :
    KeyedMap Int CallMap :=
  filterMapValues
    (fun innerMap =>
      unlessEmpty (filterMapValues
        (fun timestamps =>
          let kept := eraseExpired (currentTime - limitInterval) timestamps
          if kept.isEmpty then none else some kept)
        innerMap))
    nestedMap

/-- What one run of `CleanCallMap` reads from the clock. -/
structure CleanTimes where
  gate : Int
  extension : Int
  report : Int
  modularObject : Int

def CleanTimes.readings (times : CleanTimes) : List Int :=
  [times.gate, times.extension, times.report, times.modularObject]

namespace RateLimiter

def cleanCallMap (limiter : RateLimiter) (times : CleanTimes) : RateLimiter :=
  if times.gate - limiter.lastCleanTimeMillis < cleanIntervalMs then limiter
  else
    { lastCleanTimeMillis := times.gate
      extensionCallMap :=
        cleanSingleCallMap limiter.extensionCallMap times.extension extensionLimitIntervalMs
      tierReportCallMap :=
        cleanNestedCallMap limiter.tierReportCallMap times.report reportLimitIntervalMs
      modularObjectCallMap :=
        cleanSingleCallMap limiter.modularObjectCallMap times.modularObject
          modularObjectLimitIntervalMs }

def tierOf (currentCount : Nat) : LimitResult :=
  match extensionTiers.reverse.find? (· ≤ currentCount) with
  | some limit => ⟨true, limit⟩
  | none => ⟨false, 0⟩

-- What `CheckExtensionLimit` does after its `CleanCallMap`. The count is cast to 32 bits there, more
-- than the calls of one second fill.
def countExtension (limiter : RateLimiter) (uid now : Int) : LimitResult × RateLimiter :=
  let timestamps := (limiter.extensionCallMap.lookup uid).getD []
  let counted := eraseExpired (now - extensionLimitIntervalMs) timestamps ++ [now]
  (tierOf counted.length,
    { limiter with extensionCallMap := limiter.extensionCallMap.insert uid counted })

def checkExtensionLimit (limiter : RateLimiter) (uid : Int) (times : CleanTimes) (now : Int) :
    LimitResult × RateLimiter :=
  (limiter.cleanCallMap times).countExtension uid now

end RateLimiter

/-- The answer, true for a call that is refused, and the stamps that are kept. -/
def checkTimestamps (timestamps : List Int) (now limitInterval : Int) (maxLimit : Nat) :
    Bool × List Int :=
  let kept := eraseExpired (now - limitInterval) timestamps
  if maxLimit ≤ kept.length then (true, kept) else (false, kept ++ [now])

def checkSingleLimit (callMap : CallMap) (uid now limitInterval : Int) (maxLimit : Nat) :
    Bool × CallMap :=
  let checked := checkTimestamps ((callMap.lookup uid).getD []) now limitInterval maxLimit
  (checked.1, callMap.insert uid checked.2)

namespace RateLimiter

def checkReportLimit (limiter : RateLimiter) (uid triggeredTier now : Int) : Bool × RateLimiter :=
  let userTierReports := (limiter.tierReportCallMap.lookup uid).getD ∅
  let checked :=
    checkSingleLimit userTierReports triggeredTier now reportLimitIntervalMs reportMaxLimit
  (checked.1, { limiter with tierReportCallMap := limiter.tierReportCallMap.insert uid checked.2 })

-- What `CheckModularObjectLimit` does after its `CleanCallMap`.
def checkModularObject (limiter : RateLimiter) (uid now : Int) : Bool × RateLimiter :=
  let checked := checkSingleLimit limiter.modularObjectCallMap uid now
    modularObjectLimitIntervalMs modularObjectMaxLimit
  (checked.1, { limiter with modularObjectCallMap := checked.2 })

def checkModularObjectLimit (limiter : RateLimiter) (uid : Int) (times : CleanTimes) (now : Int) :
    Bool × RateLimiter :=
  (limiter.cleanCallMap times).checkModularObject uid now

end RateLimiter

end

section

open Library List Machine

inductive Check where
  | extension (uid : Int)
  | report (uid triggeredTier : Int)
  | modularObject (uid : Int)
  deriving DecidableEq, Repr

def Check.interval : Check -> Int
  | .extension _ => extensionLimitIntervalMs
  | .report _ _ => reportLimitIntervalMs
  | .modularObject _ => modularObjectLimitIntervalMs

inductive Answer where
  | tier (result : LimitResult)
  | refused (limited : Bool)

def Answer.letsThrough : Answer -> Bool
  | .tier _ => true
  | .refused limited => !limited

structure Entry where
  check : Check
  now : Int
  answer : Answer

/-- The calls that other code makes, with what they read from the clock. -/
inductive Call where
  | checkExtensionLimit (uid : Int) (times : CleanTimes) (now : Int)
  | checkReportLimit (uid triggeredTier now : Int)
  | checkModularObjectLimit (uid : Int) (times : CleanTimes) (now : Int)

structure Watched where
  limiter : RateLimiter
  log : List Entry

def Call.step (watched : Watched) : Call -> Watched
  | .checkExtensionLimit uid times now =>
    let answered := watched.limiter.checkExtensionLimit uid times now
    ⟨answered.2, watched.log ++ [⟨.extension uid, now, .tier answered.1⟩]⟩
  | .checkReportLimit uid triggeredTier now =>
    let answered := watched.limiter.checkReportLimit uid triggeredTier now
    ⟨answered.2, watched.log ++ [⟨.report uid triggeredTier, now, .refused answered.1⟩]⟩
  | .checkModularObjectLimit uid times now =>
    let answered := watched.limiter.checkModularObjectLimit uid times now
    ⟨answered.2, watched.log ++ [⟨.modularObject uid, now, .refused answered.1⟩]⟩

def callMachine : Machine Watched Call where
  start := ⟨.initial, []⟩
  step := Call.step

/-- The runs of the cleaner stand apart from the checks. -/
inductive Event where
  | cleanCallMap (times : CleanTimes)
  | check (asked : Check) (now : Int)

def Event.readings : Event -> List Int
  | .cleanCallMap times => times.readings
  | .check _ now => [now]

def Call.events : Call -> List Event
  | .checkExtensionLimit uid times now => [.cleanCallMap times, .check (.extension uid) now]
  | .checkReportLimit uid triggeredTier now => [.check (.report uid triggeredTier) now]
  | .checkModularObjectLimit uid times now =>
    [.cleanCallMap times, .check (.modularObject uid) now]

def RateLimiter.answer (limiter : RateLimiter) (now : Int) : Check -> Answer × RateLimiter
  | .extension uid => (limiter.countExtension uid now).map .tier id
  | .report uid triggeredTier => (limiter.checkReportLimit uid triggeredTier now).map .refused id
  | .modularObject uid => (limiter.checkModularObject uid now).map .refused id

def Event.step (watched : Watched) : Event -> Watched
  | .cleanCallMap times => { watched with limiter := watched.limiter.cleanCallMap times }
  | .check asked now =>
    let answered := watched.limiter.answer now asked
    ⟨answered.2, watched.log ++ [⟨asked, now, answered.1⟩]⟩

def eventMachine : Machine Watched Event where
  start := ⟨.initial, []⟩
  step := Event.step

def NonDecreasing (events : List Event) : Prop :=
  (events.flatMap Event.readings).Pairwise (· ≤ ·)

instance (events : List Event) : Decidable (NonDecreasing events) :=
  inferInstanceAs (Decidable (Pairwise _ _))

def checksOf (events : List Event) : List (Check × Int) :=
  events.filterMap fun
    | .cleanCallMap _ => none
    | .check asked now => some (asked, now)

theorem callMachine_run (calls : List Call) :
    callMachine.run calls = eventMachine.run (calls.flatMap Call.events) := by
  induction calls using reverseRecOn with
  | nil => rfl
  | append_singleton calls call ih =>
    rw [run_concat, ih, flatMap_append, flatMap_singleton]
    cases call with
    | checkExtensionLimit uid times now =>
      rw [Call.events, <- singleton_append, <- append_assoc, run_concat, run_concat]
      rfl
    | checkReportLimit uid triggeredTier now => rw [Call.events, run_concat]; rfl
    | checkModularObjectLimit uid times now =>
      rw [Call.events, <- singleton_append, <- append_assoc, run_concat, run_concat]
      rfl

def letThrough (log : List Entry) (check : Check) : List Int :=
  (log.filter fun entry => entry.check = check ∧ entry.answer.letsThrough).map Entry.now

theorem letThrough_append (log : List Entry) (entry : Entry) (check : Check) :
    letThrough (log ++ [entry]) check =
      letThrough log check ++
        if entry.check = check ∧ entry.answer.letsThrough then [entry.now] else [] := by
  rw [letThrough, filter_append, map_append]
  congr 1
  by_cases counted : entry.check = check ∧ entry.answer.letsThrough = true <;> simp [counted]

def recentCalls (log : List Entry) (check : Check) (now : Int) : Nat :=
  countWithin (now - check.interval) check.interval (letThrough log check)

def windowAnswer (log : List Entry) (now : Int) (check : Check) : Answer :=
  match check with
  | .extension _ => .tier (RateLimiter.tierOf (recentCalls log check now + 1))
  | .report _ _ => .refused (reportMaxLimit ≤ recentCalls log check now)
  | .modularObject _ => .refused (modularObjectMaxLimit ≤ recentCalls log check now)

def windowLog (checks : List (Check × Int)) : List Entry :=
  checks.foldl (fun log check => log ++ [⟨check.1, check.2, windowAnswer log check.2 check.1⟩]) []

theorem windowLog_append (checks : List (Check × Int)) (check : Check) (now : Int) :
    windowLog (checks ++ [(check, now)]) =
      windowLog checks ++ [⟨check, now, windowAnswer (windowLog checks) now check⟩] := by
  simp [windowLog]

def RateLimiter.timestamps (limiter : RateLimiter) : Check -> List Int
  | .extension uid => (limiter.extensionCallMap.lookup uid).getD []
  | .report uid triggeredTier =>
    (((limiter.tierReportCallMap.lookup uid).getD ∅).lookup triggeredTier).getD []
  | .modularObject uid => (limiter.modularObjectCallMap.lookup uid).getD []

end

end AbilityRuntime.RateLimit
