import AbilityRuntime.Library.Runs

set_option autoImplicit false

namespace AbilityRuntime.AppFreeze

open Library List

def resetRatio : Int := 2
def backgroundReportCountMax : Nat := 5
def watchdogReportCountMax : Nat := 5
def checkBackgroundThread : List String := ["com.ohos.sceneboard"]

inductive AppFreezeType where
  | threadBlock3S
  | threadBlock6S
deriving DecidableEq

/-- What AppfreezeInner is given: by ThreadBlock with the status of the application. -/
inductive Report where
  | threadBlock (name : AppFreezeType) (isInBackground : Bool)
  | overReportCount (name : AppFreezeType)
deriving DecidableEq

def Report.kind : Report -> Bool × AppFreezeType
  | .threadBlock name _ => (false, name)
  | .overReportCount name => (true, name)

/-- The watchdog with its history: all reports, and those since the last AllowReportEvent. -/
structure Watchdog where
  appMainThreadIsAlive : Bool := false
  stopWatchdog : Bool := false
  needReport : Bool := true
  isSixSecondEvent : Bool := false
  isInBackground : Bool := true
  isBgWorkingThread : Bool := false
  backgroundReportCount : Nat := 0
  watchdogReportCount : Nat := 0
  halfBckGroundCount : Nat := 0
  lastWatchTime : Int := 0
  bundleName : String := ""
  reports : List Report := []
  round : List Report := []

/-- Whether `libc.hook_mode` begins with `startup:`, and the clock in ReportEvent and in Timer. -/
structure Tick where
  isHooked : Bool := false
  reportTime : Int
  watchTime : Int

namespace Watchdog

section

variable (watchdog : Watchdog)

def report (report : Report) : Watchdog :=
  { watchdog with reports := watchdog.reports ++ [report], round := watchdog.round ++ [report] }

def appfreezeHandleOverReportCount (isSixSecondEvent : Bool) : Watchdog :=
  watchdog.report (.overReportCount (if isSixSecondEvent then .threadBlock6S else .threadBlock3S))

def threadBlock : Watchdog :=
  if watchdog.isSixSecondEvent then
    watchdog.report (.threadBlock .threadBlock6S watchdog.isInBackground)
  else
    { watchdog.report (.threadBlock .threadBlock3S watchdog.isInBackground) with
      isSixSecondEvent := true }

def isReportEvent : Bool × Watchdog :=
  if watchdog.appMainThreadIsAlive then (false, { watchdog with appMainThreadIsAlive := false })
  else (true, watchdog)

def checkReportEvent : Bool × Watchdog :=
  if watchdog.isInBackground && watchdog.backgroundReportCount < backgroundReportCountMax then
    if watchdog.bundleName ∈ checkBackgroundThread then
      (false, { watchdog with backgroundReportCount := watchdog.backgroundReportCount + 1 })
    else if 0 < watchdog.halfBckGroundCount then (false, watchdog)
    else (true, { watchdog with halfBckGroundCount := watchdog.halfBckGroundCount + 1 })
  else (true, watchdog)

variable (checkIntervalTime : Int)

def reportEvent (now : Int) : Watchdog :=
  if watchdog.isBgWorkingThread then watchdog
  else if resetRatio * checkIntervalTime < now - watchdog.lastWatchTime ∨
      now - watchdog.lastWatchTime < checkIntervalTime / resetRatio then watchdog
  else
    let (reports, watchdog) := watchdog.checkReportEvent
    if !reports then watchdog
    else
      let watchdog := { watchdog with backgroundReportCount := watchdog.backgroundReportCount + 1 }
      if !watchdog.needReport then watchdog
      else if watchdog.isSixSecondEvent then { watchdog with needReport := false }.threadBlock
      else watchdog.threadBlock

def timer (tick : Tick) : Watchdog :=
  if watchdog.stopWatchdog then watchdog
  else if !watchdog.needReport then
    let watchdog := { watchdog with watchdogReportCount := watchdog.watchdogReportCount + 1 }
    if watchdogReportCountMax ≤ watchdog.watchdogReportCount then
      { watchdog.appfreezeHandleOverReportCount true with watchdogReportCount := 0 }
    else if watchdogReportCountMax - 1 ≤ watchdog.watchdogReportCount then
      watchdog.appfreezeHandleOverReportCount false
    else watchdog
  else
    let (isReport, watchdog) := watchdog.isReportEvent
    let watchdog :=
      if isReport && !tick.isHooked then watchdog.reportEvent checkIntervalTime tick.reportTime
      else watchdog
    if tick.watchTime - watchdog.lastWatchTime < 0 ∨
        checkIntervalTime / resetRatio ≤ tick.watchTime - watchdog.lastWatchTime then
      { watchdog with lastWatchTime := tick.watchTime }
    else watchdog

def setAppMainThreadState (appMainThreadState : Bool) : Watchdog :=
  { watchdog with appMainThreadIsAlive := appMainThreadState }

def allowReportEvent : Watchdog :=
  { watchdog with
    needReport := true, isSixSecondEvent := false, backgroundReportCount := 0,
    watchdogReportCount := 0, round := [] }

def setBackgroundStatus (isInBackground : Bool) : Watchdog :=
  { watchdog with isInBackground }

def setBgWorkingThreadStatus (isBgWorkingThread : Bool) : Watchdog :=
  { watchdog with isBgWorkingThread }

def setBundleInfo (bundleName : String) : Watchdog :=
  { watchdog with bundleName }

def stop : Watchdog :=
  { watchdog with stopWatchdog := true }

end

-- CheckMainThreadIsAlive takes the lock twice: a tick may come between its two calls.
inductive Call where
  | timer (tick : Tick)
  | setAppMainThreadState
  | allowReportEvent
  | setBackgroundStatus (isInBackground : Bool)
  | setBgWorkingThreadStatus (isBgWorkingThread : Bool)
  | setBundleInfo (bundleName : String)
  | stop

def machine (checkIntervalTime : Int) : Machine Watchdog Call where
  start := {}
  step watchdog
    | .timer tick => watchdog.timer checkIntervalTime tick
    | .setAppMainThreadState => watchdog.setAppMainThreadState true
    | .allowReportEvent => watchdog.allowReportEvent
    | .setBackgroundStatus isInBackground => watchdog.setBackgroundStatus isInBackground
    | .setBgWorkingThreadStatus isWorking => watchdog.setBgWorkingThreadStatus isWorking
    | .setBundleInfo bundleName => watchdog.setBundleInfo bundleName
    | .stop => watchdog.stop

section

variable {watchdog : Watchdog} {interval : Int}

def Timely (watchdog : Watchdog) (interval now : Int) : Prop :=
  interval / resetRatio ≤ now - watchdog.lastWatchTime ∧
    now - watchdog.lastWatchTime ≤ resetRatio * interval

def blocked (watchdog : Watchdog) : Report :=
  .threadBlock (if watchdog.isSixSecondEvent then .threadBlock6S else .threadBlock3S)
    watchdog.isInBackground

theorem threadBlock_eq :
    watchdog.threadBlock = { watchdog.report watchdog.blocked with isSixSecondEvent := true } := by
  cases watchdog with
  | mk => rename_i isSix _ _ _ _ _ _ _ _ _; cases isSix <;> rfl

/-- The report and what else is written with it, once CheckReportEvent lets it through. -/
theorem report_passed (half : Nat) (need : watchdog.needReport) :
    (let passed := { watchdog with
        backgroundReportCount := watchdog.backgroundReportCount + 1, halfBckGroundCount := half }
      if !passed.needReport then passed
      else if passed.isSixSecondEvent then { passed with needReport := false }.threadBlock
      else passed.threadBlock) =
    { watchdog.report watchdog.blocked with
      isSixSecondEvent := true, needReport := !watchdog.isSixSecondEvent,
      backgroundReportCount := watchdog.backgroundReportCount + 1,
      halfBckGroundCount := half } := by
  cases six : watchdog.isSixSecondEvent <;>
    simp [six, need, threadBlock_eq, blocked, report]

variable (interval) in

theorem reportEvent_cases (now : Int) (need : watchdog.needReport) :
    (∃ count, watchdog.reportEvent interval now =
        { watchdog with backgroundReportCount := count }) ∨
    (∃ half, watchdog.isBgWorkingThread = false ∧ watchdog.Timely interval now ∧
      watchdog.reportEvent interval now = { watchdog.report watchdog.blocked with
        isSixSecondEvent := true, needReport := !watchdog.isSixSecondEvent,
        backgroundReportCount := watchdog.backgroundReportCount + 1,
        halfBckGroundCount := half }) := by
  unfold reportEvent
  by_cases working : watchdog.isBgWorkingThread
  · exact .inl ⟨_, by rw [if_pos working]⟩
  rw [if_neg working]
  by_cases early : resetRatio * interval < now - watchdog.lastWatchTime ∨
      now - watchdog.lastWatchTime < interval / resetRatio
  · exact .inl ⟨_, by rw [if_pos early]⟩
  rw [if_neg early]
  have timely : watchdog.Timely interval now := by unfold Timely; omega
  have passed := fun half => report_passed half need
  unfold checkReportEvent
  by_cases counted : watchdog.isInBackground &&
      watchdog.backgroundReportCount < backgroundReportCountMax
  · rw [if_pos counted]
    by_cases checked : watchdog.bundleName ∈ checkBackgroundThread
    · exact .inl ⟨_, by rw [if_pos checked]; rfl⟩
    rw [if_neg checked]
    by_cases told : 0 < watchdog.halfBckGroundCount
    · exact .inl ⟨_, by rw [if_pos told]; rfl⟩
    rw [if_neg told]
    exact .inr ⟨_, Bool.eq_false_iff.mpr working, timely, passed (watchdog.halfBckGroundCount + 1)⟩
  · rw [if_neg counted]
    exact .inr ⟨_, Bool.eq_false_iff.mpr working, timely, passed watchdog.halfBckGroundCount⟩

theorem reportEvent_foreground {now : Int} (need : watchdog.needReport)
    (foreground : watchdog.isInBackground = false) (idle : watchdog.isBgWorkingThread = false)
    (timely : watchdog.Timely interval now) :
    watchdog.reportEvent interval now = { watchdog.report watchdog.blocked with
      isSixSecondEvent := true, needReport := !watchdog.isSixSecondEvent,
      backgroundReportCount := watchdog.backgroundReportCount + 1 } := by
  obtain ⟨late, early⟩ := timely
  unfold reportEvent checkReportEvent
  rw [if_neg (by simp [idle]), if_neg (by omega), if_neg (by simp [foreground])]
  exact report_passed watchdog.halfBckGroundCount need

variable (interval) in

theorem timer_checking (tick : Tick) (running : watchdog.stopWatchdog = false)
    (need : watchdog.needReport) :
    ∃ time, (interval / resetRatio ≤ tick.watchTime - watchdog.lastWatchTime ->
        time = tick.watchTime) ∧
      watchdog.timer interval tick = { (
        if watchdog.appMainThreadIsAlive then { watchdog with appMainThreadIsAlive := false }
        else if tick.isHooked then watchdog
        else watchdog.reportEvent interval tick.reportTime) with lastWatchTime := time } := by
  have same : (watchdog.reportEvent interval tick.reportTime).lastWatchTime =
      watchdog.lastWatchTime := by
    rcases reportEvent_cases interval tick.reportTime need with ⟨_, eq⟩ | ⟨_, _, _, eq⟩ <;>
      rw [eq]
    rfl
  have checked : ∀ middle : Watchdog, middle.lastWatchTime = watchdog.lastWatchTime ->
      ∃ time, (interval / resetRatio ≤ tick.watchTime - watchdog.lastWatchTime ->
          time = tick.watchTime) ∧
        (if tick.watchTime - middle.lastWatchTime < 0 ∨
            interval / resetRatio ≤ tick.watchTime - middle.lastWatchTime then
          { middle with lastWatchTime := tick.watchTime }
        else middle) = { middle with lastWatchTime := time } := by
    intro middle kept
    rw [kept]
    split
    case isTrue => exact ⟨_, fun _ => rfl, rfl⟩
    case isFalse late => exact ⟨middle.lastWatchTime, fun due => absurd (.inr due) late, rfl⟩
  unfold timer isReportEvent
  rw [if_neg (by simp [running]), if_neg (by simp [need])]
  by_cases alive : watchdog.appMainThreadIsAlive
  · rw [if_pos alive, if_pos alive]
    exact checked _ rfl
  · rw [if_neg alive, if_neg alive]
    cases hooked : tick.isHooked
    · exact checked _ same
    · exact checked _ rfl

theorem timer_waiting (tick : Tick) (running : watchdog.stopWatchdog = false)
    (waits : watchdog.needReport = false) :
    watchdog.timer interval tick =
      if watchdogReportCountMax ≤ watchdog.watchdogReportCount + 1 then
        { watchdog.report (.overReportCount .threadBlock6S) with watchdogReportCount := 0 }
      else if watchdogReportCountMax - 1 ≤ watchdog.watchdogReportCount + 1 then
        { watchdog.report (.overReportCount .threadBlock3S) with
          watchdogReportCount := watchdog.watchdogReportCount + 1 }
      else { watchdog with watchdogReportCount := watchdog.watchdogReportCount + 1 } := by
  unfold timer
  rw [if_neg (by simp [running]), if_pos (by simp [waits])]
  rfl

/-! ### The order of the reports -/

/-- The reports of a round are numbered from 0; the first two are those of ThreadBlock. -/
def kindAt (index : Nat) : Bool × AppFreezeType :=
  (2 ≤ index, if index % 2 = 0 then .threadBlock3S else .threadBlock6S)

/-- Two reports at the first two of these ticks, and two more in each five ticks from then on. -/
def reportsAfter (ticks : Nat) : Nat :=
  if ticks < 2 then ticks else 2 + 2 * ((ticks - 2) / 5) + if (ticks - 2) % 5 = 4 then 1 else 0

theorem reportsAfter_waiting (since : Nat) :
    reportsAfter (since + 2) = 2 + 2 * (since / 5) + if since % 5 = 4 then 1 else 0 := by
  rw [reportsAfter, if_neg (by omega), Nat.add_sub_cancel]

structure InRound (watchdog : Watchdog) (ticks : Nat) : Prop where
  kinds : watchdog.round.map Report.kind = (range watchdog.round.length).map kindAt
  length : watchdog.round.length = reportsAfter ticks
  needs : ticks < 2 -> watchdog.needReport ∧ watchdog.watchdogReportCount = 0 ∧
    watchdog.isSixSecondEvent = (ticks == 1)
  waits : 2 ≤ ticks ->
    watchdog.needReport = false ∧ watchdog.watchdogReportCount = (ticks - 2) % 5

theorem kinds_concat {round : List Report} {report : Report}
    (kinds : round.map Report.kind = (range round.length).map kindAt)
    (kind : report.kind = kindAt round.length) :
    (round ++ [report]).map Report.kind = (range (round ++ [report]).length).map kindAt := by
  rw [map_append, kinds, length_append, length_singleton, range_succ,
    map_append, map_singleton, map_singleton, kind]

variable {ticks : Nat}

theorem InRound.few (inRound : watchdog.InRound ticks) (need : watchdog.needReport) :
    ticks < 2 := by
  by_contra many
  rw [(inRound.waits (Nat.le_of_not_lt many)).1] at need
  cases need

theorem InRound.many (inRound : watchdog.InRound ticks) (waiting : watchdog.needReport = false) :
    2 ≤ ticks := by
  by_contra few
  have need := (inRound.needs (Nat.lt_of_not_le few)).1
  rw [waiting] at need
  cases need

theorem InRound.report (inRound : watchdog.InRound ticks) (need : watchdog.needReport)
    (count half : Nat) (time : Int) :
    InRound { watchdog.report watchdog.blocked with
      isSixSecondEvent := true, needReport := !watchdog.isSixSecondEvent,
      backgroundReportCount := count, halfBckGroundCount := half, lastWatchTime := time }
      (ticks + 1) := by
  have few := inRound.few need
  obtain ⟨kinds, length, needs, _⟩ := inRound
  obtain ⟨_, none, six⟩ := needs few
  obtain rfl | rfl : ticks = 0 ∨ ticks = 1 := by omega
  all_goals
    refine ⟨kinds_concat kinds ?_, ?_, ?_, ?_⟩ <;>
      simp [Watchdog.report, blocked, six, none, length, reportsAfter, Report.kind, kindAt]

theorem InRound.wait (inRound : watchdog.InRound ticks) (tick : Tick)
    (running : watchdog.stopWatchdog = false) (waiting : watchdog.needReport = false) :
    (watchdog.timer interval tick).InRound (ticks + 1) := by
  obtain ⟨since, rfl⟩ : ∃ since, ticks = since + 2 :=
    ⟨ticks - 2, (Nat.sub_add_cancel (inRound.many waiting)).symm⟩
  obtain ⟨kinds, length, _, waits⟩ := inRound
  have count : watchdog.watchdogReportCount = since % 5 := (waits (by omega)).2
  have next : reportsAfter (since + 2 + 1) = _ := reportsAfter_waiting (since + 1)
  rw [reportsAfter_waiting] at length
  rw [timer_waiting tick running waiting, watchdogReportCountMax, count]
  split
  next last =>
    rw [if_pos (by omega)] at length
    rw [if_neg (by omega)] at next
    have kind : Report.kind (.overReportCount .threadBlock6S) = kindAt watchdog.round.length := by
      simp [Report.kind, kindAt, show 2 ≤ watchdog.round.length by omega,
        show watchdog.round.length % 2 = 1 by omega]
    refine ⟨kinds_concat kinds kind, ?_, by omega, fun _ => ⟨waiting, ?_⟩⟩
    · simp only [Watchdog.report, length_append, length_singleton]
      omega
    · change 0 = (since + 1) % 5
      omega
  split
  next first =>
    rw [if_neg (by omega)] at length
    rw [if_pos (by omega)] at next
    have kind : Report.kind (.overReportCount .threadBlock3S) = kindAt watchdog.round.length := by
      simp [Report.kind, kindAt, show 2 ≤ watchdog.round.length by omega,
        show watchdog.round.length % 2 = 0 by omega]
    refine ⟨kinds_concat kinds kind, ?_, by omega, fun _ => ⟨waiting, ?_⟩⟩
    · simp only [Watchdog.report, length_append, length_singleton]
      omega
    · change since % 5 + 1 = (since + 1) % 5
      omega
  next =>
    rw [if_neg (by omega)] at length next
    refine ⟨kinds, length.trans (by omega), by omega, fun _ => ⟨waiting, ?_⟩⟩
    change since % 5 + 1 = (since + 1) % 5
    omega

theorem InRound.timer (inRound : watchdog.InRound ticks) (tick : Tick) :
    ∃ after, (watchdog.timer interval tick).InRound after := by
  by_cases running : watchdog.stopWatchdog = false
  case neg => exact ⟨ticks, by rwa [Watchdog.timer, if_pos (by simpa using running)]⟩
  by_cases need : watchdog.needReport
  case neg => exact ⟨_, inRound.wait tick running (by simpa using need)⟩
  obtain ⟨kinds, length, needs, waits⟩ := id inRound
  obtain ⟨time, _, eq⟩ := timer_checking interval tick running need
  rw [eq]
  split
  · exact ⟨ticks, kinds, length, needs, waits⟩
  split
  · exact ⟨ticks, kinds, length, needs, waits⟩
  rcases reportEvent_cases interval tick.reportTime need with ⟨_, eq⟩ | ⟨half, _, _, eq⟩
  · rw [eq]
    exact ⟨ticks, kinds, length, needs, waits⟩
  · rw [eq]
    exact ⟨_, inRound.report need _ half time⟩

theorem run_inRound (calls : List Call) :
    ∃ ticks, ((machine interval).run calls).InRound ticks := by
  refine Machine.run_invariant (fun watchdog => ∃ ticks, InRound watchdog ticks)
    ⟨0, rfl, rfl, fun _ => ⟨rfl, rfl, rfl⟩, nofun⟩ ?_ calls
  rintro watchdog call ⟨ticks, inRound⟩
  obtain ⟨kinds, length, needs, waits⟩ := id inRound
  cases call with
  | timer tick => exact inRound.timer tick
  | allowReportEvent => exact ⟨0, rfl, rfl, fun _ => ⟨rfl, rfl, rfl⟩, nofun⟩
  | setAppMainThreadState | setBackgroundStatus | setBgWorkingThreadStatus | setBundleInfo | stop =>
    exact ⟨ticks, kinds, length, needs, waits⟩

theorem round_alternates (calls : List Call) :
    let round := ((machine interval).run calls).round
    round.map Report.kind = (range round.length).map kindAt :=
  (run_inRound calls).elim fun _ inRound => inRound.kinds

def tickAt (time : Int) : Tick := ⟨false, time, time⟩

/-! ### A main thread that stays blocked -/

/-- The ticks go on at their interval: each is in time for what the one before it has sent. -/
def Regular (interval : Int) : Int -> List Tick -> Prop
  | _, [] => True
  | earlier, tick :: rest => tick.isHooked = false ∧
      interval / resetRatio ≤ tick.reportTime - earlier ∧
      tick.reportTime - earlier ≤ resetRatio * interval ∧
      interval / resetRatio ≤ tick.watchTime - earlier ∧ Regular interval tick.watchTime rest

structure Watched (watchdog : Watchdog) : Prop where
  running : watchdog.stopWatchdog = false
  foreground : watchdog.isInBackground = false
  idle : watchdog.isBgWorkingThread = false

structure Blocked (watchdog : Watchdog) (earlier : Int) (ticks : Nat) : Prop where
  watched : watchdog.Watched
  inRound : watchdog.InRound ticks
  asked : ticks < 2 -> watchdog.appMainThreadIsAlive = false ∧ watchdog.lastWatchTime = earlier

theorem Blocked.timer {earlier : Int} (blocked : watchdog.Blocked earlier ticks) {tick : Tick}
    {rest : List Tick} (regular : Regular interval earlier (tick :: rest)) :
    (watchdog.timer interval tick).Blocked tick.watchTime (ticks + 1) := by
  obtain ⟨⟨running, foreground, idle⟩, inRound, asked⟩ := blocked
  obtain ⟨unhooked, late, early, due, _⟩ := regular
  by_cases need : watchdog.needReport
  · obtain ⟨dead, rfl⟩ := asked (inRound.few need)
    obtain ⟨time, watched, eq⟩ := timer_checking interval tick running need
    rw [eq, if_neg (by simp [dead]), if_neg (by simp [unhooked]), watched due,
      reportEvent_foreground need foreground idle ⟨late, early⟩]
    exact ⟨⟨running, foreground, idle⟩, inRound.report need _ _ _, fun _ => ⟨dead, rfl⟩⟩
  · have waiting : watchdog.needReport = false := by simpa using need
    have many := inRound.many waiting
    refine ⟨?_, inRound.wait tick running waiting, by omega⟩
    rw [timer_waiting tick running waiting]
    split
    · exact ⟨running, foreground, idle⟩
    split <;> exact ⟨running, foreground, idle⟩

theorem Blocked.timers {earlier : Int} {done : Nat} {ticks : List Tick}
    (blocked : watchdog.Blocked earlier done) (regular : Regular interval earlier ticks) :
    (ticks.foldl (Watchdog.timer · interval) watchdog).round.length =
      reportsAfter (done + ticks.length) := by
  induction ticks generalizing watchdog earlier done with
  | nil => exact blocked.inRound.length
  | cons tick ticks ih =>
    obtain ⟨_, _, _, _, rest⟩ := id regular
    rw [foldl_cons, ih (blocked.timer regular) rest, length_cons, Nat.add_right_comm, Nat.add_assoc]

/-- The first tick after an answer only clears it. -/
theorem blocked_reported {calls : List Call} {first : Tick} {ticks : List Tick}
    (watched : ((machine interval).run calls).Watched)
    (due : interval / resetRatio ≤ first.watchTime - ((machine interval).run calls).lastWatchTime)
    (regular : Regular interval first.watchTime ticks) :
    ((machine interval).run (calls ++ .setAppMainThreadState :: .allowReportEvent ::
      .timer first :: ticks.map .timer)).round.length = reportsAfter ticks.length := by
  generalize before : (machine interval).run calls = watchdog at watched due
  obtain ⟨running, foreground, idle⟩ := watched
  have blocked : ((watchdog.setAppMainThreadState true).allowReportEvent.timer interval
      first).Blocked first.watchTime 0 := by
    have answered : (watchdog.setAppMainThreadState true).allowReportEvent.stopWatchdog = false :=
      running
    obtain ⟨time, now, eq⟩ := timer_checking interval first answered rfl
    rw [eq, now due]
    exact ⟨⟨running, foreground, idle⟩, ⟨rfl, rfl, fun _ => ⟨rfl, rfl, rfl⟩, nofun⟩,
      fun _ => ⟨rfl, rfl⟩⟩
  have ends := blocked.timers regular
  rw [Nat.zero_add] at ends
  rw [Machine.run, foldl_append, <- Machine.run, before, foldl_cons, foldl_cons,
    foldl_cons, foldl_map]
  exact ends

theorem blocked_reported_seven :
    ((machine 3000).run ([.setBackgroundStatus false] ++ .setAppMainThreadState ::
      .allowReportEvent :: .timer (tickAt 3000) ::
        ([6000, 9000, 12000, 15000, 18000, 21000, 24000].map tickAt).map .timer)).round.length =
      4 :=
  blocked_reported ⟨rfl, rfl, rfl⟩ (by decide) (by simp [Regular, tickAt, resetRatio])

/-! ### A main thread that answers -/

def Checks (watchdog : Watchdog) : Prop := watchdog.stopWatchdog = false ∧ watchdog.needReport

/-- A tick has sent the event, and the main thread has not answered it since. -/
def Unanswered (interval : Int) (done : List Call) : Prop :=
  ∃ before tick between, done = before ++ .timer tick :: between ∧
    ((machine interval).run before).Checks ∧ .setAppMainThreadState ∉ between

theorem Unanswered.append {done : List Call} (unanswered : Unanswered interval done)
    {call : Call} (other : call ≠ .setAppMainThreadState) :
    Unanswered interval (done ++ [call]) := by
  obtain ⟨before, tick, between, rfl, checks, silent⟩ := unanswered
  refine ⟨before, tick, between ++ [call], by simp, checks, ?_⟩
  simpa [silent] using other.symm

variable (interval) in

theorem timer_unchecked (tick : Tick) (unchecked : ¬ watchdog.Checks) :
    (watchdog.timer interval tick).appMainThreadIsAlive = watchdog.appMainThreadIsAlive ∧
      (watchdog.timer interval tick).lastWatchTime = watchdog.lastWatchTime := by
  by_cases running : watchdog.stopWatchdog = false
  case neg => simp [timer, running]
  have waits : watchdog.needReport = false := by simpa [Checks, running] using unchecked
  rw [timer_waiting tick running waits]
  split
  · exact ⟨rfl, rfl⟩
  split <;> exact ⟨rfl, rfl⟩

theorem unanswered_of_dead {done : List Call}
    (dead : ((machine interval).run done).appMainThreadIsAlive = false)
    (watched : ((machine interval).run done).lastWatchTime ≠ 0) :
    Unanswered interval done := by
  induction done using List.reverseRecOn with
  | nil => exact absurd rfl watched
  | append_singleton done call ih =>
    rw [Machine.run_concat] at dead watched
    cases call with
    | timer tick =>
      by_cases checks : ((machine interval).run done).Checks
      · exact ⟨done, tick, [], rfl, checks, not_mem_nil⟩
      · obtain ⟨alive, time⟩ := timer_unchecked interval tick checks
        exact (ih (alive.symm.trans dead) (time.symm.trans_ne watched)).append nofun
    | setAppMainThreadState => cases dead
    | allowReportEvent | setBackgroundStatus | setBgWorkingThreadStatus | setBundleInfo | stop =>
      exact (ih dead watched).append nofun

theorem threadBlock_unanswered {done : List Call} {tick : Tick} {name : AppFreezeType}
    {isInBackground : Bool} (late : resetRatio * interval < tick.reportTime)
    (reported : ((machine interval).run (done ++ [.timer tick])).reports =
      ((machine interval).run done).reports ++ [.threadBlock name isInBackground]) :
    Unanswered interval done ∧
      ((machine interval).run done).Timely interval tick.reportTime ∧
      ((machine interval).run done).isBgWorkingThread = false := by
  rw [Machine.run_concat] at reported
  have dead := @unanswered_of_dead interval done
  generalize (machine interval).run done = watchdog at reported dead
  change (watchdog.timer interval tick).reports = _ at reported
  by_cases running : watchdog.stopWatchdog = false
  case neg =>
    rw [timer, if_pos (by simpa using running)] at reported
    simp at reported
  by_cases need : watchdog.needReport
  · obtain ⟨time, _, eq⟩ := timer_checking interval tick running need
    rw [eq] at reported
    by_cases alive : watchdog.appMainThreadIsAlive
    · simp [if_pos alive] at reported
    rw [if_neg alive] at reported
    by_cases hooked : tick.isHooked
    · simp [if_pos hooked] at reported
    rw [if_neg hooked] at reported
    rcases reportEvent_cases interval tick.reportTime need with ⟨_, eq⟩ | ⟨_, idle, timely, _⟩
    · simp [eq] at reported
    · have watched : watchdog.lastWatchTime ≠ 0 := by
        obtain ⟨_, inTime⟩ := timely
        omega
      exact ⟨dead (by simpa using alive) watched, timely, idle⟩
  · rw [timer_waiting tick running (by simpa using need)] at reported
    split at reported
    · simp [report] at reported
    split at reported <;> simp [report] at reported

theorem threadBlock_unanswered_second :
    let done := [.setBackgroundStatus false, .setAppMainThreadState, .allowReportEvent,
      .timer (tickAt 7000)]
    Unanswered 3000 done ∧ ((machine 3000).run done).Timely 3000 10000 ∧
      ((machine 3000).run done).isBgWorkingThread = false :=
  @threadBlock_unanswered 3000 _ (tickAt 10000) .threadBlock3S false (by decide) (by decide)

end

end Watchdog

end AbilityRuntime.AppFreeze
