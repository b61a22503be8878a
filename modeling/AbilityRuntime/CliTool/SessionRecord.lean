import Mathlib.Data.List.Basic
import AbilityRuntime.Library.Runs

set_option autoImplicit false

namespace AbilityRuntime.CliTool

open Library List

def MAX_BUFFERED_OUTPUT_BYTES : Nat := 64 * 1024
def SIGCHLD : Int := 17

inductive ChildEnd where
  | exited (code : UInt8)
  | killed (signal : Nat) (fatal : 0 < signal ∧ signal < 127) (coreDumped : Bool)

def ChildEnd.status : ChildEnd -> Int
  | .exited code => 256 * code.toNat
  | .killed signal _ coreDumped => signal + if coreDumped then 128 else 0

structure ExecResult where
  exitCode : Int := 1
  outputText : List UInt8
  errorText : List UInt8
  signalNumber : Int
  timeout : Bool

structure CliSessionInfo where
  status : String
  result : Option ExecResult := none

structure SessionRecord where
  terminalStatus : Int := 0
  signalNumber : Int := 0
  timeout : Bool := false
  processExited : Bool := false
  stdoutClosed : Bool := false
  stderrClosed : Bool := false
  cleanupStarted : Bool := false
  stdoutText : List UInt8 := []
  stderrText : List UInt8 := []
  exitEvents : List Int := []

inductive SessionCall where
  | appendOutput (isStdout : Bool) (data : List UInt8)
  | handleOutputClosed (isStdout : Bool)
  | handleProcessTimeout
  | waitPid (child : ChildEnd)

def trimBufferedOutput (buffer : List UInt8) : List UInt8 :=
  buffer.drop (buffer.length - MAX_BUFFERED_OUTPUT_BYTES)

namespace SessionRecord

variable (record : SessionRecord)

def outputDrained : Bool := record.stdoutClosed && record.stderrClosed

def setTerminalResult (status sig : Int) : SessionRecord :=
  { record with terminalStatus := status, signalNumber := sig, processExited := true }

def appendOutput (isStdout : Bool) (data : List UInt8) : SessionRecord :=
  if isStdout then { record with stdoutText := trimBufferedOutput (record.stdoutText ++ data) }
  else { record with stderrText := trimBufferedOutput (record.stderrText ++ data) }

def markOutputClosed (isStdout : Bool) : SessionRecord :=
  if isStdout then { record with stdoutClosed := true } else { record with stderrClosed := true }

def finalizeBackgroundSession : SessionRecord :=
  if record.processExited && record.outputDrained && !record.cleanupStarted then
    { record with
      cleanupStarted := true
      exitEvents := record.exitEvents ++ [record.terminalStatus] }
  else record

def step : SessionCall -> SessionRecord
  | .appendOutput isStdout data => record.appendOutput isStdout data
  | .handleOutputClosed isStdout => (record.markOutputClosed isStdout).finalizeBackgroundSession
  | .handleProcessTimeout => { record with timeout := true }.setTerminalResult 0 0
  | .waitPid child => (record.setTerminalResult child.status SIGCHLD).finalizeBackgroundSession

def buildExecResult : ExecResult where
  exitCode := if record.timeout then 1 else record.terminalStatus
  outputText := record.stdoutText
  errorText := record.stderrText
  signalNumber := record.signalNumber
  timeout := record.timeout

def buildSessionInfo : CliSessionInfo :=
  if (!record.processExited || !record.outputDrained) && !record.timeout then
    { status := "running" }
  else
    let result := record.buildExecResult
    { result := some result
      status := if result.timeout || result.exitCode ≠ 0 then "failed" else "completed" }

end SessionRecord

def sessionMachine : Machine SessionRecord SessionCall := ⟨{}, SessionRecord.step⟩

namespace SessionCall

def outputOf (isStdout : Bool) : SessionCall -> List UInt8
  | .appendOutput target data => if target = isStdout then data else []
  | _ => []

def isTimeout : SessionCall -> Bool
  | .handleProcessTimeout => true
  | _ => false

def closes (isStdout : Bool) : SessionCall -> Bool
  | .handleOutputClosed closed => closed = isStdout
  | _ => false

def child? : SessionCall -> Option ChildEnd
  | .waitPid child => some child
  | _ => none

def stored? : SessionCall -> Option (Int × Int)
  | .waitPid child => some (child.status, SIGCHLD)
  | .handleProcessTimeout => some (0, 0)
  | _ => none

end SessionCall

open SessionCall

/-- The child is reaped once and both outputs are closed. -/
structure Ended (calls : List SessionCall) (child : ChildEnd) : Prop where
  reaped : calls.filterMap child? = [child]
  closed : ∀ isStdout, calls.any (closes isStdout) = true

/-- What the session info and the exit event tell of the child. -/
structure Reported (calls : List SessionCall) (child : ChildEnd) (result : ExecResult) : Prop where
  told : (sessionMachine.run calls).buildSessionInfo.result = some result
  exitCode : ∀ code, child = .exited code -> calls.any isTimeout = false ->
    result.exitCode = code.toNat ∧
      ∀ event ∈ (sessionMachine.run calls).exitEvents, event = code.toNat
  signalNumber : ∀ signal fatal coreDumped, child = .killed signal fatal coreDumped ->
    result.signalNumber = signal
  timeout : result.timeout = calls.any isTimeout
  completed : (sessionMachine.run calls).buildSessionInfo.status = "completed" ↔
    child = .exited 0 ∧ calls.any isTimeout = false
  outputText : result.outputText = trimBufferedOutput (calls.flatMap (outputOf true))
  errorText : result.errorText = trimBufferedOutput (calls.flatMap (outputOf false))
  running : ∀ done rest isStdout, calls = done ++ rest -> done.any isTimeout = false ->
    done.any (closes isStdout) = false ->
      (sessionMachine.run done).buildSessionInfo.status = "running"

def Meets (calls : List SessionCall) : ChildEnd -> Prop
  | .exited code => code = 0 ∨ calls.any isTimeout = true
  | .killed signal _ _ => (signal : Int) = SIGCHLD ∧ (calls.filterMap stored?).getLast? ≠ some (0, 0)

theorem trimBufferedOutput_append (text data : List UInt8) :
    trimBufferedOutput (trimBufferedOutput text ++ data) = trimBufferedOutput (text ++ data) := by
  unfold trimBufferedOutput
  generalize MAX_BUFFERED_OUTPUT_BYTES = most
  rw [<- drop_append_of_le_length (Nat.sub_le _ _), drop_drop]
  congr 1
  simp only [length_drop, length_append]
  omega

structure Tracks (calls : List SessionCall) (record : SessionRecord) : Prop where
  stdoutText : record.stdoutText = trimBufferedOutput (calls.flatMap (outputOf true))
  stderrText : record.stderrText = trimBufferedOutput (calls.flatMap (outputOf false))
  stdoutClosed : record.stdoutClosed = calls.any (closes true)
  stderrClosed : record.stderrClosed = calls.any (closes false)
  timeout : record.timeout = calls.any isTimeout
  stored : (calls.filterMap stored?).getLast? =
    if record.processExited then some (record.terminalStatus, record.signalNumber) else none
  events : ∀ event ∈ record.exitEvents, event ∈ (calls.filterMap stored?).map Prod.fst

variable {calls : List SessionCall} {record : SessionRecord} {child : ChildEnd}

theorem Tracks.finalize (tracks : Tracks calls record) :
    Tracks calls record.finalizeBackgroundSession := by
  unfold SessionRecord.finalizeBackgroundSession
  split
  next ended =>
    have exited : record.processExited = true := by grind
    have last := tracks.stored
    rw [if_pos exited] at last
    refine { tracks with events := fun event told => ?_ }
    rcases mem_append.mp told with before | new
    · exact tracks.events event before
    · exact mem_map.mpr ⟨_, mem_of_getLast? last, (mem_singleton.mp new).symm⟩
  · exact tracks

theorem Tracks.step (tracks : Tracks calls record) (call : SessionCall) :
    Tracks (calls ++ [call]) (record.step call) := by
  obtain ⟨stdoutText, stderrText, stdoutClosed, stderrClosed, timeout, stored, events⟩ := tracks
  cases call with
  | appendOutput isStdout data =>
    cases isStdout <;> constructor <;> simp_all [SessionRecord.step, SessionRecord.appendOutput,
      outputOf, closes, isTimeout, stored?, trimBufferedOutput_append]
  | handleOutputClosed isStdout =>
    refine Tracks.finalize ?_
    cases isStdout <;> constructor <;>
      simp_all [SessionRecord.markOutputClosed, outputOf, closes, isTimeout, stored?]
  | handleProcessTimeout =>
    constructor <;>
      simp_all [SessionRecord.step, SessionRecord.setTerminalResult, outputOf, closes, isTimeout, stored?]
  | waitPid child =>
    refine Tracks.finalize ?_
    constructor <;> simp_all [SessionRecord.setTerminalResult, outputOf, closes, isTimeout, stored?]

theorem run_tracks (calls : List SessionCall) : Tracks calls (sessionMachine.run calls) := by
  induction calls using List.reverseRecOn with
  | nil => constructor <;> simp [Machine.run, sessionMachine, trimBufferedOutput]
  | append_singleton calls call ih =>
    rw [Machine.run_concat]
    exact ih.step call

theorem status_eq_zero_iff : child.status = 0 ↔ child = .exited 0 := by
  cases child with
  | exited code =>
    rw [ChildEnd.status, ChildEnd.exited.injEq, <- UInt8.toNat_inj, UInt8.toNat_zero]
    omega
  | killed signal fatal coreDumped => cases coreDumped <;> simp [ChildEnd.status] <;> omega

theorem stored_of_untimed (untimed : calls.any isTimeout = false) :
    calls.filterMap stored? = (calls.filterMap child?).map fun child => (child.status, SIGCHLD) := by
  induction calls with
  | nil => rfl
  | cons call calls ih =>
    rw [any_cons, Bool.or_eq_false_iff] at untimed
    specialize ih untimed.2
    cases call <;> simp_all [filterMap_cons, isTimeout, stored?, child?]

theorem stored_cases (reaped : calls.filterMap child? = [child]) :
    ∀ stored ∈ calls.filterMap stored?, stored = (child.status, SIGCHLD) ∨ stored = (0, 0) := by
  intro stored kept
  obtain ⟨call, called, keeps⟩ := mem_filterMap.mp kept
  cases call with
  | waitPid own =>
    have same : own ∈ [child] := reaped ▸ mem_filterMap.mpr ⟨_, called, rfl⟩
    simp_all [stored?]
  | _ => simp_all [stored?]

theorem Tracks.running (tracks : Tracks calls record) (isStdout : Bool)
    (untimed : calls.any isTimeout = false) (isOpen : calls.any (closes isStdout) = false) :
    record.buildSessionInfo.status = "running" := by
  rw [<- tracks.timeout] at untimed
  cases isStdout with
  | true =>
    rw [<- tracks.stdoutClosed] at isOpen
    simp [SessionRecord.buildSessionInfo, SessionRecord.outputDrained, untimed, isOpen]
  | false =>
    rw [<- tracks.stderrClosed] at isOpen
    simp [SessionRecord.buildSessionInfo, SessionRecord.outputDrained, untimed, isOpen]

theorem Tracks.ended (tracks : Tracks calls record) (ended : Ended calls child) :
    record.processExited = true ∧ record.outputDrained = true ∧
      ((record.terminalStatus, record.signalNumber) = (child.status, SIGCHLD) ∨
        (record.terminalStatus, record.signalNumber) = (0, 0)) := by
  have exited : record.processExited = true := by
    have : child ∈ calls.filterMap child? := by simp [ended.reaped]
    obtain ⟨call, called, waited⟩ := mem_filterMap.mp this
    by_contra running
    have none := tracks.stored
    rw [if_neg running, getLast?_eq_none_iff] at none
    have kept : (child.status, SIGCHLD) ∈ calls.filterMap stored? := by
      refine mem_filterMap.mpr ⟨call, called, ?_⟩
      cases call <;> simp_all [child?, stored?]
    simp [none] at kept
  have last := tracks.stored
  rw [if_pos exited] at last
  refine ⟨exited, ?_, stored_cases ended.reaped _ (mem_of_getLast? last)⟩
  rw [SessionRecord.outputDrained, tracks.stdoutClosed, tracks.stderrClosed, ended.closed,
    ended.closed, Bool.true_and]

theorem Tracks.untimed (tracks : Tracks calls record) (ended : Ended calls child)
    (untimed : calls.any isTimeout = false) :
    record.terminalStatus = child.status ∧ ∀ event ∈ record.exitEvents, event = child.status := by
  have stored := stored_of_untimed untimed
  have last := tracks.stored
  have events := tracks.events
  rw [ended.reaped] at stored
  rw [if_pos (tracks.ended ended).1, stored] at last
  rw [stored] at events
  exact ⟨(Prod.mk.inj (Option.some.inj last)).1.symm, by simpa using events⟩

theorem session_reported_iff (ended : Ended calls child) :
    (∃ result, Reported calls child result) ↔ Meets calls child := by
  have tracks := run_tracks calls
  obtain ⟨exited, drained, stored⟩ := tracks.ended ended
  have last := tracks.stored
  rw [if_pos exited] at last
  have told : (sessionMachine.run calls).buildSessionInfo.result =
      some (sessionMachine.run calls).buildExecResult := by
    simp [SessionRecord.buildSessionInfo, exited, drained]
  constructor
  · rintro ⟨result, reported⟩
    obtain rfl := Option.some.inj (told.symm.trans reported.told)
    cases child with
    | exited code =>
      by_cases timed : calls.any isTimeout
      · exact .inr timed
      have untimed := Bool.eq_false_iff.mpr timed
      have same := (reported.exitCode code rfl untimed).1
      simp only [SessionRecord.buildExecResult, tracks.timeout, untimed,
        (tracks.untimed ended untimed).1, ChildEnd.status] at same
      refine .inl (UInt8.toNat_inj.mp ?_)
      simp at same ⊢
      omega
    | killed signal fatal coreDumped =>
      have same : (sessionMachine.run calls).signalNumber = signal :=
        reported.signalNumber signal fatal coreDumped rfl
      rcases stored with reaped | zeros
      · refine ⟨same.symm.trans (Prod.mk.inj reaped).2, ?_⟩
        simp [last, reaped, SIGCHLD]
      · have := (Prod.mk.inj zeros).2
        omega
  · intro meets
    refine ⟨_, told, ?_, ?_, tracks.timeout, ?_, tracks.stdoutText, tracks.stderrText, ?_⟩
    · rintro code rfl untimed
      obtain ⟨status, events⟩ := tracks.untimed ended untimed
      have zero : code = 0 := by simpa [Meets, untimed] using meets
      subst zero
      exact ⟨by simp [SessionRecord.buildExecResult, tracks.timeout, untimed, status,
        ChildEnd.status], fun event sent => (events event sent).trans (by decide)⟩
    · rintro signal fatal coreDumped rfl
      rcases stored with reaped | zeros
      · exact (Prod.mk.inj reaped).2.trans meets.1.symm
      · exact (meets.2 (last.trans (congrArg some zeros))).elim
    · cases timed : calls.any isTimeout with
      | true =>
        simp [SessionRecord.buildSessionInfo, SessionRecord.buildExecResult, exited, drained,
          tracks.timeout, timed]
      | false =>
        rw [<- status_eq_zero_iff, <- (tracks.untimed ended timed).1]
        simp [SessionRecord.buildSessionInfo, SessionRecord.buildExecResult, exited, drained,
          tracks.timeout, timed]
    · rintro done rest isStdout rfl
      exact (run_tracks done).running isStdout

theorem session_reported_completed :
    ∃ result, Reported [.appendOutput true [104, 105], .waitPid (.exited 0),
      .handleOutputClosed true, .handleOutputClosed false] (.exited 0) result :=
  (session_reported_iff ⟨rfl, by decide⟩).mpr (.inl rfl)

theorem exit_status_not_decoded :
    ¬ ∀ (calls : List SessionCall) (child : ChildEnd), Ended calls child ->
      ∃ result, Reported calls child result := by
  intro all
  obtain ⟨result, reported⟩ := all [.waitPid (.exited 1), .handleOutputClosed true,
    .handleOutputClosed false] (.exited 1) ⟨rfl, by decide⟩
  have told := reported.told
  have code := (reported.exitCode 1 rfl rfl).1
  rw [<- Option.some.inj told] at code
  exact absurd code (by decide)

/-- One exit event at the clean-up, which nothing keeps waiting once a child was reaped. -/
structure Dispatches (calls : List SessionCall) (record : SessionRecord) : Prop where
  once : record.exitEvents.length = record.cleanupStarted.toNat
  reaped : calls.filterMap child? ≠ [] ->
    record.processExited = true ∧
      (record.stdoutClosed -> record.stderrClosed -> record.cleanupStarted = true)

theorem Dispatches.finalize (once : record.exitEvents.length = record.cleanupStarted.toNat)
    (reaped : calls.filterMap child? ≠ [] -> record.processExited = true) :
    Dispatches calls record.finalizeBackgroundSession := by
  unfold SessionRecord.finalizeBackgroundSession
  split
  next ended =>
    simp only [Bool.and_eq_true, Bool.not_eq_true'] at ended
    exact ⟨by simp [once, ended.2], fun some => ⟨reaped some, fun _ _ => rfl⟩⟩
  next waits =>
    refine ⟨once, fun some => ⟨reaped some, fun stdout stderr => ?_⟩⟩
    simpa [SessionRecord.outputDrained, reaped some, stdout, stderr] using waits

theorem Dispatches.step (dispatches : Dispatches calls record) (call : SessionCall) :
    Dispatches (calls ++ [call]) (record.step call) := by
  obtain ⟨once, reaped⟩ := dispatches
  cases call with
  | appendOutput isStdout data =>
    rw [SessionRecord.step, SessionRecord.appendOutput]
    split <;> exact ⟨once, fun some => reaped (by simpa [child?] using some)⟩
  | handleOutputClosed isStdout =>
    cases isStdout <;>
      exact .finalize once fun some => (reaped (by simpa [child?] using some)).1
  | handleProcessTimeout =>
    exact ⟨once, fun some => ⟨rfl, (reaped (by simpa [child?] using some)).2⟩⟩
  | waitPid child => exact .finalize once fun _ => rfl

theorem run_dispatches (calls : List SessionCall) :
    Dispatches calls (sessionMachine.run calls) := by
  induction calls using List.reverseRecOn with
  | nil => exact ⟨rfl, fun some => (some rfl).elim⟩
  | append_singleton calls call ih =>
    rw [Machine.run_concat]
    exact ih.step call

theorem exitEvent_once (reaped : calls.filterMap child? ≠ [])
    (closed : ∀ isStdout, calls.any (closes isStdout) = true) :
    (sessionMachine.run calls).exitEvents.length = 1 := by
  obtain ⟨once, done⟩ := run_dispatches calls
  have tracks := run_tracks calls
  rw [once, (done reaped).2 (tracks.stdoutClosed.trans (closed true))
    (tracks.stderrClosed.trans (closed false))]
  rfl

theorem exitEvent_once_timeout :
    (sessionMachine.run [.handleOutputClosed true, .handleProcessTimeout, .handleOutputClosed false,
      .waitPid (.exited 0)]).exitEvents.length = 1 :=
  exitEvent_once (by decide) (by decide)

end AbilityRuntime.CliTool
