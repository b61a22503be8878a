import Mathlib.Algebra.GroupWithZero.Nat
import Mathlib.Data.List.Perm.Basic
import AbilityRuntime.CliTool.IOMonitor

set_option autoImplicit false

namespace AbilityRuntime.CliTool

open Std.ExtTreeMap Function List WriteTask Nat Prod Option Sublist IOMonitor

def pendingSize (inputs : List PendingInput) : Nat :=
  (inputs.map fun input => input.message.length).sum

def WriteTask.input : WriteTask -> List PendingInput
  | .writing _ input => [input]
  | .looping | .failed | .returned => []

@[simp] theorem WriteTask.writing_input (fd : Int) (input : PendingInput) :
    (writing fd input).input = [input] := rfl

def active (tasks : List WriteTask) : List WriteTask :=
  tasks.filter fun task => task ≠ .returned

structure InputQueue.Bounded (queue : InputQueue) : Prop where
  bytes : queue.pendingBytes = pendingSize queue.pendingInputs
  byteLimit : queue.pendingBytes ≤ maxPendingInputBytes
  messageLimit : queue.pendingInputs.length ≤ maxPendingInputMessages

/-- One session with its writer, which outlives its queue only when unregistered. -/
structure Served (gone : Prop) (acceptedCount : Nat) (queue : Option InputQueue)
    (writer : Option WriteTask) (log : SessionLog) : Prop where
  running : ∀ found, queue = some found -> (found.writeTaskRunning = true ↔ writer ≠ none)
  writerServes : ¬ gone -> writer ≠ none -> queue ≠ none
  bounded : ∀ found, queue = some found -> found.Bounded
  places : log.accepted.Perm (log.replied.map fst ++ (writer.elim [] input ++ queued queue))
  order : (log.written ++ (writer.elim [] input ++ queued queue)).Sublist log.accepted
  serials : (log.accepted.map PendingInput.serial).Pairwise (· < ·)
  fresh : ∀ input ∈ log.accepted, input.serial < acceptedCount

namespace Served

variable {gone : Prop} {acceptedCount : Nat} {queue : Option InputQueue} {writer : Option WriteTask}
  {log : SessionLog}

@[simp] theorem fail_accepted (failedInputs : List PendingInput) :
    (log.fail failedInputs).accepted = log.accepted := rfl

@[simp] theorem fail_replied (failedInputs : List PendingInput) :
    (log.fail failedInputs).replied.map fst = log.replied.map fst ++ failedInputs := by
  simp [SessionLog.fail, comp_def]

section

variable (served : Served gone acceptedCount queue writer log)
include served

theorem weaken {later : Prop} {count : Nat} (went : gone -> later)
    (more : acceptedCount ≤ count) : Served later count queue writer log where
  __ := served
  writerServes here := served.writerServes fun before => here (went before)
  fresh input mem := lt_of_lt_of_le (served.fresh input mem) more

theorem drain {later : Prop} (successor : Option WriteTask) (went : successor ≠ none -> later)
    (same : successor.elim [] input = writer.elim [] input) :
    Served later acceptedCount none successor (log.fail (queued queue)) where
  running := nofun
  writerServes here writes := absurd (went writes) here
  bounded := nofun
  places := by
    rw [fail_replied, same]
    refine served.places.trans ?_
    simp only [queued, elim_none, append_nil, append_assoc]
    exact Perm.append_left _ perm_append_comm
  order := by
    rw [same]
    refine Sublist.trans ?_ served.order
    simp only [queued, Option.elim_none, append_nil]
    exact (Sublist.refl _).append (sublist_append_left _ _)
  __ := served

theorem reject (eventId : String) :
    Served gone acceptedCount queue writer
      { log with rejected := log.rejected ++ [eventId] } where
  __ := served

theorem entry (here : ¬ gone) :
    Served gone acceptedCount (some (queue.getD { })) writer log := by
  cases queue with
  | some found => exact served
  | none =>
    have idle : writer = none := by
      by_contra writes
      exact served.writerServes here writes rfl
    subst idle
    refine { served with running := ?_, writerServes := ?_, bounded := ?_ }
    · simp
    · simp
    · rintro _ ⟨⟩; exact ⟨rfl, zero_le _, zero_le _⟩

end

theorem accept {found : InputQueue} (served : Served gone acceptedCount (some found) writer log)
    (message : List UInt8) (eventId : String)
    (bytes : found.pendingBytes + message.length ≤ maxPendingInputBytes)
    (messages : found.pendingInputs.length < maxPendingInputMessages) :
    Served gone (acceptedCount + 1)
      (some
        { pendingInputs := found.pendingInputs ++ [⟨message, eventId, acceptedCount⟩]
          pendingBytes := found.pendingBytes + message.length
          writeTaskRunning := true })
      (if found.writeTaskRunning then writer else some .looping)
      { log with accepted := log.accepted ++ [⟨message, eventId, acceptedCount⟩] } := by
  have running := served.running found rfl
  have bounded := served.bounded found rfl
  have same : (if found.writeTaskRunning then writer else some .looping).elim [] input =
      writer.elim [] input := by
    split
    · rfl
    next idle =>
      have none : writer = none := by
        by_contra writes
        exact idle (running.mpr writes)
      rw [none]
      rfl
  constructor
  case running =>
    split
    next runs => simpa using running.mp runs
    · simp
  case writerServes => simp
  case bounded =>
    rintro _ ⟨⟩
    constructor
    · simp [pendingSize, bounded.bytes]
    · exact bytes
    · simp only [length_append, length_singleton]
      omega
  case places =>
    rw [same]
    have places := served.places.append_right [⟨message, eventId, acceptedCount⟩]
    simpa [queued] using places
  case order =>
    rw [same]
    have order := served.order.append (refl [(⟨message, eventId, acceptedCount⟩ : PendingInput)])
    simpa [queued] using order
  case serials =>
    rw [map_append, pairwise_append]
    refine ⟨served.serials, pairwise_singleton _ _, ?_⟩
    intro serial mem other last
    obtain ⟨input, accepted, rfl⟩ := mem_map.mp mem
    simp only [map_cons, map_nil, mem_singleton] at last
    rw [last]
    exact served.fresh input accepted
  case fresh =>
    intro input mem
    rcases mem_append.mp mem with old | new
    · exact lt_succ_of_lt (served.fresh input old)
    · simp [mem_singleton.mp new]

theorem leave (served : Served gone acceptedCount none writer log)
    (same : writer.elim [] input = []) : Served gone acceptedCount none none log where
  running := nofun
  writerServes _ := absurd rfl
  bounded := nofun
  places := by simpa [same] using served.places
  order := by simpa [same] using served.order
  __ := served

theorem idle {found : InputQueue} (served : Served gone acceptedCount (some found) writer log)
    (nothing : found.pendingInputs = []) (same : writer.elim [] input = []) :
    Served gone acceptedCount
      (if found.pendingBytes = 0 then none else some { found with writeTaskRunning := false })
      none log := by
  have empty : found.pendingBytes = 0 := by
    rw [(served.bounded found rfl).bytes, nothing]
    rfl
  rw [if_pos empty]
  constructor
  case running => exact nofun
  case writerServes => exact fun _ => absurd rfl
  case bounded => exact nofun
  case places => simpa [queued, nothing, same] using served.places
  case order => simpa [queued, nothing, same] using served.order
  case serials => exact served.serials
  case fresh => exact served.fresh

theorem take {found : InputQueue} {input : PendingInput} {rest : List PendingInput}
    (served : Served gone acceptedCount (some found) (some .looping) log)
    (first : found.pendingInputs = input :: rest) (fd : Int) :
    Served gone acceptedCount
      (some { found with
        pendingInputs := rest
        pendingBytes := found.pendingBytes - input.message.length })
      (some (.writing fd input)) log := by
  have bounded := served.bounded found rfl
  have bytes := bounded.bytes
  have messages := bounded.messageLimit
  simp only [first, pendingSize, map_cons, sum_cons, length_cons] at bytes messages
  have places := served.places
  have order := served.order
  simp only [queued, elim_some, first] at places order
  constructor
  case running =>
    simpa using served.running found rfl
  case writerServes => simp
  case bounded =>
    rintro _ ⟨⟩
    have limit := bounded.byteLimit
    constructor
    · simp only [pendingSize]
      omega
    · simp only
      omega
    · simp only
      omega
  case places => exact places
  case order => exact order
  case serials => exact served.serials
  case fresh => exact served.fresh

theorem written {fd : Int} {input : PendingInput}
    (served : Served gone acceptedCount queue (some (.writing fd input)) log) (result : Bool)
    (next : WriteTask) (empty : next.input = []) :
    Served gone acceptedCount queue (some next)
      { log with written := log.written ++ [input], replied := log.replied ++ [(input, result)] } where
  running found present := by simpa using served.running found present
  writerServes here _ := served.writerServes here (by simp)
  __ := served
  places := by simpa [empty] using served.places
  order := by simpa [empty] using served.order

theorem unwritten {fd : Int} {input : PendingInput}
    (served : Served gone acceptedCount queue (some (.writing fd input)) log) :
    Served gone acceptedCount queue (some .failed) (log.fail [input]) where
  running found present := by simpa using served.running found present
  writerServes here _ := served.writerServes here (by simp)
  __ := served
  places := by
    simpa [WriteTask.input] using served.places
  order := by
    refine Sublist.trans ?_ served.order
    exact (Sublist.refl _).append (sublist_append_right _ _)

end Served

theorem active_append (tasks more : List WriteTask) :
    active (tasks ++ more) = active tasks ++ active more :=
  filter_append ..

theorem active_cons (task : WriteTask) (tasks : List WriteTask) :
    active (task :: tasks) = active [task] ++ active tasks :=
  active_append [task] tasks

theorem active_set {tasks : List WriteTask} {task : Nat} {place : WriteTask}
    (here : tasks[task]? = some place) (runs : place ≠ .returned) {writer : Option WriteTask}
    (only : active tasks = writer.toList) (next : WriteTask) :
    writer = some place ∧ active (tasks.set task next) = active [next] := by
  obtain ⟨bound, at'⟩ := List.getElem?_eq_some_iff.mp here
  have split : tasks = tasks.take task ++ place :: tasks.drop (task + 1) := by
    rw [<- at', getElem_cons_drop, take_append_drop]
  have around : active (tasks.take task) ++ place :: active (tasks.drop (task + 1)) =
      writer.toList := by
    rw [<- only]
    conv => rhs; rw [split, active_append, active_cons]
    simp [active, runs]
  have changed : tasks.set task next = tasks.take task ++ next :: tasks.drop (task + 1) := by
    rw [set_eq_take_append_cons_drop, if_pos bound]
  cases writer with
  | none => simp at around
  | some other =>
    rw [toList_some, append_eq_singleton_iff] at around
    rcases around with ⟨before, rest⟩ | ⟨_, rest⟩
    · obtain ⟨rfl, after⟩ := cons.inj rest
      refine ⟨rfl, ?_⟩
      rw [changed, active_append, active_cons, before, after, nil_append, append_nil]
    · cases rest

namespace IOMonitor

variable {mon : IOMonitor}

structure Invariant (mon : IOMonitor) : Prop where
  served : ∀ sessionId, ∃ writer, active (mon.writeTasks sessionId) = writer.toList ∧
    Served (sessionId ∈ mon.unregistered) mon.acceptedCount (mon.inputQueues sessionId) writer
      (mon.log sessionId)
  fds : ∀ (fd : Int) (info : FdInfo), mon.fdMap[fd]? = some info ->
    info.sessionId ∉ mon.unregistered ∧ info.sessionId ∈ mon.registered
  queues : ∀ sessionId, mon.inputQueues sessionId ≠ none -> sessionId ∈ mon.registered
  apart : ∀ sessionId other, ∀ input ∈ (mon.log sessionId).accepted,
    ∀ input' ∈ (mon.log other).accepted, input.serial = input'.serial -> sessionId = other

variable {sessionId : String}

theorem getStdinFdLocked_known (inv : mon.Invariant)
    (known : ¬ mon.getStdinFdLocked sessionId < 0) :
    sessionId ∉ mon.unregistered ∧ sessionId ∈ mon.registered := by
  unfold getStdinFdLocked at known
  split at known
  · simp at known
  next entry found =>
    have present := mem_toList_iff_getElem?_eq_some.mp (mem_of_find?_eq_some found)
    have same := find?_some found
    simp only [Bool.and_eq_true, beq_iff_eq] at same
    rw [<- same.1]
    exact inv.fds entry.1 entry.2 present

theorem Invariant.move (inv : mon.Invariant) {queue : Option InputQueue} {tasks : List WriteTask}
    {log : SessionLog} (writer : Option WriteTask) (only : active tasks = writer.toList)
    (served : Served (sessionId ∈ mon.unregistered) mon.acceptedCount queue writer log)
    (known : queue ≠ none -> sessionId ∈ mon.registered)
    (same : log.accepted = (mon.log sessionId).accepted) :
    Invariant { mon with
      inputQueues := update mon.inputQueues sessionId queue
      writeTasks := update mon.writeTasks sessionId tasks
      log := update mon.log sessionId log } where
  served other := by
    by_cases moved : other = sessionId
    · subst moved
      exact ⟨writer, by simpa using ⟨only, served⟩⟩
    · simpa [moved] using inv.served other
  fds := inv.fds
  queues other := by
    by_cases moved : other = sessionId
    · simpa [moved] using known
    · simpa [moved] using inv.queues other
  apart := by
    have accepted (other : String) :
        (update mon.log sessionId log other).accepted = (mon.log other).accepted := by
      by_cases moved : other = sessionId
      · simp [moved, same]
      · simp [moved]
    intro first second input mem input' member'
    simp only [accepted] at mem member'
    exact inv.apart first second input mem input' member'

def FdsFit (fits : FdInfo -> Prop) (fdMap : Std.ExtTreeMap Int FdInfo) : Prop :=
  ∀ (fd : Int) (info : FdInfo), fdMap[fd]? = some info -> fits info

variable {fdMap : Std.ExtTreeMap Int FdInfo}

theorem FdsFit.addFd {fits : FdInfo -> Prop} (before : FdsFit fits fdMap) (fd : Int) {info : FdInfo}
    (new : fits info) :
    FdsFit fits (addFd fdMap fd info) := by
  unfold IOMonitor.addFd
  split
  · intro other found
    rw [Std.ExtTreeMap.getElem?_insert]
    split
    · rintro ⟨⟩; exact new
    · exact before other found
  · exact before

theorem FdsFit.erase {fits : FdInfo -> Prop} (before : FdsFit fits fdMap)
    (fd : Int) : FdsFit fits (fdMap.erase fd) := by
  intro other found
  rw [getElem?_erase]
  split
  · exact nofun
  · exact before other found

section

variable (inv : mon.Invariant)
include inv

theorem Invariant.changeFds {registered : List String} (more : mon.registered ⊆ registered)
    (fds : FdsFit (fun info => info.sessionId ∉ mon.unregistered ∧ info.sessionId ∈ registered)
      fdMap) :
    Invariant { mon with fdMap := fdMap, registered := registered } where
  __ := inv
  fds := fds
  queues sessionId present := more (inv.queues sessionId present)

theorem registerSession_invariant (first : sessionId ∉ mon.unregistered)
    (stdoutFd stderrFd stdinFd : Int) (stdoutAdded stderrAdded : Bool) :
    (mon.registerSession sessionId stdoutFd stderrFd stdinFd stdoutAdded stderrAdded).Invariant := by
  let fits (info : FdInfo) : Prop :=
    info.sessionId ∉ mon.unregistered ∧ info.sessionId ∈ sessionId :: mon.registered
  have before : FdsFit fits mon.fdMap := by
    intro fd info found
    exact ⟨(inv.fds fd info found).1, mem_cons_of_mem _ (inv.fds fd info found).2⟩
  have own (info : FdInfo) (same : info.sessionId = sessionId) : fits info :=
    ⟨same ▸ first, same ▸ mem_cons_self⟩
  have more : mon.registered ⊆ sessionId :: mon.registered := subset_cons_self _ _
  have out := before.addFd stdoutFd (own ⟨sessionId, true, false⟩ rfl)
  unfold registerSession
  split_ifs
  · exact inv.changeFds more before
  · exact inv.changeFds more (out.erase stdoutFd)
  · exact inv.changeFds more out
  · have err := out.addFd stderrFd (own ⟨sessionId, false, false⟩ rfl)
    exact inv.changeFds more (err.addFd stdinFd (own ⟨sessionId, false, true⟩ rfl))

theorem closeFdLocked_invariant (fd : Int) (info : FdInfo) :
    (mon.closeFdLocked fd info).Invariant := by
  unfold closeFdLocked
  split
  · exact inv
  · split
    · exact inv
    · exact inv.changeFds (Subset.refl _) (FdsFit.erase inv.fds fd)

theorem Invariant.forget (sessionId : String) :
    Invariant { mon with
      fdMap := mon.fdMap.filter fun _ info => info.sessionId != sessionId
      unregistered := sessionId :: mon.unregistered } where
  served other := by
    obtain ⟨writer, only, served⟩ := inv.served other
    exact ⟨writer, only, served.weaken (mem_cons_of_mem sessionId) (le_refl _)⟩
  fds fd info found := by
    rw [getElem?_filter', filter_eq_some_iff] at found
    obtain ⟨present, ne⟩ := found
    simp only [bne_iff_ne] at ne
    refine ⟨not_mem_cons_of_ne_of_not_mem ne ?_, (inv.fds fd info present).2⟩
    exact (inv.fds fd info present).1
  __ := inv

theorem unregisterSession_invariant (sessionId : String) :
    (mon.unregisterSession sessionId).Invariant := by
  have forgotten := inv.forget sessionId
  obtain ⟨writer, only, served⟩ := forgotten.served sessionId
  have drained := forgotten.move writer only (served.drain writer (fun _ => mem_cons_self) rfl)
    (absurd rfl) rfl
  rw [update_eq_self] at drained
  exact drained

theorem stop_invariant : mon.stop.Invariant := by
  unfold stop
  split
  case isFalse => exact inv
  case isTrue =>
    constructor
    case served =>
      intro sessionId
      obtain ⟨writer, only, served⟩ := inv.served sessionId
      refine ⟨writer, only, served.drain writer (fun writes => ?_) rfl⟩
      by_cases gone : sessionId ∈ mon.unregistered
      · exact mem_append_right _ gone
      · have known := inv.queues sessionId (served.writerServes gone writes)
        exact mem_append_left _ known
    case fds => simp
    case queues => simp
    case apart => exact inv.apart

theorem acceptMessage_invariant {queue : InputQueue} {writer : Option WriteTask}
    (only : active (mon.writeTasks sessionId) = writer.toList)
    (served : Served (sessionId ∈ mon.unregistered) mon.acceptedCount (some queue) writer
      (mon.log sessionId)) (known : sessionId ∈ mon.registered) (message : List UInt8)
    (eventId : String) (bytes : queue.pendingBytes + message.length ≤ maxPendingInputBytes)
    (messages : queue.pendingInputs.length < maxPendingInputMessages) :
    (mon.acceptMessage sessionId queue message eventId).Invariant where
  served other := by
    by_cases moved : other = sessionId
    · subst moved
      refine ⟨if queue.writeTaskRunning then writer else some .looping, ?_, ?_⟩
      · simp only [acceptMessage, update_self, active_append, only]
        split
        · simp [active]
        next idle =>
          have none : writer = none := by
            by_contra writes
            exact idle ((served.running queue rfl).mpr writes)
          simp [none, active]
      · simpa [acceptMessage] using served.accept message eventId bytes messages
    · obtain ⟨writer, only, served⟩ := inv.served other
      refine ⟨writer, ?_, ?_⟩
      · simpa [acceptMessage, moved] using only
      · simpa [acceptMessage, moved] using served.weaken id (le_succ _)
  fds := inv.fds
  queues other := by
    by_cases moved : other = sessionId
    · simp [moved, acceptMessage, known]
    · simpa [acceptMessage, moved] using inv.queues other
  apart := by
    have accepted (other : String) (input : PendingInput)
        (mem : input ∈ ((mon.acceptMessage sessionId queue message eventId).log other).accepted) :
        input ∈ (mon.log other).accepted ∧ input.serial < mon.acceptedCount ∨
          other = sessionId ∧ input.serial = mon.acceptedCount := by
      obtain ⟨writer, _, served⟩ := inv.served other
      by_cases moved : other = sessionId
      · subst moved
        simp only [acceptMessage, update_self, mem_append, mem_singleton] at mem
        rcases mem with old | rfl
        · exact .inl ⟨old, served.fresh input old⟩
        · exact .inr ⟨rfl, rfl⟩
      · simp only [acceptMessage, update_of_ne moved] at mem
        exact .inl ⟨mem, served.fresh input mem⟩
    intro first second input mem input' member' same
    rcases accepted first input mem with ⟨old, low⟩ | ⟨here, serial⟩
    · rcases accepted second input' member' with ⟨old', _⟩ | ⟨_, serial'⟩
      · exact inv.apart first second input old input' old' same
      · omega
    · rcases accepted second input' member' with ⟨_, low'⟩ | ⟨here', _⟩
      · omega
      · rw [here, here']

theorem sendMessage_invariant (sessionId : String) (message : List UInt8)
    (eventId : String) : (mon.sendMessage sessionId message eventId).Invariant := by
  obtain ⟨writer, only, served⟩ := inv.served sessionId
  simp only [sendMessage]
  split
  case isTrue =>
    have rejected := inv.move writer only (served.reject eventId) (inv.queues sessionId) rfl
    rw [update_eq_self, update_eq_self] at rejected
    exact rejected
  case isFalse stdin =>
    obtain ⟨here, known⟩ := getStdinFdLocked_known inv stdin
    have entered := served.entry here
    split
    case isTrue =>
      have rejected := inv.move writer only (entered.reject eventId) (fun _ => known) rfl
      rw [update_eq_self] at rejected
      exact rejected
    case isFalse room =>
      rw [not_or, not_lt, not_le] at room
      exact acceptMessage_invariant inv only entered known message eventId room.1 room.2

theorem takeInput_invariant {task : Nat} (here : (mon.writeTasks sessionId)[task]? = some .looping)
    (dup : Int) :
    (mon.takeInput sessionId task dup).Invariant := by
  obtain ⟨writer, only, served⟩ := inv.served sessionId
  obtain ⟨rfl, moved⟩ := active_set here (by simp) only .returned
  unfold takeInput
  split
  next missing =>
    rw [missing] at served
    have left := inv.move none moved (served.leave rfl) (absurd rfl) rfl
    rw [<- missing, update_eq_self, update_eq_self] at left
    exact left
  next queue found =>
    have known : sessionId ∈ mon.registered := inv.queues sessionId (by simp [found])
    rw [found] at served
    split
    next nothing =>
      have left := inv.move none moved (served.idle nothing rfl) (fun _ => known) rfl
      rw [update_eq_self] at left
      exact left
    next input rest first =>
      let fd := if mon.getStdinFdLocked sessionId ≥ 0 then dup else -1
      obtain ⟨_, writes⟩ := active_set here (by simp) only (.writing fd input)
      have taken := inv.move (some (.writing fd input)) writes (served.take first fd)
        (fun _ => known) rfl
      rw [update_eq_self] at taken
      exact taken

theorem processWriteQueue_invariant (sessionId : String) (task : Nat) (dup : Int)
    (answers : List WriteAnswer) :
    (mon.processWriteQueue sessionId task dup answers).Invariant := by
  obtain ⟨writer, only, served⟩ := inv.served sessionId
  unfold processWriteQueue
  split
  next here => exact takeInput_invariant inv here dup
  next fd input here =>
    unfold writeInput
    split
    · split
      · exact inv
      next result _ =>
        let next : WriteTask := if result then .looping else .failed
        obtain ⟨rfl, moved⟩ := active_set here (by simp) only next
        have runs : active [next] = (some next).toList := by cases result <;> rfl
        have ended := inv.move (some next) (moved.trans runs)
          (served.written result next (by cases result <;> rfl)) (inv.queues sessionId) rfl
        rw [update_eq_self] at ended
        exact ended
    · obtain ⟨rfl, moved⟩ := active_set here (by simp) only .failed
      have left := inv.move (some .failed) moved served.unwritten (inv.queues sessionId) rfl
      rw [update_eq_self] at left
      exact left
  next here =>
    obtain ⟨rfl, moved⟩ := active_set here (by simp) only .returned
    exact inv.move none moved (served.drain none (absurd rfl) rfl) (absurd rfl) rfl
  · exact inv
  · exact inv

theorem step_invariant {step : Step} (notAgain : step.NotAgain mon) :
    (mon.step step).Invariant := by
  cases step with
  | registerSession sessionId stdoutFd stderrFd stdinFd stdoutAdded stderrAdded =>
    exact registerSession_invariant inv notAgain stdoutFd stderrFd stdinFd stdoutAdded stderrAdded
  | unregisterSession sessionId => exact unregisterSession_invariant inv sessionId
  | stop => exact stop_invariant inv
  | sendMessage sessionId message eventId => exact sendMessage_invariant inv sessionId message eventId
  | processWriteQueue sessionId task dup answers =>
    exact processWriteQueue_invariant inv sessionId task dup answers
  | closeFdLocked fd info => exact closeFdLocked_invariant inv fd info

end

theorem start_invariant : Invariant { } where
  served _ := by
    refine ⟨none, rfl, ?_⟩
    constructor
    case running => exact nofun
    case writerServes => exact fun _ => absurd rfl
    case bounded => exact nofun
    case places => exact Perm.refl _
    case order => exact refl _
    case serials => exact Pairwise.nil
    case fresh => exact nofun
  fds _ _ found := by simp at found
  queues _ := absurd rfl
  apart _ _ _ := nofun

/-- Each accepted message is in one place, one writer is at work, and the counts are right. -/
structure Accounted (mon : IOMonitor) (sessionId : String) : Prop where
  onePlace : (mon.log sessionId).accepted.Perm ((mon.log sessionId).replied.map fst ++
    ((active (mon.writeTasks sessionId)).flatMap input ++
      queued (mon.inputQueues sessionId)))
  distinct : ((mon.log sessionId).accepted.map PendingInput.serial).Nodup
  ownSession : ∀ other, ∀ input ∈ (mon.log sessionId).accepted,
    ∀ input' ∈ (mon.log other).accepted, input.serial = input'.serial -> sessionId = other
  oneWriter : (active (mon.writeTasks sessionId)).length ≤ 1
  order : (mon.log sessionId).written.Sublist (mon.log sessionId).accepted
  pendingBytes : ∀ queue, mon.inputQueues sessionId = some queue ->
    queue.pendingBytes = pendingSize queue.pendingInputs ∧
      queue.pendingBytes ≤ maxPendingInputBytes ∧
      queue.pendingInputs.length ≤ maxPendingInputMessages

theorem Invariant.accounted (inv : mon.Invariant) (sessionId : String) :
    mon.Accounted sessionId := by
  obtain ⟨writer, only, served⟩ := inv.served sessionId
  have writing : (active (mon.writeTasks sessionId)).flatMap input =
      writer.elim [] input := by
    rw [only]
    cases writer <;> simp
  constructor
  case onePlace => rw [writing]; exact served.places
  case distinct => exact served.serials.imp ne_of_lt
  case ownSession => exact inv.apart sessionId
  case oneWriter =>
    rw [only]
    cases writer <;> simp
  case order => exact (sublist_append_left _ _).trans served.order
  case pendingBytes =>
    intro queue found
    have bounded := served.bounded queue found
    exact ⟨bounded.bytes, bounded.byteLimit, bounded.messageLimit⟩

end IOMonitor

theorem run_accounts_for_messages (steps : List Step)
    (notAgain : monitor.EveryStep steps Step.NotAgain) :
    monitor.Throughout steps fun mon => ∀ sessionId, mon.Accounted sessionId := by
  have kept := notAgain.throughout start_invariant
    fun mon step inv notAgain => step_invariant inv notAgain
  exact fun done rest split => (kept done rest split).accounted

def interruptedSession : List Step :=
  [.registerSession "s" 4 5 3 true true, .sendMessage "s" [1, 2] "first",
    .processWriteQueue "s" 0 9 [], .sendMessage "s" [3] "second", .unregisterSession "s",
    .processWriteQueue "s" 0 9 [.wrote 1, .wouldBlock 10 .writable, .wrote 1],
    .processWriteQueue "s" 0 9 []]

theorem run_accounts_for_interruptedSession :
    ((monitor.run interruptedSession).log "s").replied.map (fun reply => (reply.1.eventId, reply.2)) =
        [("second", false), ("first", true)] ∧
      (monitor.run interruptedSession).Accounted "s" :=
  ⟨by decide +kernel, run_accounts_for_messages interruptedSession
    (Library.Machine.StepsFrom.everyStep (by decide +kernel)) interruptedSession [] (by simp) "s"⟩

end AbilityRuntime.CliTool
