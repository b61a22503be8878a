import AbilityRuntime.Library.Runs
import AbilityRuntime.Utils.RequestIdUtil

set_option autoImplicit false

namespace AbilityRuntime.Connection

open Library List RequestIdUtil

structure LoadParam where
  abilityRecordId : Int
  customProcessFlag : String
deriving DecidableEq, Repr

/-- A want by its element, with the parameter that PARAM_SPECIFIED_PROCESS_FLAG names. -/
structure LoadWant where
  element : String
  specifiedProcessFlag : Option String
deriving DecidableEq, Repr

structure LoadAbilityContext where
  loadParam : Option LoadParam
  abilityInfo : Option String
  appInfo : Option String
  want : Option LoadWant
deriving DecidableEq, Repr

namespace LoadAbilityContext

def isValid (context : LoadAbilityContext) : Bool :=
  context.want.isSome && context.loadParam.isSome && context.abilityInfo.isSome &&
    context.appInfo.isSome

def setSpecifiedProcessFlag (context : LoadAbilityContext) (flag : String) : LoadAbilityContext :=
  { context with
    want := context.want.map fun want => { want with specifiedProcessFlag := some flag } }

def unflagged (context : LoadAbilityContext) : LoadAbilityContext :=
  { context with
    want := context.want.map fun want => { want with specifiedProcessFlag := none } }

@[simp] theorem unflagged_setSpecifiedProcessFlag (context : LoadAbilityContext) (flag : String) :
    (context.setSpecifiedProcessFlag flag).unflagged = context.unflagged := by
  simp [setSpecifiedProcessFlag, unflagged, Function.comp_def]

end LoadAbilityContext

abbrev LoadRequest := Int × LoadAbilityContext

/-- The load queue of the manager and what it asks of AppScheduler. -/
structure LoadAbilityQueue where
  requestId : Int := 1
  loadAbilityQueue : List LoadRequest := []
  unanswered : List Int := []
  loaded : List LoadRequest := []
  queued : List LoadRequest := []

namespace LoadAbilityQueue

def startSpecifiedProcess (loads : LoadAbilityQueue) (context : LoadAbilityContext) :
    LoadAbilityQueue :=
  let (requestId, next) := getRequestId loads.requestId
  let loads := { loads with
    requestId := next
    loadAbilityQueue := loads.loadAbilityQueue ++ [(requestId, context)]
    queued := loads.queued ++ [(requestId, context)] }
  if loads.loadAbilityQueue.length > 1 then loads
  else { loads with unanswered := loads.unanswered ++ [requestId] }

/-- What the two handlers do with the front request; only one of them sets a flag. -/
def loadFront (loads : LoadAbilityQueue) (requestId : Int)
    (prepare : LoadAbilityContext -> LoadAbilityContext) : LoadAbilityQueue :=
  match loads.loadAbilityQueue with
  | [] => loads
  | front :: rest =>
    if front.1 ≠ requestId then loads
    else if !front.2.isValid then { loads with loadAbilityQueue := rest }
    else { loads with
      loaded := loads.loaded ++ [(requestId, prepare front.2)]
      loadAbilityQueue := rest }

def onStartSpecifiedProcessResponse (loads : LoadAbilityQueue) (flag : String) (requestId : Int) :
    LoadAbilityQueue :=
  loads.loadFront requestId (·.setSpecifiedProcessFlag flag)

def onStartSpecifiedProcessTimeoutResponse (loads : LoadAbilityQueue) (requestId : Int) :
    LoadAbilityQueue :=
  loads.loadFront requestId id

inductive Answer where
  | response (flag : String)
  | timeout

def answer (loads : LoadAbilityQueue) (index : Nat) (answer : Answer) : LoadAbilityQueue :=
  match loads.unanswered[index]? with
  | none => loads
  | some requestId =>
    let loads := { loads with unanswered := loads.unanswered.eraseIdx index }
    match answer with
    | .response flag => loads.onStartSpecifiedProcessResponse flag requestId
    | .timeout => loads.onStartSpecifiedProcessTimeoutResponse requestId

inductive Event where
  | startSpecifiedProcess (context : LoadAbilityContext)
  | answer (index : Nat) (answer : Answer)
  | otherRequestId

def step (loads : LoadAbilityQueue) : Event -> LoadAbilityQueue
  | .startSpecifiedProcess context => loads.startSpecifiedProcess context
  | .answer index answer => loads.answer index answer
  | .otherRequestId => { loads with requestId := (getRequestId loads.requestId).2 }

def machine : Machine LoadAbilityQueue Event := ⟨{}, step⟩

def answerAll (loads : LoadAbilityQueue) (answers : List (Nat × Answer)) : LoadAbilityQueue :=
  answers.foldl (fun loads each => loads.answer each.1 each.2) loads

def requests (list : List LoadRequest) : List LoadRequest :=
  list.map fun request => (request.1, request.2.unflagged)

/-- The front request is asked for, and loads and queue are what was queued, in order. -/
structure Served (loads : LoadAbilityQueue) : Prop where
  frontIssued : ∀ front ∈ loads.loadAbilityQueue.head?, front.1 ∈ loads.unanswered
  inOrder : requests loads.loaded ++ requests loads.loadAbilityQueue = requests loads.queued
  answerable : ∃ answers, (loads.answerAll answers).loadAbilityQueue = [] ∧
    requests (loads.answerAll answers).loaded = requests loads.queued

def Event.Meets (loads : LoadAbilityQueue) : Event -> Prop
  | .startSpecifiedProcess context => loads.loadAbilityQueue = [] ∧ context.isValid = true
  | _ => True

inductive Settled (loads : LoadAbilityQueue) : Prop where
  | idle (empty : loads.loadAbilityQueue = []) (answered : loads.unanswered = [])
      (done : requests loads.loaded = requests loads.queued)
  | waiting (request : LoadRequest) (valid : request.2.isValid = true)
      (only : loads.loadAbilityQueue = [request]) (issued : loads.unanswered = [request.1])
      (left : requests loads.loaded ++ requests [request] = requests loads.queued)

variable {loads : LoadAbilityQueue}

theorem answer_none (loads : LoadAbilityQueue) (index : Nat) (each : Answer)
    (outside : loads.unanswered[index]? = none) : loads.answer index each = loads := by
  simp [answer, outside]

theorem loadFront_cases (loads : LoadAbilityQueue) (requestId : Int)
    (prepare : LoadAbilityContext -> LoadAbilityContext) :
    loads.loadFront requestId prepare = loads ∨
      ∃ front rest, loads.loadAbilityQueue = front :: rest ∧ front.1 = requestId ∧
        ((front.2.isValid = false ∧
          loads.loadFront requestId prepare = { loads with loadAbilityQueue := rest }) ∨
        (front.2.isValid = true ∧ loads.loadFront requestId prepare = { loads with
          loaded := loads.loaded ++ [(requestId, prepare front.2)]
          loadAbilityQueue := rest })) := by
  unfold loadFront
  cases loads.loadAbilityQueue with
  | nil => exact .inl rfl
  | cons front rest =>
    dsimp only
    by_cases own : front.1 = requestId
    · right
      refine ⟨front, rest, rfl, own, ?_⟩
      cases valid : front.2.isValid <;> simp [own]
    · exact .inl (if_pos own)

theorem answer_eq {index : Nat} {requestId : Int} (loads : LoadAbilityQueue) (each : Answer)
    (asked : loads.unanswered[index]? = some requestId) :
    ∃ prepare : LoadAbilityContext -> LoadAbilityContext,
      (∀ context, (prepare context).unflagged = context.unflagged) ∧
      loads.answer index each =
        { loads with unanswered := loads.unanswered.eraseIdx index }.loadFront requestId prepare := by
  unfold answer
  rw [asked]
  cases each with
  | response flag =>
    refine ⟨(·.setSpecifiedProcessFlag flag), fun context => ?_, rfl⟩
    exact context.unflagged_setSpecifiedProcessFlag flag
  | timeout => exact ⟨id, fun _ => rfl, rfl⟩

theorem Settled.answer (settled : loads.Settled) (index : Nat) (each : Answer) :
    (loads.answer index each).Settled := by
  cases asked : loads.unanswered[index]? with
  | none => rwa [answer_none loads index each asked]
  | some requestId =>
    cases settled with
    | idle empty answered done => simp [answered] at asked
    | waiting request valid only issued left =>
      have first : index = 0 ∧ request.1 = requestId := by
        rw [issued, getElem?_singleton] at asked
        split at asked
        next zero => exact ⟨zero, Option.some.inj asked⟩
        · cases asked
      obtain ⟨rfl, rfl⟩ := first
      obtain ⟨prepare, same, result⟩ := answer_eq loads each asked
      rw [result]
      refine .idle ?_ ?_ ?_
      · simp [loadFront, only, valid]
      · simp [loadFront, only, valid, issued]
      · simpa [loadFront, only, valid, requests, same] using left

theorem Settled.served (settled : loads.Settled) : loads.Served := by
  cases settled with
  | idle empty answered done =>
    constructor
    case frontIssued => simp [empty]
    case inOrder => simpa [empty, requests] using done
    case answerable => exact ⟨[], empty, done⟩
  | waiting request valid only issued left =>
    constructor
    case frontIssued => simp [only, issued]
    case inOrder => rwa [only]
    case answerable =>
      refine ⟨[(0, .timeout)], ?_, ?_⟩
      · simp [answerAll, LoadAbilityQueue.answer, issued, onStartSpecifiedProcessTimeoutResponse,
          loadFront, only, valid]
      · rw [<- left]
        simp [answerAll, LoadAbilityQueue.answer, issued, onStartSpecifiedProcessTimeoutResponse,
          loadFront, only, valid, requests]

theorem answer_length (loads : LoadAbilityQueue) (index : Nat) (each : Answer) :
    loads.loadAbilityQueue.length + (loads.answer index each).unanswered.length ≤
      (loads.answer index each).loadAbilityQueue.length + loads.unanswered.length := by
  cases asked : loads.unanswered[index]? with
  | none => exact Nat.le_of_eq (by rw [answer_none loads index each asked])
  | some requestId =>
    obtain ⟨inside, -⟩ := List.getElem?_eq_some_iff.mp asked
    have shorter := List.length_eraseIdx_of_lt inside
    obtain ⟨prepare, -, result⟩ := answer_eq loads each asked
    rw [result]
    rcases loadFront_cases { loads with unanswered := loads.unanswered.eraseIdx index } requestId
      prepare with unchanged | ⟨front, rest, queue, -, ⟨-, popped⟩ | ⟨-, popped⟩⟩
    · rw [unchanged]
      dsimp only
      omega
    · have longer : loads.loadAbilityQueue.length = rest.length + 1 := by
        simpa using congrArg length queue
      rw [popped]
      dsimp only
      omega
    · have longer : loads.loadAbilityQueue.length = rest.length + 1 := by
        simpa using congrArg length queue
      rw [popped]
      dsimp only
      omega

theorem answerAll_length (loads : LoadAbilityQueue) (answers : List (Nat × Answer)) :
    loads.loadAbilityQueue.length + (loads.answerAll answers).unanswered.length ≤
      (loads.answerAll answers).loadAbilityQueue.length + loads.unanswered.length := by
  induction answers generalizing loads with
  | nil => exact Nat.le_refl _
  | cons each rest ih =>
    have first := loads.answer_length each.1 each.2
    have later := ih (loads.answer each.1 each.2)
    simp only [answerAll, foldl_cons] at later ⊢
    omega

def Unloadable (loads : LoadAbilityQueue) : Prop :=
  ∀ request ∈ loads.loadAbilityQueue, request.2.isValid = false

theorem Unloadable.answerAll (unloadable : loads.Unloadable) (answers : List (Nat × Answer)) :
    (loads.answerAll answers).loaded = loads.loaded := by
  induction answers generalizing loads with
  | nil => rfl
  | cons each rest ih =>
    have step : (loads.answer each.1 each.2).Unloadable ∧
        (loads.answer each.1 each.2).loaded = loads.loaded := by
      cases asked : loads.unanswered[each.1]? with
      | none =>
        rw [answer_none loads each.1 each.2 asked]
        exact ⟨unloadable, rfl⟩
      | some requestId =>
        obtain ⟨prepare, -, result⟩ := answer_eq loads each.2 asked
        rw [result]
        rcases loadFront_cases { loads with unanswered := loads.unanswered.eraseIdx each.1 }
          requestId prepare with unchanged | ⟨front, left, queue, -, ⟨-, popped⟩ | ⟨valid, -⟩⟩
        · rw [unchanged]
          exact ⟨unloadable, rfl⟩
        · rw [popped]
          refine ⟨fun request inside => unloadable request ?_, rfl⟩
          exact queue ▸ mem_cons_of_mem front inside
        · have invalid := unloadable front (queue ▸ mem_cons_self)
          simp [valid] at invalid
    exact (ih step.1).trans step.2

theorem Settled.step (settled : loads.Settled) (event : Event) (meets : event.Meets loads) :
    (loads.step event).Settled := by
  cases event with
  | startSpecifiedProcess context =>
    obtain ⟨empty, valid⟩ := meets
    cases settled with
    | idle _ answered done =>
      refine .waiting ((getRequestId loads.requestId).1, context) valid ?_ ?_ ?_
      · simp [LoadAbilityQueue.step, startSpecifiedProcess, empty]
      · simp [LoadAbilityQueue.step, startSpecifiedProcess, empty, answered]
      · simpa [LoadAbilityQueue.step, startSpecifiedProcess, empty, requests] using done
    | waiting request _ only _ _ => simp [empty] at only
  | answer index each => exact settled.answer index each
  | otherRequestId =>
    cases settled with
    | idle empty answered done => exact .idle empty answered done
    | waiting request valid only issued left => exact .waiting request valid only issued left

theorem Settled.meets (settled : loads.Settled) (event : Event)
    (served : (loads.step event).Served) : event.Meets loads := by
  cases event with
  | startSpecifiedProcess context =>
    obtain ⟨answers, drained, all⟩ := served.answerable
    cases settled with
    | idle empty answered done =>
      refine ⟨empty, ?_⟩
      by_contra invalid
      rw [Bool.not_eq_true] at invalid
      have unloadable : (loads.step (.startSpecifiedProcess context)).Unloadable := by
        simp [Unloadable, LoadAbilityQueue.step, startSpecifiedProcess, empty, invalid]
      rw [unloadable.answerAll answers] at all
      have same := congrArg length all
      have before := congrArg length done
      simp [LoadAbilityQueue.step, startSpecifiedProcess, empty, requests] at same before
      omega
    | waiting request valid only issued left =>
      have lengths := (loads.step (.startSpecifiedProcess context)).answerAll_length answers
      rw [drained] at lengths
      simp [LoadAbilityQueue.step, startSpecifiedProcess, only, issued] at lengths
      omega
  | answer => trivial
  | otherRequestId => trivial

/-- Every request is served exactly when it finds the queue empty and its context complete. -/
theorem loads_served_iff (events : List Event) :
    machine.Throughout events Served ↔
      machine.EveryStep events fun loads event => event.Meets loads := by
  have promised : machine.EveryStep events fun _ _ => True := fun _ _ _ _ => trivial
  have initial : machine.start.Settled := .idle rfl rfl rfl
  exact Machine.throughout_iff_everyStep initial
    (fun _ event settled _ meets => settled.step event meets)
    (fun _ settled => settled.served)
    (fun _ event settled _ served => settled.meets event served) promised

def loadContext (abilityRecordId : Int) : LoadAbilityContext where
  loadParam := some ⟨abilityRecordId, "isolated"⟩
  abilityInfo := some "ShareUIExtension"
  appInfo := some "com.example.app"
  want := some ⟨"com.example.app/ShareUIExtension", none⟩

def overlapping : List Event :=
  [.startSpecifiedProcess (loadContext 1), .startSpecifiedProcess (loadContext 2),
    .answer 0 (.response "main")]

theorem second_request_is_stranded : ¬ machine.Throughout overlapping Served := by
  intro served
  have last := served overlapping [] (append_nil _).symm
  have issued := last.frontIssued (2, loadContext 2) (by decide)
  revert issued
  decide

end LoadAbilityQueue

end AbilityRuntime.Connection
