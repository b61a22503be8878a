import AbilityRuntime.SceneBoard.RequestLists

set_option autoImplicit false

namespace AbilityRuntime.SceneBoard

open Library Option KeyedQueues KeyedMap

namespace SpecifiedRequests

def Waiting (queue : SpecifiedRequests) (requestId : Nat) : Prop :=
  (∀ stage, (requestId, stage) ∉ queue.started) ∧ requestId ∉ queue.startTasks

/-- The order of the lists, with the front that is due to be started next, if there is one. -/
structure Ordered (queue : SpecifiedRequests) (due : Option Nat) : Prop where
  listed : Listed queue
  fronts : ∀ key front, (queue.list key).head? = some front ->
    (∃ stage, (front, stage) ∈ queue.started) ∨ front ∈ queue.startTasks ∨ due = some front
  behind : ∀ key, ∀ requestId ∈ (queue.list key).tail, queue.Waiting requestId
  once : queue.started.Nodup
  startedKnown : ∀ requestId stage, (requestId, stage) ∈ queue.started -> requestId ∈ queue.arrived
  stages : ∀ requestId request, queue.requests.lookup requestId = some request ->
    request.specifiedProcessState = .process -> (requestId, .ability) ∉ queue.started
  askedOnce : queue.asked.Nodup
  askedStarted : ∀ requestId ∈ queue.asked, (requestId, .ability) ∈ queue.started
  tasksOnce : queue.startTasks.Nodup
  tasks : ∀ requestId ∈ queue.startTasks, requestId ∈ queue.arrived ∧
    ∀ stage, (requestId, stage) ∉ queue.started

structure Startable (queue : SpecifiedRequests) (requestId : Nat) : Prop where
  arrived : requestId ∈ queue.arrived
  apart : ∀ key, requestId ∉ (queue.list key).tail
  untasked : requestId ∉ queue.startTasks

variable {queue : SpecifiedRequests} {due : Option Nat} {requestId : Nat}

open KeyedQueues Ordered List

theorem ordered_start : Ordered { } none := by
  refine ⟨listed_start, ?_, ?_, ?_, ?_, ?_, ?_, ?_, ?_, ?_⟩ <;> simp [list, queue]

theorem Ordered.unless_front (ordered : Ordered queue (some requestId))
    (missing : keyOfFront queue.specifiedRequestList requestId = none) :
    Ordered queue none := by
  refine { ordered with fronts := fun key front head => ?_ }
  rcases ordered.fronts key front head with started | task | same
  · exact .inl started
  · exact .inr (.inl task)
  · obtain ⟨rest, found⟩ := head?_eq_some_iff.mp head
    have present := keyOfFront_isSome found
    rw [<- some.inj same, missing] at present
    cases present

theorem Ordered.pop (ordered : Ordered queue due) (dueOnly : ∀ other, due = some other -> other = requestId)
    {key : String} {rest : List Nat} (found : queue.list key = requestId :: rest) :
    Ordered { queue with
      specifiedRequestList := pop queue.specifiedRequestList key
      left := queue.left ++ [requestId] } rest.head? := by
  refine { ordered with listed := ordered.listed.pop found, fronts := ?_, behind := ?_ }
  · intro other front head
    rw [list, popped_list found] at head
    split at head
    · exact .inr (.inr head)
    next ne =>
      rcases ordered.fronts other front head with started | task | same
      · exact .inl started
      · exact .inr (.inl task)
      · have here : requestId ∈ queue.list key := by simp [found]
        have there : requestId ∈ queue.list other := by
          rw [<- dueOnly front same]
          exact mem_of_mem_head? head
        exact absurd (key_unique ordered.listed.members_nodup here there) ne
  · intro other later mem
    rw [list, popped_list found] at mem
    split at mem
    · obtain ⟨unstarted, untasked⟩ := ordered.behind key later (by
        rw [found]
        exact mem_of_mem_tail mem)
      exact ⟨unstarted, untasked⟩
    · obtain ⟨unstarted, untasked⟩ := ordered.behind other later mem
      exact ⟨unstarted, untasked⟩

theorem Ordered.submitNext (ordered : Ordered queue (some requestId))
    (startable : Startable queue requestId) (unstarted : ∀ stage, (requestId, stage) ∉ queue.started) :
    Ordered { queue with startTasks := queue.startTasks ++ [requestId] } none := by
  refine { ordered with
    listed := { ordered.listed with }, fronts := ?_, behind := ?_, tasksOnce := ?_, tasks := ?_ }
  · intro key front head
    rcases ordered.fronts key front head with started | task | same
    · exact .inl started
    · exact .inr (.inl (mem_append_left _ task))
    · exact .inr (.inl (by simp [some.inj same]))
  · intro key later mem
    obtain ⟨idle, untasked⟩ := ordered.behind key later mem
    refine ⟨idle, fun task => ?_⟩
    rcases mem_append.mp task with before | new
    · exact untasked before
    · exact startable.apart key (mem_singleton.mp new ▸ mem)
  · exact nodup_append_comm.mp (nodup_cons.mpr ⟨startable.untasked, ordered.tasksOnce⟩)
  · intro other task
    rcases mem_append.mp task with before | new
    · exact ordered.tasks other before
    · rw [mem_singleton.mp new]
      exact ⟨startable.arrived, unstarted⟩

theorem Ordered.next_startable (ordered : Ordered queue due) {key : String} {next : Nat}
    {rest : List Nat} (found : queue.list key = requestId :: next :: rest) :
    queue.Waiting next ∧ Startable { queue with
      specifiedRequestList := KeyedQueues.pop queue.specifiedRequestList key
      left := queue.left ++ [requestId] } next := by
  have waiting := ordered.behind key next (by simp [found])
  have here : next ∈ queue.list key := by simp [found]
  refine ⟨waiting, ordered.listed.arrived_of_mem here, fun other => ?_, waiting.2⟩
  rw [list, queue_pop]
  have nodup := queue_nodup ordered.listed.members_nodup key
  rw [<- list, found] at nodup
  split
  · rw [<- list, found]
    exact (nodup_cons.mp (nodup_cons.mp nodup).2).1
  next ne =>
    intro behind
    exact ne (key_unique ordered.listed.members_nodup here (mem_of_mem_tail behind))

theorem Ordered.popAndSubmitNext (ordered : Ordered queue due)
    (dueOnly : ∀ other, due = some other -> other = requestId) :
    Ordered (queue.popAndSubmitNext requestId) none := by
  unfold SpecifiedRequests.popAndSubmitNext
  obtain ⟨missing, same⟩ | ⟨key, rest, found, same⟩ := popAndGetNextSpecified_cases queue requestId
  · rw [same]
    cases due with
    | none => exact ordered
    | some other =>
      obtain rfl := dueOnly other rfl
      exact ordered.unless_front missing
  · rw [same]
    have popped := ordered.pop dueOnly found
    cases rest with
    | nil => exact popped
    | cons next rest =>
      obtain ⟨waiting, startable⟩ := ordered.next_startable found
      exact popped.submitNext startable waiting.1

theorem Ordered.log (ordered : Ordered queue (some requestId)) (startable : Startable queue requestId)
    {stage : Stage} (unstarted : (requestId, stage) ∉ queue.started)
    (staged : ∀ request, queue.requests.lookup requestId = some request ->
      request.specifiedProcessState = .process -> stage = .process) :
    Ordered (queue.logStart requestId stage) none := by
  refine { ordered with
    listed := { ordered.listed with }, fronts := ?_, behind := ?_, once := ?_, startedKnown := ?_
    stages := ?_, askedStarted := ?_, tasks := ?_ }
  · intro key front head
    rcases ordered.fronts key front head with ⟨other, started⟩ | task | same
    · exact .inl ⟨other, mem_append_left _ started⟩
    · exact .inr (.inl task)
    · exact .inl ⟨stage, by simp [logStart, some.inj same]⟩
  · intro key later mem
    obtain ⟨idle, untasked⟩ := ordered.behind key later mem
    refine ⟨fun other started => ?_, untasked⟩
    rcases mem_append.mp started with before | new
    · exact idle other before
    · obtain ⟨rfl, -⟩ := Prod.mk.inj (mem_singleton.mp new)
      exact startable.apart key mem
  · exact nodup_append_comm.mp (nodup_cons.mpr ⟨unstarted, ordered.once⟩)
  · intro other stage started
    rcases mem_append.mp started with before | new
    · exact ordered.startedKnown other stage before
    · obtain ⟨rfl, -⟩ := Prod.mk.inj (mem_singleton.mp new)
      exact startable.arrived
  · intro other request found process started
    rcases mem_append.mp started with before | new
    · exact ordered.stages other request found process before
    · obtain ⟨rfl, ability⟩ := Prod.mk.inj (mem_singleton.mp new)
      rw [staged request found process] at ability
      cases ability
  · exact fun other asked => mem_append_left _ (ordered.askedStarted other asked)
  · intro other task
    obtain ⟨arrived, idle⟩ := ordered.tasks other task
    refine ⟨arrived, fun other stage => ?_⟩
    rcases mem_append.mp stage with before | new
    · exact idle _ before
    · obtain ⟨rfl, -⟩ := Prod.mk.inj (mem_singleton.mp new)
      exact startable.untasked task

theorem Ordered.ask (ordered : Ordered queue due) (unasked : requestId ∉ queue.asked)
    (started : (requestId, .ability) ∈ queue.started) :
    Ordered { queue with asked := queue.asked ++ [requestId] } due := by
  refine { ordered with listed := { ordered.listed with }, askedOnce := ?_, askedStarted := ?_ }
  · exact nodup_append_comm.mp (nodup_cons.mpr ⟨unasked, ordered.askedOnce⟩)
  · intro other asked
    rcases mem_append.mp asked with before | new
    · exact ordered.askedStarted other before
    · exact mem_singleton.mp new ▸ started

theorem Ordered.update (ordered : Ordered queue due) (requestId : Nat)
    {change : SpecifiedRequest -> SpecifiedRequest}
    (cold : ∀ request, queue.requests.lookup requestId = some request ->
      (change request).isCold = true -> (change request).requestListId = none)
    (same : ∀ request, (change request).specifiedProcessState = .process ->
      request.specifiedProcessState = .process) : Ordered (queue.update requestId change) due := by
  have listed := ordered.listed.update requestId cold
  unfold SpecifiedRequests.update at listed ⊢
  split
  · exact ordered
  next request found =>
    simp only [found] at listed
    refine { ordered with listed := listed, stages := ?_ }
    intro other changed held process
    rw [lookup_insert_eq] at held
    split at held
    next own =>
      subst own
      rw [<- some.inj held] at process
      exact ordered.stages _ request found (same request process)
    · exact ordered.stages other changed held process

theorem Ordered.failTasks (ordered : Ordered queue due) (tasks : List Nat) :
    Ordered { queue with failTasks := tasks } due :=
  { ordered with listed := { ordered.listed with } }

theorem Ordered.start (ordered : Ordered queue (some requestId)) (startable : Startable queue requestId)
    (unstarted : ∀ request, queue.requests.lookup requestId = some request ->
      (requestId, request.stage) ∉ queue.started) (start : Start) :
    Ordered (queue.startSpecifiedRequest requestId start) none := by
  obtain ⟨request, found⟩ := ordered.listed.known requestId startable.arrived
  have staged (other : SpecifiedRequest) (again : queue.requests.lookup requestId = some other)
      (process : other.specifiedProcessState = .process) : request.stage = .process := by
    rw [found] at again
    rw [SpecifiedRequest.stage, some.inj again, if_pos process]
  have logged := ordered.log startable (unstarted request found) staged
  have starts := startSpecifiedRequest_starts found start
  generalize queue.startSpecifiedRequest requestId start = after at starts ⊢
  cases starts with
  | process tasks => exact logged.failTasks tasks
  | hook => exact logged.popAndSubmitNext fun _ none => by cases none
  | cold tasks stage alone =>
    refine Ordered.failTasks (logged.update requestId ?_ ?_) tasks
    · intro other held _
      rw [logStart, found] at held
      rw [<- some.inj held]
      exact alone
    · exact fun _ process => process
  | warm tasks stage =>
    refine Ordered.failTasks (logged.ask (fun asked => ?_) (by simp [logStart, stage])) tasks
    exact unstarted request found (stage ▸ ordered.askedStarted requestId asked)

theorem Ordered.popAndStartNext (ordered : Ordered queue none) (requestId : Nat) (start : Start) :
    Ordered (queue.popAndStartNext requestId start) none := by
  unfold SpecifiedRequests.popAndStartNext
  obtain ⟨-, same⟩ | ⟨key, rest, found, same⟩ := popAndGetNextSpecified_cases queue requestId
  · rwa [same]
  · rw [same]
    have popped := ordered.pop (fun _ none => by cases none) found
    cases rest with
    | nil => exact popped
    | cons next rest =>
      obtain ⟨waiting, startable⟩ := ordered.next_startable found
      exact popped.start startable (fun request _ => waiting.1 request.stage) start

theorem Ordered.drawNext (ordered : Ordered queue none) : Ordered queue.drawNext none :=
  { ordered with listed := ordered.listed.drawNext }

theorem Ordered.untouched (ordered : Ordered queue due) (fresh : requestId ∉ queue.arrived) :
    queue.Waiting requestId :=
  ⟨fun stage started => fresh (ordered.startedKnown requestId stage started),
    fun task => fresh (ordered.tasks requestId task).1⟩

variable {request : SpecifiedRequest}

section

variable (ordered : Ordered queue none)
include ordered

section

variable (fresh : request.requestId ∉ queue.arrived)
include fresh

theorem Ordered.push (drawn : request.requestId < queue.nextId)
    (cold : request.isCold = true -> request.requestListId = none) :
    Ordered (queue.pushRequest request)
      (if queue.list request.abilityRequest.listKey = [] then some request.requestId else none) := by
  have waiting := ordered.untouched fresh
  refine { ordered with
    listed := ordered.listed.push fresh drawn cold, fronts := ?_, behind := ?_, startedKnown := ?_
    stages := ?_, tasks := ?_ }
  · intro key front head
    rw [pushRequest_list] at head
    by_cases empty : queue.list key = []
    · split at head
      next own =>
        subst own
        rw [empty] at head
        exact .inr (.inr (by rw [if_pos empty]; exact head))
      · rw [empty] at head
        cases head
    · have before : (queue.list key).head? = some front := by
        split at head
        · rwa [head?_append_of_ne_nil _ empty] at head
        · exact head
      rcases ordered.fronts key front before with started | task | none
      · exact .inl started
      · exact .inr (.inl task)
      · cases none
  · intro key later mem
    rw [pushRequest_list] at mem
    split at mem
    · rcases mem_append.mp (mem_of_mem_tail mem) with before | new
      · cases held : queue.list key with
        | nil => simp [held] at before
        | cons front rest =>
          rw [held, cons_append, tail_cons] at mem
          rcases mem_append.mp mem with behind | new
          · exact ordered.behind key later (by rwa [held])
          · exact mem_singleton.mp new ▸ waiting
      · exact mem_singleton.mp new ▸ waiting
    · exact ordered.behind key later mem
  · exact fun other stage started => mem_append_left _ (ordered.startedKnown other stage started)
  · intro other found held process
    simp only [pushRequest, lookup_insert_eq] at held
    split at held
    next own => exact own ▸ waiting.1 .ability
    · exact ordered.stages other found held process
  · intro other task
    obtain ⟨arrived, idle⟩ := ordered.tasks other task
    exact ⟨mem_append_left _ arrived, idle⟩

theorem Ordered.push_startable (empty : queue.list request.abilityRequest.listKey = []) :
    Startable (queue.pushRequest request) request.requestId := by
  refine ⟨by simp [pushRequest], fun key behind => ?_, (ordered.untouched fresh).2⟩
  rw [pushRequest_list] at behind
  split at behind
  next own =>
    rw [own, empty] at behind
    cases behind
  · exact fresh (ordered.listed.arrived_of_mem (mem_of_mem_tail behind))

theorem Ordered.addSpecifiedRequest (drawn : request.requestId < queue.nextId)
    (cold : request.isCold = true -> request.requestListId = none) (start : Start) :
    Ordered (queue.addSpecifiedRequest request start) none := by
  have pushed := ordered.push fresh drawn cold
  unfold SpecifiedRequests.addSpecifiedRequest
  dsimp only
  rw [<- list, pushRequest_list, if_pos rfl]
  split at pushed
  next empty =>
    rw [empty, if_pos (by simp)]
    refine pushed.start (ordered.push_startable fresh empty) (fun other _ => ?_) start
    exact (ordered.untouched fresh).1 other.stage
  next filled =>
    rw [if_neg (by simpa using filled)]
    exact pushed

end

theorem Ordered.startTask (requestId : Nat) (start : Start) :
    Ordered (queue.startTask requestId start) none := by
  unfold SpecifiedRequests.startTask
  split
  next task =>
    obtain ⟨arrived, idle⟩ := ordered.tasks requestId task
    have taken : Ordered { queue with startTasks := queue.startTasks.erase requestId }
        (some requestId) := by
      refine { ordered with
        listed := { ordered.listed with }, fronts := ?_, behind := ?_, tasksOnce := ?_, tasks := ?_ }
      · intro key front head
        rcases ordered.fronts key front head with started | other | none
        · exact .inl started
        · by_cases same : front = requestId
          · exact .inr (.inr (by rw [same]))
          · exact .inr (.inl ((mem_erase_of_ne same).mpr other))
        · cases none
      · intro key later mem
        obtain ⟨unstarted, untasked⟩ := ordered.behind key later mem
        exact ⟨unstarted, fun other => untasked (mem_of_mem_erase other)⟩
      · exact ordered.tasksOnce.erase requestId
      · exact fun other mem => ordered.tasks other (mem_of_mem_erase mem)
    refine taken.start ⟨arrived, fun key behind => ?_, ?_⟩ (fun request _ => idle request.stage) start
    · exact (ordered.behind key requestId behind).2 task
    · exact ordered.tasksOnce.not_mem_erase
  · exact ordered

theorem Ordered.withDue (due : Option Nat) : Ordered queue due := by
  refine { ordered with fronts := fun key front head => ?_ }
  rcases ordered.fronts key front head with started | task | none
  · exact .inl started
  · exact .inr (.inl task)
  · cases none

theorem Ordered.startAbilityStage (found : queue.getSpecifiedRequest requestId = some request)
    (process : request.specifiedProcessState = .process)
    (started : (requestId, .process) ∈ queue.started) (start : Start) :
    Ordered ((queue.update requestId fun request =>
      { request with specifiedProcessState := .ability }).startSpecifiedRequest requestId start) none := by
  obtain ⟨held, key, rest, front⟩ := getSpecifiedRequest_some found
  have updated : Ordered (queue.update requestId fun request =>
      { request with specifiedProcessState := .ability }) (some requestId) := by
    refine (ordered.withDue (some requestId)).update requestId
      (fun other found => ordered.listed.cold requestId other found) fun request process => ?_
    cases process
  have same : (queue.update requestId fun request =>
      { request with specifiedProcessState := .ability }) = { queue with
        requests := queue.requests.insert requestId { request with specifiedProcessState := .ability } } := by
    simp only [SpecifiedRequests.update, held]
  refine updated.start ?_ (fun other again => ?_) start
  · rw [same]
    have mem : requestId ∈ queue.list key := by simp [front]
    refine ⟨ordered.listed.arrived_of_mem mem, ordered.listed.front_apart front, fun task => ?_⟩
    exact (ordered.tasks requestId task).2 .process started
  · rw [same] at again ⊢
    rw [lookup_insert_eq, if_pos rfl] at again
    rw [<- some.inj again]
    exact ordered.stages requestId request held process

/-- A restart overtakes nothing where nothing is queued or its record is a hook. -/
def ColdKeeps (queue : SpecifiedRequests) (abilityRequest : AbilityRequest) (requestId : Nat)
    (isRestart isHook : Bool) : Prop :=
  abilityRequest.specified = true -> isHook = false ->
    if isRestart then queue.list abilityRequest.listKey = []
    else
      ∀ request, queue.getSpecifiedRequest requestId = some request -> request.isCold = true ->
        (requestId, .ability) ∈ queue.started ∧ requestId ∉ queue.asked

theorem Ordered.restart (abilityRequest : AbilityRequest) (isHook : Bool)
    (keeps : isHook = false -> queue.list abilityRequest.listKey = []) :
    Ordered ((queue.drawNext.pushRequest
      { requestId := queue.nextId, abilityRequest, isCold := true }).processColdStartBranch queue.nextId
        true isHook) none := by
  have drawn := ordered.drawNext
  have fresh := ordered.listed.fresh
  let request : SpecifiedRequest := { requestId := queue.nextId, abilityRequest, isCold := true }
  have pushed := @push queue.drawNext request drawn fresh (Nat.lt_succ_self _) fun _ => rfl
  unfold processColdStartBranch
  split
  · refine pushed.popAndSubmitNext fun other due => ?_
    split at due
    · exact (some.inj due).symm
    · cases due
  next noHook =>
    have empty : queue.drawNext.list request.abilityRequest.listKey = [] :=
      keeps (by simpa using noHook)
    rw [if_pos empty] at pushed
    have unstarted := (drawn.untouched fresh).1 .ability
    have logged := pushed.log (drawn.push_startable fresh empty) unstarted fun request found process => by
      simp only [pushRequest, lookup_insert_eq, if_true] at found
      rw [<- some.inj found] at process
      cases process
    exact logged.ask (fun asked => unstarted (drawn.askedStarted _ asked))
      (mem_append_right _ mem_cons_self)

theorem Ordered.startUIAbility {abilityRequest : AbilityRequest} {isRestart isHook : Bool}
    (room : queue.Room 1) (keeps : ColdKeeps queue abilityRequest requestId isRestart isHook) :
    Ordered (queue.startUIAbility abilityRequest requestId isRestart isHook) none := by
  obtain same | ⟨specified, rfl, same⟩ | ⟨specified, rfl, ⟨request, found, cold⟩, same⟩ :=
    startUIAbility_cases room abilityRequest requestId isRestart isHook
  · rwa [same]
  · rw [same]
    exact ordered.restart abilityRequest isHook (keeps specified)
  · rw [same]
    cases isHook with
    | true => exact ordered.popAndSubmitNext fun _ none => by cases none
    | false =>
      obtain ⟨started, unasked⟩ := keeps specified rfl request found cold
      exact ordered.ask unasked started

end

end SpecifiedRequests

end AbilityRuntime.SceneBoard
