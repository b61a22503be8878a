import AbilityRuntime.SceneBoard.SpecifiedRequests

set_option autoImplicit false

namespace AbilityRuntime.SceneBoard

open Library KeyedQueues List KeyedMap Option

namespace SpecifiedRequests

def list (queue : SpecifiedRequests) (key : String) : List Nat :=
  KeyedQueues.queue queue.specifiedRequestList key

def members (queue : SpecifiedRequests) : List Nat := KeyedQueues.members queue.specifiedRequestList

/-- Every request that came stands in one list, at one place, until it leaves. -/
structure Listed (queue : SpecifiedRequests) : Prop where
  full : KeyedQueues.NoneEmpty queue.specifiedRequestList
  arrival : ∀ key, (queue.list key).Sublist queue.arrived
  distinct : queue.arrived.Nodup
  drawn : ∀ requestId ∈ queue.arrived, requestId < queue.nextId
  known : ∀ requestId ∈ queue.arrived, ∃ request, queue.requests.lookup requestId = some request
  leaves : (queue.left ++ queue.members).Perm queue.arrived
  cold : ∀ requestId request, queue.requests.lookup requestId = some request ->
    request.isCold = true -> request.requestListId = none

variable {queue : SpecifiedRequests} {requestId : Nat}

theorem listed_start : Listed { } := by
  constructor <;>
    simp [KeyedQueues.NoneEmpty, list, members, KeyedQueues.queue, KeyedQueues.members, KeyedMap.values]

theorem Listed.members_nodup (listed : Listed queue) : queue.members.Nodup :=
  (listed.leaves.nodup_iff.mpr listed.distinct).of_append_right

variable {key : String}

theorem Listed.arrived_of_mem (listed : Listed queue)
    (mem : requestId ∈ queue.list key) : requestId ∈ queue.arrived :=
  (listed.arrival key).subset mem

theorem Listed.fresh (listed : Listed queue) : queue.nextId ∉ queue.arrived := by
  intro arrived
  have := listed.drawn queue.nextId arrived
  omega

variable {rest : List Nat}

theorem Listed.front_apart (listed : Listed queue) (found : queue.list key = requestId :: rest)
    (other : String) :
    requestId ∉ (queue.list other).tail := by
  intro behind
  have here : requestId ∈ queue.list key := by simp [found]
  have same := key_unique listed.members_nodup here (mem_of_mem_tail behind)
  have nodup : (queue.list key).Nodup := queue_nodup listed.members_nodup key
  rw [found] at nodup
  rw [same, found] at behind
  exact (nodup_cons.mp nodup).1 behind

theorem popped_list (found : queue.list key = requestId :: rest) (other : String) :
    KeyedQueues.queue (KeyedQueues.pop queue.specifiedRequestList key) other =
      if other = key then rest else queue.list other := by
  have tail : (KeyedQueues.queue queue.specifiedRequestList key).tail = rest := by
    rw [<- list, found, tail_cons]
  rw [queue_pop, tail, list]

theorem Listed.pop (listed : Listed queue) (found : queue.list key = requestId :: rest) :
    Listed { queue with
      specifiedRequestList := KeyedQueues.pop queue.specifiedRequestList key
      left := queue.left ++ [requestId] } := by
  refine { listed with full := listed.full.pop key, arrival := ?_, leaves := ?_ }
  · intro other
    refine List.Sublist.trans ?_ (listed.arrival other)
    rw [list, popped_list found]
    split
    next same =>
      rw [same, found]
      exact sublist_cons_self _ _
    · exact List.Sublist.refl _
  · refine List.Perm.trans ?_ listed.leaves
    rw [append_assoc]
    exact (members_pop found).symm.append_left queue.left

theorem popAndGetNextSpecified_cases (queue : SpecifiedRequests) (requestId : Nat) :
    keyOfFront queue.specifiedRequestList requestId = none ∧
        queue.popAndGetNextSpecified requestId = (queue, none) ∨
      ∃ key rest, queue.list key = requestId :: rest ∧
        queue.popAndGetNextSpecified requestId =
          ({ queue with
            specifiedRequestList := KeyedQueues.pop queue.specifiedRequestList key
            left := queue.left ++ [requestId] }, rest.head?) := by
  unfold popAndGetNextSpecified
  split
  next missing => exact .inl ⟨missing, rfl⟩
  next key front =>
    obtain ⟨rest, found⟩ := queue_of_keyOfFront front
    refine .inr ⟨key, rest, found, ?_⟩
    simp only
    rw [queue_pop, if_pos rfl, found, tail_cons]

theorem popAndGetNextSpecified_snd (queue : SpecifiedRequests) (requestId : Nat) :
    (queue.popAndGetNextSpecified requestId).2 =
      (keyOfFront queue.specifiedRequestList requestId).bind fun key =>
        (KeyedQueues.queue (KeyedQueues.pop queue.specifiedRequestList key) key).head? := by
  unfold popAndGetNextSpecified
  split
  next missing => rw [missing, bind_none]
  next key front => rw [front, Option.bind_some]

variable {request : SpecifiedRequest}

theorem getSpecifiedRequest_some (found : queue.getSpecifiedRequest requestId = some request) :
    queue.requests.lookup requestId = some request ∧
      ∃ key rest, queue.list key = requestId :: rest := by
  unfold getSpecifiedRequest at found
  split at found
  next front =>
    obtain ⟨key, holder⟩ := isSome_iff_exists.mp front
    exact ⟨found, key, queue_of_keyOfFront holder⟩
  · cases found

theorem getSpecifiedRequest_none
    (missing : keyOfFront queue.specifiedRequestList requestId = none) :
    queue.getSpecifiedRequest requestId = none := by
  simp [getSpecifiedRequest, missing]

theorem Listed.front_known (listed : Listed queue) (front : queue.list key = requestId :: rest) :
    ∃ request, queue.getSpecifiedRequest requestId = some request := by
  obtain ⟨request, found⟩ := listed.known requestId (listed.arrived_of_mem (front ▸ mem_cons_self))
  exact ⟨request, by rw [getSpecifiedRequest, if_pos (keyOfFront_isSome front), found]⟩

theorem pushRequest_list (request : SpecifiedRequest) (key : String) :
    (queue.pushRequest request).list key =
      if key = request.abilityRequest.listKey then queue.list key ++ [request.requestId]
      else queue.list key := by
  rw [list, pushRequest, queue_push]
  split
  next same => rw [same, list]
  · rfl

theorem Listed.push (listed : Listed queue) (fresh : request.requestId ∉ queue.arrived)
    (drawn : request.requestId < queue.nextId)
    (cold : request.isCold = true -> request.requestListId = none) :
    Listed (queue.pushRequest request) := by
  refine ⟨listed.full.push _ _, ?_, ?_, ?_, ?_, ?_, ?_⟩
  · intro key
    rw [pushRequest_list]
    split
    · exact (listed.arrival key).append (List.Sublist.refl _)
    · exact (listed.arrival key).trans (sublist_append_left _ _)
  · exact nodup_append_comm.mp (nodup_cons.mpr ⟨fresh, listed.distinct⟩)
  · intro other arrived
    rcases mem_append.mp arrived with before | new
    · exact listed.drawn other before
    · exact mem_singleton.mp new ▸ drawn
  · intro other arrived
    simp only [pushRequest, lookup_insert_eq]
    split
    · exact ⟨_, rfl⟩
    next ne =>
      rcases mem_append.mp arrived with before | new
      · exact listed.known other before
      · exact absurd (mem_singleton.mp new) ne
  · refine ((members_push ..).append_left queue.left).trans ?_
    rw [<- append_assoc]
    exact listed.leaves.append_right _
  · intro other found held
    simp only [pushRequest, lookup_insert_eq] at held
    split at held
    · exact some.inj held ▸ cold
    · exact listed.cold other found held

theorem Listed.update (listed : Listed queue) (requestId : Nat)
    {change : SpecifiedRequest -> SpecifiedRequest}
    (cold : ∀ request, queue.requests.lookup requestId = some request ->
      (change request).isCold = true -> (change request).requestListId = none) :
    Listed (queue.update requestId change) := by
  unfold SpecifiedRequests.update
  split
  · exact listed
  next request found =>
    refine { listed with known := ?_, cold := ?_ }
    · intro other arrived
      rw [lookup_insert_eq]
      split
      · exact ⟨_, rfl⟩
      · exact listed.known other arrived
    · intro other changed held
      rw [lookup_insert_eq] at held
      split at held
      · exact some.inj held ▸ cold request found
      · exact listed.cold other changed held

/-- The next ids are new: the counter does not come to its end in drawing them. -/
def Room (queue : SpecifiedRequests) (draws : Nat) : Prop :=
  0 < queue.nextId ∧ (queue.nextId + draws : Int) ≤ RequestIdUtil.INT32_MAX

instance (draws : Nat) : Decidable (queue.Room draws) := inferInstanceAs (Decidable (_ ∧ _))

def drawNext (queue : SpecifiedRequests) : SpecifiedRequests :=
  { queue with nextId := queue.nextId + 1 }

theorem getRequestId_eq (room : queue.Room 1) :
    queue.getRequestId = (queue.drawNext, queue.nextId) := by
  obtain ⟨started, left⟩ := room
  rw [getRequestId, RequestIdUtil.getRequestId_next (by omega) (by omega)]
  rfl

theorem Room.after {after : SpecifiedRequests} {draws : Nat} (room : queue.Room (draws + 1))
    (next : after.nextId = queue.nextId + 1) : after.Room draws := by
  obtain ⟨started, left⟩ := room
  exact ⟨by omega, by push_cast [next] at left ⊢; omega⟩

theorem Room.first {draws : Nat} (room : queue.Room (draws + 1)) : queue.Room 1 := by
  obtain ⟨started, left⟩ := room
  exact ⟨started, by push_cast at left ⊢; omega⟩

theorem Listed.drawNext (listed : Listed queue) : Listed queue.drawNext :=
  { listed with drawn := fun requestId arrived => Nat.lt_succ_of_lt (listed.drawn requestId arrived) }

theorem Listed.popAndSubmitNext (listed : Listed queue) (requestId : Nat) :
    Listed (queue.popAndSubmitNext requestId) := by
  unfold SpecifiedRequests.popAndSubmitNext
  obtain ⟨-, same⟩ | ⟨key, rest, found, same⟩ := popAndGetNextSpecified_cases queue requestId
  · rwa [same]
  · rw [same]
    have popped := listed.pop found
    cases rest with
    | nil => exact popped
    | cons next rest => exact { popped with }

def logStart (queue : SpecifiedRequests) (requestId : Nat) (stage : Stage) : SpecifiedRequests :=
  { queue with started := queue.started ++ [(requestId, stage)] }

inductive Starts (queue : SpecifiedRequests) (requestId : Nat) (request : SpecifiedRequest)
    (start : Start) : SpecifiedRequests -> Prop where
  | process (tasks : List Nat) (stage : request.stage = .process) :
      Starts queue requestId request start
        { queue.logStart requestId request.stage with failTasks := tasks }
  | hook (stage : request.stage = .ability) (isHook : start.isHook = true) :
      Starts queue requestId request start
        ((queue.logStart requestId request.stage).popAndSubmitNext requestId)
  | cold (tasks : List Nat) (stage : request.stage = .ability) (alone : request.requestListId = none) :
      Starts queue requestId request start
        { (queue.logStart requestId request.stage).update requestId fun request =>
            { request with isCold := true } with failTasks := tasks }
  | warm (tasks : List Nat) (stage : request.stage = .ability) :
      Starts queue requestId request start
        { queue.logStart requestId request.stage with
          asked := queue.asked ++ [requestId], failTasks := tasks }

theorem submitFinalTimeout_eq (queue : SpecifiedRequests) (requestId : Nat) (start : Start) :
    ∃ tasks, queue.submitFinalTimeout requestId start = { queue with failTasks := tasks } := by
  unfold submitFinalTimeout
  split
  · exact ⟨queue.failTasks, rfl⟩
  · exact ⟨_, rfl⟩

theorem startSpecifiedRequest_starts (found : queue.requests.lookup requestId = some request)
    (start : Start) :
    Starts queue requestId request start (queue.startSpecifiedRequest requestId start) := by
  simp only [startSpecifiedRequest, found]
  split
  next state =>
    obtain ⟨tasks, same⟩ := submitFinalTimeout_eq (queue.logStart requestId request.stage) requestId start
    exact same ▸ .process tasks (if_pos state)
  next state =>
    have stage : request.stage = .ability := if_neg state
    split
    next isHook => exact .hook stage isHook
    · split
      next both =>
        split
        · obtain ⟨tasks, same⟩ := submitFinalTimeout_eq ((queue.logStart requestId request.stage).update
            requestId fun request => { request with isCold := true }) requestId start
          exact same ▸ .cold tasks stage both.1
        · exact .cold _ stage both.1
      · obtain ⟨tasks, same⟩ := submitFinalTimeout_eq { queue.logStart requestId request.stage with
          asked := queue.asked ++ [requestId] } requestId start
        exact same ▸ .warm tasks stage

theorem Listed.start (listed : Listed queue) (requestId : Nat) (start : Start) :
    Listed (queue.startSpecifiedRequest requestId start) := by
  cases found : queue.requests.lookup requestId with
  | none => simpa only [startSpecifiedRequest, found]
  | some request =>
    have logged : Listed (queue.logStart requestId request.stage) := { listed with }
    have starts := startSpecifiedRequest_starts found start
    generalize queue.startSpecifiedRequest requestId start = after at starts ⊢
    cases starts with
    | process tasks => exact { logged with }
    | hook => exact logged.popAndSubmitNext requestId
    | cold tasks stage alone =>
      have cold : Listed ((queue.logStart requestId request.stage).update requestId fun request =>
          { request with isCold := true }) := by
        refine logged.update requestId fun other held _ => ?_
        rw [logStart, found] at held
        rw [<- some.inj held]
        exact alone
      exact { cold with }
    | warm tasks => exact { logged with }

@[simp] theorem popAndSubmitNext_nextId (queue : SpecifiedRequests) (requestId : Nat) :
    (queue.popAndSubmitNext requestId).nextId = queue.nextId := by
  unfold SpecifiedRequests.popAndSubmitNext
  obtain ⟨-, same⟩ | ⟨key, rest, -, same⟩ := popAndGetNextSpecified_cases queue requestId
  · rw [same]
  · rw [same]
    cases rest <;> rfl

@[simp] theorem update_nextId (queue : SpecifiedRequests) (requestId : Nat)
    (change : SpecifiedRequest -> SpecifiedRequest) :
    (queue.update requestId change).nextId = queue.nextId := by
  unfold SpecifiedRequests.update
  split <;> rfl

@[simp] theorem startSpecifiedRequest_nextId (queue : SpecifiedRequests) (requestId : Nat)
    (start : Start) : (queue.startSpecifiedRequest requestId start).nextId = queue.nextId := by
  cases found : queue.requests.lookup requestId with
  | none => simp only [startSpecifiedRequest, found]
  | some request =>
    have starts := startSpecifiedRequest_starts found start
    generalize queue.startSpecifiedRequest requestId start = after at starts ⊢
    cases starts <;> simp [logStart]

@[simp] theorem addSpecifiedRequest_nextId (queue : SpecifiedRequests) (request : SpecifiedRequest)
    (start : Start) : (queue.addSpecifiedRequest request start).nextId = queue.nextId := by
  unfold SpecifiedRequests.addSpecifiedRequest
  dsimp only
  split
  · exact startSpecifiedRequest_nextId ..
  · rfl

theorem Listed.popAndStartNext (listed : Listed queue) (requestId : Nat) (start : Start) :
    Listed (queue.popAndStartNext requestId start) := by
  unfold SpecifiedRequests.popAndStartNext
  obtain ⟨-, same⟩ | ⟨key, rest, found, same⟩ := popAndGetNextSpecified_cases queue requestId
  · rwa [same]
  · rw [same]
    cases rest with
    | nil => exact listed.pop found
    | cons next rest => exact (listed.pop found).start next start

theorem Listed.addSpecifiedRequest (listed : Listed queue)
    (fresh : request.requestId ∉ queue.arrived) (drawn : request.requestId < queue.nextId)
    (cold : request.isCold = true -> request.requestListId = none) (start : Start) :
    Listed (queue.addSpecifiedRequest request start) := by
  unfold SpecifiedRequests.addSpecifiedRequest
  dsimp only
  split
  · exact (listed.push fresh drawn cold).start request.requestId start
  · exact listed.push fresh drawn cold

theorem startUIAbility_cases (room : queue.Room 1) (abilityRequest : AbilityRequest)
    (requestId : Nat) (isRestart isHook : Bool) :
    queue.startUIAbility abilityRequest requestId isRestart isHook = queue ∨
      abilityRequest.specified = true ∧ isRestart = true ∧
        queue.startUIAbility abilityRequest requestId isRestart isHook =
          (queue.drawNext.pushRequest
            { requestId := queue.nextId, abilityRequest, isCold := true }).processColdStartBranch
              queue.nextId true isHook ∨
      abilityRequest.specified = true ∧ isRestart = false ∧
        (∃ request, queue.getSpecifiedRequest requestId = some request ∧ request.isCold = true) ∧
        queue.startUIAbility abilityRequest requestId isRestart isHook =
          queue.processColdStartBranch requestId false isHook := by
  unfold startUIAbility handleStartSpecifiedCold
  by_cases specified : abilityRequest.specified = true
  · cases isRestart with
    | true => exact .inr (.inl ⟨specified, rfl, by simp [specified, getRequestId_eq room]⟩)
    | false =>
      cases found : queue.getSpecifiedRequest requestId with
      | none => exact .inl (by simp [specified])
      | some request =>
        by_cases cold : request.isCold = true
        · exact .inr (.inr ⟨specified, rfl, ⟨request, rfl, cold⟩, by simp [specified, cold]⟩)
        · exact .inl (by simp [specified, cold])
  · exact .inl (by simp [specified])

end SpecifiedRequests

end AbilityRuntime.SceneBoard
