import AbilityRuntime.SceneBoard.RequestLists

set_option autoImplicit false

namespace AbilityRuntime.SceneBoard

open Library KeyedQueues Option List KeyedMap

namespace SpecifiedRequests

def batchOf (queue : SpecifiedRequests) (requestId : Nat) : Option Nat :=
  (queue.requests.lookup requestId).bind SpecifiedRequest.requestListId

def abilityOf (queue : SpecifiedRequests) (requestId : Nat) : Option String :=
  (queue.requests.lookup requestId).map fun request => request.abilityRequest.ability

def Waits (queue : SpecifiedRequests) (requestListId requestId : Nat) : Prop :=
  requestId ∈ queue.members ∧ queue.batchOf requestId = some requestListId

structure Goes (queue after : SpecifiedRequests) (gone : List Nat) : Prop where
  members : queue.members.Perm (gone ++ after.members)
  batches : ∀ requestId, after.batchOf requestId = queue.batchOf requestId
  abilities : ∀ requestId, after.abilityOf requestId = queue.abilityOf requestId
  nextId : after.nextId = queue.nextId

structure Adds (queue : SpecifiedRequests) (request : SpecifiedRequest) (after : SpecifiedRequests) :
    Prop where
  members : after.members.Perm (queue.members ++ [request.requestId])
  batches : ∀ requestId, after.batchOf requestId =
    if requestId = request.requestId then request.requestListId else queue.batchOf requestId
  abilities : ∀ requestId, after.abilityOf requestId =
    if requestId = request.requestId then some request.abilityRequest.ability
    else queue.abilityOf requestId
  nextId : after.nextId = queue.nextId + 1

variable {queue after last : SpecifiedRequests} {requestId : Nat} {gone more : List Nat}

theorem Goes.same (lists : after.specifiedRequestList = queue.specifiedRequestList)
    (requests : after.requests = queue.requests) (nextId : after.nextId = queue.nextId) :
    Goes queue after [] where
  members := by
    rw [SpecifiedRequests.members, SpecifiedRequests.members, lists]
    exact List.Perm.refl _
  batches requestId := by rw [batchOf, batchOf, requests]
  abilities requestId := by rw [abilityOf, abilityOf, requests]
  nextId := nextId

theorem Goes.refl (queue : SpecifiedRequests) : Goes queue queue [] := .same rfl rfl rfl

theorem Goes.trans (first : Goes queue after gone) (second : Goes after last more) :
    Goes queue last (gone ++ more) where
  members := by
    rw [append_assoc]
    exact first.members.trans (second.members.append_left gone)
  batches other := (second.batches other).trans (first.batches other)
  abilities other := (second.abilities other).trans (first.abilities other)
  nextId := second.nextId.trans first.nextId

theorem Goes.mem_iff (goes : Goes queue after gone) (other : Nat) :
    other ∈ queue.members ↔ other ∈ gone ∨ other ∈ after.members := by
  rw [goes.members.mem_iff, mem_append]

theorem Goes.waits_iff (goes : Goes queue after gone) (nodup : queue.members.Nodup)
    (requestListId other : Nat) :
    after.Waits requestListId other ↔ queue.Waits requestListId other ∧ other ∉ gone := by
  have apart := nodup_append.mp (goes.members.nodup_iff.mp nodup)
  rw [Waits, Waits, goes.mem_iff, goes.batches]
  constructor
  · rintro ⟨mem, batch⟩
    exact ⟨⟨.inr mem, batch⟩, fun away => apart.2.2 other away other mem rfl⟩
  · rintro ⟨⟨mem, batch⟩, staying⟩
    exact ⟨mem.resolve_left staying, batch⟩

theorem batchOf_eq {request : SpecifiedRequest}
    (found : queue.requests.lookup requestId = some request) :
    queue.batchOf requestId = request.requestListId := by
  rw [batchOf, found, bind_some]

theorem popped_goes {key : String} {rest : List Nat} (found : queue.list key = requestId :: rest) :
    Goes queue { queue with
      specifiedRequestList := pop queue.specifiedRequestList key
      left := queue.left ++ [requestId] } [requestId] :=
  ⟨members_pop found, fun _ => rfl, fun _ => rfl, rfl⟩

theorem popAndSubmitNext_goes {key : String} {rest : List Nat}
    (front : queue.list key = requestId :: rest) :
    Goes queue (queue.popAndSubmitNext requestId) [requestId] := by
  unfold popAndSubmitNext
  obtain ⟨missing, -⟩ | ⟨other, others, found, same⟩ := popAndGetNextSpecified_cases queue requestId
  · have present := keyOfFront_isSome front
    rw [missing] at present
    cases present
  · rw [same]
    cases others with
    | nil => exact popped_goes found
    | cons next others =>
      obtain ⟨members, batches, abilities, nextId⟩ := popped_goes found
      exact ⟨members, batches, abilities, nextId⟩

theorem update_goes {change : SpecifiedRequest -> SpecifiedRequest}
    (batch : ∀ request, (change request).requestListId = request.requestListId)
    (ability : ∀ request, (change request).abilityRequest = request.abilityRequest) :
    Goes queue (queue.update requestId change) [] := by
  unfold update
  split
  · exact .refl queue
  next request found =>
    refine ⟨Perm.refl _, fun other => ?_, fun other => ?_, rfl⟩
    · rw [batchOf, batchOf, lookup_insert_eq]
      split
      next same => rw [same, found, bind_some, bind_some, batch]
      · rfl
    · rw [abilityOf, abilityOf, lookup_insert_eq]
      split
      next same => rw [same, found, map_some, map_some, ability]
      · rfl

theorem start_goes (queue : SpecifiedRequests) (requestId : Nat) (start : Start) :
    ∃ gone, Goes queue (queue.startSpecifiedRequest requestId start) gone ∧
      ∀ other ∈ gone, other = requestId ∧ start.isHook = true ∧
        ∃ request, queue.getSpecifiedRequest requestId = some request ∧ request.stage = .ability := by
  cases found : queue.requests.lookup requestId with
  | none => exact ⟨[], by simpa only [startSpecifiedRequest, found] using .refl queue, by simp⟩
  | some request =>
    have logged : Goes queue (queue.logStart requestId request.stage) [] := .same rfl rfl rfl
    have starts := startSpecifiedRequest_starts found start
    generalize queue.startSpecifiedRequest requestId start = after at starts ⊢
    cases starts with
    | process tasks => exact ⟨[], .same rfl rfl rfl, by simp⟩
    | hook stage isHook =>
      by_cases front : (keyOfFront queue.specifiedRequestList requestId).isSome
      · have first : queue.getSpecifiedRequest requestId = some request := by
          rw [getSpecifiedRequest, if_pos front, found]
        obtain ⟨-, key, rest, held⟩ := getSpecifiedRequest_some first
        refine ⟨[requestId], logged.trans (popAndSubmitNext_goes held), ?_⟩
        intro other mem
        exact ⟨mem_singleton.mp mem, isHook, request, first, stage⟩
      · have missing := not_isSome_iff_eq_none.mp front
        refine ⟨[], ?_, by simp⟩
        simpa only [popAndSubmitNext, popAndGetNextSpecified, logStart, missing] using logged
    | cold tasks =>
      have cold : Goes (queue.logStart requestId request.stage)
          ((queue.logStart requestId request.stage).update requestId fun request =>
            { request with isCold := true }) [] := update_goes (fun _ => rfl) fun _ => rfl
      obtain ⟨members, batches, abilities, nextId⟩ := logged.trans cold
      exact ⟨[], ⟨members, batches, abilities, nextId⟩, by simp⟩
    | warm tasks => exact ⟨[], .same rfl rfl rfl, by simp⟩

theorem popAndStartNext_goes {key : String} {rest : List Nat}
    (found : queue.list key = requestId :: rest) (start : Start) :
    ∃ gone, Goes queue (queue.popAndStartNext requestId start) (requestId :: gone) ∧
      ∀ other ∈ gone, (queue.popAndGetNextSpecified requestId).2 = some other ∧ start.isHook = true ∧
        ∃ request, queue.requests.lookup other = some request ∧ request.stage = .ability := by
  unfold popAndStartNext
  obtain ⟨missing, -⟩ | ⟨other, others, front, same⟩ := popAndGetNextSpecified_cases queue requestId
  · have present := keyOfFront_isSome found
    rw [missing] at present
    cases present
  · rw [same]
    cases others with
    | nil => exact ⟨[], popped_goes front, by simp⟩
    | cons next others =>
      obtain ⟨gone, goes, reasons⟩ := start_goes _ next start
      refine ⟨gone, (popped_goes front).trans goes, fun other mem => ?_⟩
      obtain ⟨rfl, isHook, request, first, stage⟩ := reasons other mem
      exact ⟨rfl, isHook, request, (getSpecifiedRequest_some first).1, stage⟩

theorem pushRequest_adds (queue : SpecifiedRequests) (request : SpecifiedRequest) :
    Adds queue request (queue.drawNext.pushRequest request) := by
  refine ⟨members_push .., fun other => ?_, fun other => ?_, rfl⟩
  · rw [batchOf, pushRequest, lookup_insert_eq]
    split <;> rfl
  · rw [abilityOf, pushRequest, lookup_insert_eq]
    split <;> rfl

end SpecifiedRequests

end AbilityRuntime.SceneBoard
