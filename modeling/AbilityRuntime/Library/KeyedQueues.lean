import AbilityRuntime.Library.KeyedMap

set_option autoImplicit false

namespace AbilityRuntime.Library

open KeyedMap List

abbrev KeyedQueues (K A : Type) := KeyedMap K (List A)

namespace KeyedQueues

variable {K A : Type} [DecidableEq K]

def queue (queues : KeyedQueues K A) (key : K) : List A := (queues.lookup key).getD []

def members (queues : KeyedQueues K A) : List A := (KeyedMap.values queues).flatten

def push (queues : KeyedQueues K A) (key : K) (last : A) : KeyedQueues K A :=
  queues.insert key (queue queues key ++ [last])

def pop (queues : KeyedQueues K A) (key : K) : KeyedQueues K A :=
  match (queue queues key).tail with
  | [] => queues.erase key
  | next :: rest => queues.insert key (next :: rest)

def remove [DecidableEq A] (queues : KeyedQueues K A) (key : K) (member : A) : KeyedQueues K A :=
  match (queue queues key).erase member with
  | [] => queues.erase key
  | next :: rest => queues.insert key (next :: rest)

def taken (queues : KeyedQueues K A) (chosen : K -> Bool) : List A :=
  ((queues.entries.filter fun entry => chosen entry.1).map Sigma.snd).flatten

def without (queues : KeyedQueues K A) (chosen : K -> Bool) : KeyedQueues K A where
  entries := queues.entries.filter fun entry => !chosen entry.1
  nodupKeys := queues.nodupKeys.sublist List.filter_sublist

def keyOfFront [DecidableEq A] (queues : KeyedQueues K A) (front : A) : Option K :=
  (queues.entries.find? fun entry => entry.2.head? == some front).map Sigma.fst

def NoneEmpty (queues : KeyedQueues K A) : Prop := ∀ key, queues.lookup key ≠ some []

variable {queues : KeyedQueues K A}

theorem queue_insert (key other : K) (list : List A) :
    queue (queues.insert key list) other = if other = key then list else queue queues other := by
  rw [queue, lookup_insert_eq]
  split <;> rfl

theorem queue_push (key other : K) (last : A) :
    queue (push queues key last) other =
      if other = key then queue queues key ++ [last] else queue queues other :=
  queue_insert ..

theorem queue_pop (key other : K) :
    queue (pop queues key) other =
      if other = key then (queue queues key).tail else queue queues other := by
  unfold pop
  split
  next empty =>
    rw [queue, lookup_erase_eq, empty]
    split <;> rfl
  next next rest tail => rw [queue_insert, tail]

theorem NoneEmpty.push (full : NoneEmpty queues) (key : K) (last : A) :
    NoneEmpty (push queues key last) := by
  intro other found
  rw [KeyedQueues.push, lookup_insert_eq] at found
  split at found
  · simp at found
  · exact full other found

theorem NoneEmpty.pop (full : NoneEmpty queues) (key : K) : NoneEmpty (pop queues key) := by
  intro other found
  unfold KeyedQueues.pop at found
  split at found
  · exact full other (lookup_of_erase found)
  · rw [lookup_insert_eq] at found
    split at found
    · simp at found
    · exact full other found

theorem mem_members {member : A} : member ∈ members queues ↔ ∃ key, member ∈ queue queues key := by
  simp only [members, mem_flatten, mem_values, queue]
  constructor
  · rintro ⟨list, ⟨key, found⟩, present⟩
    exact ⟨key, by rwa [found]⟩
  · rintro ⟨key, present⟩
    cases found : queues.lookup key with
    | none => simp [found] at present
    | some list => exact ⟨list, ⟨key, found⟩, by simpa [found] using present⟩

theorem members_perm (queues : KeyedQueues K A) (key : K) :
    (members queues).Perm (queue queues key ++ members (queues.erase key)) := by
  unfold members queue
  cases found : queues.lookup key with
  | none => simp [erase_of_lookup_none found]
  | some list => exact (values_erase_perm found).flatten

theorem members_push (queues : KeyedQueues K A) (key : K) (last : A) :
    (members (push queues key last)).Perm (members queues ++ [last]) := by
  have whole : members (push queues key last) =
      queue queues key ++ [last] ++ members (queues.erase key) := rfl
  rw [whole, append_assoc]
  refine (perm_append_comm.append_left _).trans ?_
  rw [<- append_assoc]
  exact (members_perm queues key).symm.append_right [last]

theorem members_pop {key : K} {front : A} {rest : List A}
    (found : queue queues key = front :: rest) :
    (members queues).Perm (front :: members (pop queues key)) := by
  have popped : members (pop queues key) = rest ++ members (queues.erase key) := by
    unfold pop
    rw [found]
    cases rest <;> rfl
  rw [popped]
  simpa [found] using members_perm queues key

omit [DecidableEq K] in
theorem members_taken (queues : KeyedQueues K A) (chosen : K -> Bool) :
    (members queues).Perm (taken queues chosen ++ members (without queues chosen)) := by
  unfold members taken values without
  rw [<- flatten_append, <- map_append]
  exact ((filter_append_perm _ queues.entries).symm.map Sigma.snd).flatten

theorem NoneEmpty.without (full : NoneEmpty queues) (chosen : K -> Bool) :
    NoneEmpty (without queues chosen) := by
  intro key found
  have held := AList.mem_lookup_iff.mp found
  exact full key (AList.mem_lookup_iff.mpr (mem_of_mem_filter held))

theorem queue_nodup (nodup : (members queues).Nodup) (key : K) : (queue queues key).Nodup :=
  ((members_perm queues key).nodup_iff.mp nodup).of_append_left

theorem key_unique (nodup : (members queues).Nodup) {member : A} {key other : K}
    (present : member ∈ queue queues key) (again : member ∈ queue queues other) : other = key := by
  have both := (members_perm queues key).nodup_iff.mp nodup
  by_contra ne
  refine (nodup_append.mp both).2.2 member present member ?_ rfl
  refine mem_members.mpr ⟨other, ?_⟩
  rwa [queue, lookup_erase_eq, if_neg ne]

variable [DecidableEq A]

theorem NoneEmpty.remove (full : NoneEmpty queues) (key : K) (member : A) :
    NoneEmpty (remove queues key member) := by
  intro other found
  unfold KeyedQueues.remove at found
  split at found
  · exact full other (lookup_of_erase found)
  · rw [lookup_insert_eq] at found
    split at found
    · simp at found
    · exact full other found

theorem members_remove {key : K} {member : A} (present : member ∈ queue queues key) :
    (members queues).Perm (member :: members (remove queues key member)) := by
  have removed : members (remove queues key member) =
      (queue queues key).erase member ++ members (queues.erase key) := by
    unfold remove
    split
    next empty => rw [empty, nil_append]
    next next rest kept =>
      rw [kept]
      rfl
  rw [removed]
  exact (members_perm queues key).trans ((perm_cons_erase present).append_right _)

theorem queue_of_keyOfFront {front : A} {key : K} (found : keyOfFront queues front = some key) :
    ∃ rest, queue queues key = front :: rest := by
  obtain ⟨entry, first, rfl⟩ := Option.map_eq_some_iff.mp found
  obtain ⟨held, head⟩ := lookup_of_find first
  cases list : entry.2 with
  | nil => simp [list] at head
  | cons other rest =>
    have same : other = front := by simpa [list] using head
    exact ⟨rest, by rw [queue, held, list, same, Option.getD_some]⟩

theorem keyOfFront_isSome {front : A} {key : K} {rest : List A}
    (found : queue queues key = front :: rest) : (keyOfFront queues front).isSome := by
  rw [keyOfFront, Option.isSome_map, find?_isSome]
  unfold queue at found
  cases held : queues.lookup key with
  | none => simp [held] at found
  | some list =>
    obtain rfl : list = front :: rest := by simpa [held] using found
    exact ⟨⟨key, front :: rest⟩, AList.mem_lookup_iff.mp held, by simp⟩

end KeyedQueues

end AbilityRuntime.Library
