import Mathlib.Algebra.Group.Nat.Defs
import Mathlib.Data.List.Basic

set_option autoImplicit false

namespace AbilityRuntime.Library

open List UInt8 Nat

abbrev Bytes := List UInt8

def leBytes : Nat -> Nat -> Bytes
  | 0, _ => []
  | width + 1, value => ofNat value :: leBytes width (value / 256)

def leValue : Bytes -> Nat
  | [] => 0
  | byte :: rest => byte.toNat + 256 * leValue rest

@[simp] theorem length_leBytes (width value : Nat) : (leBytes width value).length = width := by
  induction width generalizing value with
  | zero => rfl
  | succ width ih => simp [leBytes, ih]

theorem leValue_leBytes (width value : Nat) : leValue (leBytes width value) = value % 256 ^ width := by
  induction width generalizing value with
  | zero => simp [leBytes, leValue, mod_one]
  | succ width ih =>
    have digits : value % 256 ^ (width + 1) = value % 256 + 256 * (value / 256 % 256 ^ width) := by
      rw [pow_succ', mod_mul]
    rw [leBytes, leValue, ih, toNat_ofNat', digits]

theorem leBytes_leValue (bytes : Bytes) : leBytes bytes.length (leValue bytes) = bytes := by
  induction bytes with
  | nil => rfl
  | cons byte rest ih =>
    have low : ofNat (byte.toNat + 256 * leValue rest) = byte := by
      apply UInt8.toNat_inj.mp
      rw [UInt8.toNat_ofNat']
      have bound := byte.toNat_lt
      omega
    have high : (byte.toNat + 256 * leValue rest) / 256 = leValue rest := by
      have bound := byte.toNat_lt
      omega
    rw [length_cons, leValue, leBytes, low, high, ih]

theorem leValue_lt (bytes : Bytes) : leValue bytes < 256 ^ bytes.length := by
  have exact := congrArg leValue (leBytes_leValue bytes)
  rw [leValue_leBytes] at exact
  rw [<- exact]
  exact Nat.mod_lt _ (Nat.pow_pos (by decide))

/-- A std::stringstream that is read after everything was written to it. -/
structure StringStream where
  written : Bytes
  position : Nat := 0
  good : Bool := true

namespace StringStream

variable {stream : StringStream}

def rest (stream : StringStream) : Bytes := stream.written.drop stream.position

-- A read that finds fewer bytes than it asks for takes what is there and fails.
def read (stream : StringStream) (count : Nat) : Bytes × StringStream :=
  if !stream.good then ([], stream)
  else
    let taken := stream.rest.take count
    (taken,
      { stream with
        position := stream.position + taken.length
        good := taken.length == count })

def tellg (stream : StringStream) : Int := if stream.good then stream.position else -1

structure Holds (stream : StringStream) (bytes : Bytes) : Prop where
  good : stream.good = true
  inside : stream.position ≤ stream.written.length
  rest : stream.rest = bytes

theorem Holds.length {bytes : Bytes} (holds : stream.Holds bytes) :
    stream.position + bytes.length = stream.written.length := by
  have inside := holds.inside
  rw [<- holds.rest, StringStream.rest, length_drop]
  omega

theorem Holds.tellg {bytes : Bytes} (holds : stream.Holds bytes) :
    stream.tellg = stream.position := by
  simp [StringStream.tellg, holds.good]

theorem Holds.read {front tail : Bytes} (holds : stream.Holds (front ++ tail)) :
    stream.read front.length = (front, { stream with position := stream.position + front.length }) := by
  simp [StringStream.read, holds.good, holds.rest]

theorem Holds.next {front tail : Bytes} (holds : stream.Holds (front ++ tail)) :
    Holds { stream with position := stream.position + front.length } tail where
  good := holds.good
  inside := by
    have total := holds.length
    rw [length_append] at total
    simp only
    omega
  rest := by
    have dropped := congrArg (drop front.length) holds.rest
    rw [StringStream.rest, drop_drop, drop_left] at dropped
    exact dropped

theorem Holds.split {bytes : Bytes} {count : Nat} (holds : stream.Holds bytes)
    (good : (stream.read count).2.good = true) :
    ∃ front tail, bytes = front ++ tail ∧ front.length = count := by
  simp only [StringStream.read, holds.good, holds.rest, Bool.not_true, Bool.false_eq_true, if_false,
    beq_iff_eq] at good
  exact ⟨bytes.take count, bytes.drop count, (take_append_drop count bytes).symm, good⟩

@[simp] theorem read_written (count : Nat) : (stream.read count).2.written = stream.written := by
  unfold StringStream.read
  split <;> rfl

theorem read_inside (inside : stream.position ≤ stream.written.length) (count : Nat) :
    (stream.read count).2.position ≤ stream.written.length := by
  unfold StringStream.read
  split
  · exact inside
  · simp only [StringStream.rest, length_take, length_drop]
    omega

end StringStream

section ReadEach

variable {State Error Value : Type}

def readEach (reader : State -> Except Error Value × State) :
    Nat -> State -> List Value -> Except Error (List Value) × State
  | 0, state, values => (.ok values, state)
  | left + 1, state, values =>
    match reader state with
    | (.error error, state) => (.error error, state)
    | (.ok value, state) => readEach reader left state (values ++ [value])

variable {reader : State -> Except Error Value × State} {write : Value -> Bytes}
  {holds : State -> Bytes -> Prop}

theorem readEach_written {values : List Value}
    (reads : ∀ value ∈ values, ∀ state tail, holds state (write value ++ tail) ->
      ∃ next, reader state = (.ok value, next) ∧ holds next tail)
    {state : State} {tail : Bytes} (start : holds state (values.flatMap write ++ tail))
    (before : List Value) :
    ∃ next, readEach reader values.length state before = (.ok (before ++ values), next) ∧
      holds next tail := by
  induction values generalizing state before with
  | nil => exact ⟨state, by simp [readEach], by simpa using start⟩
  | cons value rest ih =>
    rw [flatMap_cons, append_assoc] at start
    obtain ⟨next, read, later⟩ := reads value mem_cons_self state _ start
    obtain ⟨last, readRest, done⟩ :=
      ih (fun other mem => reads other (mem_cons_of_mem _ mem)) later (before ++ [value])
    refine ⟨last, ?_, done⟩
    rw [length_cons, readEach, read]
    simpa using readRest

theorem readEach_prefix
    (reads : ∀ state bytes value next, holds state bytes -> reader state = (.ok value, next) ->
      ∃ tail, bytes = write value ++ tail ∧ holds next tail)
    {left : Nat} {state next : State} {bytes : Bytes} {before values : List Value}
    (start : holds state bytes) (read : readEach reader left state before = (.ok values, next)) :
    ∃ new tail, values = before ++ new ∧ new.length = left ∧ bytes = new.flatMap write ++ tail := by
  induction left generalizing state bytes before with
  | zero =>
    cases read
    exact ⟨[], bytes, by simp, rfl, by simp⟩
  | succ left ih =>
    rw [readEach] at read
    split at read
    · cases read
    next value after one =>
      obtain ⟨tail, rfl, later⟩ := reads state bytes value after start one
      obtain ⟨new, last, rfl, length, rfl⟩ := ih later read
      exact ⟨value :: new, last, by simp, by simp [length], by simp⟩

theorem readEach_invariant {kept : State -> Prop}
    (preserved : ∀ state, kept state -> kept (reader state).2) {left : Nat} {state : State}
    (start : kept state) (before : List Value) : kept (readEach reader left state before).2 := by
  induction left generalizing state before with
  | zero => exact start
  | succ left ih =>
    have after := preserved state start
    rw [readEach]
    split
    next error next one =>
      rw [one] at after
      exact after
    next value next one =>
      rw [one] at after
      exact ih after _

end ReadEach

end AbilityRuntime.Library
