import AbilityRuntime.UriPermission.RawData

set_option autoImplicit false

namespace AbilityRuntime.UriPermission.RawData

open Library UriPermissionRawData List Nat UInt32 Input

variable {buffer bytes : Bytes} {input next : Input}

structure Input.Holds (buffer : Bytes) (input : Input) (bytes : Bytes) : Prop where
  stream : input.toStringStream.Holds bytes
  written : input.written = buffer
  small : buffer.length ≤ maxIpcRawDataSize

theorem toNat_length {owned : Bytes} (small : owned.length ≤ maxIpcRawDataSize) :
    (ofNat owned.length).toNat = owned.length := by
  unfold maxIpcRawDataSize at small
  exact mod_eq_of_lt (by omega)

theorem Input.Holds.read {front tail : Bytes} (holds : input.Holds buffer (front ++ tail)) :
    ∃ next : Input, input.read front.length = (front, next) ∧ next.good = true ∧
      next.Holds buffer tail := by
  refine ⟨{ input with position := input.position + front.length }, ?_, holds.stream.good,
    holds.stream.next, holds.written, holds.small⟩
  rw [Input.read, holds.stream.read]

theorem readField_written {width value : Nat} {tail : Bytes} (fits : value < 256 ^ width)
    (holds : input.Holds buffer (leBytes width value ++ tail)) :
    ∃ next, readField width input = (.ok value, next) ∧ next.Holds buffer tail := by
  obtain ⟨next, read, good, after⟩ := holds.read
  rw [length_leBytes] at read
  refine ⟨next, ?_, after⟩
  rw [readField, read]
  simp [good, leValue_leBytes, mod_eq_of_lt fits]

theorem readField_prefix {width value : Nat} (holds : input.Holds buffer bytes)
    (read : readField width input = (.ok value, next)) :
    ∃ tail, bytes = leBytes width value ++ tail ∧ value < 256 ^ width ∧ next.Holds buffer tail := by
  unfold readField at read
  simp only at read
  split at read
  · cases read
  next good =>
    simp only [Bool.not_eq_true', Bool.not_eq_false] at good
    obtain ⟨front, tail, rfl, rfl⟩ := holds.stream.split good
    obtain ⟨after, taken, _, later⟩ := holds.read
    rw [taken] at read
    cases read
    exact ⟨tail, by rw [leBytes_leValue], leValue_lt front, later⟩

/-- A tested length is inside what is left of the buffer. -/
structure LengthTest.InBounds (test : LengthTest) (buffer : Bytes) : Prop where
  ssLength : test.ssLength.toNat = buffer.length
  unwrapped : test.tellg ≤ test.ssLength
  inside : test.asked ≤ test.ssLength - test.tellg ->
    test.tellg.toNat + test.asked.toNat ≤ buffer.length

theorem inBounds {buffer : Bytes} (position : Nat) (small : buffer.length ≤ maxIpcRawDataSize)
    (inside : position ≤ buffer.length) (asked : UInt32) :
    LengthTest.InBounds ⟨UInt32.ofNat buffer.length, UInt32.ofNat position, asked⟩ buffer := by
  have ssLength := toNat_length small
  have tellg : (ofNat position).toNat = position := by
    unfold maxIpcRawDataSize at small
    exact mod_eq_of_lt (by omega)
  have unwrapped : ofNat position ≤ ofNat buffer.length := by
    rw [le_iff_toNat_le, ssLength, tellg]
    exact inside
  refine ⟨ssLength, unwrapped, fun passed => ?_⟩
  rw [UInt32.le_iff_toNat_le, UInt32.toNat_sub_of_le _ _ unwrapped, ssLength, tellg] at passed
  rw [tellg]
  omega

theorem Input.Holds.isTooLong (holds : input.Holds buffer bytes) (asked : UInt32) :
    (input.isTooLong (ofNat buffer.length) asked).1 = decide (bytes.length < asked.toNat) := by
  have total := holds.stream.length
  rw [holds.written] at total
  have ssLength := toNat_length holds.small
  have tested := inBounds input.position holds.small (by omega) asked
  have tellg : (ofNat input.position).toNat = input.position := by
    have small := holds.small
    unfold maxIpcRawDataSize at small
    exact mod_eq_of_lt (by omega)
  have left : (ofNat buffer.length - ofNat input.position).toNat = bytes.length := by
    rw [UInt32.toNat_sub_of_le _ _ tested.unwrapped, ssLength, tellg]
    omega
  have placed : ¬ input.tellg < 0 := by
    rw [holds.stream.tellg]
    omega
  simp only [Input.isTooLong, placed, decide_false, Bool.false_or, gt_iff_lt, UInt32.lt_iff_toNat_lt,
    left]

theorem Input.Holds.tested (holds : input.Holds buffer bytes) (ssLength asked : UInt32) :
    (input.isTooLong ssLength asked).2.Holds buffer bytes :=
  { holds with }

variable {tooLong : RawDataError}

theorem readBlock_written {str tail : Bytes} (short : str.length < 2 ^ 32)
    (holds : input.Holds buffer (writeString str ++ tail)) :
    ∃ next, readBlock tooLong (ofNat buffer.length) input = (.ok str, next) ∧
      next.Holds buffer tail := by
  have exact : (ofNat str.length).toNat = str.length := by
    exact mod_eq_of_lt short
  rw [writeString] at holds
  simp only [exact, take_length, append_assoc] at holds
  obtain ⟨second, field, content⟩ := readField_written (by simpa using short) holds
  have tested := content.tested (ofNat buffer.length) (ofNat str.length)
  obtain ⟨last, read, good, after⟩ := tested.read
  refine ⟨last, ?_, after⟩
  unfold readBlock
  rw [field]
  simp only [content.isTooLong, exact]
  simp [read, good]

theorem readBlock_prefix {ssLength : UInt32} {str : Bytes} (holds : input.Holds buffer bytes)
    (read : readBlock tooLong ssLength input = (.ok str, next)) :
    ∃ tail, bytes = writeString str ++ tail ∧ next.Holds buffer tail := by
  unfold readBlock at read
  split at read
  · cases read
  next length second field =>
    obtain ⟨content, rfl, fits, after⟩ := readField_prefix holds field
    simp only at read
    split at read
    · cases read
    · have exact : (ofNat length).toNat = length := by
        exact mod_eq_of_lt (by simpa using fits)
      simp only [exact] at read
      split at read
      · cases read
      next good =>
        simp only [Bool.not_eq_true', Bool.not_eq_false] at good
        have tested := after.tested ssLength (ofNat length)
        obtain ⟨front, tail, rfl, rfl⟩ := tested.stream.split good
        obtain ⟨last, taken, _, later⟩ := tested.read
        rw [taken] at read
        cases read
        refine ⟨tail, ?_, later⟩
        simp [writeString, exact]

theorem readPolicyInfo_written {policy : PolicyInfo} {tail : Bytes}
    (short : policy.path.length < 2 ^ 32)
    (holds : input.Holds buffer (writePolicyInfo policy ++ tail)) :
    ∃ next, readPolicyInfo (ofNat buffer.length) input = (.ok policy, next) ∧
      next.Holds buffer tail := by
  rw [writePolicyInfo, append_assoc] at holds
  obtain ⟨second, path, after⟩ := readBlock_written short holds
  obtain ⟨last, mode, done⟩ := readField_written policy.mode.toNat_lt after
  refine ⟨last, ?_, done⟩
  rw [readPolicyInfo, path]
  simp [mode]

theorem readPolicyInfo_prefix {ssLength : UInt32} {policy : PolicyInfo}
    (holds : input.Holds buffer bytes) (read : readPolicyInfo ssLength input = (.ok policy, next)) :
    ∃ tail, bytes = writePolicyInfo policy ++ tail ∧ next.Holds buffer tail := by
  unfold readPolicyInfo at read
  split at read
  · cases read
  next path second block =>
    obtain ⟨middle, rfl, after⟩ := readBlock_prefix holds block
    split at read
    · cases read
    next mode last field =>
      obtain ⟨tail, rfl, fits, done⟩ := readField_prefix after field
      cases read
      have exact : (UInt64.ofNat mode).toNat = mode := by
        exact mod_eq_of_lt fits
      exact ⟨tail, by simp [writePolicyInfo, exact], done⟩

section Vectors

variable {Value : Type} {write : Value -> Bytes} {vec : List Value}
  {reader : UInt32 -> Input -> Except RawDataError Value × Input} {rawData : UriPermissionRawData}

theorem writeVec_eq (write : Value -> Bytes) (few : vec.length ≤ maxUriCount) :
    writeVec write vec = leBytes 4 vec.length ++ vec.flatMap write := by
  have exact : (ofNat vec.length).toNat = vec.length := by
    unfold maxUriCount at few
    exact mod_eq_of_lt (by omega)
  simp [writeVec, exact]

theorem own_buffer {owned : Bytes} (small : owned.length ≤ maxIpcRawDataSize) :
    (own owned).buffer = owned := by
  have size := toNat_length small
  simp [buffer, own, size]

theorem fresh_holds (small : buffer.length ≤ maxIpcRawDataSize) :
    Holds buffer { written := buffer } buffer :=
  ⟨⟨rfl, zero_le _, rfl⟩, rfl, small⟩

theorem readCount_eq (present : rawData.data ≠ none)
    (accepted : ¬ (rawData.size = 0 ∨ rawData.size.toNat > maxIpcRawDataSize)) :
    readCount rawData = readField 4 { written := rawData.buffer } := by
  obtain ⟨owned, found⟩ := Option.ne_none_iff_exists'.mp present
  simp [readCount, found, accepted, buffer]

theorem readCount_own (few : vec.length ≤ maxUriCount)
    (small : (writeVec write vec).length ≤ maxIpcRawDataSize) :
    ∃ input, readCount (.own (writeVec write vec)) = (.ok vec.length, input) ∧
      input.Holds (writeVec write vec) (vec.flatMap write) := by
  have size : (own (writeVec write vec)).size.toNat = (writeVec write vec).length :=
    toNat_length small
  have counted : vec.length < 256 ^ 4 := by
    unfold maxUriCount at few
    omega
  have accepted : ¬ ((own (writeVec write vec)).size = 0 ∨
      (own (writeVec write vec)).size.toNat > maxIpcRawDataSize) := by
    rintro (zero | large)
    · rw [zero, writeVec_eq write few, length_append, length_leBytes, UInt32.toNat_zero] at size
      omega
    · omega
  have start := fresh_holds small
  nth_rewrite 3 [writeVec_eq write few] at start
  obtain ⟨input, read, after⟩ := readField_written counted start
  refine ⟨input, ?_, after⟩
  rw [readCount_eq (by simp [own]) accepted, own_buffer small]
  exact read

theorem readCount_prefix {count : Nat} (read : readCount rawData = (.ok count, input)) :
    ∃ tail, rawData.buffer = leBytes 4 count ++ tail ∧ input.Holds rawData.buffer tail := by
  have present : rawData.data ≠ none := by
    intro absent
    simp [readCount, absent] at read
  have accepted : ¬ (rawData.size = 0 ∨ rawData.size.toNat > maxIpcRawDataSize) := by
    intro refused
    obtain ⟨owned, found⟩ := Option.ne_none_iff_exists'.mp present
    simp [readCount, found, refused] at read
  have small : rawData.buffer.length ≤ maxIpcRawDataSize := by
    rw [buffer, length_take]
    omega
  rw [readCount_eq present accepted] at read
  obtain ⟨tail, split, _, after⟩ := readField_prefix (fresh_holds small) read
  exact ⟨tail, split, after⟩

theorem rawDataToVec_written (some : vec ≠ []) (few : vec.length ≤ maxUriCount)
    (small : (writeVec write vec).length ≤ maxIpcRawDataSize)
    (reads : ∀ value ∈ vec, ∀ buffer input tail, Holds buffer input (write value ++ tail) ->
      ∃ next, reader (ofNat buffer.length) input = (.ok value, next) ∧ next.Holds buffer tail)
    (before : List Value) :
    (rawDataToVec reader (.own (writeVec write vec)) before).1 = .ok (before ++ vec) := by
  obtain ⟨input, count, start⟩ := readCount_own few small
  have accepted : ¬ (vec.length = 0 ∨ vec.length > maxUriCount) := by
    rintro (zero | many)
    · exact some (length_eq_zero_iff.mp zero)
    · omega
  rw [<- append_nil (vec.flatMap write)] at start
  obtain ⟨next, read, _⟩ := readEach_written
    (fun value mem input tail => reads value mem (writeVec write vec) input tail) start before
  rw [rawDataToVec, count]
  simp only [accepted, if_false, start.written, read]

theorem rawDataToVec_prefix {before values : List Value}
    (reads : ∀ buffer ssLength input bytes value next, Holds buffer input bytes ->
      reader ssLength input = (.ok value, next) ->
        ∃ tail, bytes = write value ++ tail ∧ next.Holds buffer tail)
    (read : rawDataToVec reader rawData before = (.ok values, next)) :
    ∃ new, values = before ++ new ∧ writeVec write new <+: rawData.buffer := by
  unfold rawDataToVec at read
  split at read
  · cases read
  next count input counted =>
    split at read
    · cases read
    next accepted =>
      obtain ⟨tail, split, start⟩ := readCount_prefix counted
      obtain ⟨new, last, rfl, rfl, rfl⟩ := readEach_prefix
        (fun input bytes value next => reads rawData.buffer _ input bytes value next) start read
      refine ⟨new, rfl, last, ?_⟩
      rw [writeVec_eq write (by omega), split, append_assoc]

end Vectors

theorem readBools_eq {chars tail : Bytes} {index : Nat} {boolVec : List Bool}
    (holds : input.Holds buffer (chars ++ tail)) (size : index + chars.length = boolVec.length) :
    readBools chars.length index input boolVec =
      (true, boolVec.take index ++ chars.map fun resChar => resChar != 0) := by
  induction chars generalizing input index boolVec with
  | nil =>
    rw [length_nil] at size
    have whole : boolVec.take index = boolVec := take_of_length_le (by omega)
    simp [readBools, whole]
  | cons resChar rest ih =>
    have byte : leBytes 1 resChar.toNat = [resChar] := by simp [leBytes]
    rw [cons_append, <- singleton_append, <- byte] at holds
    obtain ⟨next, read, after⟩ := readField_written resChar.toNat_lt holds
    rw [length_cons] at size
    rw [length_cons, readBools, read]
    simp only
    rw [ih after (by rw [length_set]; omega)]
    have bound : index < (boolVec.set index (resChar.toNat != 0)).length := by
      rw [length_set]
      omega
    have front : (boolVec.set index (resChar.toNat != 0)).take (index + 1) =
        boolVec.take index ++ [resChar != 0] := by
      rw [take_succ_eq_append_getElem bound, take_set_of_le (Nat.le_refl index), getElem_set_self]
      simp [bne, <- UInt8.toNat_inj]
    rw [front]
    simp

theorem readBools_prefix {left index : Nat} {boolVec result : List Bool}
    (holds : input.Holds buffer bytes)
    (read : readBools left index input boolVec = (true, result)) :
    ∃ chars tail, bytes = chars ++ tail ∧ chars.length = left := by
  induction left generalizing input bytes index boolVec with
  | zero => exact ⟨[], bytes, rfl, rfl⟩
  | succ left ih =>
    rw [readBools] at read
    split at read
    · cases read
    next resChar next field =>
      obtain ⟨tail, rfl, _, after⟩ := readField_prefix holds field
      obtain ⟨chars, last, rfl, rfl⟩ := ih after read
      exact ⟨leBytes 1 resChar ++ chars, last, by simp, by simp; omega⟩

def normalised (buffer : Bytes) : Bytes :=
  buffer.take 4 ++ (buffer.drop 4).flatMap fun resChar => writeBool (resChar != 0)

theorem normalised_append (count chars : Bytes) (four : count.length = 4) :
    normalised (count ++ chars) = count ++ chars.flatMap fun resChar => writeBool (resChar != 0) := by
  rw [normalised, <- four, take_left, drop_left]

theorem writeBool_byte (value : Bool) : ((if value then 1 else 0 : UInt8) != 0) = value := by
  cases value <;> rfl

theorem rawDataToBoolVec_written {boolVector boolVec : List Bool} (some : boolVector ≠ [])
    (few : boolVector.length ≤ maxUriCount) (size : boolVec.length = boolVector.length) :
    rawDataToBoolVec (boolVecToRawData boolVector) boolVec = (true, boolVector) := by
  have one (value : Bool) : (writeBool value).length = 1 := rfl
  have small : (writeVec writeBool boolVector).length ≤ maxIpcRawDataSize := by
    rw [writeVec_eq writeBool few]
    simp only [length_append, length_leBytes, length_flatMap, one, map_const',
      sum_replicate_nat, Nat.mul_one]
    unfold maxUriCount at few
    unfold maxIpcRawDataSize
    omega
  obtain ⟨input, count, start⟩ := readCount_own few small
  have accepted : ¬ (boolVector.length = 0 ∨ boolVector.length > maxUriCount) := by
    rintro (zero | many)
    · exact some (length_eq_zero_iff.mp zero)
    · omega
  have chars : boolVector.flatMap writeBool = boolVector.map fun value => if value then 1 else 0 :=
    flatMap_pure_eq_map _ _
  rw [chars, <- append_nil (boolVector.map _)] at start
  have total : 0 + (boolVector.map fun value => (if value then 1 else 0 : UInt8)).length =
      boolVec.length := by
    rw [length_map, size, Nat.zero_add]
  have read := readBools_eq start total
  rw [length_map, map_map] at read
  have same : boolVector.map ((fun resChar : UInt8 => resChar != 0) ∘
      fun value : Bool => if value then 1 else 0) = boolVector :=
    (map_congr_left fun value _ => writeBool_byte value).trans (map_id' boolVector)
  rw [same, take_zero, nil_append] at read
  rw [rawDataToBoolVec, boolVecToRawData, count]
  simp only [size, ne_eq, not_true_eq_false, if_false, accepted, read]

theorem rawDataToBoolVec_prefix {rawData : UriPermissionRawData} {boolVec result : List Bool}
    (read : rawDataToBoolVec rawData boolVec = (true, result)) :
    writeVec writeBool result <+: normalised rawData.buffer := by
  unfold rawDataToBoolVec at read
  split at read
  · cases read
  next count input counted =>
    split_ifs at read with size range
    · cases read
    · cases read
    · obtain ⟨tail, split, start⟩ := readCount_prefix counted
      obtain ⟨chars, last, rfl, rfl⟩ := readBools_prefix start read
      rw [readBools_eq start (by simpa using size)] at read
      cases read
      have few : (chars.map fun resChar => resChar != 0).length ≤ maxUriCount := by
        rw [length_map]
        omega
      rw [split, normalised_append _ _ (length_leBytes 4 chars.length), take_zero,
        nil_append, writeVec_eq writeBool few, length_map, flatMap_append,
        flatMap_map, <- append_assoc]
      exact prefix_append _ _

section Tests

structure Input.Kept (buffer : Bytes) (input : Input) : Prop where
  written : input.written = buffer
  inside : input.position ≤ buffer.length
  tests : ∀ test ∈ input.tests, test.InBounds buffer

theorem Input.Kept.read (kept : input.Kept buffer) (count : Nat) : (input.read count).2.Kept buffer where
  written := by
    exact (StringStream.read_written count).trans kept.written
  inside := by
    rw [<- kept.written]
    exact StringStream.read_inside (kept.written.symm ▸ kept.inside) count
  tests := kept.tests

theorem Input.Kept.isTooLong (kept : input.Kept buffer) (small : buffer.length ≤ maxIpcRawDataSize)
    (asked : UInt32) :
    (input.isTooLong (ofNat buffer.length) asked).2.Kept buffer where
  __ := kept
  tests := by
    intro test mem
    rcases mem_append.mp mem with before | new
    · exact kept.tests test before
    · rw [mem_singleton.mp new]
      exact inBounds input.position small kept.inside asked

theorem readField_kept (kept : input.Kept buffer) (width : Nat) :
    (readField width input).2.Kept buffer := by
  unfold readField
  simp only
  split <;> exact kept.read width

theorem readBlock_kept (tooLong : RawDataError) (small : buffer.length ≤ maxIpcRawDataSize)
    (kept : input.Kept buffer) :
    (readBlock tooLong (ofNat buffer.length) input).2.Kept buffer := by
  have first := readField_kept kept 4
  unfold readBlock
  split
  next error second field =>
    rw [field] at first
    exact first
  next length second field =>
    rw [field] at first
    have tested := first.isTooLong small (ofNat length)
    simp only
    split
    · exact tested
    · split <;> exact tested.read _

theorem readPolicyInfo_kept (small : buffer.length ≤ maxIpcRawDataSize) (kept : input.Kept buffer) :
    (readPolicyInfo (ofNat buffer.length) input).2.Kept buffer := by
  have first := readBlock_kept .invalidParameters small kept
  unfold readPolicyInfo
  split
  next error second block =>
    rw [block] at first
    exact first
  next path second block =>
    rw [block] at first
    have last := readField_kept first 8
    split
    next error third field =>
      rw [field] at last
      exact last
    next mode third field =>
      rw [field] at last
      exact last

variable {Value : Type} {reader : UInt32 -> Input -> Except RawDataError Value × Input}

theorem rawDataToVec_tests
    (kept : ∀ {buffer : Bytes} {input : Input}, buffer.length ≤ maxIpcRawDataSize ->
      input.Kept buffer -> (reader (ofNat buffer.length) input).2.Kept buffer)
    (rawData : UriPermissionRawData) (vec : List Value) :
    ∀ test ∈ (rawDataToVec reader rawData vec).2.tests, test.InBounds rawData.buffer := by
  by_cases present : rawData.data = none
  · simp [rawDataToVec, readCount, present]
  by_cases accepted : rawData.size = 0 ∨ rawData.size.toNat > maxIpcRawDataSize
  · obtain ⟨owned, found⟩ := Option.ne_none_iff_exists'.mp present
    simp [rawDataToVec, readCount, found, accepted]
  have small : rawData.buffer.length ≤ maxIpcRawDataSize := by
    rw [buffer, length_take]
    omega
  have fresh : Kept rawData.buffer { written := rawData.buffer } := ⟨rfl, zero_le _, by simp⟩
  have counted := readField_kept fresh 4
  rw [rawDataToVec, readCount_eq present accepted]
  split
  next error input field =>
    rw [field] at counted
    exact counted.tests
  next count input field =>
    rw [field] at counted
    split
    · exact counted.tests
    · rw [counted.written]
      exact (readEach_invariant (fun input => kept small) counted vec).tests

end Tests

def Fits {Value : Type} (write : Value → Bytes) (length : Value → Nat) (vec : List Value) : Prop :=
  vec ≠ [] ∧ vec.length ≤ maxUriCount ∧ (∀ value ∈ vec, length value < 2 ^ 32) ∧
    (writeVec write vec).length ≤ maxIpcRawDataSize

def PrefixOf {Value : Type} (write : Value -> Bytes) (buffer : Bytes) :
    Except RawDataError (List Value) -> Prop
  | .error _ => True
  | .ok values => writeVec write values <+: buffer

theorem rawDataToVec_prefixOf {Value : Type} {write : Value -> Bytes}
    {reader : UInt32 -> Input -> Except RawDataError Value × Input}
    (reads : ∀ buffer ssLength input bytes value next, Holds buffer input bytes ->
      reader ssLength input = (.ok value, next) ->
        ∃ tail, bytes = write value ++ tail ∧ next.Holds buffer tail)
    (rawData : UriPermissionRawData) :
    PrefixOf write rawData.buffer (rawDataToVec reader rawData []).1 := by
  cases read : rawDataToVec reader rawData [] with
  | mk result next =>
    cases result with
    | error error => trivial
    | ok values =>
      obtain ⟨new, rfl, starts⟩ := rawDataToVec_prefix reads read
      exact starts

theorem rawData_codec :
    (∀ stringVec, Fits writeString length stringVec ->
      (rawDataToStringVec (stringVecToRawData stringVec) []).1 = .ok stringVec) ∧
    (∀ policy, Fits writePolicyInfo (fun info => info.path.length) policy ->
      (rawDataToPolicyInfo (policyInfoToRawData policy) []).1 = .ok policy) ∧
    (∀ boolVector boolVec : List Bool, boolVector ≠ [] -> boolVector.length ≤ maxUriCount ->
      boolVec.length = boolVector.length ->
        rawDataToBoolVec (boolVecToRawData boolVector) boolVec = (true, boolVector)) ∧
    ∀ rawData : UriPermissionRawData,
      PrefixOf writeString rawData.buffer (rawDataToStringVec rawData []).1 ∧
      PrefixOf writePolicyInfo rawData.buffer (rawDataToPolicyInfo rawData []).1 ∧
      (∀ boolVec result, rawDataToBoolVec rawData boolVec = (true, result) ->
        writeVec writeBool result <+: normalised rawData.buffer) ∧
      (∀ test ∈ (rawDataToStringVec rawData []).2.tests, test.InBounds rawData.buffer) ∧
      ∀ test ∈ (rawDataToPolicyInfo rawData []).2.tests, test.InBounds rawData.buffer := by
  refine ⟨?_, ?_, ?_, fun rawData => ⟨?_, ?_, ?_, ?_, ?_⟩⟩
  · rintro stringVec ⟨some, few, short, small⟩
    exact rawDataToVec_written some few small
      (fun str mem buffer input tail => readBlock_written (short str mem)) []
  · rintro policy ⟨some, few, short, small⟩
    exact rawDataToVec_written some few small
      (fun info mem buffer input tail => readPolicyInfo_written (short info mem)) []
  · intro boolVector boolVec some few size
    exact rawDataToBoolVec_written some few size
  · exact rawDataToVec_prefixOf (fun buffer ssLength input bytes str next => readBlock_prefix) rawData
  · exact rawDataToVec_prefixOf (fun buffer ssLength input bytes info next => readPolicyInfo_prefix)
      rawData
  · intro boolVec result read
    exact rawDataToBoolVec_prefix read
  · exact rawDataToVec_tests (readBlock_kept .deadObject) rawData []
  · exact rawDataToVec_tests readPolicyInfo_kept rawData []

theorem rawData_codec_small :
    (rawDataToStringVec (stringVecToRawData [[104, 105], []]) []).1 = .ok [[104, 105], []] ∧
      (rawDataToPolicyInfo (policyInfoToRawData [⟨[47], 3⟩]) []).1 = .ok [⟨[47], 3⟩] ∧
      rawDataToBoolVec (boolVecToRawData [true, false]) [false, false] = (true, [true, false]) := by
  refine ⟨rawData_codec.1 _ ?_, rawData_codec.2.1 _ ?_, rawData_codec.2.2.1 _ _ ?_ ?_ ?_⟩
  · exact ⟨by decide, by decide, by decide, by decide⟩
  · exact ⟨by decide, by decide, by decide, by decide⟩
  all_goals decide

theorem writeString_wraps : writeString (replicate (2 ^ 32) 0) = writeString [] := by
  have wraps : ofNat (2 ^ 32) = 0 := rfl
  simp only [writeString, length_replicate, wraps]
  rfl

theorem nonzero_byte_is_rewritten :
    rawDataToBoolVec (.own [1, 0, 0, 0, 2]) [false] = (true, [true]) ∧
      ¬ (writeVec writeBool [true] <+: (own [1, 0, 0, 0, 2]).buffer) ∧
      rawDataToBoolVec (boolVecToRawData []) [] = (false, []) ∧
      (rawDataToPolicyInfo (policyInfoToRawData []) []).1 = .error .uriListOutOfRange ∧
      (rawDataToStringVec (stringVecToRawData [replicate (2 ^ 32) 0]) []).1 = .ok [[]] := by
  have same : stringVecToRawData [replicate (2 ^ 32) 0] = stringVecToRawData [[]] := by
    simp only [stringVecToRawData, writeVec, length_singleton]
    rw [show (ofNat 1).toNat = 1 from rfl, take_succ_cons, take_succ_cons,
      flatMap_cons, flatMap_cons, writeString_wraps, take_zero]
  rw [same]
  decide

end AbilityRuntime.UriPermission.RawData
