import AbilityRuntime.Library.ByteStream

set_option autoImplicit false

namespace AbilityRuntime.UriPermission.RawData

open Library UInt32

def maxIpcRawDataSize : Nat := 128 * 1024 * 1024
def maxUriCount : Nat := 200000

inductive RawDataError where
  | deadObject
  | uriListOutOfRange
  | invalidParameters
deriving DecidableEq, Repr

structure PolicyInfo where
  path : Bytes
  mode : UInt64
deriving DecidableEq, Repr

/-- The pointer is null or points to at least as many bytes as the size says. -/
structure UriPermissionRawData where
  data : Option Bytes
  size : UInt32
  backed : ∀ bytes, data = some bytes -> size.toNat ≤ bytes.length

def UriPermissionRawData.own (ownedData : Bytes) : UriPermissionRawData where
  data := some ownedData
  size := ofNat ownedData.length
  backed := by
    rintro _ ⟨rfl⟩
    exact Nat.mod_le _ _

def UriPermissionRawData.buffer (rawData : UriPermissionRawData) : Bytes :=
  (rawData.data.getD []).take rawData.size.toNat

-- Every length is cut to 32 bits and as many bytes are written.
def writeString (str : Bytes) : Bytes :=
  let strLen := ofNat str.length
  leBytes 4 strLen.toNat ++ str.take strLen.toNat

def writePolicyInfo (policy : PolicyInfo) : Bytes :=
  writeString policy.path ++ leBytes 8 policy.mode.toNat

def writeVec {Value : Type} (write : Value -> Bytes) (vec : List Value) : Bytes :=
  let count := ofNat vec.length
  leBytes 4 count.toNat ++ (vec.take count.toNat).flatMap write

def writeBool (value : Bool) : Bytes := [if value then 1 else 0]

def stringVecToRawData (stringVec : List Bytes) : UriPermissionRawData :=
  .own (writeVec writeString stringVec)

def policyInfoToRawData (policy : List PolicyInfo) : UriPermissionRawData :=
  .own (writeVec writePolicyInfo policy)

def boolVecToRawData (boolVector : List Bool) : UriPermissionRawData :=
  .own (writeVec writeBool boolVector)

structure LengthTest where
  ssLength : UInt32
  tellg : UInt32
  asked : UInt32

/-- The stream of a decoder. tests, which the code does not have, is the lengths it has tested. -/
structure Input extends StringStream where
  tests : List LengthTest := []

namespace Input

def read (input : Input) (count : Nat) : Bytes × Input :=
  let (bytes, stream) := input.toStringStream.read count
  (bytes, { input with toStringStream := stream })

-- tellg() < 0 || asked > ssLength - tellg(), where the subtraction wraps around.
def isTooLong (input : Input) (ssLength asked : UInt32) : Bool × Input :=
  let tellg := ofNat input.position
  (input.tellg < 0 || asked > ssLength - tellg,
    { input with tests := input.tests ++ [⟨ssLength, tellg, asked⟩] })

end Input

def readField (width : Nat) (input : Input) : Except RawDataError Nat × Input :=
  let (bytes, input) := input.read width
  if !input.good then (.error .deadObject, input) else (.ok (leValue bytes), input)

def readBlock (tooLong : RawDataError) (ssLength : UInt32) (input : Input) :
    Except RawDataError Bytes × Input :=
  match readField 4 input with
  | (.error error, input) => (.error error, input)
  | (.ok length, input) =>
    let strLen := ofNat length
    let (invalid, input) := input.isTooLong ssLength strLen
    if invalid then (.error tooLong, input)
    else
      let (str, input) := input.read strLen.toNat
      if !input.good then (.error .deadObject, input) else (.ok str, input)

def readString (ssLength : UInt32) (input : Input) : Except RawDataError Bytes × Input :=
  readBlock .deadObject ssLength input

def readPolicyInfo (ssLength : UInt32) (input : Input) : Except RawDataError PolicyInfo × Input :=
  match readBlock .invalidParameters ssLength input with
  | (.error error, input) => (.error error, input)
  | (.ok path, input) =>
    match readField 8 input with
    | (.error error, input) => (.error error, input)
    | (.ok mode, input) => (.ok ⟨path, UInt64.ofNat mode⟩, input)

def readCount (rawData : UriPermissionRawData) : Except RawDataError Nat × Input :=
  match rawData.data with
  | none => (.error .deadObject, { written := [] })
  | some bytes =>
    if rawData.size = 0 ∨ rawData.size.toNat > maxIpcRawDataSize then
      (.error .deadObject, { written := [] })
    else readField 4 { written := bytes.take rawData.size.toNat }

def rawDataToVec {Value : Type} (reader : UInt32 -> Input -> Except RawDataError Value × Input)
    (rawData : UriPermissionRawData) (vec : List Value) : Except RawDataError (List Value) × Input :=
  match readCount rawData with
  | (.error error, input) => (.error error, input)
  | (.ok count, input) =>
    if count = 0 ∨ count > maxUriCount then (.error .uriListOutOfRange, input)
    else readEach (reader (ofNat input.written.length)) count input vec

def rawDataToStringVec (rawData : UriPermissionRawData) (stringVec : List Bytes) :
    Except RawDataError (List Bytes) × Input :=
  rawDataToVec readString rawData stringVec

def rawDataToPolicyInfo (rawData : UriPermissionRawData) (policy : List PolicyInfo) :
    Except RawDataError (List PolicyInfo) × Input :=
  rawDataToVec readPolicyInfo rawData policy

def readBools : Nat -> Nat -> Input -> List Bool -> Bool × List Bool
  | 0, _, _, boolVec => (true, boolVec)
  | left + 1, index, input, boolVec =>
    match readField 1 input with
    | (.error _, _) => (false, boolVec)
    | (.ok resChar, input) => readBools left (index + 1) input (boolVec.set index (resChar != 0))

def rawDataToBoolVec (rawData : UriPermissionRawData) (boolVec : List Bool) : Bool × List Bool :=
  match readCount rawData with
  | (.error _, _) => (false, boolVec)
  | (.ok boolCount, input) =>
    if boolCount ≠ boolVec.length then (false, boolVec)
    else if boolCount = 0 ∨ boolCount > maxUriCount then (false, boolVec)
    else readBools boolCount 0 input boolVec

end AbilityRuntime.UriPermission.RawData
