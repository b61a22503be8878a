import Mathlib.Algebra.Group.Int.Defs
import Mathlib.Data.String.Basic
import Std.Data.ExtTreeMap
import AbilityRuntime.Library.TextLines

set_option autoImplicit false

namespace AbilityRuntime.Skill

open Library

/-- What a parameter of a want may hold; a string is boxed in an IString. -/
class Interface (Value : Type) where
  box : String -> Value
  unbox : Value -> Option String
  unbox_box : ∀ text, unbox (box text) = some text

variable {Value : Type} [Interface Value]

abbrev WantParams (Value : Type) := Std.ExtTreeMap String Value compare

def WantParams.getStringParam (params : WantParams Value) (key : String) : String :=
  (params[key]?.bind Interface.unbox).getD ""

structure Want (Value : Type) where
  parameters : WantParams Value

def Want.setParam (want : Want Value) (key text : String) : Want Value :=
  ⟨want.parameters.insert key (Interface.box text)⟩

def Want.removeParam (want : Want Value) (key : String) : Want Value := ⟨want.parameters.erase key⟩

def skillExecuteParamArgsPrefix : String := "ohos.skill.executeParam.args."

def skillExecuteParamSrcEntryPrefix : String := "ohos.skill.executeParam.srcEntry."

-- The names SKILL_EXECUTE_PARAM_*; the keys of an argument and of an entry begin with a fixed text.
inductive SkillKey where
  | bundleName
  | moduleName
  | skillName
  | scriptPath
  | functionName
  | argsKeys
  | args (key : String)
  | srcEntriesCount
  | srcEntry (index : Nat)
  | hapPath
  | requestCode
  deriving DecidableEq

def SkillKey.text : SkillKey -> String
  | .bundleName => "ohos.skill.executeParam.bundleName"
  | .moduleName => "ohos.skill.executeParam.moduleName"
  | .skillName => "ohos.skill.executeParam.skillName"
  | .scriptPath => "ohos.skill.executeParam.scriptPath"
  | .functionName => "ohos.skill.executeParam.functionName"
  | .argsKeys => "ohos.skill.executeParam.argsKeys"
  | .args key => skillExecuteParamArgsPrefix ++ key
  | .srcEntriesCount => "ohos.skill.executeParam.srcEntriesCount"
  | .srcEntry index => skillExecuteParamSrcEntryPrefix ++ toString index
  | .hapPath => "ohos.skill.executeParam.hapPath"
  | .requestCode => "ohos.skill.executeParam.requestCode"

structure SkillExecuteParam (Value : Type) where
  bundleName : String := ""
  moduleName : String := ""
  skillName : String := ""
  scriptPath : String := ""
  functionName : String := ""
  skillArgs : Option (WantParams Value) := none
  srcEntries : List String := []
  hapPath : String := ""
  requestCode : String := ""

def maxSrcEntriesCount : Nat := 500

def isSpace (c : Char) : Bool := c ∈ [' ', '\t', '\n', '\x0b', '\x0c', '\r']

structure Conversion where
  value : Int
  rest : List Char
  outOfRange : Bool

def isNegative (number : List Char) : Bool := number.head? == some '-'

def unsigned (number : List Char) : List Char :=
  if number.head? == some '-' || number.head? == some '+' then number.tail else number

-- No conversion is done where there is no digit; the text ends at its first NUL.
def strtol (text : String) : Option Conversion :=
  let number := (text.toList.takeWhile (· != '\x00')).dropWhile isSpace
  let negative := isNegative number
  let body := unsigned number
  let digits := body.takeWhile Char.isDigit
  if digits.isEmpty then none
  else
    let magnitude : Int := Nat.ofDigitChars 10 digits 0
    let value := if negative then -magnitude else magnitude
    some
      { value := max (-2 ^ 63) (min value (2 ^ 63 - 1))
        rest := body.dropWhile Char.isDigit
        outOfRange := value < -2 ^ 63 || 2 ^ 63 - 1 < value }

def parseSrcCount (countStr : String) : Nat :=
  match strtol countStr with
  | none => 0
  | some read =>
    if read.outOfRange || !read.rest.isEmpty || read.value < 0 ||
        maxSrcEntriesCount < read.value then 0
    else read.value.toNat

def joinKey (argsKeys key : String) : String :=
  if argsKeys.isEmpty then key else argsKeys ++ String.singleton ';' ++ key

def writeArgs (want : Want Value) (skillArgs : Option (WantParams Value)) : Want Value :=
  match skillArgs with
  | none => want
  | some skillArgs =>
    if skillArgs.isEmpty then want
    else
      let (argsKeys, params) := skillArgs.toList.foldl
        (fun (argsKeys, params) (key, value) =>
          (joinKey argsKeys key, params.insert (SkillKey.args key).text value))
        ("", want.parameters)
      ⟨params.insert SkillKey.argsKeys.text (Interface.box argsKeys)⟩

def writeSrcEntries (want : Want Value) (srcEntries : List String) : Want Value :=
  if srcEntries.isEmpty then want
  else
    srcEntries.zipIdx.foldl
      (fun want (entry, index) => want.setParam (SkillKey.srcEntry index).text entry)
      (want.setParam SkillKey.srcEntriesCount.text (toString srcEntries.length))

def setUnlessEmpty (want : Want Value) (key : SkillKey) (text : String) : Want Value :=
  if text.isEmpty then want else want.setParam key.text text

def writeToWant (want : Want Value)
    (bundleName moduleName skillName scriptPath functionName : String)
    (skillArgs : Option (WantParams Value)) (srcEntries : List String)
    (requestCode hapPath : String) : Want Value :=
  let want := want.setParam SkillKey.bundleName.text bundleName
  let want := want.setParam SkillKey.moduleName.text moduleName
  let want := want.setParam SkillKey.skillName.text skillName
  let want := setUnlessEmpty want .scriptPath scriptPath
  let want := setUnlessEmpty want .functionName functionName
  let want := writeArgs want skillArgs
  let want := writeSrcEntries want srcEntries
  let want := setUnlessEmpty want .requestCode requestCode
  setUnlessEmpty want .hapPath hapPath

def readArgs (wantParams : WantParams Value) (argsKeys : String) : WantParams Value :=
  (filledLines ';' argsKeys).foldl
    (fun skillArgs key =>
      match wantParams[(SkillKey.args key).text]? with
      | none => skillArgs
      | some value => skillArgs.insert key value)
    ∅

def srcCountOf (srcCountStr : String) : Nat :=
  if srcCountStr.isEmpty then 0 else parseSrcCount srcCountStr

def generateFromWant (want : Want Value) (param : SkillExecuteParam Value) :
    Bool × SkillExecuteParam Value :=
  let wantParams := want.parameters
  if !wantParams.contains SkillKey.skillName.text then (false, param)
  else
    let text (key : SkillKey) : String := wantParams.getStringParam key.text
    let argsKeys := text .argsKeys
    (true,
      { bundleName := text .bundleName
        moduleName := text .moduleName
        skillName := text .skillName
        scriptPath := text .scriptPath
        functionName := text .functionName
        skillArgs :=
          if argsKeys.isEmpty then param.skillArgs else some (readArgs wantParams argsKeys)
        srcEntries := param.srcEntries ++
          (List.range (srcCountOf (text .srcEntriesCount))).map fun index => text (.srcEntry index)
        requestCode := text .requestCode
        hapPath := text .hapPath })

def removeSkillParam (want : Want Value) : Want Value :=
  let argsKeys := want.parameters.getStringParam SkillKey.argsKeys.text
  let srcCount := want.parameters.getStringParam SkillKey.srcEntriesCount.text
  let keys : List SkillKey :=
    [.bundleName, .moduleName, .skillName, .scriptPath, .functionName, .argsKeys, .srcEntriesCount,
      .hapPath, .requestCode]
  let want := keys.foldl (fun want key => want.removeParam key.text) want
  let want := (filledLines ';' argsKeys).foldl
    (fun want key => want.removeParam (SkillKey.args key).text) want
  (List.range (srcCountOf srcCount)).foldl
    (fun want index => want.removeParam (SkillKey.srcEntry index).text) want

-- A parcel is a queue of what was written; a string of UTF-16 units stands for its UTF-8 text.
inductive ParcelItem (Value : Type) where
  | string16 (text : String)
  | int32 (value : Int)
  | wantParams (params : WantParams Value)

abbrev Parcel (Value : Type) := List (ParcelItem Value)

def Parcel.readString16 : Parcel Value -> String × Parcel Value
  | .string16 text :: rest => (text, rest)
  | parcel => ("", parcel)

def Parcel.readInt32 : Parcel Value -> Int × Parcel Value
  | .int32 value :: rest => (value, rest)
  | parcel => (0, parcel)

def Parcel.readParcelable : Parcel Value -> Option (WantParams Value) × Parcel Value
  | .wantParams params :: rest => (some params, rest)
  | parcel => (none, parcel)

def Parcel.readStrings : Nat -> Parcel Value -> List String × Parcel Value
  | 0, parcel => ([], parcel)
  | count + 1, parcel =>
    let (first, parcel) := parcel.readString16
    let (rest, parcel) := readStrings count parcel
    (first :: rest, parcel)

def toInt32 (size : Nat) : Int := (size : Int).bmod 4294967296

namespace SkillExecuteParam

variable (param : SkillExecuteParam Value)

def marshalling : Parcel Value :=
  [.string16 param.bundleName, .string16 param.moduleName, .string16 param.skillName,
    .string16 param.scriptPath, .string16 param.functionName,
    .wantParams (param.skillArgs.getD ∅),
    .int32 (toInt32 param.srcEntries.length)] ++
    param.srcEntries.map ParcelItem.string16 ++
    [.string16 param.requestCode, .string16 param.hapPath]

def readFromParcel (parcel : Parcel Value) : Bool × SkillExecuteParam Value :=
  let (bundleName, parcel) := parcel.readString16
  let (moduleName, parcel) := parcel.readString16
  let (skillName, parcel) := parcel.readString16
  let (scriptPath, parcel) := parcel.readString16
  let (functionName, parcel) := parcel.readString16
  let (args, parcel) := parcel.readParcelable
  let param :=
    { param with
      bundleName, moduleName, skillName, scriptPath, functionName, skillArgs := some (args.getD ∅) }
  let (srcCount, parcel) := parcel.readInt32
  if srcCount < 0 || maxSrcEntriesCount < srcCount then (false, param)
  else
    let (entries, parcel) := parcel.readStrings srcCount.toNat
    let (requestCode, parcel) := parcel.readString16
    let (hapPath, _) := parcel.readString16
    (true, { param with srcEntries := param.srcEntries ++ entries, requestCode, hapPath })

def unmarshalling (parcel : Parcel Value) : Option (SkillExecuteParam Value) :=
  let (read, param) := readFromParcel {} parcel
  if read then some param else none

end SkillExecuteParam

end AbilityRuntime.Skill
