import Mathlib.Data.List.Nodup
import Mathlib.Data.List.TakeWhile
import Std.Data.String.ToNat
import AbilityRuntime.Skill.SkillExecuteParam

set_option autoImplicit false

namespace AbilityRuntime.Skill

open Library Std.ExtTreeMap Function List Nat SkillKey Std WantParams Interface SkillExecuteParam Parcel

variable {Value : Type} [Interface Value]

theorem append_ne_of_not_prefix {start text key : String}
    (other : ¬start.toList <+: text.toList) : start ++ key ≠ text := by
  rintro rfl
  exact other ⟨key.toList, String.toList_append.symm⟩

theorem SkillKey.text_injective : Function.Injective text := by
  have args {key text : String} (other : ¬skillExecuteParamArgsPrefix.toList <+: text.toList) :
      (args key).text ≠ text := append_ne_of_not_prefix other
  have entry {index : Nat} {text : String}
      (other : ¬skillExecuteParamSrcEntryPrefix.toList <+: text.toList) :
      (srcEntry index).text ≠ text := append_ne_of_not_prefix other
  have apart {key : String} {index : Nat} :
      (SkillKey.args key).text ≠ (SkillKey.srcEntry index).text := by
    refine args fun common => ?_
    have start : skillExecuteParamSrcEntryPrefix.toList <+: (srcEntry index).text.toList :=
      ⟨(toString index).toList, String.toList_append.symm⟩
    exact absurd (prefix_of_prefix_length_le common start (by decide)) (by decide)
  intro first second same
  cases first
  case args key =>
    cases second
    case args other => rw [(String.append_right_inj _).1 same]
    case srcEntry index => exact absurd same apart
    all_goals exact absurd same (args (by decide))
  case srcEntry index =>
    cases second
    case args key => exact absurd same.symm apart
    case srcEntry other => rw [repr_inj.1 ((String.append_right_inj _).1 same)]
    all_goals exact absurd same (entry (by decide))
  all_goals
    cases second
    case args key => exact absurd same.symm (args (by decide))
    case srcEntry index => exact absurd same.symm (entry (by decide))
    all_goals first | rfl | exact absurd same (by decide)

omit [Interface Value] in
theorem WantParams.getElem?_insert (params : WantParams Value) (key name : String) (value : Value) :
    (params.insert key value)[name]? = if key = name then some value else params[name]? := by
  simp only [ExtTreeMap.getElem?_insert, LawfulEqCmp.compare_eq_iff_eq]

omit [Interface Value] in
theorem WantParams.getElem?_erase (params : WantParams Value) (key name : String) :
    (params.erase key)[name]? = if key = name then none else params[name]? := by
  simp only [ExtTreeMap.getElem?_erase, LawfulEqCmp.compare_eq_iff_eq]

/-- The skill parameters of a want, over a want that has other parameters only. -/
structure Want.Holds (want base : Want Value) (content : SkillKey -> Option Value) : Prop where
  skill : ∀ key : SkillKey, want.parameters[key.text]? = content key
  other : ∀ name, (∀ key : SkillKey, key.text ≠ name) ->
    want.parameters[name]? = base.parameters[name]?

def Want.WithoutSkillParam (want : Want Value) : Prop :=
  ∀ key : SkillKey, want.parameters[key.text]? = none

variable {want base : Want Value} {content : SkillKey -> Option Value}

namespace Want.Holds

section

variable (holds : want.Holds base content)
include holds

omit [Interface Value] in
theorem insert (key : SkillKey) (value : Value) :
    Want.Holds ⟨want.parameters.insert key.text value⟩ base (update content key (some value)) where
  skill other := by
    rw [getElem?_insert, update_apply]
    by_cases same : key = other
    · rw [if_pos (congrArg text same), if_pos same.symm]
    · rw [if_neg (fun texts => same (text_injective texts)), if_neg (Ne.symm same)]
      exact holds.skill other
  other name apart := by
    rw [getElem?_insert, if_neg (apart key)]
    exact holds.other name apart

omit [Interface Value] in
theorem removeParam (key : SkillKey) :
    (want.removeParam key.text).Holds base (update content key none) where
  skill other := by
    rw [Want.removeParam, getElem?_erase, update_apply]
    by_cases same : key = other
    · rw [if_pos (congrArg text same), if_pos same.symm]
    · rw [if_neg (fun texts => same (text_injective texts)), if_neg (Ne.symm same)]
      exact holds.skill other
  other name apart := by
    rw [Want.removeParam, getElem?_erase, if_neg (apart key)]
    exact holds.other name apart

theorem setParam (key : SkillKey) (text : String) :
    (want.setParam key.text text).Holds base (update content key (some (box text))) :=
  holds.insert key _

theorem setUnlessEmpty (key : SkillKey) (free : content key = none) (text : String) :
    (Skill.setUnlessEmpty want key text).Holds base
      (update content key (if text.isEmpty then none else some (box text))) := by
  unfold Skill.setUnlessEmpty
  split
  · rw [update_eq_self_iff.2 free.symm]
    exact holds
  · exact holds.setParam key text

end

end Want.Holds

theorem foldl_update {A K V : Type} [DecidableEq K] (list : List A) (keyOf : A -> K)
    (valueOf : A -> V) (content : K -> V) (distinct : (list.map keyOf).Nodup) (key : K) :
    let updated :=
      list.foldl (fun content entry => update content (keyOf entry) (valueOf entry)) content
    (∀ entry ∈ list, keyOf entry = key -> updated key = valueOf entry) ∧
      (key ∉ list.map keyOf -> updated key = content key) := by
  induction list generalizing content with
  | nil => exact ⟨nofun, fun _ => rfl⟩
  | cons first rest ih =>
    obtain ⟨fresh, distinct⟩ := nodup_cons.1 distinct
    obtain ⟨among, apart⟩ := ih (update content (keyOf first) (valueOf first)) distinct
    refine ⟨fun entry mem same => ?_, fun missing => ?_⟩
    · rcases mem_cons.1 mem with rfl | later
      · rw [same] at fresh
        have kept := apart fresh
        rw [same, update_self] at kept
        rw [foldl_cons, same]
        exact kept
      · exact among entry later same
    · obtain ⟨ne, later⟩ := not_or.1 (fun found => missing (mem_cons.2 found))
      exact (apart later).trans (update_of_ne ne _ _)

namespace Want.Holds

section

variable (holds : want.Holds base content)
include holds

omit [Interface Value] in
theorem congr {other : SkillKey -> Option Value}
    (same : ∀ key, content key = other key) : want.Holds base other where
  skill key := (holds.skill key).trans (same key)
  other := holds.other

omit [Interface Value] in
theorem insertAll {A : Type} (list : List A) (keyOf : A -> SkillKey) (valueOf : A -> Value) :
    Want.Holds (list.foldl
        (fun want entry => ⟨want.parameters.insert (keyOf entry).text (valueOf entry)⟩) want) base
      (list.foldl
        (fun content entry => update content (keyOf entry) (some (valueOf entry))) content) := by
  induction list generalizing want content with
  | nil => exact holds
  | cons first rest ih => exact ih (holds.insert (keyOf first) (valueOf first))

omit [Interface Value] in
theorem removeAll {A : Type} (list : List A) (keyOf : A -> SkillKey) :
    Want.Holds (list.foldl (fun want entry => want.removeParam (keyOf entry).text) want) base
      fun key => if key ∈ list.map keyOf then none else content key := by
  induction list generalizing want content with
  | nil =>
    simp only [foldl_nil, map_nil, not_mem_nil, if_false]
    exact holds
  | cons first rest ih =>
    have later := ih (holds.removeParam (keyOf first))
    rw [foldl_cons]
    refine later.congr fun key => ?_
    by_cases same : key = keyOf first <;> simp [same]

theorem writeSrcEntries (free : ∀ index, content (.srcEntry index) = none)
    (uncounted : content .srcEntriesCount = none) (srcEntries : List String) :
    (Skill.writeSrcEntries want srcEntries).Holds base fun key => match key with
      | .srcEntriesCount =>
        if srcEntries.isEmpty then none else some (box (toString srcEntries.length))
      | .srcEntry index => srcEntries[index]?.map box
      | key => content key := by
  unfold Skill.writeSrcEntries
  split
  next empty =>
    rw [List.isEmpty_iff.1 empty]
    refine holds.congr fun key => ?_
    cases key <;> simp [free, uncounted]
  next filled =>
    have written := (holds.setParam .srcEntriesCount (toString srcEntries.length)).insertAll
      srcEntries.zipIdx (fun entry => .srcEntry entry.2) (fun entry => box entry.1)
    have keys : srcEntries.zipIdx.map (fun entry => srcEntry entry.2) =
        (range srcEntries.length).map srcEntry := by
      rw [range_eq_range', <- zipIdx_map_snd 0 srcEntries, List.map_map]
      rfl
    have distinct : (srcEntries.zipIdx.map fun entry => srcEntry entry.2).Nodup := by
      rw [keys]
      exact List.Nodup.map (fun _ _ same => srcEntry.inj same) nodup_range
    refine written.congr fun key => ?_
    obtain ⟨among, apart⟩ := foldl_update srcEntries.zipIdx
      (fun entry => srcEntry entry.2) (fun entry => some (box entry.1))
      (update content .srcEntriesCount (some (box (toString srcEntries.length))))
      distinct key
    rw [keys] at apart
    cases key
    case srcEntry index =>
      dsimp only
      cases found : srcEntries[index]? with
      | some entry =>
        exact among (entry, index) (mk_mem_zipIdx_iff_getElem?.2 found) rfl
      | none =>
        have outside : srcEntries.length ≤ index := getElem?_eq_none_iff.1 found
        refine (apart (by simpa using outside)).trans ?_
        exact (update_of_ne (by nofun) _ _).trans (free index)
    case srcEntriesCount =>
      exact (apart (by simp)).trans (update_self ..)
    all_goals exact (apart (by simp)).trans (update_of_ne (by nofun) _ _)

end

omit [Interface Value] in
theorem writeArgs_foldl (args : List (String × Value)) (argsKeys : String)
    (params : WantParams Value) :
    args.foldl (fun (argsKeys, params) (key, value) =>
        (joinKey argsKeys key, params.insert (SkillKey.args key).text value)) (argsKeys, params) =
      ((args.map Prod.fst).foldl joinKey argsKeys,
        (args.foldl (fun want entry =>
          ⟨want.parameters.insert (SkillKey.args entry.1).text entry.2⟩)
            (⟨params⟩ : Want Value)).parameters) := by
  induction args generalizing argsKeys params with
  | nil => rfl
  | cons first rest ih => exact ih _ _

theorem writeArgs (holds : want.Holds base content)
    (free : ∀ key, content (.args key) = none) (unlisted : content .argsKeys = none)
    (skillArgs : Option (WantParams Value)) :
    (Skill.writeArgs want skillArgs).Holds base fun key => match key with
      | .argsKeys =>
        if (skillArgs.getD ∅).isEmpty then none
        else some (box ((skillArgs.getD ∅).keys.foldl joinKey ""))
      | .args key => (skillArgs.getD ∅)[key]?
      | key => content key := by
  unfold Skill.writeArgs
  cases skillArgs with
  | none =>
    refine holds.congr fun key => ?_
    cases key <;> simp [free, unlisted]
  | some args =>
    dsimp only [Option.getD_some]
    split
    next empty =>
      rw [ExtTreeMap.isEmpty_iff.1 empty]
      refine holds.congr fun key => ?_
      cases key <;> simp [free, unlisted]
    next filled =>
      rw [writeArgs_foldl, map_fst_toList_eq_keys]
      have written := (holds.insertAll args.toList (fun entry => .args entry.1) Prod.snd).setParam
        .argsKeys (args.keys.foldl joinKey "")
      have distinct : (args.toList.map fun entry => SkillKey.args entry.1).Nodup := by
        refine pairwise_map.2 (args.distinct_keys_toList.imp fun ne same => ?_)
        exact ne (Std.LawfulEqCmp.compare_eq_iff_eq.2 (SkillKey.args.inj same))
      refine written.congr fun key => ?_
      obtain ⟨among, apart⟩ := foldl_update args.toList (fun entry => SkillKey.args entry.1)
        (fun entry => some entry.2) content distinct key
      cases key
      case args key =>
        dsimp only
        cases found : args[key]? with
        | some value =>
          exact among (key, value) (mem_toList_iff_getElem?_eq_some.2 found) rfl
        | none =>
          refine (apart fun mem => ?_).trans (free key)
          obtain ⟨⟨_, value⟩, present, same⟩ := mem_map.1 mem
          obtain rfl := SkillKey.args.inj same
          rw [mem_toList_iff_getElem?_eq_some, found] at present
          cases present
      case argsKeys => exact update_self ..
      all_goals
        refine (update_of_ne (by nofun) _ _).trans (apart ?_)
        simp

end Want.Holds

namespace SkillExecuteParam

variable (param : SkillExecuteParam Value)

def args : WantParams Value := param.skillArgs.getD ∅

def writtenTo (want : Want Value) : Want Value :=
  writeToWant want param.bundleName param.moduleName param.skillName param.scriptPath
    param.functionName param.skillArgs param.srcEntries param.requestCode param.hapPath

structure SameContent (first second : SkillExecuteParam Value) : Prop where
  bundleName : first.bundleName = second.bundleName
  moduleName : first.moduleName = second.moduleName
  skillName : first.skillName = second.skillName
  scriptPath : first.scriptPath = second.scriptPath
  functionName : first.functionName = second.functionName
  args : first.args = second.args
  srcEntries : first.srcEntries = second.srcEntries
  requestCode : first.requestCode = second.requestCode
  hapPath : first.hapPath = second.hapPath

/-- No key is empty or has a semicolon, and the entries are no more than are read. -/
structure Separable : Prop where
  keys : ∀ key ∈ param.args, key ≠ "" ∧ ';' ∉ key.toList
  count : param.srcEntries.length ≤ maxSrcEntriesCount

def unlessEmpty (text : String) : Option Value :=
  if text.isEmpty then none else some (box text)

def parameterOf : SkillKey -> Option Value
  | .bundleName => some (box param.bundleName)
  | .moduleName => some (box param.moduleName)
  | .skillName => some (box param.skillName)
  | .scriptPath => unlessEmpty param.scriptPath
  | .functionName => unlessEmpty param.functionName
  | .argsKeys =>
    if param.args.isEmpty then none
    else some (box (param.args.keys.foldl joinKey ""))
  | .args key => param.args[key]?
  | .srcEntriesCount =>
    if param.srcEntries.isEmpty then none
    else some (box (toString param.srcEntries.length))
  | .srcEntry index => param.srcEntries[index]?.map box
  | .hapPath => unlessEmpty param.hapPath
  | .requestCode => unlessEmpty param.requestCode

theorem writtenTo_holds (clean : want.WithoutSkillParam) :
    (param.writtenTo want).Holds want param.parameterOf := by
  have start : want.Holds want fun _ => none := ⟨clean, fun _ _ => rfl⟩
  have named := ((start.setParam .bundleName param.bundleName).setParam .moduleName
    param.moduleName).setParam .skillName param.skillName
  have called := (named.setUnlessEmpty .scriptPath (by simp) param.scriptPath).setUnlessEmpty
    .functionName (by simp) param.functionName
  have listed := (called.writeArgs (by simp) (by simp) param.skillArgs).writeSrcEntries (by simp)
    (by simp) param.srcEntries
  have written := (listed.setUnlessEmpty .requestCode (by simp) param.requestCode).setUnlessEmpty
    .hapPath (by simp) param.hapPath
  refine written.congr fun key => ?_
  cases key
  case argsKeys => rfl
  all_goals simp [parameterOf, args, unlessEmpty]

def lines : List String := filledLines ';' (param.args.keys.foldl joinKey "")

theorem filledLines_joinKey (keys : List String) (argsKeys : String) :
    filledLines ';' (keys.foldl joinKey argsKeys) =
      filledLines ';' argsKeys ++ keys.flatMap (filledLines ';') := by
  induction keys generalizing argsKeys with
  | nil => exact (append_nil _).symm
  | cons key rest ih =>
    have joined : filledLines ';' (joinKey argsKeys key) =
        filledLines ';' argsKeys ++ filledLines ';' key := by
      unfold joinKey
      split
      next empty => rw [String.isEmpty_iff.1 empty, filledLines_empty, nil_append]
      · exact filledLines_append ';' argsKeys key
    rw [foldl_cons, ih, joined, flatMap_cons, append_assoc]

omit [Interface Value] in
theorem keys_read_iff : (∀ key ∈ param.args, key ∈ param.lines) ↔
    ∀ key ∈ param.args, key ≠ "" ∧ ';' ∉ key.toList := by
  have lines : param.lines = param.args.keys.flatMap (filledLines ';') := by
    rw [lines, filledLines_joinKey, filledLines_empty, nil_append]
  rw [lines]
  constructor
  · intro read key mem
    obtain ⟨other, -, line⟩ := mem_flatMap.1 (read key mem)
    exact ⟨filled_of_mem line, notMem_of_mem line⟩
  · intro apart key mem
    obtain ⟨filled, whole⟩ := apart key mem
    refine mem_flatMap.2 ⟨key, mem_keys.2 mem, ?_⟩
    rw [filledLines_of_notMem whole filled]
    exact mem_singleton_self key

omit [Interface Value] in
theorem readArgs_eq (wantParams : WantParams Value) (argsKeys key : String) :
    (readArgs wantParams argsKeys)[key]? =
      if key ∈ filledLines ';' argsKeys then wantParams[(SkillKey.args key).text]? else none := by
  have general (read : WantParams Value -> String -> WantParams Value)
      (reads : ∀ args line, (read args line)[key]? =
        if line = key then (wantParams[(SkillKey.args key).text]?).or args[key]? else args[key]?)
      (lines : List String) (args : WantParams Value) : (lines.foldl read args)[key]? =
        if key ∈ lines then (wantParams[(SkillKey.args key).text]?).or args[key]?
        else args[key]? := by
    induction lines generalizing args with
    | nil => rfl
    | cons line rest ih =>
      rw [foldl_cons, ih, reads]
      by_cases same : line = key
      · cases wantParams[(SkillKey.args key).text]? <;> simp [same]
      · simp [same, Ne.symm same]
  refine (general _ (fun args line => ?_) (filledLines ';' argsKeys) ∅).trans (by simp)
  by_cases same : line = key
  · subst same
    cases wantParams[(SkillKey.args line).text]? <;> simp
  · cases wantParams[(SkillKey.args line).text]? <;>
      simp [WantParams.getElem?_insert, same]

end SkillExecuteParam

theorem strtol_digits {text : String} (digits : ∀ c ∈ text.toList, c.isDigit)
    (filled : text.toList ≠ []) :
    strtol text = some
      { value := max (-2 ^ 63) (min (ofDigitChars 10 text.toList 0 : Int) (2 ^ 63 - 1))
        rest := []
        outOfRange := decide ((2 ^ 63 - 1 : Int) < ofDigitChars 10 text.toList 0) } := by
  have unlike {c other : Char} (mem : c ∈ text.toList) (plain : other.isDigit = false) :
      c ≠ other := by
    rintro rfl
    rw [digits c mem] at plain
    cases plain
  have kept : text.toList.takeWhile (· != '\x00') = text.toList :=
    takeWhile_eq_self_iff.2 fun c mem => bne_iff_ne.2 (unlike mem rfl)
  have unspaced : text.toList.dropWhile isSpace = text.toList := by
    refine dropWhile_eq_self_iff.2 fun inside spaced => ?_
    have mem := getElem_mem inside
    simp only [isSpace, mem_cons, not_mem_nil, or_false, decide_eq_true_eq] at spaced
    rcases spaced with space | tab | line | vertical | form | carriage
    · exact unlike mem (by decide) space
    · exact unlike mem (by decide) tab
    · exact unlike mem (by decide) line
    · exact unlike mem (by decide) vertical
    · exact unlike mem (by decide) form
    · exact unlike mem (by decide) carriage
  have all : text.toList.takeWhile Char.isDigit = text.toList := takeWhile_eq_self_iff.2 digits
  have none : text.toList.dropWhile Char.isDigit = [] := dropWhile_eq_nil_iff.2 digits
  have headless {sign : Char} (plain : sign.isDigit = false) :
      (text.toList.head? == some sign) = false := by
    cases chars : text.toList with
    | nil => exact absurd chars filled
    | cons first rest =>
      have first : first ≠ sign := unlike (chars ▸ mem_cons_self) plain
      simpa using first
  have positive : isNegative text.toList = false := headless (by decide)
  have same : unsigned text.toList = text.toList := by
    rw [unsigned, headless (by decide), headless (by decide)]
    rfl
  unfold strtol
  rw [kept, unspaced]
  dsimp only
  rw [positive, same, all, none, if_neg (by simpa using filled)]
  simp

theorem strtol_toString (n : Nat) :
    strtol (toString n) = some
      { value := max (-2 ^ 63) (min (n : Int) (2 ^ 63 - 1))
        rest := []
        outOfRange := decide ((2 ^ 63 - 1 : Int) < n) } := by
  have chars : (toString n).toList = toDigits 10 n := toList_repr
  rw [strtol_digits, chars, ofDigitChars_ten_toDigits]
  · intro c mem
    rw [chars] at mem
    exact isDigit_of_mem_toDigits (by decide) (by decide) mem
  · rw [chars]
    exact toDigits_ne_nil

theorem parseSrcCount_toString (n : Nat) :
    parseSrcCount (toString n) = if n ≤ maxSrcEntriesCount then n else 0 := by
  unfold parseSrcCount maxSrcEntriesCount
  rw [strtol_toString]
  dsimp only
  by_cases few : n ≤ 500
  · rw [if_neg, if_pos few]
    · omega
    · simp
      omega
  · rw [if_pos, if_neg few]
    simp
    omega

variable {param : SkillExecuteParam Value}

namespace SkillExecuteParam

theorem getStringParam_holds (holds : want.Holds base content) (key : SkillKey) {text : String}
    (held : content key = some (box text) ∨ content key = none ∧ text = "") :
    want.parameters.getStringParam key.text = text := by
  unfold getStringParam
  rw [holds.skill key]
  rcases held with written | ⟨missing, rfl⟩
  · rw [written, Option.bind_some, unbox_box]
    rfl
  · rw [missing]
    rfl

theorem unlessEmpty_cases (text : String) :
    (unlessEmpty text : Option Value) = some (box text) ∨
      (unlessEmpty text : Option Value) = none ∧ text = "" := by
  unfold unlessEmpty
  split
  next empty => exact .inr ⟨rfl, String.isEmpty_iff.1 empty⟩
  · exact .inl rfl

variable (holds : want.Holds base param.parameterOf)
include holds

theorem argsKeys_read : want.parameters.getStringParam argsKeys.text =
    param.args.keys.foldl joinKey "" := by
  refine getStringParam_holds holds .argsKeys ?_
  dsimp only [parameterOf]
  split
  next empty =>
    refine .inr ⟨rfl, ?_⟩
    rw [ExtTreeMap.isEmpty_iff.1 empty]
    rfl
  · exact .inl rfl

theorem srcCount_read :
    srcCountOf (want.parameters.getStringParam srcEntriesCount.text) =
      if param.srcEntries.length ≤ maxSrcEntriesCount then param.srcEntries.length else 0 := by
  unfold srcCountOf
  by_cases empty : param.srcEntries = []
  · have uncounted : param.parameterOf .srcEntriesCount = none := by simp [parameterOf, empty]
    rw [getStringParam_holds holds .srcEntriesCount (.inr ⟨uncounted, rfl⟩), empty]
    rfl
  · have read : want.parameters.getStringParam srcEntriesCount.text =
        toString param.srcEntries.length :=
      getStringParam_holds holds .srcEntriesCount (.inl (by simp [parameterOf, empty]))
    have filled : (toString param.srcEntries.length).isEmpty = false := by
      rw [<- Bool.not_eq_true, String.isEmpty_iff]
      intro none
      have chars : (toString param.srcEntries.length).toList = toDigits 10 _ := toList_repr
      rw [none] at chars
      exact toDigits_ne_nil chars.symm
    rw [read, filled, if_neg Bool.false_ne_true, parseSrcCount_toString]

theorem args_read_iff :
    readArgs want.parameters (param.args.keys.foldl joinKey "") = param.args ↔
      ∀ key ∈ param.args, key ≠ "" ∧ ';' ∉ key.toList := by
  rw [<- keys_read_iff]
  have read (key : String) :
      (readArgs want.parameters (param.args.keys.foldl joinKey ""))[key]? =
        if key ∈ param.lines then param.args[key]? else none := by
    rw [readArgs_eq, holds.skill]
    rfl
  constructor
  · intro same key mem
    by_contra unread
    have found := read key
    rw [same, if_neg unread] at found
    rw [mem_iff_isSome_getElem?, found] at mem
    cases mem
  · intro every
    refine ext_getElem? fun key => ?_
    rw [read]
    by_cases mem : key ∈ param.args
    · rw [if_pos (every key mem)]
    · rw [ExtTreeMap.getElem?_eq_none mem, ite_self]

theorem srcEntries_read_iff :
    ((range (srcCountOf (want.parameters.getStringParam srcEntriesCount.text))).map
      fun index => want.parameters.getStringParam (srcEntry index).text) =
        param.srcEntries ↔ param.srcEntries.length ≤ maxSrcEntriesCount := by
  rw [srcCount_read holds]
  have read {index : Nat} (inside : index < param.srcEntries.length) :
      want.parameters.getStringParam (srcEntry index).text = param.srcEntries[index] :=
    getStringParam_holds holds (.srcEntry index) (.inl (by simp [parameterOf, inside]))
  split
  next few =>
    refine iff_of_true (ext_getElem (by simp) fun index inside _ => ?_) few
    rw [getElem_map, getElem_range, read]
  next many =>
    refine iff_of_false (fun same => many ?_) many
    rw [<- same]
    exact zero_le _

theorem generateFromWant_holds : ∃ read,
    generateFromWant want {} = (true, read) ∧
      { param with
        skillArgs := some (readArgs want.parameters (param.args.keys.foldl joinKey ""))
        srcEntries :=
          (range (srcCountOf
            (want.parameters.getStringParam srcEntriesCount.text))).map
              fun index => want.parameters.getStringParam (srcEntry index).text
        }.SameContent read := by
  have present : want.parameters.contains SkillKey.skillName.text = true := by
    rw [Std.ExtTreeMap.contains_iff_mem, mem_iff_isSome_getElem?, holds.skill]
    rfl
  unfold generateFromWant
  dsimp only
  rw [present, <- argsKeys_read holds]
  refine ⟨_, rfl, ?_⟩
  constructor
  case bundleName => exact (getStringParam_holds holds .bundleName (.inl rfl)).symm
  case moduleName => exact (getStringParam_holds holds .moduleName (.inl rfl)).symm
  case skillName => exact (getStringParam_holds holds .skillName (.inl rfl)).symm
  case scriptPath => exact (getStringParam_holds holds .scriptPath (unlessEmpty_cases _)).symm
  case functionName =>
    exact (getStringParam_holds holds .functionName (unlessEmpty_cases _)).symm
  case args =>
    split
    next empty =>
      rw [String.isEmpty_iff.1 empty, readArgs, filledLines_empty]
      rfl
    · rfl
  case srcEntries => rfl
  case requestCode => exact (getStringParam_holds holds .requestCode (unlessEmpty_cases _)).symm
  case hapPath => exact (getStringParam_holds holds .hapPath (unlessEmpty_cases _)).symm

theorem generateFromWant_iff :
    ((generateFromWant want {}).1 = true ∧ (generateFromWant want {}).2.SameContent param) ↔
      param.Separable := by
  obtain ⟨read, eq, same⟩ := generateFromWant_holds holds
  rw [eq]
  constructor
  · rintro ⟨-, back⟩
    exact ⟨(args_read_iff holds).1 (same.args.trans back.args),
      (srcEntries_read_iff holds).1 (same.srcEntries.trans back.srcEntries)⟩
  · rintro ⟨keys, count⟩
    exact ⟨rfl, same.bundleName.symm, same.moduleName.symm, same.skillName.symm,
      same.scriptPath.symm, same.functionName.symm,
      same.args.symm.trans ((args_read_iff holds).2 keys),
      same.srcEntries.symm.trans ((srcEntries_read_iff holds).2 count), same.requestCode.symm,
      same.hapPath.symm⟩

theorem removeSkillParam_holds :
    (removeSkillParam want).Holds base fun key => match key with
      | .args key => if key ∈ param.lines then none else param.args[key]?
      | .srcEntry index =>
        if index <
          (if param.srcEntries.length ≤ maxSrcEntriesCount then param.srcEntries.length else 0)
        then none else param.srcEntries[index]?.map box
      | _ => none := by
  have removed := ((holds.removeAll [SkillKey.bundleName, .moduleName, .skillName, .scriptPath,
    .functionName, .argsKeys, .srcEntriesCount, .hapPath, .requestCode] id).removeAll
      (filledLines ';' (want.parameters.getStringParam SkillKey.argsKeys.text)) .args).removeAll
        (range (srcCountOf (want.parameters.getStringParam srcEntriesCount.text))) .srcEntry
  refine removed.congr fun key => ?_
  rw [argsKeys_read holds, srcCount_read holds, <- lines]
  cases key
  all_goals simp [parameterOf]

theorem removeSkillParam_iff (clean : base.WithoutSkillParam) :
    removeSkillParam want = base ↔ param.Separable := by
  have left := removeSkillParam_holds holds
  have back : removeSkillParam want = base ↔
      ∀ key : SkillKey, (removeSkillParam want).parameters[key.text]? = none := by
    constructor
    · rintro same key
      rw [same]
      exact clean key
    · intro none
      have same : (removeSkillParam want).parameters = base.parameters := by
        refine ExtTreeMap.ext_getElem? fun name => ?_
        by_cases skill : ∃ key : SkillKey, key.text = name
        · obtain ⟨key, rfl⟩ := skill
          rw [none, clean]
        · exact left.other name fun key same => skill ⟨key, same⟩
      rw [<- Want.mk.injEq] at same
      exact same
  rw [back]
  constructor
  · intro none
    refine ⟨(keys_read_iff param).1 fun key mem => ?_, ?_⟩
    · by_contra unread
      have found := none (.args key)
      rw [left.skill] at found
      simp [unread] at found
      simp [found] at mem
    · by_contra many
      have found := none (.srcEntry 0)
      rw [left.skill] at found
      simp [many] at found
      simp [found] at many
  · rintro ⟨keys, count⟩ key
    rw [left.skill]
    cases key
    case args key =>
      dsimp only
      split
      · rfl
      next unread =>
        refine ExtTreeMap.getElem?_eq_none fun mem => unread ?_
        exact (keys_read_iff param).2 keys key mem
    case srcEntry index =>
      dsimp only
      rw [if_pos count]
      split
      · rfl
      next outside => rw [List.getElem?_eq_none (Nat.le_of_not_lt outside), Option.map_none]
    all_goals rfl

omit holds

omit [Interface Value] in
theorem readStrings_length (count : Nat) (parcel : Parcel Value) :
    (parcel.readStrings count).1.length = count := by
  induction count generalizing parcel with
  | zero => rfl
  | succ count ih => exact congrArg Nat.succ (ih _)

omit [Interface Value] in
theorem readStrings_eq (texts : List String) (rest : Parcel Value) :
    readStrings texts.length (texts.map ParcelItem.string16 ++ rest) = (texts, rest) := by
  induction texts with
  | nil => rfl
  | cons first texts ih =>
    rw [length_cons, map_cons, cons_append, readStrings]
    dsimp only [readString16]
    rw [ih]

theorem toInt32_of_le {count : Nat} (few : count ≤ maxSrcEntriesCount) : toInt32 count = count := by
  unfold maxSrcEntriesCount at few
  exact Int.bmod_eq_of_le (by omega) (by omega)

def parcelOf (param : SkillExecuteParam Value) (count : Int) : Parcel Value :=
  [.string16 param.bundleName, .string16 param.moduleName, .string16 param.skillName,
    .string16 param.scriptPath, .string16 param.functionName,
    .wantParams (param.skillArgs.getD ∅), .int32 count] ++
    param.srcEntries.map ParcelItem.string16 ++
    [.string16 param.requestCode, .string16 param.hapPath]

omit [Interface Value] in
theorem unmarshalling_parcelOf (param : SkillExecuteParam Value) (count : Int) :
    (count < 0 ∨ maxSrcEntriesCount < count) ∧ unmarshalling (param.parcelOf count) = none ∨
      ¬(count < 0 ∨ maxSrcEntriesCount < count) ∧ ∃ read,
        unmarshalling (param.parcelOf count) = some read ∧
          read.srcEntries.length = count.toNat ∧
          (count = param.srcEntries.length -> read.SameContent param) := by
  unfold unmarshalling readFromParcel parcelOf
  dsimp only [cons_append, nil_append, readString16, readParcelable, readInt32]
  by_cases refused : (decide (count < 0) || decide ((maxSrcEntriesCount : Int) < count)) = true
  · rw [refused]
    rw [Bool.or_eq_true, decide_eq_true_eq, decide_eq_true_eq] at refused
    exact .inl ⟨refused, rfl⟩
  · rw [if_neg refused]
    rw [Bool.or_eq_true, decide_eq_true_eq, decide_eq_true_eq] at refused
    refine .inr ⟨refused, _, rfl, readStrings_length _ _, ?_⟩
    rintro rfl
    rw [Int.toNat_natCast, readStrings_eq]
    exact ⟨rfl, rfl, rfl, rfl, rfl, rfl, rfl, rfl, rfl⟩

omit [Interface Value] in
theorem unmarshalling_iff :
    (∃ read, unmarshalling param.marshalling = some read ∧ read.SameContent param) ↔
      param.srcEntries.length ≤ maxSrcEntriesCount := by
  have few_eq := @toInt32_of_le param.srcEntries.length
  have written : param.marshalling = param.parcelOf (toInt32 param.srcEntries.length) := rfl
  rw [written]
  generalize toInt32 param.srcEntries.length = count at few_eq
  rcases unmarshalling_parcelOf param count with
    ⟨refused, none⟩ | ⟨accepted, read, eq, length, same⟩
  · refine iff_of_false (fun ⟨_, eq, _⟩ => by simp [none] at eq) fun few => ?_
    rw [few_eq few] at refused
    omega
  · constructor
    · rintro ⟨_, found, back⟩
      rw [eq] at found
      cases found
      rw [back.srcEntries] at length
      omega
    · exact fun few => ⟨read, eq, same (few_eq few)⟩

end SkillExecuteParam

/-- What was written is read and removed exactly when the keys can be told apart. -/
theorem skillExecuteParam_roundTrip (clean : want.WithoutSkillParam)
    (param : SkillExecuteParam Value) :
    (((generateFromWant (param.writtenTo want) {}).1 = true ∧
        (generateFromWant (param.writtenTo want) {}).2.SameContent param) ↔ param.Separable) ∧
      (removeSkillParam (param.writtenTo want) = want ↔ param.Separable) ∧
      ((∃ read, unmarshalling param.marshalling = some read ∧
        read.SameContent param) ↔ param.srcEntries.length ≤ maxSrcEntriesCount) := by
  have holds := param.writtenTo_holds clean
  exact ⟨generateFromWant_iff holds, removeSkillParam_iff holds clean, unmarshalling_iff⟩

inductive Boxed where
  | text (text : String)
  | number (value : Int)

instance : Interface Boxed where
  box := .text
  unbox
    | .text text => some text
    | .number _ => none
  unbox_box _ := rfl

def searchParam : SkillExecuteParam Boxed :=
  { bundleName := "notes"
    moduleName := "entry"
    skillName := "search"
    functionName := "find"
    skillArgs :=
      some (((∅ : WantParams Boxed).insert "word" (.text "milk")).insert "limit" (.number 3))
    srcEntries := ["ets/search.ets"]
    requestCode := "1" }

def deviceWant : Want Boxed := ⟨(∅ : WantParams Boxed).insert "device" (.text "phone")⟩

theorem SkillKey.text_prefix (key : SkillKey) : "ohos.skill.".toList <+: key.text.toList := by
  cases key
  case args key =>
    have start : "ohos.skill.".toList <+: skillExecuteParamArgsPrefix.toList := by decide
    exact start.trans ⟨key.toList, String.toList_append.symm⟩
  case srcEntry index =>
    have start : "ohos.skill.".toList <+: skillExecuteParamSrcEntryPrefix.toList := by decide
    exact start.trans ⟨(toString index).toList, String.toList_append.symm⟩
  all_goals decide

theorem deviceWant_clean : deviceWant.WithoutSkillParam := by
  intro key
  have other : "device" ≠ key.text := by
    intro same
    have start := key.text_prefix
    rw [<- same] at start
    exact absurd start (by decide)
  rw [deviceWant, getElem?_insert, if_neg other]
  rfl

theorem skillExecuteParam_roundTrip_search :
    (generateFromWant (searchParam.writtenTo deviceWant) {}).2.SameContent searchParam ∧
      removeSkillParam (searchParam.writtenTo deviceWant) = deviceWant ∧
      ∃ read, unmarshalling searchParam.marshalling = some read ∧ read.SameContent searchParam := by
  have separable : searchParam.Separable := by
    refine ⟨fun key mem => ?_, by decide⟩
    have keys : key = "limit" ∨ key = "word" := by
      rcases ExtTreeMap.mem_insert.1 mem with limit | before
      · exact .inl (LawfulEqCmp.compare_eq_iff_eq.1 limit).symm
      · rcases ExtTreeMap.mem_insert.1 before with word | none
        · exact .inr (LawfulEqCmp.compare_eq_iff_eq.1 word).symm
        · exact absurd none ExtTreeMap.not_mem_empty
    rcases keys with rfl | rfl <;> decide
  obtain ⟨read, removed, parcel⟩ := skillExecuteParam_roundTrip deviceWant_clean searchParam
  exact ⟨(read.2 separable).2, removed.2 separable, parcel.2 (by decide)⟩

theorem semicolon_loses_argument :
    let key : SkillExecuteParam Boxed :=
      { searchParam with skillArgs := some ((∅ : WantParams Boxed).insert "a;b" (.number 1)) }
    let entries : SkillExecuteParam Boxed :=
      { searchParam with srcEntries := List.replicate 501 "ets/search.ets" }
    deviceWant.WithoutSkillParam ∧
      ¬(generateFromWant (key.writtenTo deviceWant) {}).2.SameContent key ∧
      removeSkillParam (key.writtenTo deviceWant) ≠ deviceWant ∧
      ¬(generateFromWant (entries.writtenTo deviceWant) {}).2.SameContent entries := by
  intro key entries
  have split : ¬key.Separable := by
    intro separable
    have mem : "a;b" ∈ key.args := ExtTreeMap.mem_insert_self
    exact (separable.keys "a;b" mem).2 (by decide)
  have many : ¬entries.Separable := fun separable => absurd separable.count (by
    rw [List.length_replicate]
    decide)
  have written := key.writtenTo_holds deviceWant_clean
  have listed := entries.writtenTo_holds deviceWant_clean
  obtain ⟨_, read, _⟩ := generateFromWant_holds written
  obtain ⟨_, readList, _⟩ := generateFromWant_holds listed
  refine ⟨deviceWant_clean, fun same => split ?_, fun same => split ?_, fun same => many ?_⟩
  · refine (generateFromWant_iff written).1 ⟨?_, same⟩
    rw [read]
  · exact (removeSkillParam_iff written deviceWant_clean).1 same
  · refine (generateFromWant_iff listed).1 ⟨?_, same⟩
    rw [readList]

end AbilityRuntime.Skill
