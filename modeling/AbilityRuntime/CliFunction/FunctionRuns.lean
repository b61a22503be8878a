import AbilityRuntime.CliFunction.FunctionEffects

set_option autoImplicit false

namespace AbilityRuntime.CliFunction

open Library KvSession List FunctionStep ResetRule Except

variable {text : JsonText} {session : KvSession} {map : FunctionMap}

/-! ### What is read -/

theorem getFunctionByName_reads (holds : session.Holds text map)
    (functionNamespace functionName : String) :
    let got := getFunctionByName text functionNamespace functionName session
    got.2.Holds text map ∧
      (∀ function, got.1 = .ok function -> map (functionNamespace, functionName) = some function) ∧
      (got.1 = .error .errFunctionNotExist -> map (functionNamespace, functionName) = none) ∧
      (session.Steady -> (∃ function, got.1 = .ok function) ∨ got.1 = .error .errFunctionNotExist) ∧
      got.1 ≠ .error .ok := by
  have checked := holds.checkKvStore
  have steadyCheck (steady : session.Steady) := steady.checkKvStore
  unfold getFunctionByName
  cases check : session.checkKvStore with
  | mk ready ready' =>
    rw [check] at checked steadyCheck
    cases ready with
    | false =>
      exact ⟨checked, nofun, nofun, fun steady => absurd (steadyCheck steady).1 nofun, nofun⟩
    | true =>
      simp only
      have looked : ready'.lookup (generateFunctionKey functionNamespace functionName) =
          (map (functionNamespace, functionName)).map fun function =>
            text.dump function.parseToJson :=
        checked.lookup_generateFunctionKey (functionNamespace, functionName)
      obtain ⟨kept, answered⟩ := checked.get (generateFunctionKey functionNamespace functionName)
      have answers := fun steady => (steadyCheck steady).2.get
        (generateFunctionKey functionNamespace functionName)
      cases got : ready'.get (generateFunctionKey functionNamespace functionName) with
      | mk result after =>
        rw [got] at kept answered
        cases result with
        | error status =>
          cases status with
          | keyNotFound =>
            rw [looked] at answered
            exact ⟨kept, nofun, fun _ => Option.map_eq_none_iff.mp answered, fun _ => .inr rfl,
              nofun⟩
          | success =>
            unfold KvSession.get at got
            split at got
            · cases got
            · split at got <;> cases got
          | failed =>
            refine ⟨kept, nofun, nofun, fun steady => absurd ?_ (answers steady), nofun⟩
            exact congrArg Prod.fst got
        | ok value =>
          rw [looked] at answered
          obtain ⟨function, held, rfl⟩ := Option.map_eq_some_iff.mp answered
          obtain ⟨_, valid, lossless⟩ := checked.sound _ function held
          simp only [readFunction_dump valid lossless]
          refine ⟨kept, ?_, nofun, fun _ => .inl ⟨function, rfl⟩, nofun⟩
          rintro _ ⟨⟩
          exact held

theorem getAllFunctions_reads (holds : session.Holds text map) :
    let got := getAllFunctions text session
    got.2.Holds text map ∧
      (∀ functions, got.1 = .ok functions -> functions.Nodup ∧
        ∀ function, function ∈ functions ↔ map function.mapKey = some function) ∧
      (session.Steady -> ∃ functions, got.1 = .ok functions) ∧ got.1 ≠ .error .ok := by
  have checked := holds.checkKvStore
  have steadyCheck (steady : session.Steady) := steady.checkKvStore
  unfold getAllFunctions
  cases check : session.checkKvStore with
  | mk ready ready' =>
    rw [check] at checked steadyCheck
    cases ready with
    | false => exact ⟨checked, nofun, fun steady => absurd (steadyCheck steady).1 nofun, nofun⟩
    | true =>
      simp only
      obtain ⟨kept, _, listed⟩ := checked.getEntries ""
      have answers := fun steady => (steadyCheck steady).2.getEntries ""
      cases query : ready'.getEntries "" with
      | mk entries after =>
        rw [query] at kept listed
        cases entries with
        | none =>
          refine ⟨kept, nofun, fun steady => absurd ?_ (answers steady), nofun⟩
          exact congrArg Prod.fst query
        | some entries =>
          have perm := listed entries rfl
          have mem (entry : String × String) : entry ∈ entries ↔ ∃ function,
              map function.mapKey = some function ∧
                entry = (function.storeKey, text.dump function.parseToJson) := by
            rw [perm.mem_iff, Represents.mem_filtered checked
              (fun key => ("" : String).toList.isPrefixOf key.toList) entry]
            simp
          have reads {function : FunctionInfo} (held : map function.mapKey = some function) :
              readFunction text (text.dump function.parseToJson) = some function :=
            readFunction_dump (checked.sound _ function held).2.1
              (checked.sound _ function held).2.2
          refine ⟨kept, ?_, fun _ => ⟨_, rfl⟩, nofun⟩
          rintro _ ⟨⟩
          constructor
          · have keys : (entries.filterMap fun entry => readFunction text entry.2).map
                FunctionInfo.storeKey = entries.map Prod.fst := by
              rw [map_filterMap, <- filterMap_eq_map]
              refine filterMap_congr fun entry member => ?_
              obtain ⟨function, held, rfl⟩ := (mem entry).mp member
              rw [reads held]
              rfl
            refine List.Nodup.of_map FunctionInfo.storeKey ?_
            rw [keys, (perm.map Prod.fst).nodup_iff]
            refine List.Nodup.sublist (filter_sublist.map _) ?_
            rw [map_map]
            exact ready'.store.entries.keys_nodup
          · intro function
            rw [mem_filterMap]
            constructor
            · rintro ⟨entry, member, read⟩
              obtain ⟨other, held, rfl⟩ := (mem entry).mp member
              rw [reads held] at read
              cases read
              exact held
            · exact fun held => ⟨_, (mem _).mpr ⟨function, held, rfl⟩, reads held⟩

theorem unregisterFunction_holds (holds : session.Holds text map)
    (functionNamespace functionName : String) :
    let unregistered := unregisterFunction functionNamespace functionName session
    unregistered.1 = .ok ∧
        unregistered.2.Holds text (Function.update map (functionNamespace, functionName) none) ∨
      unregistered.1 ≠ .ok ∧ unregistered.2.Holds text map := by
  have checked := holds.checkKvStore
  unfold unregisterFunction
  cases check : session.checkKvStore with
  | mk ready ready' =>
    rw [check] at checked
    cases ready with
    | false => exact .inr ⟨nofun, checked⟩
    | true =>
      have deleted := (checked.delete (generateFunctionKey functionNamespace functionName)).2
      have forgotten := checked.forget_generateFunctionKey (functionNamespace, functionName)
      simp only
      cases delete : ready'.delete (generateFunctionKey functionNamespace functionName) with
      | mk status after =>
        rw [delete] at deleted
        cases status with
        | failed => exact .inr ⟨nofun, deleted⟩
        | keyNotFound =>
          have same := deleted.2 rfl
          rw [same] at deleted
          exact .inr ⟨nofun, deleted.1⟩
        | success =>
          rw [forgotten] at deleted
          exact .inl ⟨rfl, deleted.1⟩

/-! ### Runs -/

namespace FunctionStep

variable (text) (step : FunctionStep)

def functions : List FunctionInfo :=
  match step.call with
  | .registerFunction function => [function]
  | .batchRegisterFunctions functions => (toFunctionInfoVec text functions).2
  | .resetNamespaceFunctions _ functions => (toFunctionInfoVec text functions).2
  | _ => []

/-- A batch that may be registered is decoded to its end, or has no valid function before. -/
def Decodes : Prop :=
  match step.call with
  | .batchRegisterFunctions functions => step.caller.changes = true ->
    (toFunctionInfoVec text functions).1 = .ok ∨
      ∀ function ∈ (toFunctionInfoVec text functions).2, function.validate text = false
  | _ => True

end FunctionStep

theorem storable_filter {functions : List FunctionInfo}
    (lossless : ∀ function ∈ functions, text.Lossless function.parseToJson) :
    Storable text (functions.filter (·.validate text)) := by
  intro function member
  obtain ⟨inside, valid⟩ := mem_filter.mp member
  exact ⟨valid, lossless function inside⟩

theorem serveRegisterFunction_holds (holds : session.Holds text map) {function : FunctionInfo}
    (lossless : text.Lossless function.parseToJson) :
    let served := serveRegisterFunction text session function
    served.1.code = .ok ∧ function.validate text = true ∧
        served.2.Holds text (map.accept function) ∨
      served.1.code ≠ .ok ∧ served.2.Holds text map := by
  unfold serveRegisterFunction
  by_cases valid : function.validate text = true
  · have registered := registerFunction_holds holds valid lossless
    rw [if_neg (by simp [valid])]
    cases done : registerFunction text function session with
    | mk code after =>
      rw [done] at registered
      by_cases success : code = .ok
      · rw [if_pos success] at registered
        exact .inl ⟨success, valid, registered⟩
      · rw [if_neg success] at registered
        exact .inr ⟨success, registered⟩
  · rw [if_pos (by simpa using valid)]
    exact .inr ⟨nofun, holds⟩

theorem serveBatchRegisterFunctions_holds (holds : session.Holds text map) (functions : Bytes)
    (lossless : ∀ function ∈ (toFunctionInfoVec text functions).2,
      text.Lossless function.parseToJson) :
    let served := serveBatchRegisterFunctions text session functions
    let valid := (toFunctionInfoVec text functions).2.filter (·.validate text)
    served.2.Holds text (map.acceptAll (valid.take served.1.successCount)) ∧
      (served.1.code = .ok -> served.1.successCount = valid.length) ∧
      (valid = [] -> served.1.code ≠ .ok ∧ served.1.successCount = 0) := by
  unfold serveBatchRegisterFunctions
  simp only
  split
  · exact ⟨holds, nofun, fun _ => ⟨nofun, rfl⟩⟩
  · split
    · exact ⟨holds, nofun, fun _ => ⟨nofun, rfl⟩⟩
    next filled =>
      obtain ⟨count, _, counted, stored⟩ := storeFunctions_holds (storable_filter lossless) holds 0
      rw [Nat.zero_add] at counted
      rw [batchRegisterFunctions, if_neg filled]
      simp only
      refine ⟨?_, ?_, fun empty => absurd empty filled⟩
      · split
        · exact counted ▸ stored
        · exact counted ▸ stored
      · split
        next all => exact fun _ => all
        · exact nofun

theorem serveResetNamespaceFunctions_holds (holds : session.Holds text map)
    (functionNamespace : String) (functions : Bytes)
    (lossless : ∀ function ∈ (toFunctionInfoVec text functions).2,
      text.Lossless function.parseToJson) :
    let served := serveResetNamespaceFunctions text session functionNamespace functions
    let valid := (toFunctionInfoVec text functions).2.filter (·.validate text)
    (toFunctionInfoVec text functions).1 = .ok ∧
        (∃ after, served.2.Holds text after ∧
          ResetRule functionNamespace valid map served.1 after) ∨
      (toFunctionInfoVec text functions).1 ≠ .ok ∧
        served.1.code ≠ .ok ∧ served.2.Holds text map := by
  have storable := storable_filter lossless
  unfold serveResetNamespaceFunctions
  cases decoded : toFunctionInfoVec text functions with
  | mk code functionList =>
    rw [decoded] at storable
    by_cases accepted : code = .ok
    · subst accepted
      refine .inl ⟨rfl, ?_⟩
      split
      · exact ⟨map, holds, refused nofun rfl⟩
      · simp only
        split
        · exact ⟨map, holds, refused nofun rfl⟩
        next matching =>
          refine resetNamespaceFunctions_holds holds storable fun function member => ?_
          by_contra other
          exact matching (any_eq_true.mpr ⟨function, member, by simpa using other⟩)
    · refine .inr ⟨accepted, ?_⟩
      split
      · exact ⟨nofun, holds⟩
      · split
        next equal => exact absurd (congrArg Prod.fst equal) accepted
        next equal =>
          cases equal
          exact ⟨accepted, holds⟩

def Takes (text : JsonText) (map : FunctionMap) (step : FunctionStep)
    (served : Reply × KvSession) : Prop :=
  ∃ after, MapStep text map step served.1 after ∧ served.2.Holds text after

theorem takes_changed {step : FunctionStep} {served : Reply × KvSession}
    (allowed : step.caller.changes = true -> Takes text map step served)
    (denied : Takes text map step ({ code := .errPermissionDenied }, session)) :
    Takes text map step (changed session step.caller served) := by
  unfold changed
  split
  next changes => exact allowed changes
  · exact denied

theorem takes_queried {step : FunctionStep} {served : Reply × KvSession}
    (allowed : step.caller.queries = .ok -> Takes text map step served)
    (denied : step.caller.queries ≠ .ok ->
      Takes text map step ({ code := step.caller.queries }, session)) :
    Takes text map step (queried session step.caller served) := by
  unfold queried
  split
  next queries => exact allowed queries
  next queries => exact denied queries

section Takes

variable {step : FunctionStep}

theorem takes_registerFunction {function : FunctionInfo}
    (call : step.call = .registerFunction function) (holds : session.Holds text map)
    (lossless : text.Lossless function.parseToJson) :
    Takes text map step (changed session step.caller
      (serveRegisterFunction text session function)) := by
  have refused {reply : Reply} (error : reply.code ≠ .ok) : MapStep text map step reply map := by
    simp [MapStep, call, error]
  refine takes_changed (fun _ => ?_) ⟨map, refused nofun, holds⟩
  obtain ⟨success, valid, stored⟩ | ⟨error, kept⟩ := serveRegisterFunction_holds holds lossless
  · exact ⟨_, by simp [MapStep, call, success, valid], stored⟩
  · exact ⟨map, refused error, kept⟩

theorem takes_batchRegisterFunctions {functions : Bytes}
    (call : step.call = .batchRegisterFunctions functions) (holds : session.Holds text map)
    (decodes : step.Decodes text)
    (lossless : ∀ function ∈ (toFunctionInfoVec text functions).2,
      text.Lossless function.parseToJson) :
    Takes text map step (changed session step.caller
      (serveBatchRegisterFunctions text session functions)) := by
  have refused {reply : Reply} (error : reply.code ≠ .ok) (none : reply.successCount = 0) :
      MapStep text map step reply map := by
    simp only [MapStep, call]
    split
    · exact ⟨by rw [none]; rfl, fun success => absurd success error⟩
    · exact ⟨error, trivial⟩
  refine takes_changed (fun allowed => ?_) ⟨map, refused nofun rfl, holds⟩
  obtain ⟨stored, complete, empty⟩ := serveBatchRegisterFunctions_holds holds functions lossless
  by_cases accepted : (toFunctionInfoVec text functions).1 = .ok
  · refine ⟨_, ?_, stored⟩
    simp only [MapStep, call, if_pos accepted]
    exact ⟨trivial, complete⟩
  · simp only [Decodes, call] at decodes
    have each := (decodes allowed).resolve_left accepted
    have invalid : (toFunctionInfoVec text functions).2.filter (·.validate text) = [] :=
      filter_eq_nil_iff.mpr fun function member => by simp [each function member]
    obtain ⟨error, none⟩ := empty invalid
    rw [none] at stored
    exact ⟨map, refused error none, stored⟩

theorem takes_unregisterFunction {functionNamespace functionName : String}
    (call : step.call = .unregisterFunction functionNamespace functionName)
    (holds : session.Holds text map) :
    let unregistered := unregisterFunction functionNamespace functionName session
    Takes text map step
      (changed session step.caller ({ code := unregistered.1 }, unregistered.2)) := by
  have refused {reply : Reply} (error : reply.code ≠ .ok) : MapStep text map step reply map := by
    simp [MapStep, call, error]
  refine takes_changed (fun _ => ?_) ⟨map, refused nofun, holds⟩
  obtain ⟨success, removed⟩ | ⟨error, kept⟩ :=
    unregisterFunction_holds holds functionNamespace functionName
  · exact ⟨_, by simp [MapStep, call, success], removed⟩
  · exact ⟨map, refused error, kept⟩

theorem takes_unregisterIntentFunctionsByNamespace {functionNamespace : String}
    (call : step.call = .unregisterIntentFunctionsByNamespace functionNamespace)
    (holds : session.Holds text map) :
    let unregistered := unregisterIntentFunctionsByNamespace text functionNamespace session
    Takes text map step
      (changed session step.caller ({ code := unregistered.1 }, unregistered.2)) := by
  refine takes_changed (fun _ => ?_) ⟨map, ?_, holds⟩
  · obtain ⟨after, kept, rules⟩ :=
      unregisterIntentFunctionsByNamespace_holds holds functionNamespace
    refine ⟨after, ?_, kept⟩
    simp only [MapStep, call]
    exact rules
  · simp only [MapStep, call]
    exact ⟨fun _ _ => trivial, fun _ => .inl trivial, nofun⟩

theorem takes_resetNamespaceFunctions {functionNamespace : String} {functions : Bytes}
    (call : step.call = .resetNamespaceFunctions functionNamespace functions)
    (holds : session.Holds text map)
    (lossless : ∀ function ∈ (toFunctionInfoVec text functions).2,
      text.Lossless function.parseToJson) :
    Takes text map step (changed session step.caller
      (serveResetNamespaceFunctions text session functionNamespace functions)) := by
  refine takes_changed (fun _ => ?_) ⟨map, ?_, holds⟩
  · obtain ⟨accepted, after, kept, rule⟩ | ⟨rejected, error, kept⟩ :=
      serveResetNamespaceFunctions_holds holds functionNamespace functions lossless
    · refine ⟨after, ?_, kept⟩
      simp only [MapStep, call, if_pos accepted]
      exact rule
    · refine ⟨map, ?_, kept⟩
      simp only [MapStep, call, if_neg rejected]
      exact ⟨error, trivial⟩
  · simp only [MapStep, call]
    split
    · exact refused nofun rfl
    · exact ⟨nofun, trivial⟩

theorem takes_getFunctionInfo {functionNamespace functionName : String}
    (call : step.call = .getFunctionInfo functionNamespace functionName)
    (answers : session.answers = step.answers) (holds : session.Holds text map) :
    Takes text map step (queried session step.caller
      (serveGetFunctionInfo text session functionNamespace functionName)) := by
  have reading {reply : Reply} (rule : ReadRule step map reply) :
      MapStep text map step reply map := by
    simp only [MapStep, call]
    exact ⟨rule, trivial⟩
  refine takes_queried (fun _ => ?_) fun denied => ⟨map, reading ?_, holds⟩
  · obtain ⟨kept, found, missing, steady, never⟩ :=
      getFunctionByName_reads holds functionNamespace functionName
    rw [serveGetFunctionInfo]
    cases got : getFunctionByName text functionNamespace functionName session with
    | mk result after =>
      rw [got] at kept found missing steady never
      cases result with
      | error code =>
        refine ⟨map, reading ?_, kept⟩
        simp only [ReadRule, call]
        refine ⟨fun success => absurd (congrArg error success) never,
          fun notExist => missing (congrArg error notExist), fun answered _ => ?_⟩
        obtain ⟨_, impossible⟩ | notExist := steady (by rw [Steady, answers]; exact answered)
        · cases impossible
        · exact .inr (error.inj notExist)
      | ok function =>
        refine ⟨map, reading ?_, kept⟩
        simp only [ReadRule, call]
        exact ⟨fun _ => ⟨function, rfl, found function rfl⟩, nofun, fun _ _ => .inl trivial⟩
  · simp only [ReadRule, call]
    refine ⟨fun success => absurd success denied, fun missing => ?_,
      fun _ allowed => absurd allowed denied⟩
    unfold Caller.queries at missing
    split at missing
    · cases missing
    · split at missing <;> cases missing

theorem takes_getAllFunctions (call : step.call = .getAllFunctions)
    (answers : session.answers = step.answers) (holds : session.Holds text map) :
    Takes text map step (queried session step.caller (serveGetAllFunctions text session)) := by
  have reading {reply : Reply} (rule : ReadRule step map reply) :
      MapStep text map step reply map := by
    simp only [MapStep, call]
    exact ⟨rule, trivial⟩
  refine takes_queried (fun _ => ?_) fun denied => ⟨map, reading ?_, holds⟩
  · obtain ⟨kept, listed, steady, never⟩ := getAllFunctions_reads holds
    rw [serveGetAllFunctions]
    cases got : getAllFunctions text session with
    | mk result after =>
      rw [got] at kept listed steady never
      cases result with
      | error code =>
        refine ⟨map, reading ?_, kept⟩
        simp only [ReadRule, call]
        refine ⟨fun success => absurd (congrArg error success) never, fun answered _ _ => ?_⟩
        obtain ⟨_, impossible⟩ := steady (by rw [Steady, answers]; exact answered)
        cases impossible
      | ok functions =>
        have exact := listed functions rfl
        simp only
        split
        next tooMany =>
          refine ⟨map, reading ?_, kept⟩
          simp only [ReadRule, call]
          refine ⟨nofun, fun _ _ few => absurd tooMany (Nat.not_lt.mpr ?_)⟩
          exact few functions exact.1 fun function member => (exact.2 function).mp member
        · refine ⟨map, reading ?_, kept⟩
          simp only [ReadRule, call]
          exact ⟨fun _ => exact, fun _ _ _ => trivial⟩
  · simp only [ReadRule, call]
    exact ⟨fun success => absurd success denied, fun _ allowed => absurd allowed denied⟩

end Takes

theorem serve_takes {step : FunctionStep} {store : KvStore}
    (holds : (step.session store).Holds text map) (decodes : step.Decodes text)
    (lossless : ∀ function ∈ step.functions text, text.Lossless function.parseToJson) :
    Takes text map step (step.serve text store) := by
  unfold FunctionStep.serve
  unfold FunctionStep.functions at lossless
  cases call : step.call with
  | registerFunction function =>
    rw [call] at lossless
    exact takes_registerFunction call holds (lossless function mem_cons_self)
  | batchRegisterFunctions functions =>
    rw [call] at lossless
    exact takes_batchRegisterFunctions call holds decodes lossless
  | getFunctionInfo functionNamespace functionName => exact takes_getFunctionInfo call rfl holds
  | unregisterFunction functionNamespace functionName => exact takes_unregisterFunction call holds
  | unregisterIntentFunctionsByNamespace functionNamespace =>
    exact takes_unregisterIntentFunctionsByNamespace call holds
  | resetNamespaceFunctions functionNamespace functions =>
    rw [call] at lossless
    exact takes_resetNamespaceFunctions call holds lossless
  | getAllFunctions => exact takes_getAllFunctions call rfl holds

/-- The store holds the map of a run of the map with the same calls and replies. -/
def Refines (text : JsonText) (service : FunctionService) : Prop :=
  ∃ map, MapRun text service.replies map ∧ Represents text service.store.entries map

/-- The store refines a map to the functions accepted last, when batches are decoded to their end.
-/
theorem functions_refined (text : JsonText) (steps : List FunctionStep)
    (lossless : ∀ step ∈ steps, ∀ function ∈ step.functions text,
      text.Lossless function.parseToJson)
    (decodes : ∀ step ∈ steps, step.Decodes text) :
    (functionMachine text).Throughout steps (Refines text) := by
  have every : (functionMachine text).EveryStep steps fun _ step => step.Decodes text ∧
      ∀ function ∈ step.functions text, text.Lossless function.parseToJson := by
    rintro done step rest rfl
    have member : step ∈ done ++ step :: rest := by simp
    exact ⟨decodes step member, lossless step member⟩
  refine every.throughout ⟨_, .start, Represents.empty⟩ ?_
  rintro service step ⟨map, run, represents⟩ ⟨decodes, lossless⟩
  have holds : (step.session service.store).Holds text map := represents
  obtain ⟨after, taken, kept⟩ := serve_takes holds decodes lossless
  exact ⟨after, run.step taken, kept⟩

section Examples

def share : FunctionInfo := { functionName := "share", functionNamespace := "notes" }

def shareDocument : String :=
  "\x7b\"description\":\"\",\"functionName\":\"share\",\"functionNamespace\":\"notes\"," ++
  "\"functionType\":0,\"version\":\"\"\x7d"

def blankDocument : String :=
  "\x7b\"description\":\"\",\"functionName\":\"\",\"functionNamespace\":\"\"," ++
  "\"functionType\":0,\"version\":\"\"\x7d"

def shareText : JsonText where
  dump json :=
    if json.stringMember? "functionName" = some "share" then shareDocument else blankDocument
  parse document :=
    if document = shareDocument then some share.parseToJson
    else if document = blankDocument then some ({} : FunctionInfo).parseToJson
    else none

def foundation : Caller where
  callingUid := FOUNDATION_UID
  native := true
  systemApp := false
  accessFunction := true

def asIs (Item : Type) : HashOrder Item where
  arrange items := items
  perm _ := .refl _

def byFoundation (call : FunctionCall) : FunctionStep where
  call := call
  caller := foundation
  entryOrder := asIs _
  keyOrder := asIs _

def shareItem : Bytes := [99, 0, 0, 0] ++ shareDocument.toUTF8.data.toList

theorem shareText_lossless {function : FunctionInfo}
    (known : function = share ∨ function = {}) : shareText.Lossless function.parseToJson := by
  intro _
  have texts : shareText.dump share.parseToJson = shareDocument ∧
      shareText.dump ({} : FunctionInfo).parseToJson = blankDocument := by decide +kernel
  have apart : blankDocument ≠ shareDocument := by decide +kernel
  obtain rfl | rfl := known
  · rw [texts.1]
    simp [shareText]
  · rw [texts.2]
    simp [shareText, apart]

theorem share_refined : (functionMachine shareText).Throughout
    [byFoundation (.registerFunction share),
      byFoundation (.batchRegisterFunctions ([1, 0, 0, 0] ++ shareItem)),
      byFoundation (.getFunctionInfo "notes" "share"),
      byFoundation (.resetNamespaceFunctions "notes" [])] (Refines shareText) := by
  have decoded : toFunctionInfoVec shareText ([1, 0, 0, 0] ++ shareItem) = (.ok, [share]) := by
    decide +kernel
  have none : toFunctionInfoVec shareText [] = (.ok, []) := rfl
  refine functions_refined _ _ ?_ ?_
  · simp only [forall_mem_cons, functions, byFoundation, decoded, none]
    simp [shareText_lossless]
  · simp only [forall_mem_cons, Decodes, byFoundation, decoded]
    simp

theorem mapRun_concat {replies : List (FunctionStep × Reply)} {step : FunctionStep} {reply : Reply}
    {after : FunctionMap} (run : MapRun text (replies ++ [(step, reply)]) after) :
    ∃ before, MapStep text before step reply after := by
  generalize whole : replies ++ [(step, reply)] = all at run
  cases run with
  | start => simp at whole
  | step run taken =>
    obtain ⟨_, last⟩ := append_inj' whole rfl
    cases last
    exact ⟨_, taken⟩

theorem mapRun_single {step : FunctionStep} {after : FunctionMap}
    (run : MapRun text ((functionMachine text).run [step]).replies after) :
    ∃ before, MapStep text before step (step.serve text {}).1 after := by
  have single : MapRun text ([] ++ [(step, (step.serve text {}).1)]) after := run
  exact mapRun_concat single

theorem MapStep.batch_refused {before after : FunctionMap} {step : FunctionStep} {reply : Reply}
    {items : Bytes} {code : ErrCode} {decoded : List FunctionInfo}
    (taken : MapStep text before step reply after) (call : step.call = .batchRegisterFunctions items)
    (refused : toFunctionInfoVec text items = (code, decoded)) (failed : code ≠ .ok) :
    reply.code ≠ .ok := by
  unfold MapStep at taken
  rw [call] at taken
  simp only [refused, if_neg failed] at taken
  exact taken.1

def tornItems : Bytes := [2, 0, 0, 0] ++ shareItem ++ [1, 0, 0, 0, 120]

theorem undecoded_registers :
    let batch := byFoundation (.batchRegisterFunctions tornItems)
    (∀ step ∈ [batch], ∀ function ∈ step.functions shareText,
      shareText.Lossless function.parseToJson) ∧
    ¬(functionMachine shareText).Throughout [batch] (Refines shareText) := by
  have decoded : toFunctionInfoVec shareText tornItems = (.errJsonParseFailed, [share, {}]) := by
    decide +kernel
  refine ⟨?_, fun throughout => ?_⟩
  · simp only [forall_mem_cons, functions, byFoundation, decoded]
    simp [shareText_lossless]
  · obtain ⟨map, run, _⟩ := throughout _ [] (append_nil _).symm
    obtain ⟨before, taken⟩ := mapRun_single run
    have replied : ((byFoundation (.batchRegisterFunctions tornItems)).serve shareText {}).1.code =
        .ok := by decide +kernel
    exact taken.batch_refused rfl decoded (by decide) replied

end Examples

end AbilityRuntime.CliFunction
