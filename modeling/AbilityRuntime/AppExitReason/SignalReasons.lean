import AbilityRuntime.AppExitReason.ExitReasonStore
import AbilityRuntime.Library.Runs

set_option autoImplicit false

namespace AbilityRuntime.AppExitReason.SignalReasons

open Library KeyedMap List Nat Option

inductive Writer
  | setAppExitReason
  | updateAppExitReason
  | recordSignalReason
  deriving DecidableEq

/-- A value with the call that recorded its reason; the calls are numbered in the order in which
they start. -/
structure Entry where
  number : Nat
  writer : Writer
  value : Json

/-- A call of `RecordSignalReason` that has found no entry and has not yet set one. -/
structure SignalCall where
  number : Nat
  accessTokenId : UInt32
  cacheInfo : ExitCacheInfo
  signal : Int32

structure State where
  store : KeyedMap String Entry
  pending : List (String × Entry)
  looking : List SignalCall
  calls : Nat

inductive Step
  | setAppExitReason (calls : KvCalls) (now : Int64) (bundleName : String) (accessTokenId : UInt32)
      (abilityList : List String) (exitReason : ExitReason) (processInfo : RunningProcessInfo)
      (withKillMsg : Bool)
  | updateAppExitReason (calls : KvCalls) (now : Int64) (accessTokenId : UInt32)
      (abilityList : List String) (exitReason : ExitReason) (processInfo : RunningProcessInfo)
      (withKillMsg : Bool)
  | getAppExitReason (now : Int64) (accessTokenId : UInt32) (abilityName : String)
      (outputs : Outputs) (cleanFlag : Bool)
  | lookForRecord (calls : KvCalls) (found : Option (UInt32 × ExitCacheInfo)) (signal : Int32)
  | setSignalReason (index : Nat) (calls : KvCalls) (now : Int64)
  | runPut (index : Nat) (succeeds : Bool)
  | deleteEntry (key : String)

namespace State

def submit (state : State) (number : Nat) (writer : Writer) : Option (String × Json) -> State
  | none => state
  | some (key, value) => { state with pending := state.pending ++ [(key, ⟨number, writer, value⟩)] }

/-- What `GetAppExitReason` writes back of an entry, if the ability is listed in it. -/
def rewritten (now : Int64) (abilityName : String) (outputs : Outputs) (cleanFlag : Bool)
    (value : Json) : Option Json :=
  let (outputs, abilityList) := convertAppExitReasonInfoFromValue value outputs []
  if abilityName ∈ abilityList then
    let (outputs, abilityList) :=
      handleAbilityMatchAndCleanup abilityName abilityList outputs cleanFlag
    some (convertAppExitReasonInfoToValue now abilityList outputs.exitReason outputs.processInfo
      outputs.withKillMsg)
  else none

def step (state : State) : Step -> State
  | .setAppExitReason calls now bundleName accessTokenId abilityList exitReason processInfo
      withKillMsg =>
    let (_, submitted) := setAppExitReason calls now bundleName accessTokenId
      abilityList exitReason processInfo withKillMsg
    { state.submit state.calls .setAppExitReason submitted with calls := state.calls + 1 }
  | .updateAppExitReason calls now accessTokenId abilityList exitReason processInfo withKillMsg =>
    let value := convertAppExitReasonInfoToValue now abilityList exitReason processInfo withKillMsg
    { state with
      store := if calls.put then
          state.store.insert (toKey accessTokenId) ⟨state.calls, .updateAppExitReason, value⟩
        else state.store
      calls := state.calls + 1 }
  | .getAppExitReason now accessTokenId abilityName outputs cleanFlag =>
    -- The entry is read here, and written back when the put runs.
    match state.store.lookup (toKey accessTokenId) with
    | none => state
    | some entry =>
      state.submit entry.number entry.writer
        ((rewritten now abilityName outputs cleanFlag entry.value).map (toKey accessTokenId, ·))
  | .lookForRecord calls found signal =>
    match lookForRecord calls state.store.keys found with
    | .ok (some (accessTokenId, cacheInfo)) =>
      { state with
        looking := state.looking ++ [⟨state.calls, accessTokenId, cacheInfo, signal⟩]
        calls := state.calls + 1 }
    | _ => { state with calls := state.calls + 1 }
  | .setSignalReason index calls now =>
    match state.looking[index]? with
    | none => state
    | some call =>
      let (_, submitted) := setSignalReason calls now call.accessTokenId call.cacheInfo call.signal
      { state.submit call.number .recordSignalReason submitted with
        looking := state.looking.eraseIdx index }
  | .runPut index succeeds =>
    match state.pending[index]? with
    | none => state
    | some (key, entry) =>
      { state with
        store := if succeeds then state.store.insert key entry else state.store
        pending := state.pending.eraseIdx index }
  | .deleteEntry key => { state with store := state.store.erase key }

end State

def signalMachine (stored : KvStore) : Machine State Step where
  start := ⟨KeyedMap.mapTo (⟨0, .setAppExitReason, ·⟩) stored, [], [], 1⟩
  step := State.step

variable {state after : State} {key : String}

def Held (state : State) (key : String) (entry : Entry) : Prop :=
  state.store.lookup key = some entry ∨ (key, entry) ∈ state.pending

/-- The reason of a signal is put only while all that was set for the token was set later. -/
def YieldsToSet (state : State) : Step -> Prop
  | .runPut index _ =>
    ∀ key signal, state.pending[index]? = some (key, signal) ->
      signal.writer = .recordSignalReason -> ∀ set, Held state key set ->
        set.writer = .setAppExitReason -> signal.number < set.number
  | _ => True

/-- No reason that was set is on its way when a call for a signal finds no entry. -/
def NoSetPending (state : State) : Step -> Prop
  | .lookForRecord calls found _ =>
    ∀ accessTokenId cacheInfo,
      lookForRecord calls state.store.keys found = .ok (some (accessTokenId, cacheInfo)) ->
      cacheInfo.bundleName ≠ "" -> accessTokenId ≠ invalidTokenId ->
        ∀ set, (toKey accessTokenId, set) ∈ state.pending -> set.writer ≠ .setAppExitReason
  | _ => True

def SignalCall.Sets (call : SignalCall) : Prop :=
  call.cacheInfo.bundleName ≠ "" ∧ call.accessTokenId ≠ invalidTokenId

/-- What signals have recorded, or are about to, is older than all that was set for the token. -/
structure Ordered (state : State) : Prop where
  numbered : ∀ key entry, Held state key entry -> entry.number < state.calls
  lookedBefore : ∀ call ∈ state.looking, call.number < state.calls
  signals : ∀ key signal set, Held state key signal -> signal.writer = .recordSignalReason ->
    Held state key set -> set.writer = .setAppExitReason -> signal.number < set.number
  looks : ∀ call ∈ state.looking, call.Sets -> ∀ set, Held state (toKey call.accessTokenId) set ->
    set.writer = .setAppExitReason -> call.number < set.number

theorem Ordered.of_held (ordered : Ordered state)
    (held : ∀ key entry, Held after key entry ->
      (∃ before, Held state key before ∧ before.number = entry.number ∧
        before.writer = entry.writer) ∨
      entry.number = state.calls ∧ state.calls < after.calls ∧ entry.writer ≠ .recordSignalReason)
    (looking : after.looking = state.looking) (calls : state.calls ≤ after.calls) :
    Ordered after where
  numbered key entry now := by
    rcases held key entry now with ⟨before, old, number, -⟩ | ⟨number, later, -⟩
    · exact number ▸ (ordered.numbered key before old).trans_le calls
    · exact number ▸ later
  lookedBefore call mem := (ordered.lookedBefore call (looking ▸ mem)).trans_le calls
  signals key signal set first isSignal second isSet := by
    rcases held key signal first with ⟨before, old, number, writer⟩ | ⟨-, -, other⟩
    · rw [<- number]
      rcases held key set second with ⟨beforeSet, oldSet, numberSet, writerSet⟩ | ⟨latest, -, -⟩
      · exact numberSet ▸ ordered.signals key before beforeSet old (writer.trans isSignal) oldSet
          (writerSet.trans isSet)
      · exact latest ▸ ordered.numbered key before old
    · exact absurd isSignal other
  looks call mem sets set now isSet := by
    rw [looking] at mem
    rcases held _ set now with ⟨before, old, number, writer⟩ | ⟨latest, -, -⟩
    · exact number ▸ ordered.looks call mem sets before old (writer.trans isSet)
    · exact latest ▸ ordered.lookedBefore call mem

theorem lookForRecord_some {calls : KvCalls} {keys : List String}
    {found : Option (UInt32 × ExitCacheInfo)} {accessTokenId : UInt32} {cacheInfo : ExitCacheInfo}
    (looked : lookForRecord calls keys found = .ok (some (accessTokenId, cacheInfo))) :
    toKey accessTokenId ∉ keys := by
  unfold lookForRecord at looked
  split at looked
  · cases looked
  · split at looked
    · cases looked
    · split at looked
      · cases looked
      · split at looked
        · cases looked
        next missing =>
          cases looked
          exact missing

theorem setAppExitReason_some {calls : KvCalls} {now : Int64} {bundleName : String}
    {accessTokenId : UInt32} {abilityList : List String} {exitReason : ExitReason}
    {processInfo : RunningProcessInfo} {withKillMsg : Bool} {value : Json}
    (submitted : (setAppExitReason calls now bundleName accessTokenId abilityList exitReason
      processInfo withKillMsg).2 = some (key, value)) :
    bundleName ≠ "" ∧ accessTokenId ≠ invalidTokenId ∧ key = toKey accessTokenId := by
  unfold setAppExitReason at submitted
  split at submitted
  · cases submitted
  next valid =>
    split at submitted
    · cases submitted
    · cases submitted
      exact ⟨fun empty => valid (.inl empty), fun invalid => valid (.inr invalid), rfl⟩

theorem held_submit {number : Nat} {writer : Writer} {submitted : Option (String × Json)}
    {entry : Entry} (held : Held (state.submit number writer submitted) key entry) :
    Held state key entry ∨
      ∃ value, submitted = some (key, value) ∧ entry = ⟨number, writer, value⟩ := by
  cases submitted with
  | none => exact .inl held
  | some put =>
    rcases held with stored | pending
    · exact .inl (.inl stored)
    · rcases mem_append.mp pending with old | new
      · exact .inl (.inr old)
      · cases mem_singleton.mp new
        exact .inr ⟨put.2, rfl, rfl⟩

@[simp] theorem submit_looking (number : Nat) (writer : Writer)
    (submitted : Option (String × Json)) :
    (state.submit number writer submitted).looking = state.looking := by
  cases submitted <;> rfl

@[simp] theorem submit_calls (number : Nat) (writer : Writer)
    (submitted : Option (String × Json)) :
    (state.submit number writer submitted).calls = state.calls := by
  cases submitted <;> rfl

namespace Ordered

section

variable (ordered : Ordered state)
include ordered

theorem refused : Ordered { state with calls := state.calls + 1 } :=
  ordered.of_held (fun _ entry held => .inl ⟨entry, held, rfl, rfl⟩) rfl (le_succ _)

theorem setAppExitReason (submitted : Option (String × Json)) :
    Ordered { state.submit state.calls .setAppExitReason submitted with
      calls := state.calls + 1 } := by
  refine ordered.of_held (fun key entry held => ?_) (by simp) (le_succ _)
  rcases held_submit held with old | ⟨value, -, rfl⟩
  · exact .inl ⟨entry, old, rfl, rfl⟩
  · exact .inr ⟨rfl, lt_succ_self _, nofun⟩

theorem updateAppExitReason (key : String) (value : Json) (succeeds : Bool) :
    Ordered { state with
      store := if succeeds then
          state.store.insert key ⟨state.calls, .updateAppExitReason, value⟩
        else state.store
      calls := state.calls + 1 } := by
  cases succeeds with
  | false => exact ordered.refused
  | true =>
    refine ordered.of_held (fun other entry held => ?_) rfl (le_succ _)
    rcases held with stored | pending
    · simp only [if_true] at stored
      rw [lookup_insert_eq] at stored
      split at stored
      · cases stored
        exact .inr ⟨rfl, lt_succ_self _, nofun⟩
      · exact .inl ⟨entry, .inl stored, rfl, rfl⟩
    · exact .inl ⟨entry, .inr pending, rfl, rfl⟩

theorem getAppExitReason {entry : Entry} (stored : state.store.lookup key = some entry)
    (value : Option Json) :
    Ordered (state.submit entry.number entry.writer (value.map (key, ·))) := by
  refine ordered.of_held (fun other held now => .inl ?_) (by simp) (by simp)
  rcases held_submit now with old | ⟨written, same, rfl⟩
  · exact ⟨held, old, rfl, rfl⟩
  · obtain ⟨_, -, equal⟩ := map_eq_some_iff.mp same
    cases equal
    exact ⟨entry, .inl stored, rfl, rfl⟩

theorem lookForRecord (call : SignalCall) (number : call.number = state.calls)
    (none : call.Sets -> ∀ set, Held state (toKey call.accessTokenId) set ->
      set.writer ≠ .setAppExitReason) :
    Ordered { state with looking := state.looking ++ [call], calls := state.calls + 1 } where
  numbered := ordered.refused.numbered
  lookedBefore other mem := by
    rcases mem_append.mp mem with old | new
    · exact ordered.refused.lookedBefore other old
    · rw [mem_singleton.mp new, number]
      exact lt_succ_self _
  signals := ordered.refused.signals
  looks other mem sets set held isSet := by
    rcases mem_append.mp mem with old | new
    · exact ordered.looks other old sets set held isSet
    · cases mem_singleton.mp new
      exact absurd isSet (none sets set held)

theorem setSignalReason {call : SignalCall} (index : Nat) (found : call ∈ state.looking)
    {submitted : Option (String × Json)} (sets : ∀ key value, submitted = some (key, value) ->
      call.Sets ∧ key = toKey call.accessTokenId) :
    Ordered { state.submit call.number .recordSignalReason submitted with
      looking := state.looking.eraseIdx index } where
  numbered key entry now := by
    rcases held_submit now with old | ⟨value, -, rfl⟩
    · simpa using ordered.numbered key entry old
    · simpa using ordered.lookedBefore call found
  lookedBefore other mem := by
    simpa using ordered.lookedBefore other (mem_of_mem_eraseIdx mem)
  signals key signal set first isSignal second isSet := by
    rcases held_submit second with oldSet | ⟨value, -, rfl⟩
    · rcases held_submit first with old | ⟨value, same, rfl⟩
      · exact ordered.signals key signal set old isSignal oldSet isSet
      · obtain ⟨accepted, rfl⟩ := sets key value same
        exact ordered.looks call found accepted set oldSet isSet
    · cases isSet
  looks other mem accepted set now isSet := by
    rcases held_submit now with old | ⟨value, -, rfl⟩
    · exact ordered.looks other (mem_of_mem_eraseIdx mem) accepted set old isSet
    · cases isSet

theorem runPut {index : Nat} {entry : Entry} (succeeds : Bool)
    (found : state.pending[index]? = some (key, entry)) :
    Ordered { state with
      store := if succeeds then state.store.insert key entry else state.store
      pending := state.pending.eraseIdx index } := by
  refine ordered.of_held (fun other held now => .inl ⟨held, ?_, rfl, rfl⟩) rfl (le_refl _)
  rcases now with stored | pending
  · cases succeeds with
    | false => exact .inl stored
    | true =>
      simp only [if_true] at stored
      rw [lookup_insert_eq] at stored
      split at stored
      next same =>
        cases stored
        exact .inr (same ▸ mem_of_getElem? found)
      · exact .inl stored
  · exact .inr (mem_of_mem_eraseIdx pending)

theorem step (step : Step) (meets : NoSetPending state step) : Ordered (state.step step) := by
  cases step with
  | setAppExitReason => exact ordered.setAppExitReason _
  | updateAppExitReason => exact ordered.updateAppExitReason _ _ _
  | getAppExitReason now accessTokenId abilityName outputs cleanFlag =>
    simp only [State.step]
    split
    · exact ordered
    next stored => exact ordered.getAppExitReason stored _
  | lookForRecord calls found signal =>
    simp only [State.step]
    split
    next accessTokenId cacheInfo looked =>
      refine ordered.lookForRecord _ rfl fun sets set held => ?_
      rcases held with stored | pending
      · exact absurd (AList.mem_keys.mpr (mem_of_lookup stored)) (lookForRecord_some looked)
      · exact meets accessTokenId cacheInfo looked sets.1 sets.2 set pending
    · exact ordered.refused
  | setSignalReason index calls now =>
    simp only [State.step]
    split
    · exact ordered
    next call found =>
      refine ordered.setSignalReason index (mem_of_getElem? found) fun key value submitted => ?_
      obtain ⟨named, valid, same⟩ := setAppExitReason_some submitted
      exact ⟨⟨named, valid⟩, same⟩
  | runPut index succeeds =>
    simp only [State.step]
    split
    · exact ordered
    next found => exact ordered.runPut succeeds found
  | deleteEntry key =>
    exact ordered.of_held (fun other entry held =>
      .inl ⟨entry, held.imp lookup_of_erase id, rfl, rfl⟩) rfl (le_refl _)

end

theorem start (stored : KvStore) : Ordered (signalMachine stored).start where
  numbered key entry held := by
    rcases held with found | pending
    · simp only [signalMachine, lookup_mapTo, map_eq_some_iff] at found
      obtain ⟨value, -, rfl⟩ := found
      exact one_pos
    · cases pending
  lookedBefore call mem := by cases mem
  signals key signal set first isSignal := by
    rcases first with found | pending
    · simp only [signalMachine, lookup_mapTo, map_eq_some_iff] at found
      obtain ⟨value, -, rfl⟩ := found
      cases isSignal
    · cases pending
  looks call mem := by cases mem

theorem yieldsToSet (ordered : Ordered state) (step : Step) : YieldsToSet state step := by
  cases step with
  | runPut index succeeds =>
    intro key signal found isSignal set held isSet
    exact ordered.signals key signal set (.inr (mem_of_getElem? found)) isSignal held isSet
  | _ => trivial

end Ordered

/-- No signal replaces an earlier reason, when every set reason is stored before it looks. -/
theorem signals_yieldToSet {stored : KvStore} {steps : List Step}
    (landed : (signalMachine stored).EveryStep steps NoSetPending) :
    (signalMachine stored).EveryStep steps YieldsToSet := by
  have ordered := landed.throughout (Ordered.start stored)
    fun state step before meets => before.step step meets
  exact fun done step rest split => (ordered done (step :: rest) split).yieldsToSet step

section Overwritten

def mailInfo : ExitCacheInfo := ⟨{ pid := 41 }, "com.demo.mail", ["Main"]⟩

def setReason : Step :=
  .setAppExitReason .succeed 1000 "com.demo.mail" 537 ["Main"] { reason := 7 } {} false

def lookTooEarly : List Step :=
  [setReason, .lookForRecord .succeed (some (537, mailInfo)) 9, .setSignalReason 0 .succeed 1001,
    .runPut 0 true, .runPut 0 true]

theorem signal_overwrites : ¬(signalMachine ∅).EveryStep lookTooEarly YieldsToSet := by
  intro yields
  have late := yields (lookTooEarly.take 4) (.runPut 0 true) [] rfl _ _ rfl rfl _ (.inl rfl) rfl
  exact absurd late (by decide)

def notesInfo : ExitCacheInfo := ⟨{ pid := 42 }, "com.demo.notes", ["Main"]⟩

def lookBesidePut : List Step :=
  [setReason, .lookForRecord .succeed (some (538, notesInfo)) 9, .setSignalReason 0 .succeed 1001,
    .runPut 0 true, .runPut 0 true]

theorem lookBesidePut_yields : (signalMachine ∅).EveryStep lookBesidePut YieldsToSet := by
  refine signals_yieldToSet
    (Machine.StepsFrom.everyStep ⟨trivial, ?_, trivial, trivial, trivial, trivial⟩)
  intro accessTokenId cacheInfo looked named valid set pending
  cases looked
  have same : toKey 538 = toKey 537 := congrArg Prod.fst (mem_singleton.mp pending)
  exact absurd same (by decide)

end Overwritten

end AbilityRuntime.AppExitReason.SignalReasons
