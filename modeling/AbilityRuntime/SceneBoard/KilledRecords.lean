import AbilityRuntime.Library.KeyedMap
import AbilityRuntime.Library.Runs

set_option autoImplicit false

namespace AbilityRuntime.SceneBoard.KilledRecords

open Library List KeyedMap

inductive SessionCall where
  | generateAbilityRecord (persistentId : Int) (inTmpMap : Bool)
  | recordPidKilling (recordIds : List Nat)
  | eraseAbilityRecord (recordId : Nat)

structure SessionManager where
  sessionAbilityMap : KeyedMap Int Nat := ∅
  lowMemKillAbilityMap : KeyedMap Int Nat := ∅
  nextRecordId : Nat := 0
  killPrecedeStart : List Nat := []
  generated : List (Int × Nat) := []

def eraseFirst (map : KeyedMap Int Nat) (recordId : Nat) : KeyedMap Int Nat :=
  match map.entries.find? fun entry => entry.2 = recordId with
  | some entry => map.erase entry.1
  | none => map

-- As emplace does.
def emplace (map : KeyedMap Int Nat) (persistentId : Int) (recordId : Nat) : KeyedMap Int Nat :=
  if (map.lookup persistentId).isSome then map else map.insert persistentId recordId

namespace SessionManager

variable (mgr : SessionManager)

def putRecord (persistentId : Int) : SessionManager :=
  { mgr with
    sessionAbilityMap := mgr.sessionAbilityMap.insert persistentId mgr.nextRecordId
    nextRecordId := mgr.nextRecordId + 1
    generated := mgr.generated ++ [(persistentId, mgr.nextRecordId)] }

def generateAbilityRecord (persistentId : Int) (inTmpMap : Bool) : SessionManager :=
  match mgr.sessionAbilityMap.lookup persistentId with
  | none => if inTmpMap then mgr else mgr.putRecord persistentId
  | some recordId =>
    if recordId ∉ mgr.killPrecedeStart ∨ inTmpMap then mgr
    else
      { mgr.putRecord persistentId with
        lowMemKillAbilityMap := emplace mgr.lowMemKillAbilityMap persistentId recordId }

def eraseAbilityRecord (recordId : Nat) : SessionManager :=
  { mgr with
    sessionAbilityMap := eraseFirst mgr.sessionAbilityMap recordId
    lowMemKillAbilityMap := eraseFirst mgr.lowMemKillAbilityMap recordId
    generated := mgr.generated.filter (·.2 ≠ recordId) }

def step : SessionCall -> SessionManager
  | .generateAbilityRecord persistentId inTmpMap =>
    mgr.generateAbilityRecord persistentId inTmpMap
  | .recordPidKilling recordIds =>
    { mgr with killPrecedeStart := mgr.killPrecedeStart ++
        recordIds.filter (· ∈ values mgr.sessionAbilityMap) }
  | .eraseAbilityRecord recordId => mgr.eraseAbilityRecord recordId

end SessionManager

def sessionMachine : Machine SessionManager SessionCall := ⟨{}, SessionManager.step⟩

def InSession (mgr : SessionManager) (persistentId : Int) (recordId : Nat) : Prop :=
  mgr.sessionAbilityMap.lookup persistentId = some recordId

def Parked (mgr : SessionManager) (persistentId : Int) (recordId : Nat) : Prop :=
  mgr.lowMemKillAbilityMap.lookup persistentId = some recordId

structure KeepsRecords (calls : List SessionCall) : Prop where
  held : sessionMachine.Throughout calls fun mgr =>
    ∀ persistentId recordId, (persistentId, recordId) ∈ mgr.generated ->
      Xor (InSession mgr persistentId recordId) (Parked mgr persistentId recordId)
  erased : sessionMachine.EveryStep calls fun mgr call =>
    ∀ recordId, call = .eraseAbilityRecord recordId -> ∀ persistentId other,
      (InSession (mgr.step call) persistentId other ↔
        InSession mgr persistentId other ∧ other ≠ recordId) ∧
      (Parked (mgr.step call) persistentId other ↔ Parked mgr persistentId other ∧ other ≠ recordId)

def Fits (mgr : SessionManager) (call : SessionCall) : Prop :=
  ∀ persistentId, call = .generateAbilityRecord persistentId false ->
    ∀ recordId ∈ mgr.killPrecedeStart, InSession mgr persistentId recordId ->
      mgr.lowMemKillAbilityMap.lookup persistentId = none

structure Coherent (mgr : SessionManager) : Prop where
  below : ∀ id recordId, (id, recordId) ∈ mgr.generated -> recordId < mgr.nextRecordId
  listed : ∀ id recordId, InSession mgr id recordId ∨ Parked mgr id recordId ->
    (id, recordId) ∈ mgr.generated
  unique : ∀ id other recordId, (id, recordId) ∈ mgr.generated ->
    (other, recordId) ∈ mgr.generated -> other = id
  apart : ∀ id recordId, InSession mgr id recordId -> ¬Parked mgr id recordId

open SessionManager KeyedMap

variable {mgr : SessionManager}

theorem lookup_emplace (map : KeyedMap Int Nat) (id other : Int) (recordId record : Nat) :
    (emplace map id recordId).lookup other = some record ↔
      map.lookup other = some record ∨ other = id ∧ map.lookup id = none ∧ record = recordId := by
  unfold emplace
  split
  next held => simp [Option.ne_none_iff_isSome.mpr held]
  next free =>
    have none : map.lookup id = none := by simpa using free
    rw [lookup_insert_eq]
    grind

theorem lookup_eraseFirst {map : KeyedMap Int Nat} {recordId : Nat}
    (unique : ∀ id other, map.lookup id = some recordId -> map.lookup other = some recordId ->
      other = id) (id : Int) (other : Nat) :
    (eraseFirst map recordId).lookup id = some other ↔
      map.lookup id = some other ∧ other ≠ recordId := by
  unfold eraseFirst
  split
  next entry found =>
    obtain ⟨held, same⟩ := lookup_of_find found
    rw [lookup_erase_eq]
    grind
  next missing =>
    refine (and_iff_left_of_imp fun held same => ?_).symm
    have := not_mem_values_of_find (fun value => decide (value = recordId)) missing
      (mem_values.mpr ⟨id, held⟩)
    simp [same] at this

theorem Coherent.erased (sound : Coherent mgr) (recordId : Nat) (id : Int) (other : Nat) :
    (InSession (mgr.eraseAbilityRecord recordId) id other ↔
      InSession mgr id other ∧ other ≠ recordId) ∧
    (Parked (mgr.eraseAbilityRecord recordId) id other ↔ Parked mgr id other ∧ other ≠ recordId) :=
  ⟨lookup_eraseFirst (fun _ _ held again =>
      sound.unique _ _ _ (sound.listed _ _ (.inl held)) (sound.listed _ _ (.inl again)))
      id other,
    lookup_eraseFirst (fun _ _ held again =>
      sound.unique _ _ _ (sound.listed _ _ (.inr held)) (sound.listed _ _ (.inr again)))
      id other⟩

theorem Coherent.put {after : SessionManager} {id : Int} (sound : Coherent mgr)
    (next : after.nextRecordId = mgr.nextRecordId + 1)
    (generated : after.generated = mgr.generated ++ [(id, mgr.nextRecordId)])
    (session : after.sessionAbilityMap = mgr.sessionAbilityMap.insert id mgr.nextRecordId)
    (parked : ∀ other recordId, Parked after other recordId ->
      Parked mgr other recordId ∨ other = id ∧ InSession mgr id recordId) :
    Coherent after := by
  have inSession : ∀ other recordId, InSession after other recordId ↔
      if other = id then recordId = mgr.nextRecordId else InSession mgr other recordId := by
    intro other recordId
    rw [InSession, session, lookup_insert_eq, InSession]
    split <;> simp [eq_comm]
  obtain ⟨below, listed, unique, apart⟩ := sound
  constructor <;> simp only [generated, next, mem_append, mem_singleton, Prod.mk.injEq, inSession]
  · grind
  · grind
  · grind
  · grind

theorem step_coherent (sound : Coherent mgr) (call : SessionCall) :
    Coherent (mgr.step call) := by
  cases call with
  | generateAbilityRecord persistentId inTmpMap =>
    simp only [step, generateAbilityRecord]
    split
    · split
      · exact sound
      · exact sound.put rfl rfl rfl fun _ _ => .inl
    next recordId held =>
      split
      · exact sound
      · refine sound.put rfl rfl rfl fun other record parked => ?_
        obtain kept | ⟨rfl, _, rfl⟩ := (lookup_emplace ..).mp parked
        exacts [.inl kept, .inr ⟨rfl, held⟩]
  | recordPidKilling recordIds => exact ⟨sound.1, sound.2, sound.3, sound.4⟩
  | eraseAbilityRecord recordId =>
    have erased := sound.erased recordId
    obtain ⟨below, listed, unique, apart⟩ := sound
    constructor <;> simp only [step, erased] <;>
      grind [eraseAbilityRecord]

def Held (mgr : SessionManager) : Prop :=
  ∀ id recordId, (id, recordId) ∈ mgr.generated ->
    InSession mgr id recordId ∨ Parked mgr id recordId

theorem step_held (sound : Coherent mgr) (held : Held mgr) {call : SessionCall}
    (fits : Fits mgr call) : Held (mgr.step call) := by
  cases call with
  | generateAbilityRecord persistentId inTmpMap =>
    intro id record
    have before := held id record
    simp only [step, generateAbilityRecord]
    split
    next free =>
      split
      · exact before
      · simp only [putRecord, InSession, Parked, lookup_insert_eq, mem_append,
          mem_singleton, Prod.mk.injEq] at before ⊢
        grind
    next recordId found =>
      split
      · exact before
      next killed =>
        have free := fits persistentId (by simp_all) recordId (by simp_all) found
        simp only [putRecord, InSession, Parked, lookup_insert_eq, mem_append,
          mem_singleton, Prod.mk.injEq, lookup_emplace] at before ⊢
        grind
  | recordPidKilling recordIds => exact held
  | eraseAbilityRecord recordId =>
    intro id other mem
    have erased := sound.erased recordId id other
    obtain ⟨before, apart⟩ := mem_filter.mp mem
    have := held id other before
    grind [step]

theorem fits_of_held (sound : Coherent mgr) {call : SessionCall}
    (after : Held (mgr.step call)) : Fits mgr call := by
  rintro id rfl recordId killed found
  by_contra parked
  have step : mgr.step (.generateAbilityRecord id false) =
      { mgr.putRecord id with
        lowMemKillAbilityMap := emplace mgr.lowMemKillAbilityMap id recordId } := by
    simp [step, generateAbilityRecord, show _ = _ from found, killed]
  have listed := sound.listed id recordId (.inl found)
  have here := after id recordId (step ▸ mem_append_left _ listed)
  rw [step, InSession, Parked, lookup_emplace] at here
  simp only [putRecord, lookup_insert_eq] at here
  have := sound.below id recordId listed
  have := sound.apart id recordId found
  grind [Parked]

theorem records_kept_iff (calls : List SessionCall) :
    KeepsRecords calls ↔ sessionMachine.EveryStep calls Fits := by
  have sound : ∀ done, Coherent (sessionMachine.run done) :=
    Machine.run_invariant Coherent ⟨nofun, nofun, nofun, nofun⟩
      fun mgr call sound => step_coherent sound call
  have held : sessionMachine.Throughout calls Held ↔ sessionMachine.EveryStep calls Fits := by
    refine @Machine.throughout_iff_everyStep _ _ sessionMachine (fun _ _ => True) _
      (fun mgr => Coherent mgr ∧ Held mgr) _ ⟨⟨nofun, nofun, nofun, nofun⟩, nofun⟩
      (fun mgr call before _ fits =>
        ⟨step_coherent before.1 call, step_held before.1 before.2 fits⟩)
      (fun _ => And.right) (fun _ _ before _ after => fits_of_held before.1 after) calls
      fun _ _ _ _ => trivial
  rw [<- held]
  constructor
  · intro keeps done rest split id recordId listed
    exact (keeps.held done rest split id recordId listed).or
  · refine fun held => ⟨fun done rest split id recordId listed => ?_, ?_⟩
    · exact xor_iff_or_and_not_and _ _ |>.mpr ⟨held done rest split id recordId listed,
        fun both => (sound done).apart id recordId both.1 both.2⟩
    · rintro done _ rest _ recordId rfl id other
      exact (sound done).erased recordId id other

theorem second_parked_record_lost :
    ¬ ∀ calls : List SessionCall, KeepsRecords calls := by
  intro all
  have held := (all [.generateAbilityRecord 7 false, .recordPidKilling [0],
    .generateAbilityRecord 7 false, .recordPidKilling [1], .generateAbilityRecord 7 false]).held
      _ [] (append_nil _).symm 7 1 (by decide)
  exact absurd held.or (by unfold InSession Parked; decide)

end AbilityRuntime.SceneBoard.KilledRecords
