import Mathlib.Data.Finset.Card
import AbilityRuntime.Library.Runs

set_option autoImplicit false

namespace AbilityRuntime.UIExtension

open Library

def INVALID_EXTENSION_RECORD_ID : Int := 0
def INT32_MAX : Int := 2147483647
def INT32_MIN : Int := -2147483648

def nextRecordId (id : Int) : Int := if id = INT32_MAX then INT32_MIN else id + 1

/-- The manager of one user; the ids handed out are not the code's. -/
structure RecordIdManager where
  extensionRecordIdSet : Finset Int := ∅
  extensionRecords : Finset Int := ∅
  handedOut : Finset Int := ∅

/-- The managers of all users, by the user, and the counter that they share. -/
structure RecordIdManagers where
  extensionRecordId : Int := INVALID_EXTENSION_RECORD_ID
  mgr : Int -> RecordIdManager := fun _ => {}

-- The loop passes the ids of the set, so it ends after as many of them at most.
def skipUsed (used : Finset Int) : Nat -> Int -> Int
  | 0, id => id
  | fuel + 1, id => if id ∈ used then skipUsed used fuel (nextRecordId id) else id

inductive Creation where
  | refused
  | failed
  | stored
  deriving DecidableEq, Repr

namespace RecordIdManagers

variable (managers : RecordIdManagers)

def update (userId : Int) (change : RecordIdManager -> RecordIdManager) : RecordIdManagers :=
  { managers with
    mgr := fun user =>
      if user = userId then change (managers.mgr user) else managers.mgr user }

def generateExtensionRecordId (userId extensionRecordId : Int) : Int × RecordIdManagers :=
  let used := (managers.mgr userId).extensionRecordIdSet
  if extensionRecordId ≠ INVALID_EXTENSION_RECORD_ID ∧ extensionRecordId ∉ used then
    (extensionRecordId,
      { managers with extensionRecordId := extensionRecordId }.update userId fun mgr =>
        { mgr with
          extensionRecordIdSet := insert extensionRecordId mgr.extensionRecordIdSet })
  else
    let start :=
      if extensionRecordId = INVALID_EXTENSION_RECORD_ID then
        nextRecordId managers.extensionRecordId
      else managers.extensionRecordId
    let id := skipUsed used (used.card + 1) start
    (id, { managers with extensionRecordId := id })

def createExtensionRecord (userId extensionRecordId : Int) (creation : Creation) :
    RecordIdManagers :=
  if creation = .refused then managers
  else
    let (id, generated) := managers.generateExtensionRecordId userId extensionRecordId
    generated.update userId fun mgr =>
      { mgr with
        handedOut := insert id mgr.handedOut
        extensionRecords :=
          if creation = .stored then insert id mgr.extensionRecords
          else mgr.extensionRecords }

def getOrCreateExtensionRecord (userId : Int) (creation : Creation) : RecordIdManagers :=
  managers.createExtensionRecord userId INVALID_EXTENSION_RECORD_ID creation

def removeExtensionRecord (userId extensionRecordId : Int) : RecordIdManagers :=
  managers.update userId fun mgr =>
    { mgr with
      extensionRecords := mgr.extensionRecords.erase extensionRecordId
      handedOut := mgr.handedOut.erase extensionRecordId }

end RecordIdManagers

inductive RecordIdCall where
  | createExtensionRecord (userId extensionRecordId : Int) (creation : Creation)
  | getOrCreateExtensionRecord (userId : Int) (creation : Creation)
  | removeExtensionRecord (userId extensionRecordId : Int)

def RecordIdManagers.step (managers : RecordIdManagers) : RecordIdCall -> RecordIdManagers
  | .createExtensionRecord userId extensionRecordId creation =>
    managers.createExtensionRecord userId extensionRecordId creation
  | .getOrCreateExtensionRecord userId creation =>
    managers.getOrCreateExtensionRecord userId creation
  | .removeExtensionRecord userId extensionRecordId =>
    managers.removeExtensionRecord userId extensionRecordId

def recordIdManagers : Machine RecordIdManagers RecordIdCall where
  start := {}
  step := RecordIdManagers.step

def RecordIdCall.generates : RecordIdCall -> Option (Int × Int)
  | .createExtensionRecord userId extensionRecordId creation =>
    if creation = .refused then none else some (userId, extensionRecordId)
  | .getOrCreateExtensionRecord userId creation =>
    if creation = .refused then none else some (userId, INVALID_EXTENSION_RECORD_ID)
  | .removeExtensionRecord _ _ => none

namespace RecordIdManagers

section

variable (managers : RecordIdManagers)

def Unused (userId id : Int) : Prop :=
  id ∉ (managers.mgr userId).extensionRecords ∧ id ∉ (managers.mgr userId).handedOut

def Fresh (call : RecordIdCall) : Prop :=
  ∀ userId requested, call.generates = some (userId, requested) ->
    managers.Unused userId (managers.generateExtensionRecordId userId requested).1

def FreshEverywhere (call : RecordIdCall) : Prop :=
  ∀ userId requested, call.generates = some (userId, requested) ->
    ∀ user, managers.Unused user (managers.generateExtensionRecordId userId requested).1

def HasRoom (userId requested : Int) : Prop :=
  ∃ free, free ∉ (managers.mgr userId).extensionRecordIdSet ∧
    managers.extensionRecordId ≤ free ∧ free ≤ INT32_MAX ∧
    (requested = INVALID_EXTENSION_RECORD_ID -> managers.extensionRecordId < free)

/-- A requested id is free, or asked for when the counter stands at a safe one. -/
def Meets (call : RecordIdCall) : Prop :=
  ∀ userId requested, call.generates = some (userId, requested) ->
    let mgr := managers.mgr userId
    if requested ≠ INVALID_EXTENSION_RECORD_ID ∧ requested ∉ mgr.extensionRecordIdSet then
      managers.Unused userId requested ∧
        ∀ user, ∀ id ∈ (managers.mgr user).handedOut, requested < id ->
          id ∈ (managers.mgr user).extensionRecordIdSet
    else
      managers.HasRoom userId requested ∧
        (requested ≠ INVALID_EXTENSION_RECORD_ID ->
          managers.extensionRecordId ∈ mgr.extensionRecordIdSet ∨
            managers.Unused userId managers.extensionRecordId)

def MeetsEverywhere (call : RecordIdCall) : Prop :=
  ∀ userId requested, call.generates = some (userId, requested) ->
    let mgr := managers.mgr userId
    if requested ≠ INVALID_EXTENSION_RECORD_ID ∧ requested ∉ mgr.extensionRecordIdSet then
      ∀ user, ∀ id ∈ (managers.mgr user).handedOut, id < requested
    else
      managers.HasRoom userId requested ∧
        (requested ≠ INVALID_EXTENSION_RECORD_ID ->
          managers.extensionRecordId ∈ mgr.extensionRecordIdSet ∨
            ∀ user, managers.Unused user managers.extensionRecordId)

end

end RecordIdManagers

theorem skipUsed_spec {used : Finset Int} {free : Int} (unused : free ∉ used)
    (inside : free ≤ INT32_MAX) :
    ∀ fuel id, (used.filter (id ≤ ·)).card < fuel -> id ≤ free ->
      skipUsed used fuel id ∉ used ∧ id ≤ skipUsed used fuel id := by
  intro fuel
  induction fuel with
  | zero => exact fun id few _ => absurd few (Nat.not_lt_zero _)
  | succ fuel ih =>
    intro id few before
    unfold skipUsed
    split
    next taken =>
      have later : id < free := lt_of_le_of_ne before fun same => unused (same ▸ taken)
      have next : nextRecordId id = id + 1 := if_neg (by omega)
      have fewer : (used.filter (id + 1 ≤ ·)).card < (used.filter (id ≤ ·)).card := by
        refine Finset.card_lt_card (Finset.ssubset_iff_subset_ne.mpr ⟨?_, ?_⟩)
        · intro other mem
          rw [Finset.mem_filter] at mem ⊢
          exact ⟨mem.1, by omega⟩
        · intro same
          have here : id ∈ used.filter (id + 1 ≤ ·) :=
            same ▸ Finset.mem_filter.mpr ⟨taken, le_refl id⟩
          have := (Finset.mem_filter.mp here).2
          omega
      rw [next]
      obtain ⟨skipped, after⟩ := ih (id + 1) (by omega) (by omega)
      exact ⟨skipped, by omega⟩
    next absent => exact ⟨absent, le_refl id⟩

end AbilityRuntime.UIExtension
