import Mathlib.Data.String.Basic
import AbilityRuntime.Library.Runs

set_option autoImplicit false

namespace AbilityRuntime.DialogSession

open Std.ExtTreeMap

def ERR_OK : Int := 0
def ERR_INVALID_VALUE : Int := 22
def INNER_ERR : Int := 2097167
def ERR_ECOLOGICAL_CONTROL_STATUS : Int := 2097210

inductive SelectorType where
  | WITHOUT_SELECTOR
  | IMPLICIT_START_SELECTOR
  | APP_CLONE_SELECTOR
  | INTERCEPTOR_SELECTOR

structure DialogSessionManager (Info Caller Request Query : Type) where
  dialogSessionInfoMap : Std.ExtTreeMap String Info := ∅
  dialogCallerInfoMap : Std.ExtTreeMap String Caller := ∅
  startupSessionInfoMap : Std.ExtTreeMap String Request := ∅
  queryERMSInfoMap : Std.ExtTreeMap String Query := ∅

variable {Info Caller Request Query : Type}

structure AbilityRequest (Info Caller Query : Type) where
  dialogSessionInfo : SelectorType -> Info
  dialogCallerInfo : SelectorType -> Bool -> Caller
  queryERMS : Option Query

structure ModalDialog where
  hasCallerToken : Bool
  hasCallerRecord : Bool
  isSceneBoardEnabled : Bool
  hasManager : Bool
  topRet : Int
  isParent : Bool
  isTopCaller : Bool
  isPage : Bool
  applicationRet : Int
  systemCreated : Bool

def createModalDialogCommon (dialog : ModalDialog) : Int :=
  let system := if dialog.systemCreated then ERR_OK else INNER_ERR
  if !dialog.hasCallerToken then system
  else if !dialog.hasCallerRecord then ERR_INVALID_VALUE
  else if !dialog.hasManager then
    if dialog.isSceneBoardEnabled then ERR_INVALID_VALUE else INNER_ERR
  else if dialog.topRet = ERR_OK ∧ dialog.isPage ∧
      (if dialog.isSceneBoardEnabled then dialog.isParent else dialog.isTopCaller) then
    dialog.applicationRet
  else system

def unusedId (taken : List String) : Nat -> String -> String
  | 0, dialogSessionId => dialogSessionId
  | left + 1, dialogSessionId =>
    if dialogSessionId ∈ taken then unusedId taken left (dialogSessionId ++ "_1")
    else dialogSessionId

namespace DialogSessionManager

variable (mgr : DialogSessionManager Info Caller Request Query)

-- An id is never empty, so the branches that test for one are not taken.
def generateDialogSessionId (time randomDigit : Nat) : String :=
  unusedId mgr.dialogSessionInfoMap.keys mgr.dialogSessionInfoMap.keys.length
    (time.repr ++ "_" ++ randomDigit.repr)

def generateDialogSessionRecordCommon (dialogSessionId : String)
    (abilityRequest : AbilityRequest Info Caller Query) (type : SelectorType)
    (needGrantUriPermission : Bool) : DialogSessionManager Info Caller Request Query :=
  { mgr with
    dialogSessionInfoMap :=
      mgr.dialogSessionInfoMap.insert dialogSessionId (abilityRequest.dialogSessionInfo type)
    dialogCallerInfoMap := mgr.dialogCallerInfoMap.insert dialogSessionId
      (abilityRequest.dialogCallerInfo type needGrantUriPermission)
    queryERMSInfoMap :=
      match abilityRequest.queryERMS with
      | none => mgr.queryERMSInfoMap
      | some info => mgr.queryERMSInfoMap.insertIfNew dialogSessionId info }

def createModalDialog (type : SelectorType) (needGrantUriPermission : Bool)
    (abilityRequest : AbilityRequest Info Caller Query) (time randomDigit : Nat)
    (dialog : ModalDialog) : DialogSessionManager Info Caller Request Query × Int :=
  (mgr.generateDialogSessionRecordCommon (mgr.generateDialogSessionId time randomDigit)
    abilityRequest type needGrantUriPermission, createModalDialogCommon dialog)

def createJumpModalDialog := mgr.createModalDialog .WITHOUT_SELECTOR false

def createImplicitSelectorModalDialog := mgr.createModalDialog .IMPLICIT_START_SELECTOR

def createCloneSelectorModalDialog := mgr.createModalDialog .APP_CLONE_SELECTOR false

def handleErmsResultBySCB (abilityRequest : Request) (time randomDigit : Nat) (created : Bool) :
    DialogSessionManager Info Caller Request Query × Int :=
  ({ mgr with
      startupSessionInfoMap := mgr.startupSessionInfoMap.insert
        (mgr.generateDialogSessionId time randomDigit) abilityRequest },
    if created then ERR_ECOLOGICAL_CONTROL_STATUS else INNER_ERR)

def clearDialogContext (dialogSessionId : String) : DialogSessionManager Info Caller Request Query :=
  { mgr with
    dialogSessionInfoMap := mgr.dialogSessionInfoMap.erase dialogSessionId
    dialogCallerInfoMap := mgr.dialogCallerInfoMap.erase dialogSessionId
    startupSessionInfoMap := mgr.startupSessionInfoMap.erase dialogSessionId }

def notifyQueryERMSFinished (dialogSessionId : String) :
    DialogSessionManager Info Caller Request Query × Bool :=
  if dialogSessionId ∈ mgr.queryERMSInfoMap then
    ({ mgr with queryERMSInfoMap := mgr.queryERMSInfoMap.erase dialogSessionId }, true)
  else (mgr, false)

-- ret is the answer of the scene board or of the start; without an ability manager it is INNER_ERR.
def sendDialogResult (dialogSessionId : String) (isAllowed : Bool) (ret : Int) :
    DialogSessionManager Info Caller Request Query × Int :=
  let (mgr, finished) := mgr.notifyQueryERMSFinished dialogSessionId
  if finished ∨ !isAllowed then (mgr.clearDialogContext dialogSessionId, ERR_OK)
  else if dialogSessionId ∉ mgr.startupSessionInfoMap ∧
      dialogSessionId ∉ mgr.dialogCallerInfoMap then
    (mgr.clearDialogContext dialogSessionId, ERR_INVALID_VALUE)
  else (if ret = ERR_OK then mgr.clearDialogContext dialogSessionId else mgr, ret)

end DialogSessionManager

inductive Call (Info Caller Request Query : Type) where
  | createModalDialog (type : SelectorType) (needGrantUriPermission : Bool)
      (abilityRequest : AbilityRequest Info Caller Query) (time randomDigit : Nat)
      (dialog : ModalDialog)
  | handleErmsResultBySCB (abilityRequest : Request) (time randomDigit : Nat) (created : Bool)
  | sendDialogResult (dialogSessionId : String) (isAllowed : Bool) (ret : Int)

def Keeps {Value : Type} (before after : Std.ExtTreeMap String Value) : Prop :=
  ∀ (id : String) (value : Value), before[id]? = some value -> after[id]? = some value

namespace DialogSessionManager

variable (mgr : DialogSessionManager Info Caller Request Query)

def apply : Call Info Caller Request Query -> DialogSessionManager Info Caller Request Query × Int
  | .createModalDialog type needGrant request time digit dialog =>
    match type with
    | .IMPLICIT_START_SELECTOR =>
      mgr.createImplicitSelectorModalDialog needGrant request time digit dialog
    | .APP_CLONE_SELECTOR => mgr.createCloneSelectorModalDialog request time digit dialog
    | _ => mgr.createJumpModalDialog request time digit dialog
  | .handleErmsResultBySCB request time digit created =>
    mgr.handleErmsResultBySCB request time digit created
  | .sendDialogResult dialogSessionId isAllowed ret =>
    mgr.sendDialogResult dialogSessionId isAllowed ret

def machine : Library.Machine (DialogSessionManager Info Caller Request Query)
    (Call Info Caller Request Query) := ⟨{}, fun mgr call => (mgr.apply call).1⟩

def without (dialogSessionId : String) : DialogSessionManager Info Caller Request Query :=
  { mgr.clearDialogContext dialogSessionId with
    queryERMSInfoMap := mgr.queryERMSInfoMap.erase dialogSessionId }

/-- A creation that fails changes nothing; an accepted answer takes its session, nothing else does. -/
def Lawful (call : Call Info Caller Request Query) : Prop :=
  let (after, ret) := mgr.apply call
  let kept := Keeps mgr.dialogSessionInfoMap after.dialogSessionInfoMap ∧
    Keeps mgr.dialogCallerInfoMap after.dialogCallerInfoMap ∧
    Keeps mgr.startupSessionInfoMap after.startupSessionInfoMap ∧
    Keeps mgr.queryERMSInfoMap after.queryERMSInfoMap
  match call with
  | .createModalDialog .. => if ret = ERR_OK then kept else after = mgr
  | .handleErmsResultBySCB .. => if ret = ERR_ECOLOGICAL_CONTROL_STATUS then kept else after = mgr
  | .sendDialogResult id .. => after = if ret = ERR_OK then mgr.without id else mgr

def Created : Call Info Caller Request Query -> Prop
  | .createModalDialog _ _ _ _ _ dialog => createModalDialogCommon dialog = ERR_OK
  | .handleErmsResultBySCB request time digit created =>
    mgr.startupSessionInfoMap[mgr.generateDialogSessionId time digit]? = some request ∨
      (created = true ∧ mgr.startupSessionInfoMap[mgr.generateDialogSessionId time digit]? = none)
  | .sendDialogResult .. => True

/-- A session has both of its records, and a query only with them. -/
def Paired : Prop := ∀ id,
  (id ∈ mgr.dialogSessionInfoMap ↔ id ∈ mgr.dialogCallerInfoMap) ∧
    (id ∈ mgr.queryERMSInfoMap -> id ∈ mgr.dialogSessionInfoMap)

end DialogSessionManager

section

variable {Value : Type} {map : Std.ExtTreeMap String Value} {id : String} {value : Value}

theorem insert_eq_self : map.insert id value = map ↔ map[id]? = some value := by
  constructor
  · intro same
    rw [<- same]
    simp
  · intro found
    ext1 other
    rw [getElem?_insert]
    split
    next equal => rw [<- compare_eq_iff_eq.mp equal, found]
    · rfl

theorem keeps_insert : Keeps map (map.insert id value) ↔
    map[id]? = some value ∨ map[id]? = none := by
  constructor
  · intro kept
    cases old : map[id]? with
    | none => exact .inr rfl
    | some before => simpa using (kept id before old).symm
  · intro free other before old
    rw [getElem?_insert]
    split
    next equal =>
      rw [<- compare_eq_iff_eq.mp equal] at old
      simpa [old, eq_comm] using free
    · exact old

theorem erase_absent (absent : id ∉ map) : map.erase id = map := by
  ext1 other
  rw [getElem?_erase]
  split
  next equal =>
    rw [<- compare_eq_iff_eq.mp equal]
    exact (getElem?_eq_none absent).symm
  · rfl

theorem unusedId_not_mem (taken : List String) (id : String) :
    unusedId taken taken.length id ∉ taken := by
  have passed : ∀ (left : Nat) (id : String), unusedId taken left id ∉ taken ∨
      left < (taken.filter (id.length ≤ ·.length)).length := by
    intro left
    induction left with
    | zero =>
      intro id
      by_cases used : id ∈ taken
      · exact .inr (List.length_pos_of_mem (List.mem_filter.mpr ⟨used, by simp⟩))
      · exact .inl used
    | succ left ih =>
      intro id
      unfold unusedId
      split
      next used =>
        refine (ih (id ++ "_1")).imp_right fun longer => ?_
        have fewer : (taken.filter ((id ++ "_1").length ≤ ·.length)).length <
            (taken.filter (id.length ≤ ·.length)).length := by
          have nested : taken.filter ((id ++ "_1").length ≤ ·.length) =
              (taken.filter (id.length ≤ ·.length)).filter ((id ++ "_1").length ≤ ·.length) := by
            rw [List.filter_filter]
            refine List.filter_congr fun other _ => ?_
            simp only [String.length_append, <- Bool.decide_and, decide_eq_decide]
            omega
          rw [nested]
          exact List.length_filter_lt_length_iff_exists.mpr
            ⟨id, List.mem_filter.mpr ⟨used, by simp⟩, by simp⟩
        omega
      next free => exact .inl free
  exact (passed _ id).resolve_right (Nat.not_lt.mpr (List.length_filter_le _ _))

end

namespace DialogSessionManager

variable {mgr : DialogSessionManager Info Caller Request Query}

theorem generated_unused (time digit : Nat) :
    mgr.generateDialogSessionId time digit ∉ mgr.dialogSessionInfoMap := by
  rw [<- mem_keys]
  exact unusedId_not_mem _ _

theorem apply_create (type : SelectorType) (needGrant : Bool)
    (request : AbilityRequest Info Caller Query) (time digit : Nat) (dialog : ModalDialog) :
    ∃ made granted, mgr.apply (.createModalDialog type needGrant request time digit dialog) =
      mgr.createModalDialog made granted request time digit dialog := by
  cases type <;> exact ⟨_, _, rfl⟩

theorem notify_eq (id : String) : mgr.notifyQueryERMSFinished id =
    ({ mgr with queryERMSInfoMap := mgr.queryERMSInfoMap.erase id },
      decide (id ∈ mgr.queryERMSInfoMap)) := by
  unfold notifyQueryERMSFinished
  split
  next asked => simp [asked]
  next other => simp [other, erase_absent]

theorem lawful_send (paired : mgr.Paired) (id : String) (isAllowed : Bool) (ret : Int) :
    mgr.Lawful (.sendDialogResult id isAllowed ret) := by
  simp only [Lawful, apply, sendDialogResult, notify_eq, decide_eq_true_eq]
  split
  · rfl
  next going =>
    have unasked : mgr.queryERMSInfoMap.erase id = mgr.queryERMSInfoMap :=
      erase_absent fun asked => going (.inl asked)
    split
    next unknown =>
      have unpaired := mt (paired id).1.mp unknown.2
      simp [clearDialogContext, unasked, erase_absent unknown.1, erase_absent unknown.2,
        erase_absent unpaired, ERR_INVALID_VALUE, ERR_OK]
    · split
      · rfl
      next failed => simp [unasked]

theorem Paired.apply (paired : mgr.Paired) (call : Call Info Caller Request Query) :
    (mgr.apply call).1.Paired := by
  cases call with
  | createModalDialog type needGrant request time digit dialog =>
    obtain ⟨made, granted, same⟩ := @apply_create _ _ _ _ mgr type needGrant request time digit dialog
    rw [same]
    intro id
    have before := paired id
    simp only [createModalDialog, generateDialogSessionRecordCommon, mem_insert]
    cases request.queryERMS with
    | none => tauto
    | some info =>
      simp only [mem_insertIfNew]
      tauto
  | handleErmsResultBySCB request time digit created => exact paired
  | sendDialogResult id isAllowed ret =>
    have lawful := lawful_send paired id isAllowed ret
    have without : (mgr.without id).Paired := by
      intro other
      have before := paired other
      simp only [DialogSessionManager.without, clearDialogContext, mem_erase]
      tauto
    simp only [Lawful] at lawful
    rw [lawful]
    split
    · exact without
    · exact paired

theorem lawful_iff (paired : mgr.Paired) (call : Call Info Caller Request Query) :
    mgr.Lawful call ↔ mgr.Created call := by
  cases call with
  | createModalDialog type needGrant request time digit dialog =>
    obtain ⟨made, granted, same⟩ := @apply_create _ _ _ _ mgr type needGrant request time digit dialog
    have unused := @generated_unused _ _ _ _ mgr time digit
    have unpaired := mt (paired _).1.mpr unused
    simp only [Lawful, Created, same, createModalDialog, generateDialogSessionRecordCommon]
    split
    next created =>
      refine iff_of_true ⟨?_, ?_, fun _ _ kept => kept, ?_⟩ created
      · exact keeps_insert.mpr (.inr (getElem?_eq_none unused))
      · exact keeps_insert.mpr (.inr (getElem?_eq_none unpaired))
      · cases request.queryERMS with
        | none => exact fun _ _ kept => kept
        | some info =>
          intro other value old
          rw [getElem?_insertIfNew]
          split
          next new =>
            rw [<- compare_eq_iff_eq.mp new.1, getElem?_eq_none new.2] at old
            cases old
          · exact old
    next failed =>
      refine iff_of_false (fun unchanged => ?_) failed
      have found := insert_eq_self.mp (congrArg dialogSessionInfoMap unchanged)
      rw [getElem?_eq_none unused] at found
      cases found
  | handleErmsResultBySCB request time digit created =>
    cases created with
    | true =>
      simp only [Lawful, Created, apply, handleErmsResultBySCB, if_true, true_and]
      rw [<- keeps_insert]
      exact ⟨fun lawful => lawful.2.2.1,
        fun kept => ⟨fun _ _ old => old, fun _ _ old => old, kept, fun _ _ old => old⟩⟩
    | false =>
      have wrong : INNER_ERR ≠ ERR_ECOLOGICAL_CONTROL_STATUS := by decide
      simp only [Lawful, Created, apply, handleErmsResultBySCB, Bool.false_eq_true, if_false,
        wrong, false_and, or_false]
      rw [<- insert_eq_self]
      exact ⟨congrArg startupSessionInfoMap, fun same => by rw [same]⟩
  | sendDialogResult id isAllowed ret => exact iff_of_true (lawful_send paired id isAllowed ret) trivial

/-- Every run is lawful exactly if each of its dialogs is created. -/
theorem dialogSessions_lawful_iff (calls : List (Call Info Caller Request Query)) :
    machine.EveryStep calls Lawful ↔ machine.EveryStep calls Created := by
  have paired : ∀ done : List (Call Info Caller Request Query), (machine.run done).Paired :=
    Library.Machine.run_invariant Paired (fun _ => by simp [machine])
      fun _ call before => before.apply call
  refine forall_congr' fun done => forall_congr' fun call => ?_
  exact forall₂_congr fun _ _ => lawful_iff (paired done) call

def failedJump : Call Unit Unit Unit Unit :=
  .createModalDialog .WITHOUT_SELECTOR false ⟨fun _ => (), fun _ _ => (), some ()⟩ 100 7
    { hasCallerToken := true
      hasCallerRecord := false
      isSceneBoardEnabled := true
      hasManager := true
      topRet := 0
      isParent := true
      isTopCaller := false
      isPage := true
      applicationRet := 0
      systemCreated := true }

theorem failedJump_leaks : ¬machine.EveryStep [failedJump] Lawful := fun lawful =>
  absurd ((lawful_iff (fun _ => by simp [machine, Library.Machine.run]) failedJump).mp
    (lawful [] failedJump [] rfl)) (show ¬createModalDialogCommon _ = ERR_OK by decide)

end DialogSessionManager

end AbilityRuntime.DialogSession
