import AbilityRuntime.Mission.MissionInfoMgr

set_option autoImplicit false

namespace AbilityRuntime.Mission

open MissionInfoMgr List

-- Of a number with a fraction only the whole part is read.
inductive JsonNode where
  | string (value : String)
  | number (value : Int)
  | boolean (value : Bool)
  | other
deriving DecidableEq, Repr

-- A text that is no object is looked up like one without members.
abbrev JsonObject := Std.ExtTreeMap String JsonNode

structure Nlohmann where
  dump : JsonObject -> String
  parse : String -> Option JsonObject

structure WantApi (Want : Type) where
  empty : Want
  toUri : Want -> String
  parseUri : String -> Option Want
  callToForeground : Want -> Bool

structure SavedMissionInfo (Want : Type) where
  id : Int32 := -1
  runningState : Int32 := -1
  lockedState : Bool := false
  continuable : Bool := false
  unclearable : Bool := false
  time : String := ""
  label : String := ""
  iconPath : String := ""
  want : Want
  bundleName : String := ""
  specifiedFlag : String := ""
  missionName : String := ""
  launchMode : Int32
  startMethod : Int32
  uid : Int32
  isTemporary : Bool
  hasRecoverInfo : Bool

namespace SavedMissionInfo

variable {Want : Type}

def KEY_MISSION_NAME : String := "MissionName"
def KEY_LAUNCH_MODE : String := "LaunchMode"
def KEY_MISSION_ID : String := "MissionId"
def KEY_RUNNING_STATE : String := "RunningState"
def KEY_LOCKED_STATE : String := "LockedState"
def KEY_CONTINUABLE : String := "Continuable"
def KEY_TIME : String := "Time"
def KEY_LABEL : String := "Label"
def KEY_ICON_PATH : String := "IconPath"
def KEY_WANT : String := "Want"
def KEY_START_METHOD : String := "StartMethod"
def KEY_BUNDLE_NAME : String := "BundleName"
def KEY_UID : String := "Uid"
def KEY_IS_TEMPORARY : String := "IsTemporary"
def KEY_SPEC_FLAG : String := "SpecFlag"
def KEY_HAS_RECONER_INFO : String := "hasRecoverInfo"

def members (wants : WantApi Want) (mission : SavedMissionInfo Want) : List (String × JsonNode) :=
  [(KEY_MISSION_NAME, .string mission.missionName),
    (KEY_LAUNCH_MODE, .number mission.launchMode.toInt),
    (KEY_IS_TEMPORARY, .boolean mission.isTemporary),
    (KEY_BUNDLE_NAME, .string mission.bundleName),
    (KEY_START_METHOD, .number mission.startMethod.toInt),
    (KEY_UID, .number mission.uid.toInt),
    (KEY_SPEC_FLAG, .string mission.specifiedFlag),
    (KEY_MISSION_ID, .number mission.id.toInt),
    (KEY_RUNNING_STATE, .number mission.runningState.toInt),
    (KEY_LOCKED_STATE, .boolean mission.lockedState),
    (KEY_CONTINUABLE, .boolean mission.continuable),
    (KEY_TIME, .string mission.time),
    (KEY_LABEL, .string mission.label),
    (KEY_ICON_PATH, .string mission.iconPath),
    (KEY_WANT, .string (wants.toUri mission.want)),
    (KEY_HAS_RECONER_INFO, .boolean mission.hasRecoverInfo)]

def toJson (wants : WantApi Want) (mission : SavedMissionInfo Want) : JsonObject :=
  .ofList (mission.members wants)

def toJsonStr (json : Nlohmann) (wants : WantApi Want) (mission : SavedMissionInfo Want) : String :=
  json.dump (mission.toJson wants)

-- CheckJsonNode and the read that follows it, one for each type of a node.
def getString (value : JsonObject) (node : String) : Option String :=
  match value[node]? with
  | some (.string text) => some text
  | _ => none

def getInt32 (value : JsonObject) (node : String) : Option Int32 :=
  match value[node]? with
  | some (.number number) => some (Int32.ofInt number)
  | _ => none

def getBool (value : JsonObject) (node : String) : Option Bool :=
  match value[node]? with
  | some (.boolean flag) => some flag
  | _ => none

-- What a failed read has set so far is thrown away by the only caller.
def fromJsonStr (json : Nlohmann) (wants : WantApi Want) (jsonStr : String)
    (mission : SavedMissionInfo Want) : Option (SavedMissionInfo Want) := do
  guard (jsonStr ≠ "")
  let value <- json.parse jsonStr
  let missionName <- getString value KEY_MISSION_NAME
  let launchMode <- getInt32 value KEY_LAUNCH_MODE
  let isTemporary <- getBool value KEY_IS_TEMPORARY
  let startMethod <- getInt32 value KEY_START_METHOD
  let bundleName <- getString value KEY_BUNDLE_NAME
  let uid <- getInt32 value KEY_UID
  let specifiedFlag <- getString value KEY_SPEC_FLAG
  let id <- getInt32 value KEY_MISSION_ID
  let runningState <- getInt32 value KEY_RUNNING_STATE
  let lockedState <- getBool value KEY_LOCKED_STATE
  let continuable <- getBool value KEY_CONTINUABLE
  let time <- getString value KEY_TIME
  let label <- getString value KEY_LABEL
  let iconPath <- getString value KEY_ICON_PATH
  let uri <- getString value KEY_WANT
  let hasRecoverInfo <- getBool value KEY_HAS_RECONER_INFO
  let want := (wants.parseUri uri).getD mission.want
  return { mission with
    id, runningState, lockedState, continuable, time, label, iconPath, want, bundleName,
    specifiedFlag, missionName, launchMode, startMethod, uid, isTemporary, hasRecoverInfo }

def unread (wants : WantApi Want) (launchMode startMethod uid : Int32)
    (isTemporary hasRecoverInfo : Bool) : SavedMissionInfo Want where
  want := wants.empty
  launchMode := launchMode
  startMethod := startMethod
  uid := uid
  isTemporary := isTemporary
  hasRecoverInfo := hasRecoverInfo

def launchModeOf (value : Int32) : LaunchMode :=
  if value = 0 then .SINGLETON
  else if value = 1 then .STANDARD
  else if value = 2 then .SPECIFIED
  else .unnamed value.toInt

def startMethodOf (value : Int32) : StartMethod :=
  if value = 0 then .START_NORMAL
  else if value = 1 then .START_CALL
  else .unnamed value.toInt

def view (wants : WantApi Want) (mission : SavedMissionInfo Want) : InnerMissionInfo where
  missionInfo :=
    { id := mission.id.toInt
      runningState := mission.runningState.toInt
      lockedState := mission.lockedState
      unclearable := mission.unclearable
      time := mission.time
      callToForeground := wants.callToForeground mission.want }
  missionName := mission.missionName
  specifiedFlag := mission.specifiedFlag
  launchMode := launchModeOf mission.launchMode
  startMethod := startMethodOf mission.startMethod
  uid := mission.uid.toInt
  isTemporary := mission.isTemporary

def isMatched (bundleName : String) (uid : Int32) (mission : SavedMissionInfo Want) : Bool :=
  mission.bundleName == bundleName && mission.uid == uid

/-- The manager treats the two missions alike wherever it looks into one. -/
structure SameDecisions (wants : WantApi Want) (reloaded mission : SavedMissionInfo Want) : Prop where
  deleted : ∀ isBackgroundTaskUid, clearable isBackgroundTaskUid (reloaded.view wants) =
    clearable isBackgroundTaskUid (mission.view wants)
  reused : ∀ missionName flag isFindRecentStandard,
    isReused missionName flag isFindRecentStandard (reloaded.view wants) =
      isReused missionName flag isFindRecentStandard (mission.view wants)
  shown : doesNotShowInTheMissionList (reloaded.view wants) =
    doesNotShowInTheMissionList (mission.view wants)
  matched : ∀ bundleName uid, reloaded.isMatched bundleName uid = mission.isMatched bundleName uid
  sorted : ∀ other, notLater (reloaded.view wants) other = notLater (mission.view wants) other ∧
    notLater other (reloaded.view wants) = notLater other (mission.view wants)
  found : reloaded.id = mission.id
  loaded : reloaded.isTemporary = mission.isTemporary

def Reloads (json : Nlohmann) (wants : WantApi Want) (mission : SavedMissionInfo Want) : Prop :=
  ∀ launchMode startMethod uid isTemporary hasRecoverInfo, ∃ reloaded,
    fromJsonStr json wants (mission.toJsonStr json wants)
      (unread wants launchMode startMethod uid isTemporary hasRecoverInfo) = some reloaded ∧
    SameDecisions wants reloaded mission

end SavedMissionInfo

structure Nlohmann.Reads (json : Nlohmann) (value : JsonObject) : Prop where
  filled : json.dump value ≠ ""
  parsed : json.parse (json.dump value) = some value

theorem jsonObject_member {members : List (String × JsonNode)}
    (distinct : (members.map Prod.fst).Nodup) {node : String} {value : JsonNode}
    (member : (node, value) ∈ members) : (Std.ExtTreeMap.ofList members : JsonObject)[node]? = some value := by
  have apart : members.Pairwise fun one other => ¬ compare one.1 other.1 = .eq :=
    (pairwise_map.mp distinct).imp fun differ same => differ (compare_eq_iff_eq.mp same)
  exact Std.ExtTreeMap.getElem?_ofList_of_mem (compare_eq_iff_eq.mpr rfl) apart member

def WantApi.Keeps {Want : Type} (wants : WantApi Want) (want : Want) : Prop :=
  ∃ parsed, wants.parseUri (wants.toUri want) = some parsed ∧
    wants.callToForeground parsed = wants.callToForeground want

namespace SavedMissionInfo

variable {Want : Type} {json : Nlohmann} {wants : WantApi Want}

theorem toJson_member (mission : SavedMissionInfo Want) {node : String} {value : JsonNode}
    (member : (node, value) ∈ mission.members wants) : (mission.toJson wants)[node]? = some value := by
  have distinct : ((mission.members wants).map Prod.fst).Nodup := by
    simp only [members, map_cons, map_nil]
    decide
  exact jsonObject_member distinct member

theorem getString_eq {value : JsonObject} {node text : String}
    (found : value[node]? = some (.string text)) : getString value node = some text := by
  rw [getString, found]

theorem getInt32_eq {value : JsonObject} {node : String} {number : Int32}
    (found : value[node]? = some (.number number.toInt)) : getInt32 value node = some number := by
  rw [getInt32, found]
  simp

theorem getBool_eq {value : JsonObject} {node : String} {flag : Bool}
    (found : value[node]? = some (.boolean flag)) : getBool value node = some flag := by
  rw [getBool, found]

theorem fromJsonStr_toJsonStr (mission unread : SavedMissionInfo Want) {parsed : Want}
    (dumped : json.Reads (mission.toJson wants))
    (uri : wants.parseUri (wants.toUri mission.want) = some parsed) :
    fromJsonStr json wants (mission.toJsonStr json wants) unread =
      some { mission with want := parsed, unclearable := unread.unclearable } := by
  have written : ∀ entry ∈ mission.members wants, (mission.toJson wants)[entry.1]? = some entry.2 :=
    fun entry member => mission.toJson_member member
  simp only [members, forall_mem_cons, not_mem_nil, false_implies, implies_true,
    and_true] at written
  obtain ⟨missionName, launchMode, isTemporary, bundleName, startMethod, uid, specifiedFlag, id,
    runningState, lockedState, continuable, time, label, iconPath, want, hasRecoverInfo⟩ := written
  rw [toJsonStr, fromJsonStr, guard, if_pos dumped.filled, dumped.parsed, pure_bind,
    Option.bind_eq_bind, Option.bind_some]
  rw [getString_eq missionName, getInt32_eq launchMode, getBool_eq isTemporary,
    getInt32_eq startMethod, getString_eq bundleName, getInt32_eq uid, getString_eq specifiedFlag,
    getInt32_eq id, getInt32_eq runningState, getBool_eq lockedState, getBool_eq continuable,
    getString_eq time, getString_eq label, getString_eq iconPath, getString_eq want,
    getBool_eq hasRecoverInfo]
  change some _ = some _
  rw [uri, Option.getD_some]

theorem clearable_reloaded_iff (wants : WantApi Want) (mission : SavedMissionInfo Want) (parsed : Want) :
    (∀ isBackgroundTaskUid,
      clearable isBackgroundTaskUid
          (view wants { mission with want := parsed, unclearable := false }) =
        clearable isBackgroundTaskUid (mission.view wants)) ↔
      ¬ (mission.unclearable = true ∧ mission.runningState = 0 ∧ mission.lockedState = false) := by
  have zero : mission.runningState.toInt = 0 ↔ mission.runningState = 0 := by
    rw [<- Int32.toInt_inj, Int32.toInt_zero]
  constructor
  · rintro same ⟨unclearable, running, unlocked⟩
    have kept := same fun _ => false
    simp [clearable, view, unclearable, running, unlocked] at kept
  · intro condition isBackgroundTaskUid
    simp only [clearable, view, Bool.false_and, Bool.or_false]
    cases locked : mission.lockedState with
    | true => simp
    | false =>
      cases unclearable : mission.unclearable with
      | false => simp
      | true =>
        have running : mission.runningState ≠ 0 := fun zero => condition ⟨unclearable, zero, locked⟩
        have nonzero : (mission.runningState.toInt == 0) = false := by
          rw [beq_eq_false_iff_ne]
          exact fun same => running (zero.mp same)
        simp [nonzero]

theorem reloads_iff (mission : SavedMissionInfo Want) (dumped : json.Reads (mission.toJson wants))
    (kept : wants.Keeps mission.want) :
    Reloads json wants mission ↔
      ¬ (mission.unclearable = true ∧ mission.runningState = 0 ∧ mission.lockedState = false) := by
  obtain ⟨parsed, uri, foreground⟩ := kept
  rw [<- clearable_reloaded_iff wants mission parsed]
  have read := fun unread => mission.fromJsonStr_toJsonStr unread dumped uri
  constructor
  · intro reloads
    obtain ⟨reloaded, found, same⟩ := reloads 0 0 0 false false
    rw [read] at found
    cases found
    exact same.deleted
  · intro deleted launchMode startMethod uid isTemporary hasRecoverInfo
    refine ⟨_, read _, ⟨deleted, ?_, ?_, ?_, ?_, rfl, rfl⟩⟩
    · exact fun _ _ _ => rfl
    · simp only [doesNotShowInTheMissionList, view, foreground]
    · exact fun _ _ => rfl
    · exact fun _ => ⟨rfl, rfl⟩

def emptyWant : WantApi Unit where
  empty := ()
  toUri _ := "#Intent;end"
  parseUri uri := if uri = "#Intent;end" then some () else none
  callToForeground _ := false

def music (lockedState : Bool) : SavedMissionInfo Unit where
  id := 1
  runningState := 0
  lockedState := lockedState
  unclearable := true
  time := "2024-01-01"
  want := ()
  bundleName := "music"
  missionName := "#music:main:player"
  launchMode := 0
  startMethod := 0
  uid := 20010001
  isTemporary := false
  hasRecoverInfo := false

def musicText (lockedState : String) : String :=
  "\x7b\"BundleName\":\"music\",\"Continuable\":false,\"IconPath\":\"\",\"IsTemporary\":false," ++
  "\"Label\":\"\",\"LaunchMode\":0,\"LockedState\":" ++ lockedState ++ ",\"MissionId\":1," ++
  "\"MissionName\":\"#music:main:player\",\"RunningState\":0,\"SpecFlag\":\"\"," ++
  "\"StartMethod\":0,\"Time\":\"2024-01-01\",\"Uid\":20010001,\"Want\":\"#Intent;end\"," ++
  "\"hasRecoverInfo\":false\x7d"

def musicJson (lockedState : Bool) : Nlohmann where
  dump _ := musicText (if lockedState then "true" else "false")
  parse text :=
    if text = musicText (if lockedState then "true" else "false") then
      some ((music lockedState).toJson emptyWant)
    else none

theorem musicJson_reads (lockedState : Bool) :
    (musicJson lockedState).Reads ((music lockedState).toJson emptyWant) where
  filled := by cases lockedState <;> decide
  parsed := if_pos rfl

theorem reloads_locked_music : Reloads (musicJson true) emptyWant (music true) :=
  (reloads_iff (music true) (musicJson_reads true) ⟨(), by decide, rfl⟩).mpr (by decide)

theorem unclearable_mission_is_deleted_after_reload :
    clearable (fun _ => false) ((music false).view emptyWant) = false ∧
      ∃ reloaded, fromJsonStr (musicJson false) emptyWant
          ((music false).toJsonStr (musicJson false) emptyWant) (unread emptyWant 0 0 0 false false) =
            some reloaded ∧
        clearable (fun _ => false) (reloaded.view emptyWant) = true :=
  ⟨by decide, _, (music false).fromJsonStr_toJsonStr _ (musicJson_reads false) rfl, by decide⟩

end SavedMissionInfo

end AbilityRuntime.Mission
