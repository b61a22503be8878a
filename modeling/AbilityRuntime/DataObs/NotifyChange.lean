import AbilityRuntime.DataObs.Manager
import AbilityRuntime.DataObs.Refinement

set_option autoImplicit false

namespace AbilityRuntime.DataObs

open List Node

inductive ChangeType where
  | INSERT
  | DELETE
  | UPDATE
  | OTHER
  | INVAILD

inductive Value where
  | monostate
  | int64 (value : Int)
  | double (value : UInt64)
  | string (value : String)
  | bool (value : Bool)
  | bytes (value : List UInt8)

abbrev VBuckets : Type := List (List (String × Value))

-- The data is the address of a buffer that the caller owns.
structure ChangeInfo where
  changeType : ChangeType := .INVAILD
  uris : List Uri := []
  data : Option Nat := none
  size : UInt32 := 0
  valueBuckets : VBuckets := []

inductive NotifyStatus where
  | SUCCESS
  | INVALID_PARAM
  | NO_OBS_FOR_URI

abbrev VerifyPermission : Type := Uri -> UInt32 -> String -> Bool -> Bool

def NotifyInfo.accepts (verifyPermission : VerifyPermission) (info : NotifyInfo)
    (tokenId : UInt32) : Bool :=
  verifyPermission info.uri tokenId info.readPermission info.isSilentUri

def notifyObserver (verifyPermission : VerifyPermission) (changeInfo : ChangeInfo)
    (info : ObsNotifyInfo) : Option ChangeInfo :=
  let sendUriList :=
    (info.uriList.filter fun verifyInfo => verifyInfo.accepts verifyPermission info.tokenId).map
      NotifyInfo.uri
  if sendUriList.isEmpty then none
  else some ⟨changeInfo.changeType, sendUriList, changeInfo.data, changeInfo.size,
    changeInfo.valueBuckets⟩

-- notifyInfo[count].uri = uri
def notifyInfos (uris : List Uri) (notifyInfo : List NotifyInfo) : List NotifyInfo :=
  List.zipWith (fun uri (info : NotifyInfo) => { info with uri := uri }) uris notifyInfo

def ObsMap.none : ObsMap := fun _ => Option.none

def Node.getAllObs (root : Node) (userId : Int) (infos : List NotifyInfo) : ObsMap :=
  infos.foldl (fun changeRes info => root.getObs info userId info.uri.path changeRes) .none

def ObsMap.empty (changeRes : ObsMap) (root : Node) : Bool :=
  root.registrations.all fun reg => (changeRes reg.entry.observer).isNone

def DataObsMgrInnerExt.handleNotifyChange (verifyPermission : VerifyPermission)
    (mgr : DataObsMgrInnerExt) (changeInfo : ChangeInfo) (userId : Int)
    (notifyInfo : List NotifyInfo) :
    NotifyStatus × (IDataAbilityObserver -> Option ChangeInfo) :=
  if changeInfo.uris.length ≠ notifyInfo.length then (.INVALID_PARAM, fun _ => none)
  else
    let changeRes := mgr.root.getAllObs userId (notifyInfos changeInfo.uris notifyInfo)
    if changeRes.empty mgr.root then (.NO_OBS_FOR_URI, fun _ => none)
    else (.SUCCESS, fun obs => (changeRes obs).bind fun value =>
      if value.uriList.isEmpty then none else notifyObserver verifyPermission changeInfo value)

def Node.heard (root : Node) (userId : Int) (infos : List NotifyInfo)
    (observer : IDataAbilityObserver) : List (NotifyInfo × Entry) :=
  let walked := infos.flatMap fun info =>
    (root.notified userId info.uri.path).map fun entry => (info, entry)
  walked.filter fun item => item.2.observer == observer

namespace ObsMap

def pushAll (items : List (NotifyInfo × Entry)) : ObsMap :=
  items.foldl (fun obsRes item => obsRes.push item.1 item.2) .none

theorem pushAll_apply (items : List (NotifyInfo × Entry)) (observer : IDataAbilityObserver) :
    pushAll items observer =
      (items.filter fun item => item.2.observer == observer).getLast?.map fun last =>
        ⟨last.2.tokenId, last.2.pid,
          (items.filter fun item => item.2.observer == observer).map Prod.fst⟩ := by
  induction items using reverseRecOn with
  | nil => rfl
  | append_singleton items item ih =>
    have step : pushAll (items ++ [item]) = (pushAll items).push item.1 item.2 := by
      simp [pushAll]
    rw [step, push_apply, filter_append]
    by_cases same : item.2.observer = observer
    · subst same
      have kept : ([item].filter fun other => other.2.observer == item.2.observer) = [item] := by
        simp
      rw [kept, if_pos rfl, uris, ih, getLast?_concat, map_append]
      cases before : (items.filter fun other => other.2.observer == item.2.observer).getLast? with
      | none => simp [getLast?_eq_none_iff.mp before]
      | some last => rfl
    · rw [if_neg (Ne.symm same), ih]
      simp [same]

end ObsMap

theorem Node.getAllObs_apply (root : Node) (userId : Int) (infos : List NotifyInfo)
    (observer : IDataAbilityObserver) :
    root.getAllObs userId infos observer =
      (root.heard userId infos observer).getLast?.map fun last =>
        ⟨last.2.tokenId, last.2.pid, (root.heard userId infos observer).map Prod.fst⟩ := by
  have flat : root.getAllObs userId infos = ObsMap.pushAll (infos.flatMap fun info =>
      (root.notified userId info.uri.path).map fun entry => (info, entry)) := by
    rw [getAllObs, ObsMap.pushAll, foldl_flatMap]
    simp only [foldl_map, getObs_notified]
  rw [flat, ObsMap.pushAll_apply]
  rfl

theorem Node.mem_heard {root : Node} (tidy : root.Tidy) {userId : Int} {infos : List NotifyInfo}
    {observer : IDataAbilityObserver} {info : NotifyInfo} {entry : Entry} :
    (info, entry) ∈ root.heard userId infos observer ↔
      info ∈ infos ∧ ∃ reg ∈ root.registrations,
        reg.entry = entry ∧ entry.observer = observer ∧
          reg.hears info.uri.path userId = true := by
  have walked : entry ∈ root.notified userId info.uri.path ↔ ∃ reg ∈ root.registrations,
      reg.entry = entry ∧ reg.hears info.uri.path userId = true := by
    rw [(notified_perm tidy userId info.uri.path).mem_iff]
    simp only [mem_map, mem_filter]
    constructor
    · exact fun ⟨reg, ⟨mem, hears⟩, same⟩ => ⟨reg, mem, same, hears⟩
    · exact fun ⟨reg, mem, same, hears⟩ => ⟨reg, ⟨mem, hears⟩, same⟩
  rw [heard, mem_filter, mem_flatMap]
  simp only [mem_map, Prod.mk.injEq, beq_iff_eq]
  constructor
  · rintro ⟨⟨_, listed, _, found, rfl, rfl⟩, mine⟩
    obtain ⟨reg, mem, same, hears⟩ := walked.mp found
    exact ⟨listed, reg, mem, same, mine, hears⟩
  · rintro ⟨listed, reg, mem, same, mine, hears⟩
    exact ⟨⟨info, listed, entry, walked.mpr ⟨reg, mem, same, hears⟩, rfl, rfl⟩, mine⟩

theorem ObsMap.empty_iff {root : Node} (tidy : root.Tidy) (userId : Int)
    (infos : List NotifyInfo) :
    (root.getAllObs userId infos).empty root = true ↔
      ∀ observer, root.getAllObs userId infos observer = Option.none := by
  rw [empty, all_eq_true]
  constructor
  · intro unheard observer
    rw [getAllObs_apply, Option.map_eq_none_iff, getLast?_eq_none_iff, eq_nil_iff_forall_not_mem]
    rintro ⟨info, entry⟩ mem
    obtain ⟨-, reg, registered, rfl, rfl, -⟩ := (mem_heard tidy).mp mem
    have absent := Option.isNone_iff_eq_none.mp (unheard reg registered)
    rw [getAllObs_apply, Option.map_eq_none_iff, getLast?_eq_none_iff] at absent
    rw [absent] at mem
    cases mem
  · exact fun absent reg _ => by rw [absent]; rfl

namespace DataObsMgrInnerExt

theorem step_tidy {root : Node} (tidy : root.Tidy) (refs : RefCells) (op : Op) :
    (Trie.step ⟨root, refs⟩ op).root.Tidy :=
  (Trie.step_refines (Trie.Refines.mk (List.Perm.refl _) tidy) op).tidy

theorem handleRegisterObserver_tidy {mgr : DataObsMgrInnerExt} (tidy : mgr.root.Tidy) (uri : Uri)
    (dataObserver : IDataAbilityObserver) (info : ObserverInfo) (isDescendants : Bool) :
    (mgr.handleRegisterObserver uri dataObserver info isDescendants).1.root.Tidy := by
  unfold handleRegisterObserver
  split
  · exact tidy
  next object owned =>
    have known := addObsDeathRecipient_root mgr object
    split
    next mgr' limit => rw [limit] at known; exact known ▸ tidy
    next mgr' cell found =>
      rw [found] at known
      split
      · exact known ▸ tidy
      · have added := step_tidy (known ▸ tidy) mgr'.refs (.addObserver uri.path
          ⟨dataObserver, info.userId, info.tokenId, cell, isDescendants, info.pid,
            mgr'.nextEntryId⟩)
        dsimp only [Trie.step] at added
        dsimp only
        split
        next root refs limited => rw [removeObsDeathRecipient_root]; rwa [limited] at added
        next root refs done => rwa [done] at added

theorem apply_tidy {mgr : DataObsMgrInnerExt} (tidy : mgr.root.Tidy) (call : Call) :
    (mgr.apply call).root.Tidy := by
  cases call with
  | register uri dataObserver info isDescendants =>
    exact handleRegisterObserver_tidy tidy uri dataObserver info isDescendants
  | unregisterAt uri dataObserver =>
    simp only [apply, handleUnregisterObserverAt]
    split
    · exact tidy
    · split
      · exact tidy
      · rw [removeObsDeathRecipient_root]
        exact step_tidy tidy mgr.refs (.removeObserver uri.path dataObserver)
  | unregister dataObserver =>
    simp only [apply, handleUnregisterObserver]
    split
    · exact tidy
    · rw [removeObsDeathRecipient_root]
      exact step_tidy tidy mgr.refs (.removeAll dataObserver)
  | callBackDied remote =>
    simp only [apply, onCallBackDied]
    split
    · exact tidy
    next object =>
      rw [removeObsDeathRecipient_root]
      exact step_tidy tidy mgr.refs (.removeObject object)

theorem run_tidy (calls : List Call) : (machine.run calls).root.Tidy := by
  refine Library.Machine.run_invariant (fun mgr : DataObsMgrInnerExt => mgr.root.Tidy) ?_ ?_ calls
  · exact trivial
  · exact fun _ call tidy => apply_tidy tidy call

variable (verifyPermission : VerifyPermission) (mgr : DataObsMgrInnerExt) (changeInfo : ChangeInfo)
  (userId : Int) (notifyInfo : List NotifyInfo)

def delivered (observer : IDataAbilityObserver) : List Uri :=
  (((mgr.handleNotifyChange verifyPermission changeInfo userId notifyInfo).2 observer).map
    ChangeInfo.uris).getD []

/-- An observer is told exactly if one of its registrations that hear may see the uri. -/
structure DeliversAccepted : Prop where
  accepted : ∀ observer,
    ∀ uri ∈ mgr.delivered verifyPermission changeInfo userId notifyInfo observer,
    ∃ info ∈ notifyInfos changeInfo.uris notifyInfo, info.uri = uri ∧
      ∃ reg ∈ mgr.root.registrations, reg.entry.observer = observer ∧
        reg.hears uri.path userId = true ∧
        info.accepts verifyPermission reg.entry.tokenId = true
  all : ∀ info ∈ notifyInfos changeInfo.uris notifyInfo, ∀ reg ∈ mgr.root.registrations,
    reg.hears info.uri.path userId = true ->
    info.accepts verifyPermission reg.entry.tokenId = true ->
      info.uri ∈ mgr.delivered verifyPermission changeInfo userId notifyInfo
        reg.entry.observer

/-- What the last token may see is what the registrations may see. -/
def LastTokenDecides (root : Node) (infos : List NotifyInfo) : Prop :=
  ∀ observer last, (root.heard userId infos observer).getLast? = some last -> ∀ uri,
    (∃ item ∈ root.heard userId infos observer, item.1.uri = uri ∧
      item.1.accepts verifyPermission last.2.tokenId = true) ↔
    ∃ item ∈ root.heard userId infos observer, item.1.uri = uri ∧
      item.1.accepts verifyPermission item.2.tokenId = true

variable {verifyPermission mgr changeInfo userId notifyInfo}

theorem handleNotifyChange_apply (tidy : mgr.root.Tidy)
    (sized : changeInfo.uris.length = notifyInfo.length) (observer : IDataAbilityObserver) :
    (mgr.handleNotifyChange verifyPermission changeInfo userId notifyInfo).2 observer =
      (mgr.root.getAllObs userId (notifyInfos changeInfo.uris notifyInfo) observer).bind
        fun value => if value.uriList.isEmpty then none
          else notifyObserver verifyPermission changeInfo value := by
  rw [handleNotifyChange, if_neg (by simpa using sized)]
  dsimp only
  split
  next unheard => rw [(ObsMap.empty_iff tidy userId _).mp unheard observer]; rfl
  · rfl

theorem notifyObserver_uris (value : ObsNotifyInfo) :
    ((if value.uriList.isEmpty then none else notifyObserver verifyPermission changeInfo value).map
        ChangeInfo.uris).getD [] =
      (value.uriList.filter fun info => info.accepts verifyPermission value.tokenId).map
        NotifyInfo.uri := by
  split
  next nothing => simp [isEmpty_iff.mp nothing]
  · unfold notifyObserver
    dsimp only
    split
    next denied => rw [isEmpty_iff.mp denied]; rfl
    · rfl

theorem mem_delivered (tidy : mgr.root.Tidy)
    (sized : changeInfo.uris.length = notifyInfo.length) {observer : IDataAbilityObserver}
    {uri : Uri} :
    uri ∈ mgr.delivered verifyPermission changeInfo userId notifyInfo observer ↔
      ∃ last, (mgr.root.heard userId (notifyInfos changeInfo.uris notifyInfo)
          observer).getLast? = some last ∧
        ∃ item ∈ mgr.root.heard userId (notifyInfos changeInfo.uris notifyInfo) observer,
          item.1.uri = uri ∧ item.1.accepts verifyPermission last.2.tokenId = true := by
  rw [delivered, handleNotifyChange_apply tidy sized, getAllObs_apply]
  cases reached : (mgr.root.heard userId (notifyInfos changeInfo.uris notifyInfo)
      observer).getLast? with
  | none => simp
  | some last =>
    rw [Option.map_some, Option.bind_some, notifyObserver_uris]
    simp only [Option.some.injEq, exists_eq_left', mem_map, mem_filter]
    constructor
    · rintro ⟨_, ⟨⟨item, mem, rfl⟩, accepted⟩, same⟩
      exact ⟨item, mem, same, accepted⟩
    · rintro ⟨item, mem, same, accepted⟩
      exact ⟨item.1, ⟨⟨item, mem, rfl⟩, accepted⟩, same⟩

theorem deliversAccepted_iff_heard (tidy : mgr.root.Tidy) :
    mgr.DeliversAccepted verifyPermission changeInfo userId notifyInfo ↔
      ∀ observer uri, uri ∈ mgr.delivered verifyPermission changeInfo userId notifyInfo observer ↔
        ∃ item ∈ mgr.root.heard userId (notifyInfos changeInfo.uris notifyInfo) observer,
          item.1.uri = uri ∧ item.1.accepts verifyPermission item.2.tokenId = true := by
  constructor
  case mp =>
    intro delivers observer uri
    constructor
    · intro told
      obtain ⟨info, listed, rfl, reg, mem, mine, hears, accepted⟩ :=
        delivers.accepted observer uri told
      exact ⟨(info, reg.entry),
        (mem_heard tidy).mpr ⟨listed, reg, mem, rfl, mine, hears⟩, rfl, accepted⟩
    · rintro ⟨⟨info, entry⟩, heard, rfl, accepted⟩
      obtain ⟨listed, reg, mem, rfl, rfl, hears⟩ := (mem_heard tidy).mp heard
      exact delivers.all info listed reg mem hears accepted
  case mpr =>
    intro law
    constructor
    case accepted =>
      intro observer uri told
      obtain ⟨⟨info, entry⟩, heard, rfl, accepted⟩ := (law observer uri).mp told
      obtain ⟨listed, reg, mem, rfl, mine, hears⟩ := (mem_heard tidy).mp heard
      exact ⟨info, listed, rfl, reg, mem, mine, hears, accepted⟩
    case all =>
      intro info listed reg mem hears accepted
      exact (law reg.entry.observer info.uri).mpr ⟨(info, reg.entry),
        (mem_heard tidy).mpr ⟨listed, reg, mem, rfl, rfl, hears⟩, rfl, accepted⟩

theorem deliversAccepted_iff (calls : List Call)
    (sized : changeInfo.uris.length = notifyInfo.length) :
    (machine.run calls).DeliversAccepted verifyPermission changeInfo userId notifyInfo ↔
      LastTokenDecides verifyPermission userId (machine.run calls).root
        (notifyInfos changeInfo.uris notifyInfo) := by
  have tidy := run_tidy calls
  rw [deliversAccepted_iff_heard tidy]
  constructor
  case mp =>
    intro law observer last reached uri
    rw [<- law observer uri, mem_delivered tidy sized]
    simp [reached]
  case mpr =>
    intro decides observer uri
    rw [mem_delivered tidy sized]
    constructor
    · rintro ⟨last, reached, accepted⟩
      exact (decides observer last reached uri).mp accepted
    · rintro ⟨item, heard, accepted⟩
      obtain ⟨last, reached⟩ := Option.ne_none_iff_exists'.mp
        (mt List.getLast?_eq_none_iff.mp (List.ne_nil_of_mem heard))
      exact ⟨last, reached, (decides observer last reached uri).mpr ⟨item, heard, accepted⟩⟩

theorem oneToken_decides (tidy : mgr.root.Tidy) (infos : List NotifyInfo)
    (one : ∀ left ∈ mgr.root.registrations, ∀ right ∈ mgr.root.registrations,
      left.entry.observer = right.entry.observer -> left.entry.tokenId = right.entry.tokenId) :
    LastTokenDecides verifyPermission userId mgr.root infos := by
  rintro observer ⟨lastInfo, lastEntry⟩ reached uri
  obtain ⟨-, final, finalMember, rfl, rfl, -⟩ := (mem_heard tidy).mp (mem_of_getLast? reached)
  refine exists_congr fun item => and_congr_right fun heard => ?_
  obtain ⟨-, reg, mem, same, mine, -⟩ := (mem_heard tidy).mp heard
  rw [<- same] at mine ⊢
  rw [one final finalMember reg mem mine.symm]

def photos : Uri := ⟨"datashare", "media", ["photo"]⟩
def audios : Uri := ⟨"datashare", "media", ["audio"]⟩

def twoTokens : List Call :=
  [.register photos ⟨1, some 7⟩ ⟨100, 100, 20⟩ false,
    .register audios ⟨1, some 7⟩ ⟨200, 100, 20⟩ false]

def photosAndAudios : ChangeInfo := { changeType := .INSERT, uris := [photos, audios] }

theorem twoTokens_leaks :
    ¬(machine.run twoTokens).DeliversAccepted (fun _ tokenId _ _ => tokenId == 200) photosAndAudios
      100 [⟨photos, "read", false⟩, ⟨audios, "read", false⟩] := by
  intro delivers
  have refused : ∀ reg ∈ (machine.run twoTokens).root.registrations,
      reg.hears photos.path 100 = true -> reg.entry.tokenId ≠ 200 := by
    decide
  obtain ⟨info, -, -, reg, mem, -, hears, accepted⟩ :=
    delivers.accepted ⟨1, some 7⟩ photos (by decide)
  exact refused reg mem hears (by simpa [NotifyInfo.accepts] using accepted)

def oneToken : List Call :=
  [.register photos ⟨1, some 7⟩ ⟨200, 100, 20⟩ false,
    .register audios ⟨1, some 7⟩ ⟨200, 100, 20⟩ false]

theorem oneToken_delivers :
    (machine.run oneToken).DeliversAccepted (fun _ tokenId _ _ => tokenId == 200) photosAndAudios
      100 [⟨photos, "read", false⟩, ⟨audios, "read", false⟩] :=
  (deliversAccepted_iff oneToken rfl).mpr (oneToken_decides (run_tidy oneToken) _ (by decide))

end DataObsMgrInnerExt

end AbilityRuntime.DataObs
