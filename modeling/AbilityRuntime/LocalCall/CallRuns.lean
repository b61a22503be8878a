import AbilityRuntime.LocalCall.CallCallers

set_option autoImplicit false

namespace AbilityRuntime.LocalCall

open Library RecordMap String

namespace LocalCallContainer

variable (env : Environment) (container : LocalCallContainer)

structure Good : Prop where
  inOneMap : ∀ record, ¬((∃ key, record ∈ records container.callProxyRecords key) ∧
    ∃ key, record ∈ records container.multipleCallProxyRecords key)
  ownUri : ∀ record key, record ∈ records container.callProxyRecords key ∨
    record ∈ records container.multipleCallProxyRecords key -> key = container.elementURI env record
  noneEmpty : ∀ key : String, container.callProxyRecords[key]? ≠ some [] ∧
    container.multipleCallProxyRecords[key]? ≠ some []
  hasConnection : ∀ record, container.Kept record ->
    (container.record record).connection.isSome = true
  connections : ∀ connection, connection ∈ container.connections ↔
    ∃ record, container.Kept record ∧ (container.record record).connection = some connection
  releasedOnce : (container.releases.map Prod.fst).Nodup

def LeavesRecords (env : Environment) (container : LocalCallContainer) : LocalCallStep -> Prop
  | .startAbilityByCallInner request callback retval isHeld =>
    let result := container.startAbilityByCallInner env request callback retval isHeld
    result.1 ≠ .errOk -> ∀ record < container.nextRecord,
      (result.2.record record).callers = (container.record record).callers ∧
        (result.2.record record).connection = (container.record record).connection
  | _ => True

def Keeps (env : Environment) (container : LocalCallContainer) : LocalCallStep -> Prop
  | .startAbilityByCallInner request callback _ _ =>
    ∀ caller ∈ callback, request.isEmptyWant = false ->
      container.StartsApart env request ∧ container.StartsFresh env caller
  | .clearFailedCallConnection callback =>
    ∀ caller ∈ callback, container.FailsUnplaced env caller
  | .onCallStubDied remote => container.DiesUnplaced env remote
  | .onAbilityConnectDone connection _ code => container.ConnectsOnce env connection code
  | .releaseCall _ _ | .onAbilityDisconnectDone _ _ | .dropConnection _ => True

instance (request : CallRequest) : Decidable (container.StartsApart env request) :=
  inferInstanceAs (Decidable (∀ record ∈ container.getCallLocalRecord env _ _, _ ∧ _))

instance (callback : Nat) : Decidable (container.StartsFresh env callback) :=
  inferInstanceAs (Decidable ((∀ record < _, _ -> _) ∧ _ ∉ _))

instance (callback : Nat) : Decidable (container.FailsUnplaced env callback) :=
  inferInstanceAs (Decidable (∀ record ∈ container.getRecord env callback, _ = _))

instance (remote : Option Nat) : Decidable (container.DiesUnplaced env remote) :=
  inferInstanceAs (Decidable (∀ record < _, _ -> _))

instance (connection : Nat) (code : Int) : Decidable (container.ConnectsOnce env connection code) :=
  inferInstanceAs (Decidable (∀ record ∈ (container.connection connection).localCallRecord,
    _ -> _ ∧ (_ ∨ _)))

instance decidableKeeps : ∀ step, Decidable (container.Keeps env step)
  | .startAbilityByCallInner request callback _ _ =>
    inferInstanceAs (Decidable (∀ caller ∈ callback, _ ->
      container.StartsApart env request ∧ container.StartsFresh env caller))
  | .clearFailedCallConnection callback =>
    inferInstanceAs (Decidable (∀ caller ∈ callback, container.FailsUnplaced env caller))
  | .onCallStubDied remote => inferInstanceAs (Decidable (container.DiesUnplaced env remote))
  | .onAbilityConnectDone connection _ code =>
    inferInstanceAs (Decidable (container.ConnectsOnce env connection code))
  | .releaseCall _ _ | .onAbilityDisconnectDone _ _ | .dropConnection _ => isTrue trivial

structure Coherent : Prop where
  filed : container.Filed env
  informed : container.Informed

variable {env container}

theorem Coherent.good (sound : container.Coherent env) : container.Good env where
  inOneMap := by
    rintro record ⟨⟨key, single⟩, other, several⟩
    have isSingle := (sound.filed.singleton key record single).2.2
    rw [(sound.filed.multiple other record several).2.2] at isSingle
    cases isSingle
  ownUri := by
    rintro record key (single | several)
    · exact (sound.filed.singleton key record single).2.1.symm
    · exact (sound.filed.multiple key record several).2.1.symm
  noneEmpty := fun key =>
    ⟨fun empty => (sound.filed.singletons key [] empty).1 rfl,
      fun empty => (sound.filed.multiples key [] empty).1 rfl⟩
  hasConnection := by
    rintro record (⟨connection, current, -⟩ | placed)
    · rw [current]
      rfl
    · exact sound.filed.connected record placed
  connections := sound.filed.exact
  releasedOnce := sound.informed.once

theorem Coherent.step (sound : container.Coherent env) (step : LocalCallStep)
    (keeps : container.Keeps env step) : (container.step env step).Coherent env := by
  obtain ⟨filed, informed⟩ := sound
  cases step with
  | startAbilityByCallInner request callback retval isHeld =>
    have apart := fun caller given wanted => (keeps caller given wanted).1
    exact ⟨filed.startAbilityByCallInner apart retval isHeld,
      informed.startAbilityByCallInner filed keeps retval isHeld⟩
  | releaseCall callback isReleased =>
    exact ⟨filed.releaseCall callback isReleased, informed.releaseCall filed callback isReleased⟩
  | clearFailedCallConnection callback =>
    exact ⟨filed.clearFailedCallConnection callback keeps,
      informed.clearFailedCallConnection callback⟩
  | onCallStubDied remote =>
    have same : container.step env (.onCallStubDied remote) = container :=
      onCallStubDied_unplaced filed keeps
    rw [same]
    exact ⟨filed, informed⟩
  | onAbilityConnectDone connection remoteObject code =>
    exact ⟨filed.onAbilityConnectDone connection remoteObject keeps,
      informed.onAbilityConnectDone connection remoteObject code⟩
  | onAbilityDisconnectDone connection code =>
    exact ⟨filed.onAbilityDisconnectDone connection code,
      informed.onAbilityDisconnectDone filed connection code⟩
  | dropConnection connection =>
    exact ⟨(sameFiling_dropConnection connection).filed filed, informed.dropConnection connection⟩

theorem Filed.leavesRecords (filed : container.Filed env) {step : LocalCallStep}
    (keeps : container.Keeps env step) : container.LeavesRecords env step := by
  cases step with
  | startAbilityByCallInner request callback retval isHeld =>
    intro failed record earlier
    have filing := @sameFiling_getValidUserId container request.accountId request.processUserId
    have apart := fun caller given wanted => (keeps caller given wanted).1
    rcases @startAbilityByCallInner_cases env container request callback apart retval isHeld with
      same | ⟨caller, -, -, same | ⟨found, remote, -, same⟩⟩
    · rw [same]
      exact ⟨rfl, rfl⟩
    · have other : record ≠ container.nextRecord := Nat.ne_of_lt earlier
      rw [same, <- filing.nextRecord, startCall_of retval isHeld (newCall_linked ..) fun present =>
        Nat.lt_irrefl _ ((filing.filed filed).made present)]
      dsimp only
      rw [newCall_record, Function.update_idem, filing.nextRecord, Function.update_of_ne other,
        getValidUserId_of]
      exact ⟨rfl, rfl⟩
    · rw [same] at failed
      exact absurd rfl failed
  | releaseCall _ _ | clearFailedCallConnection _ | onCallStubDied _ | onAbilityConnectDone _ _ _
  | onAbilityDisconnectDone _ _ | dropConnection _ => trivial

theorem Coherent.start : ({} : LocalCallContainer).Coherent env where
  filed := {
    singletons := wellFormed_empty id, multiples := wellFormed_empty id
    singleton := fun key record present => by simp at present
    multiple := fun key record present => by simp at present
    exact := fun connection => by
      refine ⟨by simp, ?_⟩
      rintro ⟨record, -, ⟨⟩⟩
    owner := nofun, owned := nofun
    connected := by
      rintro record ⟨key, present | present⟩
      all_goals simp at present }
  informed := {
    once := List.nodup_nil, distinct := fun _ _ => List.nodup_nil, unreleased := nofun
    apart := nofun }

end LocalCallContainer

open LocalCallContainer

/-- The books agree and errors leave them, as long as connections come and go one by one. -/
theorem localCallContainer_good (env : Environment) (steps : List LocalCallStep)
    (keeps : (localCallContainer env).EveryStep steps (Keeps env)) :
    (localCallContainer env).Throughout steps (Good env) ∧
      (localCallContainer env).EveryStep steps (LeavesRecords env) := by
  have sound := keeps.throughout Coherent.start
    fun container step sound keeps => sound.step step keeps
  constructor
  · exact fun reached rest split => (sound reached rest split).good
  · exact fun reached step rest split =>
      (sound reached (step :: rest) split).filed.leavesRecords (keeps reached step rest split)

def elementEnvironment : Environment where
  getURI element :=
    element.deviceId ++ "/" ++ element.bundleName ++ "/" ++ element.moduleName ++ "/" ++
      element.abilityName
  parseURI uri :=
    match uri.toList.splitOn '/' with
    | [deviceId, bundleName, moduleName, abilityName] =>
      some ⟨ofList deviceId, ofList bundleName, ofList moduleName, ofList abilityName⟩
    | _ => none
  address := id

def callNotes : CallRequest where
  element := { bundleName := "notes", abilityName := "sync" }

def callFiles : CallRequest where
  element := { bundleName := "files", abilityName := "open" }

theorem localCallContainer_good_shared :
    let steps : List LocalCallStep :=
      [.startAbilityByCallInner callNotes (some 0) .errOk true, .onAbilityConnectDone 0 (some 7) 0,
        .startAbilityByCallInner callNotes (some 1) .errOk true,
        .startAbilityByCallInner callFiles (some 2) (.other 5) false,
        .startAbilityByCallInner callFiles (some 3) .errOk true,
        .onAbilityConnectDone 2 (some 8) 1, .releaseCall (some 0) true, .releaseCall (some 1) true,
        .onAbilityDisconnectDone 2 1]
    let container := (localCallContainer elementEnvironment).run steps
    container.releases = [(0, .onRelease), (1, .onRelease), (3, .onDied)] ∧
      container.connections = [] ∧
      (localCallContainer elementEnvironment).Throughout steps (Good elementEnvironment) ∧
      (localCallContainer elementEnvironment).EveryStep steps
        (LeavesRecords elementEnvironment) := by
  intro steps container
  refine ⟨by decide, by decide, localCallContainer_good elementEnvironment steps ?_⟩
  exact Machine.StepsFrom.everyStep (by decide)

theorem stubDied_releases_twice :
    let steps : List LocalCallStep :=
      [.startAbilityByCallInner callNotes (some 0) .errOk true, .onAbilityConnectDone 0 (some 7) 0,
        .onCallStubDied (some 7), .onAbilityDisconnectDone 0 1]
    ((localCallContainer elementEnvironment).run steps).releases = [(0, .onDied), (0, .onDied)] ∧
      ¬(localCallContainer elementEnvironment).Throughout steps (Good elementEnvironment) := by
  intro steps
  refine ⟨by decide, fun good => ?_⟩
  exact absurd (good steps [] (List.append_nil _).symm).releasedOnce (by decide)

end AbilityRuntime.LocalCall
