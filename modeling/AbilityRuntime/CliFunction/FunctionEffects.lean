import AbilityRuntime.CliFunction.FunctionMap

set_option autoImplicit false

namespace AbilityRuntime.CliFunction

open Library FunctionMap List Nat KvStore Option

variable {text : JsonText} {session : KvSession} {map : FunctionMap}

/-! ### What the store does to the map -/

namespace KvSession

def Steady (session : KvSession) : Prop := ∀ answer ∈ session.answers, answer ≠ .fails

def Holds (text : JsonText) (session : KvSession) (map : FunctionMap) : Prop :=
  Represents text session.store.entries map

@[simp] theorem answer_store (session : KvSession) : session.answer.2.store = session.store := by
  unfold answer
  split <;> rfl

theorem Steady.answer (steady : session.Steady) :
    session.answer.1 ≠ .fails ∧ session.answer.2.Steady := by
  unfold KvSession.answer
  split
  · exact ⟨nofun, steady⟩
  next first rest given =>
    exact ⟨steady first (by simp [given]), fun answer mem => steady answer (by simp [given, mem])⟩

theorem getKvStore_entries (session : KvSession) :
    session.getKvStore.2.store.entries = session.store.entries ∧
      (session.getKvStore.1 = .success -> session.getKvStore.2.store.opened = true) := by
  have kept := session.answer_store
  unfold getKvStore
  split
  next after answered =>
    rw [answered] at kept
    have same : after.store = session.store := kept
    exact ⟨congrArg entries same, nofun⟩
  next after _ answered =>
    rw [answered] at kept
    have same : after.store = session.store := kept
    exact ⟨by rw [<- same], fun _ => rfl⟩

theorem tryKvStore_entries (tryTimes : Nat) (session : KvSession) :
    (tryKvStore tryTimes session).2.store.entries = session.store.entries ∧
      ((tryKvStore tryTimes session).1 = true ->
        (tryKvStore tryTimes session).2.store.opened = true) := by
  induction tryTimes generalizing session with
  | zero => exact ⟨rfl, id⟩
  | succ tryTimes ih =>
    have once := session.getKvStore_entries
    rw [tryKvStore]
    split
    next after got =>
      rw [got] at once
      exact ⟨once.1, fun _ => once.2 rfl⟩
    next after _ got =>
      rw [got] at once
      exact ⟨(ih after).1.trans once.1, (ih after).2⟩

theorem checkKvStore_entries (session : KvSession) :
    session.checkKvStore.2.store.entries = session.store.entries ∧
      (session.checkKvStore.1 = true -> session.checkKvStore.2.store.opened = true) := by
  unfold checkKvStore
  split
  next opened => exact ⟨rfl, fun _ => opened⟩
  · exact tryKvStore_entries MAX_TIMES session

theorem checkKvStore_opened (opened : session.store.opened = true) :
    session.checkKvStore = (true, session) := by
  rw [checkKvStore, if_pos opened]

theorem Steady.getKvStore (steady : session.Steady) :
    session.getKvStore.1 = .success ∧ session.getKvStore.2.Steady := by
  have first := steady.answer
  unfold KvSession.getKvStore
  split
  next after answered =>
    rw [answered] at first
    exact absurd rfl first.1
  next after _ answered =>
    rw [answered] at first
    exact ⟨rfl, first.2⟩

theorem Steady.checkKvStore (steady : session.Steady) :
    session.checkKvStore.1 = true ∧ session.checkKvStore.2.Steady := by
  unfold KvSession.checkKvStore
  split
  · exact ⟨rfl, steady⟩
  · have once := steady.getKvStore
    cases got : session.getKvStore with
    | mk status after =>
      rw [got] at once
      obtain ⟨rfl, later⟩ := once
      rw [MAX_TIMES, tryKvStore, got]
      exact ⟨rfl, later⟩

theorem Steady.get (steady : session.Steady) (key : String) :
    (session.get key).1 ≠ .error .failed := by
  have first := steady.answer
  unfold KvSession.get
  split
  next after answered =>
    rw [answered] at first
    exact absurd rfl first.1
  · split <;> nofun

theorem Steady.getEntries (steady : session.Steady) (prefixKey : String) :
    (session.getEntries prefixKey).1 ≠ none := by
  have first := steady.answer
  unfold KvSession.getEntries
  split
  next after answered =>
    rw [answered] at first
    exact absurd rfl first.1
  · nofun

section

variable (holds : session.Holds text map)
include holds

theorem Holds.checkKvStore : session.checkKvStore.2.Holds text map := by
  rw [Holds, session.checkKvStore_entries.1]
  exact holds

theorem Holds.get (key : String) :
    (session.get key).2.Holds text map ∧
      match (session.get key).1 with
      | .ok value => session.lookup key = some value
      | .error .keyNotFound => session.lookup key = none
      | .error _ => True := by
  have same := session.answer_store
  unfold KvSession.get
  split
  next after answered =>
    rw [answered] at same
    have held : after.store = session.store := same
    exact ⟨by rw [Holds, held]; exact holds, trivial⟩
  next after _ answered =>
    rw [answered] at same
    have held : after.store = session.store := same
    have looked : after.lookup key = session.lookup key := by rw [lookup, lookup, held]
    have kept : after.Holds text map := by
      rw [Holds, held]
      exact holds
    split
    next missing => exact ⟨kept, looked.symm.trans missing⟩
    next value found => exact ⟨kept, looked.symm.trans found⟩

theorem Holds.getEntries (prefixKey : String) :
    (session.getEntries prefixKey).2.Holds text map ∧
      (session.getEntries prefixKey).2.store.opened = session.store.opened ∧
      ∀ entries, (session.getEntries prefixKey).1 = some entries ->
        entries.Perm ((session.store.entries.entries.map fun entry => (entry.1, entry.2)).filter
          fun entry => prefixKey.toList.isPrefixOf entry.1.toList) := by
  have same := session.answer_store
  unfold KvSession.getEntries
  split
  next after answered =>
    rw [answered] at same
    have held : after.store = session.store := same
    refine ⟨?_, congrArg opened held, nofun⟩
    rw [Holds, held]
    exact holds
  next after _ answered =>
    rw [answered] at same
    have held : after.store = session.store := same
    refine ⟨?_, congrArg opened held, ?_⟩
    · rw [Holds, held]
      exact holds
    · rintro _ ⟨⟩
      rw [held]
      exact after.entryOrder.perm _

theorem Holds.put {function : FunctionInfo} (valid : function.validate text = true)
    (lossless : text.Lossless function.parseToJson) :
    let put := session.put function.storeKey (text.dump function.parseToJson)
    if put.1 = .success then put.2.Holds text (map.accept function) else put.2.Holds text map := by
  have same := session.answer_store
  unfold KvSession.put
  split
  next after answered =>
    rw [answered] at same
    have held : after.store = session.store := same
    simp only [reduceCtorEq, if_false, Holds, held]
    exact holds
  next after _ answered =>
    rw [answered] at same
    have held : after.store = session.store := same
    simp only [if_true, Holds, withEntries, held]
    exact holds.insert valid lossless

theorem Holds.delete (key : String) :
    (session.delete key).2.store.opened = session.store.opened ∧
      if (session.delete key).1 = .failed then (session.delete key).2.Holds text map
      else (session.delete key).2.Holds text (map.forget [key]) ∧
        ((session.delete key).1 = .keyNotFound -> map.forget [key] = map) := by
  have same := session.answer_store
  unfold KvSession.delete
  split
  next after answered =>
    rw [answered] at same
    have held : after.store = session.store := same
    simp only [if_true, Holds, held, true_and]
    exact holds
  next after answered =>
    rw [answered] at same
    have held : after.store = session.store := same
    split
    next missing =>
      simp only [reduceCtorEq, if_false, Holds, held, true_and, forall_const]
      have none : session.store.entries.lookup key = none := by
        rw [<- held]
        exact isNone_iff_eq_none.mp missing
      rw [holds.forget_missing none]
      exact ⟨holds, rfl⟩
    · simp only [reduceCtorEq, if_false, Holds, withEntries, held, true_and, false_implies, and_true]
      exact holds.erase key
  next after answered =>
    rw [answered] at same
    have held : after.store = session.store := same
    simp only [reduceCtorEq, if_false, Holds, withEntries, held, true_and, false_implies, and_true]
    exact holds.erase key

end

end KvSession

/-! ### What the data manager does to the map -/

open KvSession

variable {function : FunctionInfo}

theorem storeFunctionNoLock_holds (holds : session.Holds text map)
    (valid : function.validate text = true) (lossless : text.Lossless function.parseToJson) :
    let stored := storeFunctionNoLock text function session
    if stored.1 = .ok then stored.2.Holds text (map.accept function)
    else stored.2.Holds text map := by
  have put := holds.put valid lossless
  unfold storeFunctionNoLock
  cases done : session.put function.storeKey (text.dump function.parseToJson) with
  | mk status after =>
    rw [done] at put
    cases status with
    | success => exact put
    | keyNotFound | failed => exact put

theorem registerFunction_holds (holds : session.Holds text map)
    (valid : function.validate text = true) (lossless : text.Lossless function.parseToJson) :
    let registered := registerFunction text function session
    if registered.1 = .ok then registered.2.Holds text (map.accept function)
    else registered.2.Holds text map := by
  have checked := holds.checkKvStore
  unfold registerFunction
  cases check : session.checkKvStore with
  | mk ready after =>
    rw [check] at checked
    cases ready with
    | false => exact checked
    | true => exact storeFunctionNoLock_holds (checked.get function.storeKey).1 valid lossless

def Storable (text : JsonText) (functions : List FunctionInfo) : Prop :=
  ∀ function ∈ functions, function.validate text = true ∧ text.Lossless function.parseToJson

variable {functions : List FunctionInfo}

theorem storeFunctions_holds (storable : Storable text functions) (holds : session.Holds text map)
    (successCount : Nat) :
    ∃ count, count ≤ functions.length ∧
      (storeFunctions text functions successCount session).1 = successCount + count ∧
      (storeFunctions text functions successCount session).2.Holds text
        (map.acceptAll (functions.take count)) := by
  induction functions generalizing session map successCount with
  | nil => exact ⟨0, le_refl _, rfl, holds⟩
  | cons function rest ih =>
    obtain ⟨valid, lossless⟩ := storable function mem_cons_self
    have checked := holds.checkKvStore
    rw [storeFunctions]
    cases check : session.checkKvStore with
    | mk ready after =>
      rw [check] at checked
      cases ready with
      | false => exact ⟨0, zero_le _, rfl, checked⟩
      | true =>
        have stored := storeFunctionNoLock_holds checked valid lossless
        simp only
        cases store : storeFunctionNoLock text function after with
        | mk code later =>
          rw [store] at stored
          split
          next _ last equal =>
            cases equal
            obtain ⟨count, bound, counted, kept⟩ :=
              ih (fun other mem => storable other (mem_cons_of_mem _ mem)) stored (successCount + 1)
            refine ⟨count + 1, succ_le_succ bound, ?_, kept⟩
            rw [counted]
            omega
          next _ _ last fails equal =>
            cases equal
            rw [if_neg fails] at stored
            exact ⟨0, zero_le _, rfl, stored⟩

theorem addNewFunctions_holds (storable : Storable text functions) (holds : session.Holds text map)
    (newKeys : List String) (successCount : Nat) :
    let added := addNewFunctions text functions newKeys successCount session
    ∃ count, count ≤ functions.length ∧ added.successCount = successCount + count ∧
      added.session.Holds text (map.acceptAll (functions.take count)) ∧
      (added.code = .ok -> count = functions.length ∧
        added.newKeys = newKeys ++ functions.map FunctionInfo.storeKey) ∧
      (added.code ≠ .ok -> count < functions.length) := by
  induction functions generalizing session map newKeys successCount with
  | nil => exact ⟨0, le_refl _, rfl, holds, fun _ => ⟨rfl, by simp [addNewFunctions]⟩,
      fun error => absurd rfl error⟩
  | cons function rest ih =>
    obtain ⟨valid, lossless⟩ := storable function mem_cons_self
    have checked := holds.checkKvStore
    rw [addNewFunctions, if_neg (not_not.mpr (by rfl))]
    cases check : session.checkKvStore with
    | mk ready after =>
      rw [check] at checked
      cases ready with
      | false => exact ⟨0, zero_le _, rfl, checked, nofun, fun _ => succ_pos _⟩
      | true =>
        have stored := storeFunctionNoLock_holds checked valid lossless
        simp only
        cases store : storeFunctionNoLock text function after with
        | mk code later =>
          rw [store] at stored
          split
          next _ last equal =>
            cases equal
            obtain ⟨count, bound, counted, kept, complete, fails⟩ :=
              ih (fun other mem => storable other (mem_cons_of_mem _ mem))
                stored (newKeys ++ [function.storeKey]) (successCount + 1)
            refine ⟨count + 1, succ_le_succ bound, ?_, kept, fun success => ?_, fun error => ?_⟩
            · rw [counted]
              omega
            · obtain ⟨all, keys⟩ := complete success
              exact ⟨by rw [all, length_cons], by rw [keys]; simp⟩
            · exact succ_lt_succ (fails error)
          next _ error last fails equal =>
            cases equal
            rw [if_neg fails] at stored
            exact ⟨0, zero_le _, rfl, stored, fun success => absurd success fails,
              fun _ => succ_pos _⟩

theorem deleteObsoleteFunctions_holds (holds : session.Holds text map)
    (newKeys keys : List String) :
    let deleted := deleteObsoleteFunctions newKeys keys session
    ∃ removed, (∀ key ∈ removed, key ∈ keys ∧ key ∉ newKeys) ∧
      deleted.2.Holds text (map.forget removed) ∧
      (deleted.1 = .ok -> ∀ key ∈ keys, key ∉ newKeys -> key ∈ removed) := by
  induction keys generalizing session map with
  | nil =>
    refine ⟨[], nofun, ?_, nofun⟩
    exact holds
  | cons oldKey rest ih =>
    rw [deleteObsoleteFunctions]
    split
    next kept =>
      obtain ⟨removed, inside, after, complete⟩ := ih holds
      refine ⟨removed, fun key mem => ?_, after, fun success key mem new => ?_⟩
      · exact ⟨mem_cons_of_mem _ (inside key mem).1, (inside key mem).2⟩
      · obtain rfl | later := mem_cons.mp mem
        exacts [absurd kept new, complete success key later new]
    next obsolete =>
      have checked := holds.checkKvStore
      cases check : session.checkKvStore with
      | mk ready after =>
        rw [check] at checked
        cases ready with
        | false =>
          refine ⟨[], nofun, ?_, nofun⟩
          exact checked
        | true =>
          have deleted := (checked.delete oldKey).2
          simp only
          cases delete : after.delete oldKey with
          | mk status later =>
            rw [delete] at deleted
            split
            next _ last equal =>
              cases equal
              refine ⟨[], nofun, ?_, nofun⟩
              exact deleted
            next _ status last fails equal =>
              cases equal
              rw [if_neg fails] at deleted
              obtain ⟨removed, inside, kept, complete⟩ := ih deleted.1
              rw [map.forget_forget] at kept
              refine ⟨[oldKey] ++ removed, fun key mem => ?_, kept, fun success key mem new => ?_⟩
              · obtain rfl | earlier := mem_cons.mp mem
                · exact ⟨mem_cons_self, obsolete⟩
                · obtain ⟨mem, new⟩ := inside key earlier
                  exact ⟨mem_cons_of_mem _ mem, new⟩
              · obtain rfl | rest := mem_cons.mp mem
                · exact mem_cons_self
                · exact mem_cons_of_mem _ (complete success key rest new)

theorem deleteIntentFunctions_holds (holds : session.Holds text map)
    (opened : session.store.opened = true) (entries : List (String × String)) :
    let deleted := deleteIntentFunctions text entries session
    ∃ removed, (∀ key ∈ removed, ∃ value, (key, value) ∈ entries) ∧
      deleted.2.Holds text (map.forget removed) ∧
      (deleted.1 = .ok -> ∀ entry ∈ entries, isIntentFunction text entry.2 = true ->
        entry.1 ∈ removed) := by
  induction entries generalizing session map with
  | nil =>
    refine ⟨[], nofun, ?_, nofun⟩
    exact holds
  | cons entry rest ih =>
    rw [deleteIntentFunctions, checkKvStore_opened opened]
    simp only
    by_cases intent : isIntentFunction text entry.2 = true
    · rw [if_neg (by simp [intent])]
      obtain ⟨stays, deleted⟩ := holds.delete entry.1
      cases delete : session.delete entry.1 with
      | mk status later =>
        rw [delete] at deleted stays
        split
        next _ last equal =>
          cases equal
          refine ⟨[], nofun, ?_, nofun⟩
          exact deleted
        next _ status last fails equal =>
          cases equal
          rw [if_neg fails] at deleted
          obtain ⟨removed, inside, kept, complete⟩ := ih deleted.1 (stays.trans opened)
          rw [map.forget_forget] at kept
          refine ⟨[entry.1] ++ removed, fun key mem => ?_, kept, fun success other mem held => ?_⟩
          · obtain rfl | earlier := mem_cons.mp mem
            · exact ⟨entry.2, mem_cons_self⟩
            · obtain ⟨value, later⟩ := inside key earlier
              exact ⟨value, mem_cons_of_mem _ later⟩
          · obtain rfl | rest := mem_cons.mp mem
            · exact mem_cons_self
            · exact mem_cons_of_mem _ (complete success other rest held)
    · rw [if_pos (by simp [intent])]
      obtain ⟨removed, inside, kept, complete⟩ := ih holds opened
      refine ⟨removed, fun key mem => ?_, kept, fun success other mem held => ?_⟩
      · obtain ⟨value, later⟩ := inside key mem
        exact ⟨value, mem_cons_of_mem _ later⟩
      · obtain rfl | rest := mem_cons.mp mem
        exacts [absurd held intent, complete success other rest held]

/-! ### What a prefix query finds -/

theorem Represents.mem_filtered {entries : KeyedMap String String}
    (represents : Represents text entries map) (chosen : String -> Bool) (entry : String × String) :
    entry ∈ (entries.entries.map fun entry => (entry.1, entry.2)).filter
        (fun entry => chosen entry.1) ↔
      ∃ function, map function.mapKey = some function ∧ chosen function.storeKey = true ∧
        entry = (function.storeKey, text.dump function.parseToJson) := by
  rw [mem_filter, List.mem_map]
  constructor
  · rintro ⟨⟨⟨key, value⟩, mem, rfl⟩, meets⟩
    obtain ⟨function, held, rfl, rfl⟩ :=
      (represents.stored key value).mp (AList.mem_lookup_iff.mpr mem)
    exact ⟨function, held, meets, rfl⟩
  · rintro ⟨function, held, meets, rfl⟩
    have found := (represents.stored _ _).mpr ⟨function, held, rfl, rfl⟩
    exact ⟨⟨⟨function.storeKey, _⟩, AList.mem_lookup_iff.mp found, rfl⟩, meets⟩

theorem Represents.isIntentFunction {entries : KeyedMap String String}
    (represents : Represents text entries map) (held : map function.mapKey = some function) :
    isIntentFunction text (text.dump function.parseToJson) = true := by
  obtain ⟨_, valid, lossless⟩ := represents.sound _ function held
  rw [CliFunction.isIntentFunction, readFunction_dump valid lossless]
  rfl

theorem namespace_entries (holds : session.Holds text map) (functionNamespace : String) :
    ∀ entries, (session.getEntries (functionNamespace ++ "/")).1 = some entries ->
      ∀ entry, entry ∈ entries ↔ ∃ function, map function.mapKey = some function ∧
        function.functionNamespace = functionNamespace ∧
          entry = (function.storeKey, text.dump function.parseToJson) := by
  intro entries found entry
  rw [((holds.getEntries _).2.2 entries found).mem_iff]
  rw [Represents.mem_filtered holds
    (fun key => (functionNamespace ++ "/").toList.isPrefixOf key.toList) entry]
  refine exists_congr fun function => and_congr_right fun held => and_congr_left fun _ => ?_
  exact isPrefixOf_storeKey (holds.sound _ function held).2.1 functionNamespace

theorem lastOf_eq_none {key : String × String} :
    lastOf functions key = none ↔ ∀ function ∈ functions, function.mapKey ≠ key := by
  simp [lastOf]

theorem acceptAll_of_notMem {key : String × String}
    (absent : ∀ function ∈ functions, function.mapKey ≠ key) :
    map.acceptAll functions key = map key := by
  rw [map.acceptAll_apply, lastOf_eq_none.mpr absent, none_or]

theorem unregisterIntentFunctionsByNamespace_holds (holds : session.Holds text map)
    (functionNamespace : String) :
    let unregistered := unregisterIntentFunctionsByNamespace text functionNamespace session
    ∃ after, unregistered.2.Holds text after ∧
      (∀ key, key.1 ≠ functionNamespace -> after key = map key) ∧
      (∀ key, after key = map key ∨ after key = none) ∧
      (unregistered.1 = .ok -> ∀ name, after (functionNamespace, name) = none) := by
  have checked := holds.checkKvStore
  have opened := session.checkKvStore_entries.2
  unfold unregisterIntentFunctionsByNamespace
  cases check : session.checkKvStore with
  | mk ready ready' =>
    rw [check] at checked opened
    cases ready with
    | false => exact ⟨map, checked, fun _ _ => rfl, fun _ => .inl rfl, nofun⟩
    | true =>
      simp only
      have found := namespace_entries checked functionNamespace
      obtain ⟨kept, stays, _⟩ := checked.getEntries (functionNamespace ++ "/")
      cases query : ready'.getEntries (functionNamespace ++ "/") with
      | mk entries queried =>
        rw [query] at found kept stays
        cases entries with
        | none => exact ⟨map, kept, fun _ _ => rfl, fun _ => .inl rfl, nofun⟩
        | some entries =>
          have listed := found entries rfl
          obtain ⟨removed, inside, after, complete⟩ :=
            deleteIntentFunctions_holds kept (stays.trans (opened rfl)) entries
          refine ⟨map.forget removed, after, fun key other => ?_, fun key => ?_,
            fun success name => ?_⟩
          · rw [forget]
            split
            next gone =>
              obtain ⟨value, mem⟩ := inside _ gone
              obtain ⟨function, held, own, equal⟩ := (listed _).mp mem
              have valid := (checked.sound _ function held).2.1
              have same := (generateFunctionKey_eq valid).mp (Prod.mk.inj equal).1
              rw [same] at other
              exact absurd own other
            · rfl
          · rw [forget]
            split
            · exact .inr rfl
            · exact .inl rfl
          · rw [forget]
            split
            · rfl
            next stays =>
              cases held : map (functionNamespace, name) with
              | none => rfl
              | some function =>
                have same := (checked.sound _ function held).1
                rw [<- same] at held
                have own : function.functionNamespace = functionNamespace := congrArg Prod.fst same
                have gone := complete success _ ((listed _).mpr ⟨function, held, own, rfl⟩)
                  (checked.isIntentFunction held)
                have named : generateFunctionKey functionNamespace name = function.storeKey :=
                  congrArg (fun key : String × String => generateFunctionKey key.1 key.2) same.symm
                rw [named] at stays
                exact absurd gone stays

theorem getExistingIntentFunctions_holds (holds : session.Holds text map)
    (functionNamespace : String) :
    let existing := getExistingIntentFunctions text functionNamespace session
    existing.2.Holds text map ∧
      match existing.1 with
      | .error code => code ≠ .ok
      | .ok keys => ∀ key, key ∈ keys ↔ ∃ function, map function.mapKey = some function ∧
          function.functionNamespace = functionNamespace ∧ key = function.storeKey := by
  have checked := holds.checkKvStore
  unfold getExistingIntentFunctions
  cases check : session.checkKvStore with
  | mk ready ready' =>
    rw [check] at checked
    cases ready with
    | false => exact ⟨checked, nofun⟩
    | true =>
      simp only
      have found := namespace_entries checked functionNamespace
      have kept := (checked.getEntries (functionNamespace ++ "/")).1
      cases query : ready'.getEntries (functionNamespace ++ "/") with
      | mk entries queried =>
        rw [query] at found kept
        cases entries with
        | none => exact ⟨kept, nofun⟩
        | some entries =>
          refine ⟨kept, fun key => ?_⟩
          rw [List.mem_map]
          constructor
          · rintro ⟨entry, mem, rfl⟩
            obtain ⟨function, held, own, rfl⟩ := (found entries rfl _).mp (mem_of_mem_filter mem)
            exact ⟨function, held, own, rfl⟩
          · rintro ⟨function, held, own, rfl⟩
            refine ⟨_, mem_filter.mpr ⟨(found entries rfl _).mpr ⟨function, held, own, rfl⟩, ?_⟩, rfl⟩
            exact checked.isIntentFunction held

theorem ResetRule.refused {functionNamespace : String} {valid : List FunctionInfo} {reply : Reply}
    (error : reply.code ≠ .ok) (none : reply.successCount = 0) :
    ResetRule functionNamespace valid map reply map where
  others := fun _ _ => rfl
  complete := fun success => absurd success error
  storing := fun _ _ => ⟨by rw [none]; rfl, fun _ held => held⟩
  deleting := fun _ key => .inl (by rw [none]; rfl)

theorem resetNamespaceFunctions_holds (holds : session.Holds text map) {functionNamespace : String}
    (storable : Storable text functions)
    (own : ∀ function ∈ functions, function.functionNamespace = functionNamespace) :
    let reset := resetNamespaceFunctions text functionNamespace functions session
    ∃ after, reset.2.2.Holds text after ∧ ResetRule functionNamespace functions map
      { code := reset.1, successCount := reset.2.1 } after := by
  unfold resetNamespaceFunctions
  split
  · exact ⟨map, holds, ResetRule.refused nofun rfl⟩
  · obtain ⟨kept, existing⟩ := getExistingIntentFunctions_holds holds functionNamespace
    cases query : getExistingIntentFunctions text functionNamespace session with
    | mk keys queried =>
      rw [query] at kept existing
      cases keys with
      | error code => exact ⟨map, kept, ResetRule.refused existing rfl⟩
      | ok keys =>
        simp only
        obtain ⟨count, bound, counted, stored, complete, fails⟩ :=
          addNewFunctions_holds storable kept [] 0
        have others (functions' : List FunctionInfo) (part : functions' ⊆ functions)
            (key : String × String) (other : key.1 ≠ functionNamespace) :
            map.acceptAll functions' key = map key := by
          refine acceptAll_of_notMem fun function mem same => other ?_
          rw [<- same]
          exact own function (part mem)
        rw [zero_add] at counted
        split
        next error =>
          refine ⟨_, stored, ?_, fun success => absurd success error, fun _ _ => ?_, fun _ key => ?_⟩
          · exact others _ (take_subset _ _)
          · refine ⟨by rw [counted], fun key held => ?_⟩
            rw [map.acceptAll_apply]
            exact fun none => held (or_eq_none_iff.mp none).2
          · exact .inl (by rw [counted])
        next success =>
          obtain ⟨all, newKeys⟩ := complete (not_not.mp success)
          rw [all, take_length] at stored
          rw [all] at counted
          obtain ⟨removed, inside, after, deleted⟩ := deleteObsoleteFunctions_holds stored
            (addNewFunctions text functions [] 0 queried).newKeys (queried.keyOrder.arrange keys)
          have added : (addNewFunctions text functions [] 0 queried).newKeys =
              functions.map FunctionInfo.storeKey := newKeys
          have obsolete {key : String × String} (gone : generateFunctionKey key.1 key.2 ∈ removed) :
              key.1 = functionNamespace ∧ ∀ function ∈ functions, function.mapKey ≠ key := by
            obtain ⟨arranged, new⟩ := inside _ gone
            obtain ⟨function, held, own', equal⟩ :=
              (existing _).mp ((queried.keyOrder.perm keys).mem_iff.mp arranged)
            have valid := (holds.sound _ function held).2.1
            have same := (generateFunctionKey_eq valid).mp equal
            refine ⟨by rw [same]; exact own', fun other mem equal' => new ?_⟩
            rw [added, <- equal']
            exact mem_map.mpr ⟨other, mem, rfl⟩
          refine ⟨_, after, fun key other => ?_, fun done => ⟨own, fun name => ?_⟩,
            fun _ fewer => ?_, fun _ key => ?_⟩
          · rw [forget, if_neg fun gone => other (obsolete gone).1]
            exact others functions (fun _ mem => mem) key other
          · rw [forget]
            split
            next gone => exact (lastOf_eq_none.mpr (obsolete gone).2).symm
            next stays =>
              rw [map.acceptAll_apply]
              cases last : lastOf functions (functionNamespace, name) with
              | some function => rfl
              | none =>
                cases held : map (functionNamespace, name) with
                | none => rfl
                | some function =>
                  have same := (holds.sound _ function held).1
                  have named : function.storeKey = generateFunctionKey functionNamespace name :=
                    congrArg (fun key : String × String => generateFunctionKey key.1 key.2) same
                  rw [<- named] at stays
                  refine absurd (deleted done _ ?_ fun new => ?_) stays
                  · refine (queried.keyOrder.perm keys).mem_iff.mpr ((existing _).mpr ?_)
                    exact ⟨function, by rw [same]; exact held, congrArg Prod.fst same, rfl⟩
                  · rw [added] at new
                    obtain ⟨other, mem, equal⟩ := mem_map.mp new
                    have valid := (holds.sound _ function held).2.1
                    have keys : other.mapKey = function.mapKey :=
                      (generateFunctionKey_eq valid).mp equal
                    exact lastOf_eq_none.mp last other mem (keys.trans same)
          · rw [counted] at fewer
            exact absurd fewer (lt_irrefl _)
          · rw [forget]
            split
            next gone => exact .inr ⟨counted, lastOf_eq_none.mpr (obsolete gone).2, rfl⟩
            · exact .inl (by rw [counted, take_length])

end AbilityRuntime.CliFunction
