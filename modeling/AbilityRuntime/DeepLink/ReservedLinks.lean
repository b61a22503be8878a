import AbilityRuntime.DeepLink.DeepLinkReserveConfig
import Mathlib.Data.List.TakeWhile

set_option autoImplicit false

namespace AbilityRuntime.DeepLink

open Library List Option

def withoutQuery (link : String) : String :=
  String.ofList (link.toList.takeWhile (· ≠ PARAM_SEPARATOR))

def ReserveUri.Pathless (uri : ReserveUri) : Prop :=
  uri.path = "" ∧ uri.pathStartWith = "" ∧ uri.pathRegex = ""

inductive ReserveUri.Reserves (regexMatch : String -> String -> Bool) (uri : ReserveUri) :
    String -> Prop where
  | scheme : uri.host = "" -> Reserves regexMatch uri uri.scheme
  | underScheme (rest : String) : uri.host = "" ->
      Reserves regexMatch uri (uri.scheme ++ PORT_SEPARATOR ++ rest)
  | origin : uri.host ≠ "" -> uri.Pathless -> Reserves regexMatch uri uri.origin
  | anyPath (rest : String) : uri.host ≠ "" -> uri.Pathless ->
      Reserves regexMatch uri (uri.origin ++ PATH_SEPARATOR ++ rest)
  | anyPort (rest : String) : uri.host ≠ "" -> uri.Pathless -> uri.port = "" ->
      Reserves regexMatch uri (uri.origin ++ PORT_SEPARATOR ++ rest)
  | path : uri.host ≠ "" -> uri.path ≠ "" ->
      Reserves regexMatch uri (uri.origin ++ PATH_SEPARATOR ++ uri.path)
  | pathStart (rest : String) : uri.host ≠ "" -> uri.pathStartWith ≠ "" ->
      Reserves regexMatch uri (uri.origin ++ PATH_SEPARATOR ++ uri.pathStartWith ++ rest)
  | pathRegex (link : String) : uri.host ≠ "" -> uri.pathRegex ≠ "" ->
      regexMatch (uri.origin ++ PATH_SEPARATOR ++ uri.pathRegex) link = true ->
      Reserves regexMatch uri link

theorem startsWith_iff {sourceString targetPrefix : String} :
    startsWith sourceString targetPrefix = true ↔ ∃ rest, sourceString = targetPrefix ++ rest := by
  rw [startsWith, isPrefixOf_iff_prefix]
  constructor
  · rintro ⟨rest, joined⟩
    exact ⟨String.ofList rest, String.toList_injective (by simp [<- joined])⟩
  · rintro ⟨rest, rfl⟩
    exact ⟨rest.toList, by simp⟩

theorem cut_last {separator : Char} (before : List Char) {after : List Char}
    (apart : separator ∉ after) :
    ((before ++ separator :: after).reverse.dropWhile (· ≠ separator)).tail.reverse = before := by
  have skipped : ∀ char ∈ after.reverse, decide (char ≠ separator) = true := by
    intro char mem
    simp only [ne_eq, decide_eq_true_eq]
    rintro rfl
    exact apart (mem_reverse.1 mem)
  rw [reverse_append, reverse_cons, append_assoc, dropWhile_append_of_pos skipped]
  simp

variable {link : String}

theorem getOptParamUri_of_notMem (plain : PARAM_SEPARATOR ∉ link.toList) :
    getOptParamUri link = link := if_neg plain

theorem getOptParamUri_query (link : String) {query : String}
    (plain : PARAM_SEPARATOR ∉ query.toList) :
    getOptParamUri (link ++ String.singleton PARAM_SEPARATOR ++ query) = link := by
  have chars : (link ++ String.singleton PARAM_SEPARATOR ++ query).toList =
      link.toList ++ PARAM_SEPARATOR :: query.toList := by simp
  rw [getOptParamUri, chars, if_pos (by simp), cut_last link.toList plain, String.ofList_toList]

theorem kept_of_notMem (plain : PARAM_SEPARATOR ∉ link.toList) :
    ∀ char ∈ link.toList, decide (char ≠ PARAM_SEPARATOR) = true := by
  intro char mem
  refine decide_eq_true ?_
  rintro rfl
  exact plain mem

theorem withoutQuery_of_notMem (plain : PARAM_SEPARATOR ∉ link.toList) :
    withoutQuery link = link := by
  rw [withoutQuery, takeWhile_eq_self_iff.2 (kept_of_notMem plain), String.ofList_toList]

theorem withoutQuery_query (query : String) (plain : PARAM_SEPARATOR ∉ link.toList) :
    withoutQuery (link ++ String.singleton PARAM_SEPARATOR ++ query) = link := by
  have chars : (link ++ String.singleton PARAM_SEPARATOR ++ query).toList =
      link.toList ++ PARAM_SEPARATOR :: query.toList := by simp
  rw [withoutQuery, chars, takeWhile_append_of_pos (kept_of_notMem plain)]
  simp

theorem link_cases (link : String) :
    PARAM_SEPARATOR ∉ link.toList ∨ ∃ before after : String, PARAM_SEPARATOR ∉ before.toList ∧
      link = before ++ String.singleton PARAM_SEPARATOR ++ after := by
  by_cases mem : PARAM_SEPARATOR ∈ link.toList
  · obtain ⟨before, after, split, apart⟩ := eq_append_cons_of_mem mem
    refine .inr ⟨String.ofList before, String.ofList after, by simpa using apart, ?_⟩
    exact String.toList_injective (by simp [split])
  · exact .inl mem

theorem getOptParamUri_of_count
    (single : link.toList.count PARAM_SEPARATOR ≤ 1) : getOptParamUri link = withoutQuery link := by
  rcases link_cases link with plain | ⟨before, after, apart, rfl⟩
  · rw [getOptParamUri_of_notMem plain, withoutQuery_of_notMem plain]
  · have rest : PARAM_SEPARATOR ∉ after.toList := by
      rw [String.toList_append, String.toList_append, count_append, count_append,
        String.toList_singleton, count_singleton_self] at single
      exact count_eq_zero.1 (by omega)
    rw [getOptParamUri_query before rest, withoutQuery_query after apart]

theorem mem_getOptParamUri_of_count (more : 1 < link.toList.count PARAM_SEPARATOR) :
    PARAM_SEPARATOR ∈ (getOptParamUri link).toList := by
  have mem : PARAM_SEPARATOR ∈ link.toList.reverse := by
    rw [mem_reverse, <- count_pos_iff]
    omega
  obtain ⟨after, before, split, apart⟩ := eq_append_cons_of_mem mem
  have whole : link = String.ofList before.reverse ++ String.singleton PARAM_SEPARATOR ++
      String.ofList after.reverse := by
    apply String.toList_injective
    rw [<- reverse_inj, split]
    simp
  rw [whole] at more ⊢
  rw [getOptParamUri_query _ (by simpa using apart)]
  simp only [String.toList_append, String.toList_ofList, String.toList_singleton,
    count_append, count_reverse, count_singleton_self] at more
  have none := count_eq_zero.2 apart
  rw [String.toList_ofList, mem_reverse, <- count_pos_iff]
  omega

variable {regexMatch : String -> String -> Bool} {uri : ReserveUri}

theorem isHostMatched_iff (host : uri.host ≠ "") :
    isHostMatched regexMatch uri link = true ↔ uri.Reserves regexMatch link := by
  unfold isHostMatched
  split
  next pathless =>
    simp only [Bool.or_eq_true, Bool.and_eq_true, decide_eq_true_eq, startsWith_iff]
    constructor
    · rintro ((rfl | ⟨rest, rfl⟩) | ⟨port, rest, rfl⟩)
      exacts [.origin host pathless, .anyPath rest host pathless, .anyPort rest host pathless port]
    · intro reserved
      cases reserved with
      | scheme none | underScheme _ none => exact absurd none host
      | origin => exact .inl (.inl rfl)
      | anyPath rest => exact .inl (.inr ⟨rest, rfl⟩)
      | anyPort rest _ _ port => exact .inr ⟨port, rest, rfl⟩
      | path _ named => exact absurd pathless.1 named
      | pathStart _ _ named => exact absurd pathless.2.1 named
      | pathRegex _ _ named => exact absurd pathless.2.2 named
  next pathed =>
    simp only [Bool.or_eq_true, Bool.and_eq_true, decide_eq_true_eq, startsWith_iff]
    constructor
    · rintro ((⟨named, rfl⟩ | ⟨named, rest, rfl⟩) | ⟨named, found⟩)
      exacts [.path host named, .pathStart rest host named, .pathRegex link host named found]
    · intro reserved
      cases reserved with
      | scheme none | underScheme _ none => exact absurd none host
      | origin _ pathless | anyPath _ _ pathless | anyPort _ _ pathless =>
        exact absurd pathless pathed
      | path _ named => exact .inl (.inl ⟨named, rfl⟩)
      | pathStart rest _ named => exact .inl (.inr ⟨named, rest, rfl⟩)
      | pathRegex _ _ named found => exact .inr ⟨named, found⟩

theorem isSchemeMatched_iff (hostless : uri.host = "") :
    isSchemeMatched uri link = true ↔ uri.Reserves regexMatch link := by
  simp only [isSchemeMatched, Bool.or_eq_true, decide_eq_true_eq, startsWith_iff]
  constructor
  · rintro (rfl | ⟨rest, rfl⟩)
    exacts [.scheme hostless, .underScheme rest hostless]
  · intro reserved
    cases reserved with
    | scheme => exact .inl rfl
    | underScheme rest => exact .inr ⟨rest, rfl⟩
    | origin host | anyPath _ host | anyPort _ host | path host | pathStart _ host
    | pathRegex _ host => exact absurd hostless host

theorem isUriMatched_hosted (scheme : uri.scheme ≠ "") (host : uri.host ≠ "") :
    isUriMatched regexMatch uri link = true ↔ uri.Reserves regexMatch (getOptParamUri link) := by
  rw [isUriMatched, if_neg scheme, if_neg host, isHostMatched_iff host]

theorem isUriMatched_schemeOnly (scheme : uri.scheme ≠ "") (hostless : uri.host = "") :
    isUriMatched regexMatch uri link = true ↔ uri.Reserves regexMatch link := by
  rw [isUriMatched, if_neg scheme, if_pos hostless, isSchemeMatched_iff hostless]

theorem prefix_before {separator : Char} {front before after : List Char}
    (plain : separator ∉ front) (found : front <+: before ++ separator :: after) :
    front <+: before := by
  induction front generalizing before with
  | nil => exact nil_prefix
  | cons char front ih =>
    rw [mem_cons, not_or] at plain
    cases before with
    | nil => exact absurd (cons_prefix_cons.1 found).1.symm plain.1
    | cons first before =>
      obtain ⟨rfl, rest⟩ := cons_prefix_cons.1 found
      exact cons_prefix_cons.2 ⟨rfl, ih plain.2 rest⟩

theorem reserves_withoutQuery (hostless : uri.host = "")
    (plain : PARAM_SEPARATOR ∉ uri.scheme.toList)
    (apart : withoutQuery link = uri.scheme -> PARAM_SEPARATOR ∉ link.toList) :
    uri.Reserves regexMatch link ↔ uri.Reserves regexMatch (withoutQuery link) := by
  rcases link_cases link with free | ⟨before, after, free, rfl⟩
  · rw [withoutQuery_of_notMem free]
  · rw [withoutQuery_query after free] at apart ⊢
    have chars : (before ++ String.singleton PARAM_SEPARATOR ++ after).toList =
        before.toList ++ PARAM_SEPARATOR :: after.toList := by simp
    have queried : PARAM_SEPARATOR ∈
        (before ++ String.singleton PARAM_SEPARATOR ++ after).toList := by simp
    have separate : PARAM_SEPARATOR ∉ (uri.scheme ++ PORT_SEPARATOR).toList := by
      rw [String.toList_append, mem_append, not_or]
      exact ⟨plain, by decide⟩
    rw [<- isSchemeMatched_iff hostless, <- isSchemeMatched_iff hostless]
    simp only [isSchemeMatched, Bool.or_eq_true, decide_eq_true_eq, startsWith,
      isPrefixOf_iff_prefix]
    constructor
    · rintro (same | front)
      · exact absurd (same ▸ queried) plain
      · exact .inr (prefix_before separate (chars ▸ front))
    · rintro (rfl | front)
      · exact absurd queried (apart rfl)
      · exact .inr (chars ▸ front.trans (prefix_append _ _))

def configuredItems (object : Json) : List (String × List ReserveUri) :=
  ((object.arrayMember? DEEPLINK_RESERVED_URI_NAME).getD []).filterMap reservedItem?

theorem getElem?_loadReservedUriList {object : Json} {uris : ReserveUris}
    (loaded : loadReservedUriList ∅ object = some uris) (bundleName : String) :
    uris[bundleName]? = (configuredItems object).lookup bundleName := by
  have general : ∀ (items : List Json) (start : ReserveUris),
      items.foldlM (fun uris item => do
        let entry <- reservedItem? item
        return uris.insertIfNew entry.1 entry.2) start = some uris ->
      uris[bundleName]? =
        start[bundleName]?.or ((items.filterMap reservedItem?).lookup bundleName) := by
    intro items
    induction items with
    | nil =>
      intro start done
      cases done
      simp
    | cons item rest ih =>
      intro start done
      rw [foldlM_cons] at done
      cases read : reservedItem? item with
      | none => simp [read] at done
      | some entry =>
        obtain ⟨name, uriList⟩ := entry
        simp only [read, bind_eq_bind, bind_some, pure] at done
        rw [ih _ done, filterMap_cons_some read, lookup_entry, Std.ExtTreeMap.getElem?_insertIfNew]
        by_cases same : bundleName = name
        · subst same
          simp only [Std.ReflCmp.compare_self, true_and, Std.ExtTreeMap.mem_iff_isSome_getElem?]
          cases start[bundleName]? <;> simp
        · have apart : compare name bundleName ≠ .eq :=
            fun equal => same (Std.LawfulEqCmp.eq_of_compare equal).symm
          rw [if_neg fun both => apart both.1, if_neg same]
  unfold loadReservedUriList at loaded
  cases read : object.arrayMember? DEEPLINK_RESERVED_URI_NAME with
  | none => simp [read] at loaded
  | some items =>
    simp only [read, bind_eq_bind, bind_some] at loaded
    rw [general items ∅ loaded, configuredItems, read]
    simp

def configuredUris (object : Json) : List ReserveUri := (configuredItems object).flatMap Prod.snd

def keptUris (uris : ReserveUris) : List ReserveUri := uris.toList.flatMap Prod.snd

theorem mem_keptUris {object : Json} {uris : ReserveUris}
    (loaded : loadReservedUriList ∅ object = some uris) (uri : ReserveUri) :
    uri ∈ keptUris uris ↔ ∃ item ∈ configuredItems object,
      (configuredItems object).lookup item.1 = some item.2 ∧ uri ∈ item.2 := by
  rw [keptUris, mem_flatMap]
  constructor
  · rintro ⟨⟨bundleName, uriList⟩, mem, inside⟩
    rw [Std.ExtTreeMap.mem_toList_iff_getElem?_eq_some, getElem?_loadReservedUriList loaded]
      at mem
    obtain ⟨before, after, whole, _⟩ := lookup_eq_some_iff.1 mem
    refine ⟨(bundleName, uriList), ?_, mem, inside⟩
    rw [whole]
    exact mem_append_right _ mem_cons_self
  · rintro ⟨⟨bundleName, uriList⟩, _, first, inside⟩
    refine ⟨(bundleName, uriList), ?_, inside⟩
    rw [Std.ExtTreeMap.mem_toList_iff_getElem?_eq_some, getElem?_loadReservedUriList loaded]
    exact first

theorem isLinkReserved_isSome (uris : ReserveUris) (link : String) :
    (isLinkReserved regexMatch uris link).isSome ↔
      ∃ uri ∈ keptUris uris, isUriMatched regexMatch uri link = true := by
  rw [isLinkReserved, isSome_map, find?_isSome]
  simp only [keptUris, mem_flatMap, List.any_eq_true]
  constructor
  · rintro ⟨entry, mem, uri, inside, found⟩
    exact ⟨uri, ⟨entry, mem, inside⟩, found⟩
  · rintro ⟨uri, ⟨entry, mem, inside⟩, found⟩
    exact ⟨entry, mem, uri, inside, found⟩

/-- The entries are tried in the order of the map up to the first that matches. -/
def Tried (regexMatch : String -> String -> Bool) (uris : ReserveUris) (link : String)
    (uri : ReserveUri) : Prop :=
  ∃ before after, keptUris uris = before ++ uri :: after ∧
    ∀ earlier ∈ before, isUriMatched regexMatch earlier link = false

/-- A link is cut at one place for all entries that are tried, and a reserving entry is kept. -/
structure CutOnce (regexMatch : String -> String -> Bool) (object : Json) (uris : ReserveUris)
    (link : String) : Prop where
  listedFirst : ∀ uri ∈ configuredUris object, uri.scheme ≠ "" ->
    uri.Reserves regexMatch (withoutQuery link) ->
      ∃ item ∈ configuredItems object, (configuredItems object).lookup item.1 = some item.2 ∧
        ∃ kept ∈ item.2, kept.scheme ≠ "" ∧ kept.Reserves regexMatch (withoutQuery link)
  oneQuery : ∀ uri, Tried regexMatch uris link uri -> uri.scheme ≠ "" -> uri.host ≠ "" ->
    link.toList.count PARAM_SEPARATOR ≤ 1
  schemeOnly : ∀ uri, Tried regexMatch uris link uri -> uri.scheme ≠ "" -> uri.host = "" ->
    PARAM_SEPARATOR ∈ link.toList ->
      PARAM_SEPARATOR ∉ uri.scheme.toList ∧ withoutQuery link ≠ uri.scheme

theorem CutOnce.isUriMatched_iff {object : Json} {uris : ReserveUris}
    (cut : CutOnce regexMatch object uris link) {uri : ReserveUri}
    (tried : Tried regexMatch uris link uri) :
    isUriMatched regexMatch uri link = true ↔
      uri.scheme ≠ "" ∧ uri.Reserves regexMatch (withoutQuery link) := by
  by_cases scheme : uri.scheme = ""
  · simp [isUriMatched, scheme]
  · rw [and_iff_right scheme]
    by_cases hostless : uri.host = ""
    · rw [isUriMatched_schemeOnly scheme hostless]
      by_cases queried : PARAM_SEPARATOR ∈ link.toList
      · obtain ⟨plain, apart⟩ := cut.schemeOnly uri tried scheme hostless queried
        exact reserves_withoutQuery hostless plain fun same => absurd same apart
      · rw [withoutQuery_of_notMem queried]
    · rw [isUriMatched_hosted scheme hostless,
        getOptParamUri_of_count (cut.oneQuery uri tried scheme hostless)]

theorem isUriMatched_path_iff (scheme : uri.scheme ≠ "") (host : uri.host ≠ "")
    (path : uri.path ≠ "") (noStart : uri.pathStartWith = "") (noRegex : uri.pathRegex = "")
    (plain : PARAM_SEPARATOR ∉ (uri.origin ++ PATH_SEPARATOR ++ uri.path).toList) :
    isUriMatched regexMatch uri link = true ↔
      uri.Reserves regexMatch (withoutQuery link) ∧ link.toList.count PARAM_SEPARATOR ≤ 1 := by
  have only (text : String) : uri.Reserves regexMatch text ↔
      text = uri.origin ++ PATH_SEPARATOR ++ uri.path := by
    rw [<- isHostMatched_iff host]
    simp [isHostMatched, path, noStart, noRegex]
  rw [isUriMatched_hosted scheme host, only, only]
  constructor
  · intro same
    have single : link.toList.count PARAM_SEPARATOR ≤ 1 := by
      by_contra more
      have left := mem_getOptParamUri_of_count (not_le.1 more)
      exact plain (same ▸ left)
    exact ⟨(getOptParamUri_of_count single).symm.trans same, single⟩
  · rintro ⟨same, single⟩
    exact (getOptParamUri_of_count single).trans same

theorem isUriMatched_path_iff_query :
    let uri : ReserveUri := { scheme := "https", host := "b", path := "p" }
    isUriMatched (fun _ _ => false) uri "https://b/p?q" = true ↔
      uri.Reserves (fun _ _ => false) (withoutQuery "https://b/p?q") ∧
        "https://b/p?q".toList.count PARAM_SEPARATOR ≤ 1 :=
  isUriMatched_path_iff (by decide) (by decide) (by decide) rfl rfl (by decide)

/-- A link is reserved exactly when an entry reserves it without its query. -/
theorem isLinkReserved_iff {object : Json} {uris : ReserveUris}
    (loaded : loadReservedUriList ∅ object = some uris) (link : String) :
    (CutOnce regexMatch object uris link ->
      ((isLinkReserved regexMatch uris link).isSome ↔ ∃ uri ∈ configuredUris object,
        uri.scheme ≠ "" ∧ uri.Reserves regexMatch (withoutQuery link))) ∧
    ∀ uri ∈ configuredUris object, uri.host ≠ "" -> ∀ query : String,
      (uri.scheme ≠ "" -> PARAM_SEPARATOR ∉ link.toList ∧ PARAM_SEPARATOR ∉ query.toList) ->
        isUriMatched regexMatch uri (link ++ String.singleton PARAM_SEPARATOR ++ query) =
          isUriMatched regexMatch uri link := by
  constructor
  · intro cut
    rw [isLinkReserved_isSome]
    constructor
    · rintro ⟨_, mem, matched⟩
      cases found : (keptUris uris).find? (isUriMatched regexMatch · link) with
      | none => exact absurd matched (find?_eq_none.1 found _ mem)
      | some uri =>
        obtain ⟨hit, before, after, split, unmatched⟩ := find?_eq_some_iff_append.1 found
        have kept : uri ∈ keptUris uris := mem_of_find?_eq_some found
        obtain ⟨item, listed, _, inside⟩ := (mem_keptUris loaded uri).1 kept
        refine ⟨uri, mem_flatMap.2 ⟨item, listed, inside⟩, (cut.isUriMatched_iff ?_).1 hit⟩
        exact ⟨before, after, split, by simpa using unmatched⟩
    · rintro ⟨_, configured, scheme, reserved⟩
      obtain ⟨item, listed, first, uri, inside, scheme, reserved⟩ :=
        cut.listedFirst _ configured scheme reserved
      have kept := (mem_keptUris loaded uri).2 ⟨item, listed, first, inside⟩
      -- Were none matched, each of the entries would be tried.
      by_contra none
      obtain ⟨before, after, split⟩ := append_of_mem kept
      have tried : Tried regexMatch uris link uri := by
        refine ⟨before, after, split, fun earlier mem => ?_⟩
        refine Bool.eq_false_iff.2 fun matched => none ⟨earlier, ?_, matched⟩
        rw [split]
        exact mem_append_left _ mem
      exact none ⟨uri, kept, (cut.isUriMatched_iff tried).2 ⟨scheme, reserved⟩⟩
  · intro uri _ host query plain
    by_cases scheme : uri.scheme = ""
    · simp [isUriMatched, scheme]
    · obtain ⟨alone, rest⟩ := plain scheme
      rw [Bool.eq_iff_iff, isUriMatched_hosted scheme host, isUriMatched_hosted scheme host,
        getOptParamUri_query link rest, getOptParamUri_of_notMem alone]

def pathConfig : Json := .object [(DEEPLINK_RESERVED_URI_NAME, .array [.object
  [(BUNDLE_NAME, .string "b"), (URIS_NAME, .array [.object [(SCHEME_NAME, .string "https"),
    (HOST_NAME, .string "a.com"), (PATH_NAME, .string "p")]])]])]

def pathUri : ReserveUri where
  scheme := "https"
  host := "a.com"
  path := "p"

theorem pathConfig_items : configuredItems pathConfig = [("b", [pathUri])] := by decide +kernel

theorem pathConfig_loads : (loadReservedUriList ∅ pathConfig).isSome := by decide +kernel

def pathUris : ReserveUris := (loadReservedUriList ∅ pathConfig).get pathConfig_loads

theorem pathConfig_isLinkReserved :
    ((isLinkReserved (fun _ _ => false) pathUris "https://a.com/p?x=1").isSome ↔
      ∃ uri ∈ configuredUris pathConfig, uri.scheme ≠ "" ∧
        uri.Reserves (fun _ _ => false) (withoutQuery "https://a.com/p?x=1")) ∧
    isUriMatched (fun _ _ => false) pathUri
        ("https://a.com/p" ++ String.singleton PARAM_SEPARATOR ++ "x=1") =
      isUriMatched (fun _ _ => false) pathUri "https://a.com/p" := by
  have loaded : loadReservedUriList ∅ pathConfig = some pathUris := (some_get _).symm
  have uris : configuredUris pathConfig = [pathUri] := by rw [configuredUris, pathConfig_items]; rfl
  refine ⟨(isLinkReserved_iff loaded "https://a.com/p?x=1").1 ⟨?_, ?_, ?_⟩,
    (isLinkReserved_iff loaded "https://a.com/p").2 pathUri (by simp [uris]) (by decide) "x=1"
      fun _ => ⟨by decide +kernel, by decide +kernel⟩⟩
  · intro uri mem scheme reserved
    rw [uris] at mem
    obtain rfl := mem_singleton.1 mem
    rw [pathConfig_items]
    exact ⟨_, mem_cons_self, rfl, pathUri, mem_cons_self, scheme, reserved⟩
  · exact fun _ _ _ _ => by decide +kernel
  · rintro uri ⟨before, after, split, _⟩ _ hostless
    have kept : uri ∈ keptUris pathUris := split ▸ mem_append_right _ mem_cons_self
    obtain ⟨item, listed, _, inside⟩ := (mem_keptUris loaded uri).1 kept
    have configured : uri ∈ configuredUris pathConfig := mem_flatMap.2 ⟨item, listed, inside⟩
    rw [uris] at configured
    obtain rfl := mem_singleton.1 configured
    exact absurd hostless (by decide)

theorem pathConfig_missesLink :
    ¬((isLinkReserved (fun _ _ => false) pathUris "https://a.com/p?x=1?y").isSome ↔
      ∃ uri ∈ configuredUris pathConfig, uri.scheme ≠ "" ∧
        uri.Reserves (fun _ _ => false) (withoutQuery "https://a.com/p?x=1?y")) := by
  have missed : (isLinkReserved (fun _ _ => false) pathUris "https://a.com/p?x=1?y").isSome = false := by
    decide +kernel
  have link : withoutQuery "https://a.com/p?x=1?y" =
      pathUri.origin ++ PATH_SEPARATOR ++ pathUri.path := by decide +kernel
  intro claimed
  rw [missed, link] at claimed
  refine absurd (claimed.2 ⟨pathUri, ?_, by decide, .path (by decide) (by decide)⟩) nofun
  exact mem_cons_self

end AbilityRuntime.DeepLink
