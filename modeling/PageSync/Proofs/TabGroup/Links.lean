import PageSync.Proofs.Url.Queries
import PageSync.TabGroup

/-!
Tabs that are links. The value of such a tab is looked up in the URL that its link is resolved to,
where the query stands escaped; it is the one that the link itself names, as the search part of a
location would (`linkValue?_join`). So a page that is reached through a tab has that tab active, if
no tab before it has the same value (`activation?_of_link`).
-/

namespace PageSync.TabGroup

/-! ### Values in links -/

/-- The value of a parameter in a link is the one in what precedes the number sign, from the first
question mark on; without a question mark there is none, unless the query of the base stays. -/
theorem linkValue?_join {base url : Url} {link : String} (h : base.join? link = some url)
    (name : String) :
    let text := (Url.clean link.toList).takeWhile (· != '#')
    ('?' ∈ text → linkValue? url name =
      Query.searchValue? (String.ofList (text.dropWhile (· != '?'))) name) ∧
    ('?' ∉ text → base.query = none → linkValue? url name = none) := by
  intro text
  have hreads : Url.ReadsQuery (some base) (Url.clean link.toList) url := by
    rw [Url.join?] at h
    cases hparse : Url.parse (some base) link with
    | error error =>
        rw [hparse] at h
        contradiction
    | ok found =>
        rw [hparse] at h
        obtain rfl := Option.some.inj h
        exact Url.parse_readsQuery hparse
  constructor
  · intro hmark
    obtain ⟨query, hquery, hraw⟩ := Url.rawQuery?_of_mem hmark
    rw [linkValue?, hreads.written query hraw, Option.getD_some, Url.value?_encodeQuery,
      Query.searchValue?, hquery, String.toList_ofList, Query.withoutMark]
  · intro hmark hbase
    have hnone : url.query = none := by
      rcases hreads.unwritten (Url.rawQuery?_eq_none hmark) with hnone | ⟨b, hb, hquery⟩
      · exact hnone
      · obtain rfl := Option.some.inj hb
        rw [hquery, hbase]
    rw [linkValue?, hnone]
    rfl

def siteRoot : Url where
  scheme := "https".toList
  authority := some { host := some (.name "ops.example.com".toList) }
  path := .segments [[]]
  query := none
  fragment := none

/-- A link with space around it, a tab character within it, and percent signs that begin no escape
before characters that are escaped. -/
def strayLink : String := " /batch?a=1&vi\tew=%4é'+%#?view=b "

def strayUrl : Url :=
  { siteRoot with
    path := .segments ["batch".toList]
    query := some "a=1&view=%4%C3%A9%27+%".toList
    fragment := some "?view=b".toList }

theorem linkValue?_join_strayLink :
    siteRoot.join? strayLink = some strayUrl ∧
    linkValue? strayUrl "view" = Query.searchValue? "?a=1&view=%4é'+%" "view" ∧
    siteRoot.join? "#?view=b" = some { siteRoot with fragment := some "?view=b".toList } ∧
    linkValue? { siteRoot with fragment := some "?view=b".toList } "view" = none := by
  have hstray : siteRoot.join? strayLink = some strayUrl := by decide +kernel
  have hplain : siteRoot.join? "#?view=b" =
      some { siteRoot with fragment := some "?view=b".toList } := by decide +kernel
  have hquery : ((Url.clean strayLink.toList).takeWhile (· != '#')).dropWhile (· != '?') =
      "?a=1&view=%4é'+%".toList := by decide +kernel
  have hvalue := (linkValue?_join hstray "view").1 (by decide +kernel)
  rw [hquery, String.ofList_toList] at hvalue
  exact ⟨hstray, hvalue, hplain, (linkValue?_join hplain "view").2 (by decide +kernel) rfl⟩

/-! ### The tab of a value -/

/-- The first tab with the value stands at the place. -/
structure FirstWith (param : String) (base : Url) (tabs : List Tab) (value : String) (i : Nat) :
    Prop where
  has : ∃ tab, tabs[i]? = some tab ∧ tabValue? tab param base = some value
  first : ∀ k < i, ∀ tab, tabs[k]? = some tab → tabValue? tab param base ≠ some value

theorem nonEmpty_some {text : String} (h : text ≠ "") : nonEmpty (some text) = some text := by
  rw [nonEmpty, Option.filter_some, if_pos (by simpa using h)]

theorem getD_beq_iff {found : Option String} {value : String} (h : value ≠ "") :
    (found.getD "" == value) = true ↔ found = some value := by
  cases found with
  | none => simpa using h.symm
  | some text => simp

theorem findIdx?_eq_some_iff {param : String} {base : Url} {tabs : List Tab} {value : String}
    (h : value ≠ "") {i : Nat} :
    (tabs.findIdx? fun tab => (tabValue? tab param base).getD "" == value) = some i ↔
      FirstWith param base tabs value i := by
  rw [List.findIdx?_eq_some_iff_getElem]
  constructor
  · rintro ⟨hi, hvalue, hfirst⟩
    refine ⟨⟨tabs[i], List.getElem?_eq_getElem hi, (getD_beq_iff h).mp hvalue⟩, ?_⟩
    intro k hk tab htab heq
    obtain ⟨hlt, rfl⟩ := List.getElem?_eq_some_iff.mp htab
    exact hfirst k hk ((getD_beq_iff h).mpr heq)
  · rintro ⟨⟨tab, htab, hvalue⟩, hfirst⟩
    obtain ⟨hlt, rfl⟩ := List.getElem?_eq_some_iff.mp htab
    refine ⟨hlt, (getD_beq_iff h).mpr hvalue, fun k hk heq => ?_⟩
    exact hfirst k hk _ (List.getElem?_eq_getElem (hk.trans hlt)) ((getD_beq_iff h).mp heq)

/-- Where some tab has the value, a first one has it. -/
theorem exists_firstWith {param : String} {base : Url} {tabs : List Tab} {value : String} {i : Nat}
    {tab : Tab} (htab : tabs[i]? = some tab) (hvalue : tabValue? tab param base = some value) :
    ∃ j ≤ i, FirstWith param base tabs value j := by
  induction i using Nat.strongRecOn generalizing tab with
  | ind i ih =>
      by_cases hbefore : ∃ k < i, ∃ other, tabs[k]? = some other ∧
          tabValue? other param base = some value
      · obtain ⟨k, hk, other, hother, hsame⟩ := hbefore
        obtain ⟨j, hj, hfirst⟩ := ih k hk hother hsame
        exact ⟨j, by omega, hfirst⟩
      · refine ⟨i, Nat.le_refl i, ⟨tab, htab, hvalue⟩, ?_⟩
        intro k hk other hother hsame
        exact hbefore ⟨k, hk, other, hother, hsame⟩

theorem FirstWith.eq_of_le {param : String} {base : Url} {tabs : List Tab} {value : String}
    {i j : Nat} (h : FirstWith param base tabs value j) (hle : j ≤ i)
    (hfirst : ∀ k < i, ∀ tab, tabs[k]? = some tab → tabValue? tab param base ≠ some value) :
    j = i := by
  obtain ⟨tab, htab, hvalue⟩ := h.has
  by_contra hne
  exact hfirst j (by omega) tab htab hvalue

/-! ### Activation -/

/-- A value that the page is asked for is the active one, and the first tab with it is active. -/
theorem activation?_of_search {group : TabGroup} {search value : String} {tabs : List Tab}
    {base : Url} (hsearch : Query.searchValue? search group.param = some value) (hne : value ≠ "")
    {j : Nat} (hfirst : FirstWith group.param base tabs value j) {tab : Tab}
    (htab : tabs[j]? = some tab) (placeholder : String) :
    group.activation? search tabs base placeholder =
      some ⟨some j, value, group.indicator.map fun selector =>
        ⟨selector, indicatorText placeholder (some tab.label)⟩⟩ := by
  have hvalue : nonEmpty (Query.searchValue? search group.param) = some value := by
    rw [hsearch, nonEmpty_some hne]
  cases tabs with
  | nil => contradiction
  | cons first rest =>
      have hactive := (findIdx?_eq_some_iff hne).mpr hfirst
      simp only [activation?, hvalue, Option.some_or, Option.getD_some, hactive, Option.bind_some,
        htab, Option.map_some]

theorem indicatorText_some (placeholder label : String) :
    indicatorText placeholder (some label) =
      if Text.strip label = "" then placeholder else Text.strip label := by
  rw [indicatorText, Option.map_some]
  by_cases h : Text.strip label = ""
  · rw [h, if_pos rfl]
    rfl
  · rw [nonEmpty_some h, if_neg h, Option.getD_some]

/-- Who follows the link of a tab to its value comes to a page where the first tab with the value is
active: no tab after the link's own, and the link's own if none before has the value. -/
theorem activation?_of_link (group : TabGroup) {base url : Url} {tabs : List Tab} {i : Nat}
    {tab : Tab} {value : String} (htab : tabs[i]? = some tab) (hplain : nonEmpty tab.value = none)
    (hlink : base.join? (tab.href.getD "") = some url)
    (hvalue : linkValue? url group.param = some value) (hne : value ≠ "") (placeholder : String) :
    ∃ activation,
      group.activation? (String.ofList ('?' :: url.query.getD [])) tabs base placeholder =
        some activation ∧
      activation.value = value ∧
      (∃ j ≤ i, activation.active = some j ∧ FirstWith group.param base tabs value j) ∧
      ((∀ k < i, ∀ other, tabs[k]? = some other →
          tabValue? other group.param base ≠ some value) →
        (∀ k, activation.marks k = true ↔ k = i) ∧
        activation.indicator = group.indicator.map fun selector =>
          ⟨selector, if Text.strip tab.label = "" then placeholder else Text.strip tab.label⟩) := by
  have hown : tabValue? tab group.param base = some value := by
    rw [tabValue?, hplain, Option.none_or, hlink, Option.bind_some, hvalue, nonEmpty_some hne]
  -- the page asks for what the link says, for both read the same query
  have hsearch : Query.searchValue? (String.ofList ('?' :: url.query.getD [])) group.param =
      some value := by
    rw [Query.searchValue?, String.toList_ofList, Query.withoutMark, ← linkValue?, hvalue]
  obtain ⟨j, hj, hfirst⟩ := exists_firstWith htab hown
  obtain ⟨active, hactive, -⟩ := hfirst.has
  refine ⟨_, activation?_of_search hsearch hne hfirst hactive placeholder, rfl,
    ⟨j, hj, rfl, hfirst⟩, ?_⟩
  intro hbefore
  obtain rfl := hfirst.eq_of_le hj hbefore
  obtain rfl := Option.some.inj (htab.symm.trans hactive)
  refine ⟨fun k => ?_, by simp only [indicatorText_some]⟩
  rw [Activation.marks, beq_iff_eq, Option.some.injEq, eq_comm]

/-- A tab with a value of its own, and two that are the same link. -/
def strayTabs : List Tab :=
  [⟨some "all", some strayLink, "All"⟩, ⟨some "", some strayLink, " Open\n"⟩,
    ⟨none, some strayLink, "Again"⟩]

theorem activation?_of_link_strayTabs :
    siteRoot.join? strayLink = some strayUrl ∧ linkValue? strayUrl "view" = some "%4é' %" ∧
    ∃ activation,
      activation? ⟨"view", some "all", some "#shown"⟩ "?a=1&view=%4%C3%A9%27+%" strayTabs siteRoot
        "-" = some activation ∧
      activation.value = "%4é' %" ∧ (∀ k, activation.marks k = true ↔ k = 1) ∧
      activation.indicator = some ⟨"#shown", "Open"⟩ := by
  have hlink : siteRoot.join? strayLink = some strayUrl := by decide +kernel
  have hvalue : linkValue? strayUrl "view" = some "%4é' %" := by decide +kernel
  have htab : strayTabs[1]? = some ⟨some "", some strayLink, " Open\n"⟩ := rfl
  obtain ⟨activation, hactivation, hactive, -, hown⟩ :=
    activation?_of_link ⟨"view", some "all", some "#shown"⟩ htab rfl hlink hvalue (by decide) "-"
  have hfirst : ∀ k < 1, ∀ other, strayTabs[k]? = some other →
      tabValue? other "view" siteRoot ≠ some "%4é' %" := by
    intro k hk other hother
    obtain rfl : k = 0 := by omega
    obtain rfl := Option.some.inj hother
    decide +kernel
  obtain ⟨hmarks, hindicator⟩ := hown hfirst
  have hlabel : Text.strip " Open\n" = "Open" := by decide +kernel
  refine ⟨hlink, hvalue, activation, hactivation, hactive, hmarks, ?_⟩
  rw [hindicator, hlabel]
  rfl

end PageSync.TabGroup
