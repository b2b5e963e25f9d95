import PageSync.Proofs.Pass.FirstLink
import PageSync.Proofs.Sidebar.Respelling
import PageSync.Proofs.TabGroup.Fallback
import PageSync.Proofs.Url.Roots

/-!
Elements without a link. A missing reference is the empty one, which is the base of the page: on the
page of a web site that is the root of the site, which no tab has its value from and which a sidebar
marks for the root alone. Where the base is the address of the page itself, an element without a
link is a link to this page. Both passes are safe from that exactly where the base is a root without
parameters (`missingLinksLeadNowhere_iff`).
-/

namespace PageSync.Pass

open TabGroup (nonEmpty linkValue? tabValue? ownValue)

/-- A tab that has neither a link nor a value of its own has no value, and is marked only where the
value in force is empty; an element of the sidebar without a link leads to the root, and is marked
only there. -/
structure MissingLinksLeadNowhere (base : Url) : Prop where
  tabValue : ∀ tab param, tab.href = none → nonEmpty tab.value = none →
    tabValue? tab param base = none
  tabMark : ∀ (group : TabGroup) search tabs placeholder,
    ∀ activation ∈ group.activation? search tabs base placeholder, ∀ i tab, tabs[i]? = some tab →
      tab.href = none → nonEmpty tab.value = none → activation.marks i → activation.value = ""
  linkPath : ∀ link : Scene.Node, link.element.attribute? "href" = none →
    Sidebar.linkPath? base (linkHref link) = some ['/']
  linkMark : ∀ path links i link, Sidebar.active? path (sidebarHrefs links) base = some i →
    links[i]? = some link → link.element.attribute? "href" = none →
      Sidebar.trimmedPath path.toList = ['/']

/-- The root of something that has paths, and no parameter that says anything. -/
structure IsBareRoot (base : Url) : Prop where
  path : ∃ parts, base.path = .segments parts ∧
    Sidebar.trimmedPath (Url.Path.segments parts).text = ['/']
  values : ∀ name, nonEmpty (linkValue? base name) = none

/-- The origin of a web site, as a location writes it. -/
def IsSiteOrigin (origin : String) : Prop :=
  ∃ scheme ∈ Sidebar.siteSchemes, ∃ host : String, origin = scheme ++ "://" ++ host ∧
    (∀ c ∈ host.toList, 0x20 < c.toNat) ∧ Url.Unended host.toList

/-! ### Tabs -/

section

variable {base : Url}

/-- The value of a tab that is nothing but a tab is that of the page's own parameter. -/
theorem tabValue?_of_missing {parts : List Url.Segment} (hpath : base.path = .segments parts)
    (tab : Tab) (hhref : tab.href = none) (hvalue : nonEmpty tab.value = none) (param : String) :
    tabValue? tab param base = nonEmpty (linkValue? base param) := by
  rw [tabValue?, hvalue, Option.none_or, hhref, Option.getD_none, Url.join?_empty, hpath]
  rfl

theorem ownValue_of_marks {group : TabGroup} {search placeholder : String} {tabs : List Tab}
    {activation : TabGroup.Activation}
    (h : activation ∈ group.activation? search tabs base placeholder) {i : Nat} {tab : Tab}
    (htab : tabs[i]? = some tab) (hmarks : activation.marks i) :
    (tabValue? tab group.param base).getD "" = activation.value := by
  cases tabs with
  | nil => contradiction
  | cons first rest =>
      obtain rfl := Option.some.inj (Option.mem_def.mp h)
      rw [TabGroup.Activation.marks, beq_iff_eq, TabGroup.findIdx?_eq_some_iff_firstAt] at hmarks
      have hhas := hmarks.has
      rw [List.getElem?_map, htab, Option.map_some] at hhas
      exact Option.some.inj hhas

/-! ### Links -/

theorem linkPath?_of_missing {link : Scene.Node} (hhref : link.element.attribute? "href" = none)
    (base : Url) : Sidebar.linkPath? base (linkHref link) = match base.path with
      | .unstructured _ => none
      | .segments parts => some (Sidebar.trimmedPath (Url.Path.segments parts).text) := by
  rw [linkHref, hhref, Option.getD_none, Sidebar.linkPath?, Url.join?_empty]
  cases hpath : base.path with
  | unstructured text => rfl
  | segments parts =>
      rfl

theorem leadsTo_or_leadsAbove (visit : Visit) {links : List Scene.Node} {i : Nat}
    (h : Sidebar.active? visit.path (sidebarHrefs links) visit.base = some i) {link : Scene.Node}
    (hlink : links[i]? = some link) : LeadsTo visit link ∨ LeadsAbove visit link := by
  obtain ⟨hi, rfl⟩ := List.getElem?_eq_some_iff.mp hlink
  rw [active?_eq_findIdx?, Option.or_eq_some_iff] at h
  rcases h with h | ⟨-, h⟩
  · exact .inl ((any_leadsTo_iff _).mp (List.findIdx?_eq_some_iff_getElem.mp h).2.1)
  · exact .inr ((any_leadsAbove_iff _).mp (List.findIdx?_eq_some_iff_getElem.mp h).2.1)

end

def bareLink : Scene.Node := ⟨0, ⟨"a", [], "", 0⟩, .nil⟩

theorem IsBareRoot.missingLinksLeadNowhere {base : Url} (h : IsBareRoot base) :
    MissingLinksLeadNowhere base := by
  obtain ⟨parts, hpath, hroot⟩ := h.path
  have htab : ∀ (tab : Tab) param, tab.href = none → nonEmpty tab.value = none →
      tabValue? tab param base = none := by
    intro tab param hhref hvalue
    rw [tabValue?_of_missing hpath tab hhref hvalue, h.values]
  have hlink : ∀ link : Scene.Node, link.element.attribute? "href" = none →
      Sidebar.linkPath? base (linkHref link) = some ['/'] := by
    intro link hhref
    rw [linkPath?_of_missing hhref, hpath]
    exact congrArg some hroot
  refine ⟨htab, ?tabMark, hlink, ?linkMark⟩
  case tabMark =>
    intro group search tabs placeholder activation hactivation i tab hi hhref hvalue hmarks
    rw [← ownValue_of_marks hactivation hi hmarks, htab tab group.param hhref hvalue,
      Option.getD_none]
  case linkMark =>
    intro path links i link hactive hi hhref
    have hown := hlink link hhref
    rw [Sidebar.linkPath?, Option.map_eq_some_iff] at hown
    obtain ⟨own, hown, hownpath⟩ := hown
    -- a link to the root leads to the current path or nowhere: the root is not above any path
    rcases leadsTo_or_leadsAbove ⟨path, "", base⟩ hactive hi with
      ⟨url, hurl, hsame⟩ | ⟨url, hurl, hne, -⟩
    · obtain rfl := Option.some.inj (hown.symm.trans hurl)
      rw [← hsame, hownpath]
    · obtain rfl := Option.some.inj (hown.symm.trans hurl)
      exact absurd hownpath hne

theorem MissingLinksLeadNowhere.isBareRoot {base : Url} (h : MissingLinksLeadNowhere base) :
    IsBareRoot base := by
  have hlink := h.linkPath bareLink rfl
  rw [linkPath?_of_missing rfl] at hlink
  cases hpath : base.path with
  | unstructured text =>
      rw [hpath] at hlink
      contradiction
  | segments parts =>
      rw [hpath] at hlink
      refine ⟨⟨parts, hpath, Option.some.inj hlink⟩, fun name => ?_⟩
      rw [← tabValue?_of_missing hpath ⟨none, none, ""⟩ rfl rfl name]
      exact h.tabValue _ name rfl rfl

theorem spelled_of_mem_siteSchemes : ∀ scheme ∈ Sidebar.siteSchemes,
    scheme.toList.head?.any Char.isAlpha = true ∧ scheme.toList.all Url.isSchemeChar = true ∧
      Url.kindOf (scheme.toList.map Char.toLower) = .special := by decide

theorem isBareRoot_of_absolute {origin : String} (horigin : IsSiteOrigin origin) {base : Url}
    (h : Url.absolute origin = .ok base) : IsBareRoot base := by
  obtain ⟨scheme, hscheme, host, rfl, hprintable, hhost⟩ := horigin
  have horigin : scheme ++ "://" ++ host =
      String.ofList (scheme.toList ++ ':' :: '/' :: '/' :: host.toList) := by
    rw [← String.toList_inj, String.toList_append, String.toList_append, List.append_assoc]
    exact String.toList_ofList.symm
  rw [horigin] at h
  obtain ⟨hhead, hall, hkind⟩ := spelled_of_mem_siteSchemes scheme hscheme
  obtain ⟨hpath, hquery⟩ :=
    Url.absolute_origin hhead (List.all_eq_true.mp hall) hkind hprintable hhost h
  refine ⟨⟨_, hpath, by decide⟩, fun name => ?_⟩
  rw [linkValue?, hquery]
  rfl

/-- Elements without a link are never taken for links to the page exactly if the base is a root
without parameters. On the page of a web site it is. -/
theorem missingLinksLeadNowhere_iff {origin href : String} {base : Url}
    (hbase : Url.baseFor? origin href = some base) :
    (MissingLinksLeadNowhere base ↔ IsBareRoot base) ∧
    (IsSiteOrigin origin → (Url.absolute origin).toOption.isSome →
      MissingLinksLeadNowhere base) := by
  refine ⟨⟨fun h => h.isBareRoot, fun h => h.missingLinksLeadNowhere⟩, fun horigin hread => ?_⟩
  cases habsolute : Url.absolute origin with
  | error error =>
      rw [habsolute] at hread
      contradiction
  | ok url =>
      rw [Url.baseFor?, habsolute] at hbase
      obtain rfl := Option.some.inj hbase
      exact (isBareRoot_of_absolute horigin habsolute).missingLinksLeadNowhere

theorem missingLinksLeadNowhere_siteRoot :
    Url.baseFor? "https://ops.example.com" "https://ops.example.com/jobs?tab=a" =
      some TabGroup.siteRoot ∧
    IsSiteOrigin "https://ops.example.com" ∧ MissingLinksLeadNowhere TabGroup.siteRoot ∧
    IsBareRoot TabGroup.siteRoot := by
  have hbase : Url.baseFor? "https://ops.example.com" "https://ops.example.com/jobs?tab=a" =
      some TabGroup.siteRoot := by decide +kernel
  have horigin : IsSiteOrigin "https://ops.example.com" :=
    ⟨"https", by decide, "ops.example.com", by decide, by decide, by
      unfold Url.Unended
      decide⟩
  obtain ⟨hiff, hsite⟩ := missingLinksLeadNowhere_iff hbase
  have hnowhere := hsite horigin (by decide +kernel)
  exact ⟨hbase, horigin, hnowhere, hiff.mp hnowhere⟩

/-- A page of a file system, reached with a parameter. -/
def fileJobs : Url where
  scheme := "file".toList
  authority := some {}
  path := .segments ["srv".toList, "admin".toList, "jobs.html".toList]
  query := some "tab=a".toList
  fragment := none

/-- A tab with a value, and one that is nothing but a tab. -/
def fileTabs : List Tab := [⟨some "b", none, "B"⟩, ⟨none, none, "Plain"⟩]

/-- On this page the tab without a link is marked for the page's own parameter, and the anchor
without a link for the page itself. -/
theorem not_missingLinksLeadNowhere_fileJobs :
    Url.baseFor? "null" "file:///srv/admin/jobs.html?tab=a" = some fileJobs ∧
    (TabGroup.ofMarkup "tab" fun _ => none).activation? "?tab=a" fileTabs fileJobs "-" =
      some ⟨some 1, "a", none⟩ ∧
    Sidebar.active? "/srv/admin/jobs.html" (sidebarHrefs [bareLink]) fileJobs = some 0 ∧
    ¬MissingLinksLeadNowhere fileJobs := by
  have hactivation : (TabGroup.ofMarkup "tab" fun _ => none).activation? "?tab=a" fileTabs fileJobs
      "-" = some ⟨some 1, "a", none⟩ := by decide +kernel
  refine ⟨by decide +kernel, hactivation, by decide +kernel, fun h => ?_⟩
  have hempty := h.tabMark _ _ _ _ _ hactivation 1 ⟨none, none, "Plain"⟩ rfl rfl rfl rfl
  contradiction

end PageSync.Pass
