import PageSync.Page.Browser
import PageSync.Proofs.Pass.Sidebar
import PageSync.Proofs.Sidebar.Respelling

/-!
Which link the sidebar pass marks. The first link that leads to the current page is the only one
marked, or else the first that leads above it; where there is neither the page stays
(`highlightSidebar_marks_first`). Links that are no URLs and elements that are no links are passed
over.
-/

namespace PageSync.Pass

/-- The reference of the link is a URL with the path of the page, slashes at the end apart. -/
def LeadsTo (visit : Visit) (link : Scene.Node) : Prop :=
  ∃ url, visit.base.join? (linkHref link) = some url ∧
    Sidebar.trimmedPath url.path.text = Sidebar.trimmedPath visit.path.toList

/-- The reference of the link is a URL whose path is not the root and begins the path of the
page. -/
def LeadsAbove (visit : Visit) (link : Scene.Node) : Prop :=
  ∃ url, visit.base.join? (linkHref link) = some url ∧
    Sidebar.trimmedPath url.path.text ≠ ['/'] ∧
      Sidebar.trimmedPath url.path.text <+: Sidebar.trimmedPath visit.path.toList

def markOnly (word : String) (links : List Scene.Node) (active : Scene.Node) (page : Page) :
    Page where
  content :=
    (page.scene.attached.update
      (fun id element =>
        if id ∈ links.map Scene.Node.id then element.markClass word (id == active.id)
        else element)
      fun _ => none).unnumber

variable {visit : Visit} {settings : Settings}

/-! ### The link that is chosen -/

theorem any_leadsTo_iff (link : Scene.Node) :
    (Sidebar.linkPath? visit.base (linkHref link)).any
        (· == Sidebar.trimmedPath visit.path.toList) = true ↔ LeadsTo visit link := by
  simp [Sidebar.linkPath?, LeadsTo, Option.any_eq_true]

theorem any_leadsAbove_iff (link : Scene.Node) :
    (Sidebar.linkPath? visit.base (linkHref link)).any
        (Sidebar.leadsAbove (Sidebar.trimmedPath visit.path.toList)) = true ↔
      LeadsAbove visit link := by
  simp [Sidebar.linkPath?, Sidebar.leadsAbove, LeadsAbove, Option.any_eq_true]

theorem active?_eq_findIdx? (visit : Visit) (links : List Scene.Node) :
    Sidebar.active? visit.path (sidebarHrefs links) visit.base =
      (links.findIdx? fun link => (Sidebar.linkPath? visit.base (linkHref link)).any
        (· == Sidebar.trimmedPath visit.path.toList)).or
      (links.findIdx? fun link => (Sidebar.linkPath? visit.base (linkHref link)).any
        (Sidebar.leadsAbove (Sidebar.trimmedPath visit.path.toList))) := by
  rw [Sidebar.active?_eq, sidebarHrefs, List.findIdx?_map, List.findIdx?_map]
  rfl

/-- The first element of a list with a property stands where none before has it. -/
theorem findIdx?_eq_length {α : Type} {p : α → Bool} {before after : List α} {a : α}
    (hbefore : ∀ b ∈ before, p b = false) (ha : p a = true) :
    (before ++ a :: after).findIdx? p = some before.length := by
  rw [List.findIdx?_append, List.findIdx?_eq_none_iff.mpr hbefore, Option.none_or,
    List.findIdx?_cons, if_pos ha, Option.map_some, Nat.zero_add]

theorem active?_of_leadsTo {before after : List Scene.Node} {active : Scene.Node}
    (hactive : LeadsTo visit active) (hbefore : ∀ link ∈ before, ¬LeadsTo visit link) :
    Sidebar.active? visit.path (sidebarHrefs (before ++ active :: after)) visit.base =
      some before.length := by
  rw [active?_eq_findIdx?, findIdx?_eq_length, Option.some_or]
  · intro link hlink
    rw [Bool.eq_false_iff, ne_eq, any_leadsTo_iff]
    exact hbefore link hlink
  · exact (any_leadsTo_iff active).mpr hactive

theorem findIdx?_leadsTo_eq_none {links : List Scene.Node}
    (h : ∀ link ∈ links, ¬LeadsTo visit link) :
    (links.findIdx? fun link => (Sidebar.linkPath? visit.base (linkHref link)).any
      (· == Sidebar.trimmedPath visit.path.toList)) = none := by
  rw [List.findIdx?_eq_none_iff]
  intro link hlink
  rw [Bool.eq_false_iff, ne_eq, any_leadsTo_iff]
  exact h link hlink

theorem active?_of_leadsAbove {before after : List Scene.Node} {active : Scene.Node}
    (hnone : ∀ link ∈ before ++ active :: after, ¬LeadsTo visit link)
    (hactive : LeadsAbove visit active) (hbefore : ∀ link ∈ before, ¬LeadsAbove visit link) :
    Sidebar.active? visit.path (sidebarHrefs (before ++ active :: after)) visit.base =
      some before.length := by
  rw [active?_eq_findIdx?, findIdx?_leadsTo_eq_none hnone, Option.none_or, findIdx?_eq_length]
  · intro link hlink
    rw [Bool.eq_false_iff, ne_eq, any_leadsAbove_iff]
    exact hbefore link hlink
  · exact (any_leadsAbove_iff active).mpr hactive

theorem active?_eq_none {links : List Scene.Node}
    (h : ∀ link ∈ links, ¬LeadsTo visit link ∧ ¬LeadsAbove visit link) :
    Sidebar.active? visit.path (sidebarHrefs links) visit.base = none := by
  rw [active?_eq_findIdx?, findIdx?_leadsTo_eq_none fun link hlink => (h link hlink).1,
    Option.none_or, List.findIdx?_eq_none_iff]
  intro link hlink
  rw [Bool.eq_false_iff, ne_eq, any_leadsAbove_iff]
  exact (h link hlink).2

/-! ### The marks of a link that is chosen -/

/-- The chosen link is to have the class and the others are not. -/
theorem lookup_sidebarMarks {before after : List Scene.Node} {active link : Scene.Node}
    (hnodup : ((before ++ active :: after).map Scene.Node.id).Nodup)
    (hlink : link ∈ before ++ active :: after) :
    (sidebarMarks (before ++ active :: after) before.length).lookup link.id =
      some (link.id == active.id) := by
  obtain ⟨i, hi⟩ := List.getElem?_of_mem hlink
  have hmem : (link.id, i == before.length) ∈
      sidebarMarks (before ++ active :: after) before.length :=
    List.mem_map.mpr ⟨(link, i), List.mem_zipIdx_iff_getElem?.mpr hi, rfl⟩
  have hactive : (before ++ active :: after)[before.length]? = some active := by simp
  -- no number stands twice, so the place and the number tell the same
  have hiff : i = before.length ↔ link.id = active.id := by
    constructor
    · rintro rfl
      rw [hactive] at hi
      rw [Option.some.inj hi]
    · intro heq
      have hlt : i < ((before ++ active :: after).map Scene.Node.id).length := by
        rw [List.length_map]
        exact (List.getElem?_eq_some_iff.mp hi).1
      refine (List.getElem?_inj hlt hnodup).mp ?_
      rw [List.getElem?_map, List.getElem?_map, hi, hactive, Option.map_some, Option.map_some, heq]
  rw [Move.lookup_of_mem (by rwa [map_fst_sidebarMarks]) hmem, Option.some.injEq, Bool.eq_iff_iff,
    beq_iff_eq, beq_iff_eq]
  exact hiff

section

variable [Browser]

/-- Of the links only the one given has the class on the page. -/
def OnlyMarked (word : String) (links : List Scene.Node) (active : Scene.Node) (page : Page) :
    Prop :=
  ∀ link ∈ links, ∃ found ∈ page.scene.locate? link.id,
    (found.2.element.hasClass word = true ↔ link.id = active.id)

/-- What has no mark is as it was. -/
theorem locate?_of_not_marked {page : Page} {place : Place} (hplace : place ∈ page.scene.places)
    (h : place.node.id ∉ (linkMarks visit settings page.scene).map Prod.fst) :
    ∃ found ∈ (highlightSidebar visit settings page).state.scene.locate? place.node.id,
      found.2.element = place.node.element := by
  refine ⟨_, (updated_highlightSidebar visit settings page).locate?_eq hplace
    (Place.kept_none place), ?_⟩
  rw [Place.element_updated]
  apply Move.marked_eq_self
  intro hmem
  exact h (List.map_subset Prod.fst (marks_sidebarMoves_subset visit settings page.scene) hmem)

section

variable {selector : Selector} (hread : Browser.selector? settings.navSelector = some selector)
  (hword : Element.classFault? settings.activeClass = none) {page : Page}

include hread hword

theorem markOnly_of_active? {before after : List Scene.Node} {active : Scene.Node}
    (hlinks : sidebarLinks page.scene selector = before ++ active :: after)
    (hactive : Sidebar.active? visit.path (sidebarHrefs (before ++ active :: after)) visit.base =
      some before.length) :
    (highlightSidebar visit settings page).state =
        markOnly settings.activeClass (sidebarLinks page.scene selector) active page ∧
      OnlyMarked settings.activeClass (sidebarLinks page.scene selector) active
        (highlightSidebar visit settings page).state := by
  have hmarks : linkMarks visit settings page.scene =
      sidebarMarks (before ++ active :: after) before.length := by
    rw [linkMarks, hread, Option.bind_some, hlinks, hactive, Option.map_some, Option.getD_some]
  have hnodup := nodup_links page selector
  rw [hlinks] at hnodup
  -- no link has two marks in the list, so the marks are those of a function of the number
  have hmarked : Move.marked settings.activeClass (sidebarMoves visit settings page.scene) =
      fun id element =>
        if id ∈ (before ++ active :: after).map Scene.Node.id then
          element.markClass settings.activeClass (id == active.id)
        else element := by
    funext id element
    split
    · next hmem =>
        obtain ⟨link, hlink, rfl⟩ := List.mem_map.mp hmem
        rw [Move.marked_eq_lookup, marks_sidebarMoves hword, hmarks, Element.markListed,
          lookup_sidebarMarks hnodup hlink]
        rwa [marks_sidebarMoves hword, hmarks, map_fst_sidebarMarks]
    · next hmem =>
        apply Move.marked_eq_self
        rwa [marks_sidebarMoves hword, hmarks, map_fst_sidebarMarks]
  have hupdated := updated_highlightSidebar visit settings page
  constructor
  · rw [highlightSidebar_state, Scene.page, Scene.attached_moves, written?_sidebarMoves, hmarked,
      markOnly, hlinks]
  · intro link hlink
    obtain ⟨place, hplace, rfl, -⟩ := exists_place_of_mem_links hlink
    refine ⟨_, hupdated.locate?_eq hplace (Place.kept_none place), ?_⟩
    have hmem : place.node.id ∈ (before ++ active :: after).map Scene.Node.id :=
      hlinks ▸ List.mem_map_of_mem hlink
    simp only [Place.element_updated, hmarked, if_pos hmem,
      Element.hasClass_markClass (Element.classFault?_eq_none_iff.mp hword), if_true, beq_iff_eq]

omit hword in
theorem state_of_active?_eq_none
    (h : Sidebar.active? visit.path (sidebarHrefs (sidebarLinks page.scene selector)) visit.base =
      none) :
    (highlightSidebar visit settings page).state = page := by
  have hmarks : linkMarks visit settings page.scene = [] := by
    rw [linkMarks, hread, Option.bind_some, h, Option.map_none, Option.getD_none]
  rw [highlightSidebar_markAll, hmarks]
  exact page.page_scene

theorem result_highlightSidebar : (highlightSidebar visit settings page).result = .ok () := by
  simp only [highlightSidebar, hread, markAll_eq_moves hword]
  split
  · rfl
  · split
    · rfl
    · rfl

/-- Marks that are made again find the same links and change nothing. -/
theorem highlightSidebar_twice (hignores : selector.Ignores settings.activeClass) :
    (highlightSidebar visit settings (highlightSidebar visit settings page).state).state =
      (highlightSidebar visit settings page).state := by
  have hupdated := updated_highlightSidebar visit settings page
  have hhref : "href" ≠ "class" := by decide
  -- the marks change neither what is selected nor where a link leads
  have hsame : linkMarks visit settings (highlightSidebar visit settings page).state.scene =
      linkMarks visit settings page.scene :=
    linkMarks_updated hupdated visit hread (Move.alike_marked hignores _)
      (fun id => Move.attribute?_marked hhref settings.activeClass _ id)
      fun place _ _ => Place.kept_none place
  have hmoves : sidebarMoves visit settings (highlightSidebar visit settings page).state.scene =
      sidebarMoves visit settings page.scene := by
    rw [sidebarMoves, hsame, sidebarMoves]
  have honce : (highlightSidebar visit settings page).state =
      (highlightSidebar visit settings page).state.scene.page := (Page.page_scene _).symm
  rw [highlightSidebar_state visit settings (highlightSidebar visit settings page).state, hmoves]
  conv_rhs => rw [honce]
  rw [Scene.page, Scene.page, Scene.attached_moves, written?_sidebarMoves, hupdated.attached,
    Forest.update_update]
  refine congrArg (fun forest => Page.mk (Forest.unnumber forest)) (Forest.update_congr ?_)
  intro id _
  refine ⟨?_, rfl⟩
  funext element
  exact Move.marked_marked (Element.classFault?_eq_none_iff.mp hword) _ id element

end

/-- The sidebar pass from end to end: of the links the first that leads to the page is the only one
marked, else the first that leads above it, and else nothing changes. What is no link stays as it
is, and a further run changes nothing if the selector does not look at the class. -/
theorem highlightSidebar_marks_first (visit : Visit) {settings : Settings} {selector : Selector}
    (hread : Browser.selector? settings.navSelector = some selector)
    (hword : Element.classFault? settings.activeClass = none) (page : Page) :
    let links := sidebarLinks page.scene selector
    let last := (highlightSidebar visit settings page).state
    (highlightSidebar visit settings page).result = .ok () ∧
    (∀ before active after, links = before ++ active :: after → LeadsTo visit active →
      (∀ link ∈ before, ¬LeadsTo visit link) →
        last = markOnly settings.activeClass links active page ∧
          OnlyMarked settings.activeClass links active last) ∧
    ((∀ link ∈ links, ¬LeadsTo visit link) →
      ∀ before active after, links = before ++ active :: after → LeadsAbove visit active →
        (∀ link ∈ before, ¬LeadsAbove visit link) →
          last = markOnly settings.activeClass links active page ∧
            OnlyMarked settings.activeClass links active last) ∧
    ((∀ link ∈ links, ¬LeadsTo visit link ∧ ¬LeadsAbove visit link) → last = page) ∧
    (∀ node ∈ page.scene.select selector, Sidebar.isLinkTag node.element.tag = false →
      ∃ found ∈ last.scene.locate? node.id, found.2.element = node.element) ∧
    (selector.Ignores settings.activeClass →
      (highlightSidebar visit settings last).state = last) := by
  refine ⟨result_highlightSidebar hread hword, ?_, ?_, ?_, ?_,
    highlightSidebar_twice hread hword⟩
  · intro before active after hlinks hactive hbefore
    exact markOnly_of_active? hread hword hlinks (active?_of_leadsTo hactive hbefore)
  · intro hnone before active after hlinks hactive hbefore
    exact markOnly_of_active? hread hword hlinks
      (active?_of_leadsAbove (hlinks ▸ hnone) hactive hbefore)
  · intro hnone
    exact state_of_active?_eq_none hread (active?_eq_none hnone)
  · intro node hnode htag
    obtain ⟨place, hplace, -, rfl⟩ := Scene.mem_select.mp hnode
    apply locate?_of_not_marked hplace
    intro hmem
    -- an element with a mark is a link, and numbers are distinct
    obtain ⟨entry, hentry, hid⟩ := List.mem_map.mp hmem
    obtain ⟨other, -, link, hlink, hlinkId⟩ := exists_link_of_mem_linkMarks hentry
    obtain ⟨linkPlace, hlinkPlace, rfl, hlinkTag⟩ := exists_place_of_mem_links hlink
    have hsame := Forest.place_unique (Scene.nodup_attached (Scene.nodup_numbers_scene page))
      hlinkPlace hplace (hlinkId.trans hid)
    rw [hsame, htag] at hlinkTag
    contradiction

end

/-- A sidebar with a heading, a link above the page that was marked before, one that is no URL, and
two that lead to the page. -/
def crowdedSidebar : Page where
  content :=
    .element (.ofMarkup "nav" [("class", "sidebar__nav")])
      (.element (.ofMarkup "b" [("class", "nav__item is-active")]) (.ofText "Users")
        (.element (.ofMarkup "a" [("class", "nav__item is-active"), ("href", "/admin")]) .nil
          (.element (.ofMarkup "a" [("class", "nav__item"), ("href", "http://[::1")]) .nil
            (.element (.ofMarkup "a" [("class", "nav__item"), ("href", "/admin/users/")]) .nil
              (.element (.ofMarkup "a" [("class", "nav__item"), ("href", "/admin/users")]) .nil
                .nil)))))
      .nil

def usersVisit : Visit := { visitWith "" with path := "/admin/users" }

def navItems : Selector :=
  ⟨[⟨⟨none, [.classIs "nav__item"]⟩, [(.descendant, ⟨none, [.classIs "sidebar__nav"]⟩)]⟩]⟩

/-- The first link to the page wins over the one above it, and the heading keeps its mark. -/
theorem highlightSidebar_crowdedSidebar :
    Browser.selector? ({} : Settings).navSelector = some navItems ∧
      Element.classFault? ({} : Settings).activeClass = none ∧
      navItems.Ignores ({} : Settings).activeClass ∧
      ∃ active, (sidebarLinks crowdedSidebar.scene navItems)[2]? = some active ∧
        LeadsTo usersVisit active ∧
        OnlyMarked "is-active" (sidebarLinks crowdedSidebar.scene navItems) active
          (highlightSidebar usersVisit {} crowdedSidebar).state := by
  have hread : Browser.selector? ({} : Settings).navSelector = some navItems := by decide +kernel
  have hword : Element.classFault? ({} : Settings).activeClass = none := by decide +kernel
  have hignores : navItems.Ignores ({} : Settings).activeClass :=
    Selector.ignores_of_mentions (Element.classFault?_eq_none_iff.mp hword) (by decide +kernel)
  let links := sidebarLinks crowdedSidebar.scene navItems
  let active : Scene.Node := ⟨4, .ofMarkup "a" [("class", "nav__item"), ("href", "/admin/users/")],
    .nil⟩
  have hlinks : links = links.take 2 ++ active :: links.drop 3 := by decide +kernel
  have hactive : LeadsTo usersVisit active := by
    rw [← any_leadsTo_iff]
    decide +kernel
  have hbefore : ∀ link ∈ links.take 2, ¬LeadsTo usersVisit link := by
    simp only [← any_leadsTo_iff]
    decide +kernel
  refine ⟨hread, hword, hignores, active, by decide +kernel, hactive, ?_⟩
  exact ((highlightSidebar_marks_first usersVisit hread hword crowdedSidebar).2.1 _ _ _ hlinks
    hactive hbefore).2

end PageSync.Pass
