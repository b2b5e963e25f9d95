import PageSync.Pass
import PageSync.Proofs.Page.Related
import PageSync.Proofs.Page.Renaming
import PageSync.Proofs.Pass.Foresight

/-!
The sidebar pass as moves: the marks that it asks for (`linkMarks`), made in any scene that has the
page (`highlightSidebar_page`). It is an update of the page that replaces no content
(`updated_highlightSidebar`), and it asks for the same marks after an update that leaves the links
and what they refer to (`linkMarks_updated`).
-/

namespace PageSync.Pass

def linkHref (link : Scene.Node) : String := (link.element.attribute? "href").getD ""

variable [Browser]

def linkMarks (visit : Visit) (settings : Settings) (scene : Scene) : List (Nat × Bool) :=
  ((Browser.selector? settings.navSelector).bind fun selector =>
    (Sidebar.active? visit.path (sidebarHrefs (sidebarLinks scene selector)) visit.base).map
      (sidebarMarks (sidebarLinks scene selector))).getD []

/-- The moves of the pass. A word that is no class stops it at its first mark. -/
def sidebarMoves (visit : Visit) (settings : Settings) (scene : Scene) : List Move :=
  match Element.classFault? settings.activeClass with
  | some _ => []
  | none => (linkMarks visit settings scene).map fun entry => .mark entry.1 entry.2

theorem markAll_eq_sidebarMoves (visit : Visit) (settings : Settings) (scene : Scene) :
    (scene.markAll settings.activeClass (linkMarks visit settings scene)).1 =
      scene.moves settings.activeClass (sidebarMoves visit settings scene) := by
  rw [sidebarMoves]
  cases hword : Element.classFault? settings.activeClass with
  | none => rw [markAll_eq_moves hword]
  | some fault =>
      cases hmarks : linkMarks visit settings scene with
      | nil => rfl
      | cons mark marks => rw [markAll_of_fault hword scene (List.cons_ne_nil mark marks)]; rfl

/-- What the pass makes of a page are its marks. -/
theorem highlightSidebar_markAll (visit : Visit) (settings : Settings) (page : Page) :
    (highlightSidebar visit settings page).state =
      (page.scene.markAll settings.activeClass (linkMarks visit settings page.scene)).1.page := by
  rw [highlightSidebar, linkMarks]
  cases Browser.selector? settings.navSelector with
  | none => exact page.page_scene.symm
  | some selector =>
      simp only [Option.bind_some]
      cases hlinks : sidebarLinks page.scene selector with
      | nil => exact page.page_scene.symm
      | cons link links =>
          simp only [List.isEmpty_cons, Bool.false_eq_true, if_false]
          cases Sidebar.active? visit.path (sidebarHrefs (link :: links)) visit.base with
          | none => exact page.page_scene.symm
          | some active =>
              simp only [Option.map_some, Option.getD_some]
              cases page.scene.markAll settings.activeClass
                  (sidebarMarks (link :: links) active) with
              | mk scene fault =>
                  cases fault with
                  | none => rfl
                  | some fault => rfl

theorem linkMarks_rename {σ : Nat → Nat} (visit : Visit) (settings : Settings) (scene : Scene) :
    linkMarks visit settings (scene.rename σ) =
      (linkMarks visit settings scene).map fun (id, on) => (σ id, on) := by
  rw [linkMarks, linkMarks]
  cases Browser.selector? settings.navSelector with
  | none => rfl
  | some selector =>
      have hlinks : sidebarLinks (scene.rename σ) selector =
          (sidebarLinks scene selector).map (Scene.Node.rename σ) := by
        rw [sidebarLinks, sidebarLinks, Scene.select_rename, List.filter_map]
        rfl
      have hhrefs : sidebarHrefs ((sidebarLinks scene selector).map (Scene.Node.rename σ)) =
          sidebarHrefs (sidebarLinks scene selector) := by
        rw [sidebarHrefs, sidebarHrefs, List.map_map]
        rfl
      simp only [Option.bind_some, hlinks, hhrefs]
      cases Sidebar.active? visit.path (sidebarHrefs (sidebarLinks scene selector)) visit.base with
      | none => rfl
      | some active =>
          simp [sidebarMarks, List.zipIdx_map, Scene.Node.rename, Function.comp_def]

/-- The pass over the page of a scene is its moves in the scene itself. -/
theorem highlightSidebar_page (visit : Visit) (settings : Settings) {scene : Scene}
    (h : scene.attached.numbers.Nodup) :
    (highlightSidebar visit settings scene.page).state =
      (scene.moves settings.activeClass (sidebarMoves visit settings scene)).page := by
  -- the pass numbers the page again, which is a renaming of the scene
  obtain ⟨σ, hσ, hrename⟩ := Scene.exists_rename h
  have hmarks : linkMarks visit settings scene =
      (linkMarks visit settings scene.page.scene).map fun (id, on) => (σ id, on) := by
    rw [← linkMarks_rename, hrename]
    rfl
  have hpage : (scene.markAll settings.activeClass (linkMarks visit settings scene)).1.page =
      ((Scene.mk scene.attached .nil).markAll settings.activeClass
        (linkMarks visit settings scene)).1.page := by
    have hmoves := markAll_eq_sidebarMoves visit settings ⟨scene.attached, .nil⟩
    have hsame : linkMarks visit settings ⟨scene.attached, .nil⟩ = linkMarks visit settings scene :=
      rfl
    rw [hsame] at hmoves
    rw [markAll_eq_sidebarMoves, hmoves, Scene.page, Scene.page, Scene.attached_moves,
      Scene.attached_moves]
    rfl
  rw [highlightSidebar_markAll, ← markAll_eq_sidebarMoves, hpage, hmarks, ← hrename,
    Scene.markAll_rename hσ, Scene.page_rename]

theorem highlightSidebar_state (visit : Visit) (settings : Settings) (page : Page) :
    (highlightSidebar visit settings page).state =
      (page.scene.moves settings.activeClass (sidebarMoves visit settings page.scene)).page := by
  rw [highlightSidebar_markAll, markAll_eq_sidebarMoves]

/-! ### What the moves are -/

@[simp] theorem written?_sidebarMoves (visit : Visit) (settings : Settings) (scene : Scene) :
    Move.written? (sidebarMoves visit settings scene) = fun _ => none := by
  funext id
  rw [sidebarMoves]
  cases Element.classFault? settings.activeClass with
  | some fault => rfl
  | none => exact Move.written?_marks _ id

theorem marks_sidebarMoves {settings : Settings}
    (hword : Element.classFault? settings.activeClass = none) (visit : Visit) (scene : Scene) :
    Move.marks (sidebarMoves visit settings scene) = linkMarks visit settings scene := by
  simp [sidebarMoves, hword, Move.marks, List.filterMap_map]

theorem marks_sidebarMoves_subset (visit : Visit) (settings : Settings) (scene : Scene) :
    Move.marks (sidebarMoves visit settings scene) ⊆ linkMarks visit settings scene := by
  cases hword : Element.classFault? settings.activeClass with
  | none => rw [marks_sidebarMoves hword]; exact List.Subset.refl _
  | some fault => rw [sidebarMoves, hword]; exact List.nil_subset _

omit [Browser] in
theorem map_fst_sidebarMarks (links : List Scene.Node) (active : Nat) :
    (sidebarMarks links active).map Prod.fst = links.map Scene.Node.id := by
  have hids : links.zipIdx.map (fun entry => entry.1.id) =
      (links.zipIdx.map Prod.fst).map Scene.Node.id := by
    rw [List.map_map]
    rfl
  rw [sidebarMarks, List.map_map]
  exact hids.trans (by rw [List.zipIdx_map_fst])

/-- What is marked are links. -/
theorem exists_link_of_mem_linkMarks {visit : Visit} {settings : Settings} {scene : Scene}
    {entry : Nat × Bool} (h : entry ∈ linkMarks visit settings scene) :
    ∃ selector, Browser.selector? settings.navSelector = some selector ∧
      ∃ link ∈ sidebarLinks scene selector, link.id = entry.1 := by
  rw [linkMarks] at h
  cases hread : Browser.selector? settings.navSelector with
  | none => simp [hread] at h
  | some selector =>
      simp only [hread, Option.bind_some] at h
      cases hactive : Sidebar.active? visit.path (sidebarHrefs (sidebarLinks scene selector))
          visit.base with
      | none => simp [hactive] at h
      | some active =>
          rw [hactive, Option.map_some, Option.getD_some] at h
          have hid := List.mem_map_of_mem (f := Prod.fst) h
          rw [map_fst_sidebarMarks] at hid
          exact ⟨selector, rfl, List.mem_map.mp hid⟩

/-- The links of a scene are places of its page. -/
theorem exists_place_of_mem_links {scene : Scene} {selector : Selector} {link : Scene.Node}
    (h : link ∈ sidebarLinks scene selector) :
    ∃ place ∈ scene.places,
      place.node = link ∧ Sidebar.isLinkTag place.node.element.tag = true := by
  obtain ⟨hselect, htag⟩ := List.mem_filter.mp h
  obtain ⟨place, hplace, -, rfl⟩ := Scene.mem_select.mp hselect
  exact ⟨place, hplace, rfl, htag⟩

def linksOf (settings : Settings) (page : Page) : List Nat :=
  ((Browser.selector? settings.navSelector).map fun selector =>
    (sidebarLinks page.scene selector).map Scene.Node.id).getD []

theorem mem_linksOf {visit : Visit} {settings : Settings} {page : Page} {id : Nat}
    (h : id ∈ (Move.marks (sidebarMoves visit settings page.scene)).map Prod.fst) :
    id ∈ linksOf settings page := by
  obtain ⟨entry, hentry, rfl⟩ := List.mem_map.mp h
  obtain ⟨selector, hread, link, hlink, hid⟩ :=
    exists_link_of_mem_linkMarks (marks_sidebarMoves_subset visit settings page.scene hentry)
  rw [linksOf, hread, Option.map_some, Option.getD_some]
  exact List.mem_map.mpr ⟨link, hlink, hid⟩

/-- The pass is an update of the page that replaces no content. -/
theorem updated_highlightSidebar (visit : Visit) (settings : Settings) (page : Page) :
    page.scene.Updated (highlightSidebar visit settings page).state.scene
      (Move.marked settings.activeClass (sidebarMoves visit settings page.scene))
      fun _ => none := by
  have hattached := Scene.attached_moves settings.activeClass page.scene
    (sidebarMoves visit settings page.scene)
  rw [written?_sidebarMoves] at hattached
  rw [highlightSidebar_state]
  exact Scene.updated_page hattached

/-- But for the class the pass leaves an element as it is. -/
theorem alike_sidebarMoves (visit : Visit) (settings : Settings) (scene : Scene) (id : Nat)
    (element : Element) :
    Element.AlikeBut settings.activeClass
      (Move.marked settings.activeClass (sidebarMoves visit settings scene) id element)
      element := by
  cases hword : Element.classFault? settings.activeClass with
  | none => exact Move.alikeBut_marked (Element.classFault?_eq_none_iff.mp hword) _ id element
  | some fault =>
      rw [sidebarMoves, hword]
      exact .refl settings.activeClass element

theorem nodup_links (page : Page) (selector : Selector) :
    ((sidebarLinks page.scene selector).map Scene.Node.id).Nodup := by
  have hids : (page.scene.places.map fun place => place.node.id).Nodup := by
    rw [Scene.places, Forest.map_id_places]
    exact Scene.nodup_attached (Scene.nodup_numbers_scene page)
  rw [sidebarLinks, Scene.select_eq_places, List.filter_map, List.map_map]
  exact hids.sublist ((List.filter_sublist.trans List.filter_sublist).map _)

/-- An update that keeps the links, and that neither the selector nor the references show, leaves
the marks that the pass asks for. -/
theorem linkMarks_updated {scene later : Scene} {f : Nat → Element → Element}
    {text? : Nat → Option String} (h : scene.Updated later f text?) (visit : Visit)
    {settings : Settings} {selector : Selector}
    (hread : Browser.selector? settings.navSelector = some selector)
    (hf : ∀ id item, selector.Alike (f id item) item)
    (hhref : ∀ id item, (f id item).attribute? "href" = item.attribute? "href")
    (hkept : ∀ place ∈ scene.places, place.node ∈ sidebarLinks scene selector →
      place.kept text? = true) :
    linkMarks visit settings later = linkMarks visit settings scene := by
  have hsplit (other : Scene) : sidebarLinks other selector =
      ((other.places.filter (Place.accepted Browser.around selector)).filter fun place =>
        Sidebar.isLinkTag place.node.element.tag).map Place.node := by
    rw [sidebarLinks, Scene.select_eq_places, List.filter_map]
    rfl
  have hlinks : sidebarLinks later selector =
      (sidebarLinks scene selector).map (Scene.Node.updated f text?) := by
    rw [hsplit, hsplit, h.filter_places_of_kept hf, List.map_map, List.map_map]
    · rfl
    · intro place
      show Sidebar.isLinkTag (f place.node.id place.node.element).tag = _
      rw [(hf place.node.id place.node.element).tag]
    · intro place hplace haccepted hlink
      apply hkept place hplace
      rw [hsplit]
      exact List.mem_map_of_mem
        (List.mem_filter.mpr ⟨List.mem_filter.mpr ⟨hplace, haccepted⟩, hlink⟩)
  -- which link is marked depends on the references alone
  have hhrefs : sidebarHrefs (sidebarLinks later selector) =
      sidebarHrefs (sidebarLinks scene selector) := by
    rw [hlinks, sidebarHrefs, sidebarHrefs, List.map_map]
    apply List.map_congr_left
    intro link _
    show ((f link.id link.element).attribute? "href").getD "" = _
    rw [hhref]
  rw [linkMarks, linkMarks, hread]
  simp only [Option.bind_some, hhrefs]
  cases Sidebar.active? visit.path (sidebarHrefs (sidebarLinks scene selector)) visit.base with
  | none => rfl
  | some active => simp [hlinks, sidebarMarks, List.zipIdx_map, Function.comp_def]

end PageSync.Pass
