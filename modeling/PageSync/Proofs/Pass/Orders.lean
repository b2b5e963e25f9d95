import PageSync.Page.Browser
import PageSync.Proofs.Pass.Numeric
import PageSync.Proofs.Pass.Renaming
import PageSync.Proofs.Pass.Sidebar
import PageSync.Proofs.Pass.Spared

/-!
The three passes in any order. What each of them does to the page of the start is an update of it,
and a pass that runs after others makes the update that it would have made at the start
(`run_reach`): nothing that it looks for or reads has changed. Updates of different passes commute,
up to the order in which the attributes of an element are written, so every order of the passes ends
in the same page (`runStages_perm`).
-/

namespace PageSync

/-- The same page but for the order in which attributes are written. -/
def Page.Same (page other : Page) : Prop := page.content.Related Element.Same other.content

namespace Pass

open Selector (ReadsBlind)

inductive Stage where
  | sidebar
  | tabs
  | numeric
deriving DecidableEq

section

variable [Browser]

/-- The page after one pass, whether it was stopped or not. -/
def Stage.run (visit : Visit) (settings : Settings) : Stage → Page → Page
  | .sidebar, page => (highlightSidebar visit settings page).state
  | .tabs, page => (activateTabs visit settings page).state
  | .numeric, page => (wireNumeric settings page).state

def runStages (visit : Visit) (settings : Settings) (order : List Stage) (page : Page) : Page :=
  order.foldl (fun page stage => stage.run visit settings page) page

/-- A visit runs the passes in this order. -/
theorem visited_eq_runStages (visit : Visit) (settings : Settings) (page : Page) :
    (visited visit settings page).1 =
      runStages visit settings [.sidebar, .tabs, .numeric] page := rfl

def fieldsOf (settings : Settings) (page : Page) : List Nat :=
  ((Browser.selector? settings.numericSelector).map fun selector =>
    ((page.scene.select selector).filter fun node => node.element.isInput).map
      Scene.Node.id).getD []

theorem mem_fieldsOf {settings : Settings} {page : Page} {id : Nat}
    (h : id ∈ unboundFields settings page.scene) : id ∈ fieldsOf settings page := by
  cases hread : Browser.selector? settings.numericSelector with
  | none => simp [unboundFields, hread] at h
  | some selector =>
      rw [unboundFields, hread] at h
      obtain ⟨node, hnode, rfl⟩ := List.mem_map.mp h
      obtain ⟨hmem, hunbound⟩ := List.mem_filter.mp hnode
      rw [isUnbound, Bool.and_eq_true] at hunbound
      rw [fieldsOf, hread]
      exact List.mem_map_of_mem (List.mem_filter.mpr ⟨hmem, hunbound.1⟩)

instance (page : Page) (id : Nat) (text : String) : Decidable (Spares page id text) :=
  inferInstanceAs (Decidable (∀ selector ∈ Browser.selector? text,
    ∀ target ∈ page.scene.select selector, ¬page.scene.Contains target.id id))

/-- No selector looks at what the passes change, no link is a tab, and no element that an indicator
selects contains a link or a number field. A selector looks at the class if a test of it can tell
whether an element has it, as a test of the whole class attribute can. -/
structure Independent (settings : Settings) (page : Page) : Prop where
  nav : ReadsBlind settings.activeClass settings.navSelector
  groups : ReadsBlind settings.activeClass settings.tabGroupSelector
  tabs : ReadsBlind settings.activeClass settings.tabSelector
  emphasis : ReadsBlind settings.activeClass settings.indicatorEmphasis
  fields : ReadsBlind settings.activeClass settings.numericSelector
  indicators : ∀ group ∈ tabGroups settings page, ∀ found ∈ page.scene.locate? group,
    ∀ text ∈ found.2.element.attribute? "data-indicator",
      ReadsBlind settings.activeClass text ∧
        ∀ id ∈ linksOf settings page ++ fieldsOf settings page, Spares page id text
  link_tab : ∀ id ∈ linksOf settings page, ∀ group ∈ tabGroups settings page,
    id ∉ tabsOf settings page group

/-! ### What the passes do to an element -/

section

variable (visit : Visit) (settings : Settings) (page : Page)

/-- What a pass over the page makes of the element with a number. -/
def Stage.change : Stage → Nat → Element → Element
  | .sidebar => Move.marked settings.activeClass (sidebarMoves visit settings page.scene)
  | .tabs =>
    Move.marked settings.activeClass
      (passMoves visit settings page.scene (tabGroups settings page))
  | .numeric => wireListed (unboundFields settings page.scene)

/-- The text that a pass over the page leaves in the element with a number. -/
def Stage.text? : Stage → Nat → Option String
  | .tabs => Move.written? (passMoves visit settings page.scene (tabGroups settings page))
  | .sidebar | .numeric => fun _ => none

def changeAll (done : List Stage) (id : Nat) (element : Element) : Element :=
  done.foldl (fun element stage => stage.change visit settings page id element) element

def textAll? (done : List Stage) (id : Nat) : Option String :=
  if .tabs ∈ done then Stage.text? visit settings page .tabs id else none

/-- The elements of the page when some passes have done what they do at the start. -/
def reach (done : List Stage) : Forest (Nat × Element) :=
  page.scene.attached.update (changeAll visit settings page done)
    (textAll? visit settings page done)

theorem reach_concat (done : List Stage) (stage : Stage) :
    (reach visit settings page done).update (stage.change visit settings page)
        (stage.text? visit settings page) =
      reach visit settings page (done ++ [stage]) := by
  rw [reach, reach, Forest.update_update]
  apply Forest.update_congr
  intro id _
  constructor
  · funext element
    rw [changeAll, changeAll, List.foldl_concat]
  · cases stage with
    | tabs =>
        by_cases htabs : Stage.tabs ∈ done
        · simp [textAll?, htabs]
        · simp [textAll?, htabs]
    | sidebar => simp [textAll?, Stage.text?]
    | numeric => simp [textAll?, Stage.text?]

theorem updated_reach (done : List Stage) :
    page.scene.Updated ⟨reach visit settings page done, .nil⟩
      (changeAll visit settings page done) (textAll? visit settings page done) := by
  have hnodup := Scene.nodup_numbers_scene page
  refine ⟨hnodup, ?_, rfl⟩
  show ((reach visit settings page done).numbers ++ []).Nodup
  rw [List.append_nil]
  exact Forest.nodup_numbers_update (Scene.nodup_attached hnodup)

theorem alike_change (stage : Stage) (id : Nat) (element : Element) :
    Element.AlikeBut settings.activeClass (stage.change visit settings page id element)
      element := by
  cases stage with
  | numeric =>
      show Element.AlikeBut settings.activeClass (wireListed _ id element) element
      rw [wireListed]
      split
      · exact Element.alikeBut_wired settings.activeClass element
      · exact .refl settings.activeClass element
  | sidebar => exact alike_sidebarMoves visit settings page.scene id element
  | tabs => exact alike_passMoves visit page.scene _ id element

theorem alike_changeAll (done : List Stage) (id : Nat) (element : Element) :
    Element.AlikeBut settings.activeClass (changeAll visit settings page done id element)
      element := by
  induction done generalizing element with
  | nil => exact .refl settings.activeClass element
  | cons stage done ih => exact (ih _).trans (alike_change visit settings page stage id element)

/-- Only the numeric pass tags elements. -/
theorem attribute?_changeAll {done : List Stage} (hnumeric : .numeric ∉ done) (id : Nat)
    (element : Element) :
    (changeAll visit settings page done id element).attribute? boundAttribute =
      element.attribute? boundAttribute := by
  induction done generalizing element with
  | nil => rfl
  | cons stage done ih =>
      rw [List.mem_cons, not_or] at hnumeric
      refine (ih hnumeric.2 _).trans ?_
      cases stage with
      | numeric => exact absurd rfl hnumeric.1
      | sidebar => exact Move.attribute?_marked Element.boundAttribute_ne_class _ _ id element
      | tabs => exact Move.attribute?_marked Element.boundAttribute_ne_class _ _ id element

end

/-! ### What the tab pass leaves for the others -/

/-- An indicator that, written on a group, selects nothing around a link or a number field. -/
def Harmless (settings : Settings) (page : Page) (id : Nat) (text : String) : Prop :=
  id ∈ tabGroups settings page →
    ReadsBlind settings.activeClass text ∧
      ∀ spared ∈ linksOf settings page ++ fieldsOf settings page, Spares page spared text

section

variable {settings : Settings} {page : Page} (h : Independent settings page) (visit : Visit)

include h

/-- What the page says of its indicators it says of any change of it that spares attributes. -/
theorem related_update_start {f : Nat → Element → Element}
    (hf : ∀ id element, Element.AlikeBut settings.activeClass (f id element) element) :
    Scene.Related (Twin settings.activeClass (Harmless settings page))
      ⟨page.scene.attached.update f fun _ => none, .nil⟩ page.scene := by
  refine ⟨?_, .nil⟩
  conv => right; rw [← Forest.update_id page.scene.attached]
  apply Forest.related_update
  intro entry hentry
  obtain ⟨place, hplace, rfl⟩ := Forest.exists_place_of_mem_toList [] hentry
  refine ⟨rfl, hf _ _, ?_⟩
  intro text htext hgroup
  have hdata : "data-indicator" ≠ boundAttribute := by decide
  have hclass : "data-indicator" ≠ "class" := by decide
  have hname := (hf place.node.id place.node.element).attributes "data-indicator" hclass hdata
  have hlocate := Scene.locate?_of_mem_places (Scene.nodup_numbers_scene page) hplace
  exact h.indicators _ hgroup _ hlocate text (hname ▸ htext)

theorem underway_start :
    Underway settings.activeClass (Harmless settings page) page [] page.scene where
  updated := Scene.updated_moves (Scene.nodup_numbers_scene page) settings.activeClass []
  related := by
    have hrelated := related_update_start h (f := fun _ element => element)
      fun _ element => .refl settings.activeClass element
    rw [Forest.update_id] at hrelated
    exact hrelated

theorem kept_textAll? {place : Place} (hplace : place ∈ page.scene.places)
    (hspared : place.node.id ∈ linksOf settings page ++ fieldsOf settings page)
    (done : List Stage) : place.kept (textAll? visit settings page done) = true := by
  by_cases htabs : Stage.tabs ∈ done
  · have htext : textAll? visit settings page done =
        Move.written? (passMoves visit settings page.scene (tabGroups settings page)) := by
      funext id
      rw [textAll?, if_pos htabs, Stage.text?]
    rw [htext]
    cases hword : Element.classFault? settings.activeClass with
    | some fault =>
        rw [passMoves_of_fault visit hword, Place.kept_iff]
        exact fun _ _ => rfl
    | none =>
        exact kept_passMoves visit hword (underway_start h) hplace (Place.kept_none place)
          fun id hid text hsafe => ⟨(hsafe hid).1, (hsafe hid).2 _ hspared⟩
  · rw [Place.kept_iff]
    intro id _
    rw [textAll?, if_neg htabs]

/-- The tab pass marks no link. -/
theorem not_mem_marks_of_link {id : Nat} (hid : id ∈ linksOf settings page) :
    id ∉ (Move.marks (passMoves visit settings page.scene (tabGroups settings page))).map
      Prod.fst := by
  cases hword : Element.classFault? settings.activeClass with
  | some fault =>
      rw [passMoves_of_fault visit hword]
      exact List.not_mem_nil
  | none =>
      have hlink := hid
      rw [linksOf] at hlink
      cases hread : Browser.selector? settings.navSelector with
      | none => simp [hread] at hlink
      | some selector =>
          rw [hread, Option.map_some, Option.getD_some] at hlink
          obtain ⟨link, hmem, rfl⟩ := List.mem_map.mp hlink
          obtain ⟨place, hplace, rfl, -⟩ := exists_place_of_mem_links hmem
          -- links are neither tabs nor within an indicator
          have hspared := List.mem_append_left (fieldsOf settings page) hid
          exact not_mem_marks_passMoves visit hword (underway_start h) hplace
            (Place.kept_none place) h.tabs
            (fun id hid text hsafe => ⟨(hsafe hid).1, (hsafe hid).2 _ hspared⟩)
            fun group hgroup => h.link_tab _ hid group hgroup

/-! ### A pass that runs after others -/

theorem run_sidebar_reach (done : List Stage) :
    Stage.run visit settings .sidebar ⟨(reach visit settings page done).unnumber⟩ =
      ⟨(reach visit settings page (done ++ [.sidebar])).unnumber⟩ := by
  have hupdated := updated_reach visit settings page done
  have hlinks : linkMarks visit settings ⟨reach visit settings page done, .nil⟩ =
      linkMarks visit settings page.scene := by
    cases hread : Browser.selector? settings.navSelector with
    | none => simp [linkMarks, hread]
    | some selector =>
        have hhref : "href" ≠ "class" ∧ "href" ≠ boundAttribute := by decide
        -- what the other passes have done shows neither in the selector nor in a reference
        have halike := alike_changeAll visit settings page done
        refine linkMarks_updated hupdated visit hread
          (fun id element => h.nav selector hread _ _ (halike id element))
          (fun id element => (halike id element).attributes "href" hhref.1 hhref.2) ?_
        intro place hplace hlink
        apply kept_textAll? h visit hplace
        rw [linksOf, hread]
        exact List.mem_append_left _ (List.mem_map_of_mem hlink)
  have hmoves : sidebarMoves visit settings ⟨reach visit settings page done, .nil⟩ =
      sidebarMoves visit settings page.scene := by
    rw [sidebarMoves, hlinks, sidebarMoves]
  have hpage := highlightSidebar_page visit settings (Scene.nodup_attached hupdated.nodup_later)
  rw [← reach_concat]
  refine hpage.trans ?_
  rw [hmoves, Scene.page, Scene.attached_moves, written?_sidebarMoves]
  rfl

theorem run_numeric_reach {done : List Stage} (hnumeric : .numeric ∉ done) :
    Stage.run visit settings .numeric ⟨(reach visit settings page done).unnumber⟩ =
      ⟨(reach visit settings page (done ++ [.numeric])).unnumber⟩ := by
  have hupdated := updated_reach visit settings page done
  have hnodup := Scene.nodup_attached hupdated.nodup_later
  have hfields : unboundFields settings ⟨reach visit settings page done, .nil⟩ =
      unboundFields settings page.scene := by
    cases hread : Browser.selector? settings.numericSelector with
    | none => simp [unboundFields, hread]
    | some selector =>
        have halike := alike_changeAll visit settings page done
        refine unboundFields_updated hupdated hread
          (fun id element => h.fields selector hread _ _ (halike id element))
          (attribute?_changeAll visit settings page hnumeric) ?_
        intro place hplace hfield
        apply kept_textAll? h visit hplace
        exact List.mem_append_right _ (mem_fieldsOf hfield)
  have hpage := wireNumeric_page settings hnodup
  rw [← reach_concat]
  refine hpage.trans ?_
  rw [Scene.page, attached_wireAll (nodup_unboundFields settings hnodup), hfields]
  rfl

theorem run_tabs_reach {done : List Stage} (htabs : .tabs ∉ done) :
    Stage.run visit settings .tabs ⟨(reach visit settings page done).unnumber⟩ =
      ⟨(reach visit settings page (done ++ [.tabs])).unnumber⟩ := by
  rw [← reach_concat]
  cases hread : Browser.selector? settings.tabGroupSelector with
  | none =>
      have hnone : passMoves visit settings page.scene (tabGroups settings page) = [] := by
        simp [tabGroups, hread, passMoves]
      have hself : (reach visit settings page done).update
          (Stage.change visit settings page .tabs) (Stage.text? visit settings page .tabs) =
            reach visit settings page done := by
        apply Forest.update_eq_self
        intro id _
        rw [Stage.change, Stage.text?, hnone]
        exact ⟨rfl, rfl⟩
      simp only [Stage.run, activateTabs, hread, hself]
  | some selector =>
      -- the other passes write no texts, so the groups find what they find at the start
      have hnone : textAll? visit settings page done = fun _ => none := by
        funext id
        rw [textAll?, if_neg htabs]
      have hrelated := related_update_start h (alike_changeAll visit settings page done)
      rw [← hnone] at hrelated
      have hgroups : (Scene.select ⟨reach visit settings page done, .nil⟩ selector).map
          Scene.Node.id = tabGroups settings page := by
        rw [tabGroups, hread]
        exact map_id_select_related hrelated (h.groups selector hread)
      have hmoves : passMoves visit settings ⟨reach visit settings page done, .nil⟩
          (tabGroups settings page) =
            passMoves visit settings page.scene (tabGroups settings page) :=
        passMoves_related h.tabs h.emphasis hrelated visit fun id hid text hsafe => (hsafe hid).1
      have hpage := activateTabs_page visit hread
        (Scene.nodup_attached (updated_reach visit settings page done).nodup_later)
      refine hpage.trans ?_
      rw [hgroups, activateGroups_eq_moves, hmoves, Scene.page, Scene.attached_moves]
      rfl

/-- A pass that runs after others does what it would have done at the start. -/
theorem run_reach {done : List Stage} {stage : Stage} (hstage : stage ∉ done) :
    stage.run visit settings ⟨(reach visit settings page done).unnumber⟩ =
      ⟨(reach visit settings page (done ++ [stage])).unnumber⟩ := by
  cases stage with
  | sidebar => exact run_sidebar_reach h visit done
  | tabs => exact run_tabs_reach h visit hstage
  | numeric => exact run_numeric_reach h visit hstage

theorem runStages_reach {done order : List Stage} (hnodup : (done ++ order).Nodup) :
    runStages visit settings order ⟨(reach visit settings page done).unnumber⟩ =
      ⟨(reach visit settings page (done ++ order)).unnumber⟩ := by
  induction order generalizing done with
  | nil => rw [List.append_nil, runStages, List.foldl_nil]
  | cons stage order ih =>
      have hsplit : done ++ stage :: order = (done ++ [stage]) ++ order := by simp
      have hstage : stage ∉ done := fun hmem =>
        (List.nodup_append.mp hnodup).2.2 stage hmem stage List.mem_cons_self rfl
      rw [hsplit] at hnodup ⊢
      rw [← ih hnodup, ← run_reach h visit hstage]
      rfl

/-! ### Updates of different passes commute -/

omit h in
theorem same_change (visit : Visit) (settings : Settings) (page : Page) (stage : Stage) (id : Nat)
    {a b : Element} (hab : Element.Same a b) :
    Element.Same (stage.change visit settings page id a)
      (stage.change visit settings page id b) := by
  cases stage with
  | sidebar => exact Move.same_marked _ _ id hab
  | tabs => exact Move.same_marked _ _ id hab
  | numeric =>
      rw [Stage.change, wireListed, wireListed]
      split
      · exact hab.wired
      · exact hab

omit h in
theorem same_changeAll (visit : Visit) (settings : Settings) (page : Page) (order : List Stage)
    (id : Nat) {a b : Element} (hab : Element.Same a b) :
    Element.Same (changeAll visit settings page order id a)
      (changeAll visit settings page order id b) := by
  induction order generalizing a b with
  | nil => exact hab
  | cons stage order ih => exact ih (same_change visit settings page stage id hab)

theorem same_change_change (a b : Stage) (id : Nat) (element : Element) :
    Element.Same (a.change visit settings page id (b.change visit settings page id element))
      (b.change visit settings page id (a.change visit settings page id element)) := by
  have hwired (moves : List Move) (element : Element) :
      Element.Same (Move.marked settings.activeClass moves id
          (wireListed (unboundFields settings page.scene) id element))
        (wireListed (unboundFields settings page.scene) id
          (Move.marked settings.activeClass moves id element)) := by
    rw [wireListed, wireListed]
    split
    · exact Move.same_marked_wired settings.activeClass moves id element
    · exact .refl _
  -- no element has marks from both
  have hmarks : Stage.change visit settings page .sidebar id
        (Stage.change visit settings page .tabs id element) =
      Stage.change visit settings page .tabs id
        (Stage.change visit settings page .sidebar id element) := by
    by_cases hlink : id ∈ linksOf settings page
    · have hnot := not_mem_marks_of_link h visit hlink
      rw [Stage.change, Stage.change, Move.marked_eq_self _ hnot, Move.marked_eq_self _ hnot]
    · have hnot : id ∉ (Move.marks (sidebarMoves visit settings page.scene)).map Prod.fst :=
        fun hmem => hlink (mem_linksOf hmem)
      rw [Stage.change, Stage.change, Move.marked_eq_self _ hnot, Move.marked_eq_self _ hnot]
  cases a with
  | sidebar =>
      cases b with
      | sidebar => exact .refl _
      | tabs => exact hmarks ▸ .refl _
      | numeric => exact hwired _ element
  | tabs =>
      cases b with
      | sidebar => exact hmarks ▸ .refl _
      | tabs => exact .refl _
      | numeric => exact hwired _ element
  | numeric =>
      cases b with
      | sidebar => exact (hwired _ element).symm
      | tabs => exact (hwired _ element).symm
      | numeric => exact .refl _

/-- Updates in another order come to the same. -/
theorem same_changeAll_perm {order other : List Stage} (hperm : order.Perm other) (id : Nat)
    (element : Element) :
    Element.Same (changeAll visit settings page order id element)
      (changeAll visit settings page other id element) := by
  induction hperm generalizing element with
  | nil => exact .refl element
  | cons stage _ ih => exact ih _
  | swap first second rest =>
      exact same_changeAll visit settings page rest id
        (same_change_change h visit first second id element)
  | trans _ _ ih ih' => exact (ih element).trans (ih' element)

/-- Passes over the page, none of them twice. -/
theorem runStages_eq_reach {order : List Stage} (hnodup : order.Nodup) :
    runStages visit settings order page = ⟨(reach visit settings page order).unnumber⟩ := by
  have hstart : reach visit settings page [] = page.scene.attached :=
    Forest.update_id page.scene.attached
  have hrun := runStages_reach h visit (show (([] : List Stage) ++ order).Nodup from hnodup)
  rw [hstart] at hrun
  have hpage : (⟨page.scene.attached.unnumber⟩ : Page) = page := page.page_scene
  rw [hpage] at hrun
  exact hrun

/-- The passes end in the same page in whatever order they run, and the same fields are wired. -/
theorem runStages_perm {order : List Stage} (horder : order.Perm [.sidebar, .tabs, .numeric]) :
    (runStages visit settings order page).Same (visited visit settings page).1 := by
  have hvisit : ([.sidebar, .tabs, .numeric] : List Stage).Nodup := by decide
  have htext : textAll? visit settings page order =
      textAll? visit settings page [.sidebar, .tabs, .numeric] := by
    funext id
    simp only [textAll?, horder.mem_iff]
  rw [visited_eq_runStages, runStages_eq_reach h visit (horder.nodup_iff.mpr hvisit),
    runStages_eq_reach h visit hvisit, Page.Same, reach, reach, htext]
  apply Forest.Related.unnumber (r := fun a b => Element.Same a.2 b.2) fun _ _ hab => hab
  apply Forest.related_update
  intro entry _
  exact same_changeAll_perm h visit horder entry.1 entry.2

end

end

/-- A link, a group one of whose tabs is a number field, and an indicator that holds another
group. -/
def mixedPage : Page where
  content :=
    .element (.ofMarkup "nav" [("class", "sidebar__nav")])
      (.element (.ofMarkup "a" [("class", "nav__item"), ("href", "/")]) (.ofText "Home") .nil)
      (.element (.ofMarkup "div" [("class", "tabs"), ("data-indicator", "#shown")])
        (.element (.ofMarkup "a" [("class", "tab"), ("data-tab", "day")]) (.ofText "Day")
          (.element
            (.ofMarkup "input" [("class", "tab"), ("data-tab", "week"), ("data-numeric", "true")])
            .nil .nil))
        (.element (.ofMarkup "p" [("id", "shown")])
          (.element (.ofMarkup "div" [("class", "tabs")])
            (.element (.ofMarkup "a" [("class", "tab"), ("href", "?tab=week")]) (.ofText "7") .nil)
            .nil)
          .nil))

def parentSettings : Settings :=
  { navSelector := "nav.sidebar__nav > [href]"
    tabSelector := ".tabs > .tab"
    numericSelector := "div > [data-numeric = 'true']" }

theorem independent_mixedPage : Independent parentSettings mixedPage where
  nav := Selector.readsBlind_of_asksNeither (by decide +kernel)
  groups := Selector.readsBlind_of_asksNeither (by decide +kernel)
  tabs := Selector.readsBlind_of_asksNeither (by decide +kernel)
  emphasis := Selector.readsBlind_of_asksNeither (by decide +kernel)
  fields := Selector.readsBlind_of_asksNeither (by decide +kernel)
  indicators := by
    have hplain : ∀ group ∈ tabGroups parentSettings mixedPage,
        ∀ found ∈ mixedPage.scene.locate? group,
          ∀ text ∈ found.2.element.attribute? "data-indicator",
            Selector.asksNeither parentSettings.activeClass text = true ∧
              ∀ id ∈ linksOf parentSettings mixedPage ++ fieldsOf parentSettings mixedPage,
                Spares mixedPage id text := by
      decide +kernel
    intro group hgroup found hfound text htext
    obtain ⟨hasks, hspares⟩ := hplain group hgroup found hfound text htext
    exact ⟨Selector.readsBlind_of_asksNeither hasks, hspares⟩
  link_tab := by decide +kernel

/-- From the last pass to the first the page becomes the same, and another than it was: the link is
marked, and so is the field, which is a tab and is wired. -/
theorem runStages_mixedPage :
    ([.numeric, .tabs, .sidebar] : List Stage).Perm [.sidebar, .tabs, .numeric] ∧
      linksOf parentSettings mixedPage = [1] ∧ fieldsOf parentSettings mixedPage = [4] ∧
      (runStages (visitWith "?tab=week") parentSettings [.numeric, .tabs, .sidebar]
        mixedPage).content.toList.filterMap (·.attribute? "class") =
          ["sidebar__nav", "nav__item is-active", "tabs", "tab", "tab is-active"] ∧
      (runStages (visitWith "?tab=week") parentSettings [.numeric, .tabs, .sidebar] mixedPage).Same
        (visited (visitWith "?tab=week") parentSettings mixedPage).1 := by
  have hperm : ([.numeric, .tabs, .sidebar] : List Stage).Perm [.sidebar, .tabs, .numeric] := by
    decide
  refine ⟨hperm, by decide +kernel, by decide +kernel, by decide +kernel, ?_⟩
  exact runStages_perm independent_mixedPage (visitWith "?tab=week") hperm

end Pass

end PageSync
