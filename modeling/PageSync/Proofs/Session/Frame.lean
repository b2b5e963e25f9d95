import PageSync.Proofs.Pass.Orders
import PageSync.Proofs.Session.Containment

/-!
What a run can have changed. Every element and every text of the page is still in its place, but for
those within a slot that a group has written to, which holds nothing but the last text written. Of
an element that is still there only the class can differ, if it was marked, and what wiring adds, if
it was wired (`run_framed`).
-/

namespace PageSync

namespace Pass

variable [Browser]

/-! ### The turns of a pass -/

section

variable (visit : Visit) (settings : Settings)

def Untouched (scene : Scene) (groups : List Nat) (id : Nat) : Prop :=
  ∀ before group after, groups = before ++ group :: after →
    ∀ text, ¬Writes visit settings (activateGroups visit settings scene before).1 group id text

/-- A group writes the text into the element, and none of the later groups writes into it. -/
def LastWritten (scene : Scene) (groups : List Nat) (id : Nat) (text : String) : Prop :=
  ∃ before group after, groups = before ++ group :: after ∧
    Writes visit settings (activateGroups visit settings scene before).1 group id text ∧
      Untouched visit settings (activateGroups visit settings scene (before ++ [group])).1 after id

variable {visit settings}

theorem untouched_cons {scene : Scene} {group : Nat} {groups : List Nat} {id : Nat} :
    Untouched visit settings scene (group :: groups) id ↔
      (∀ text, ¬Writes visit settings scene group id text) ∧
        Untouched visit settings (activateGroup visit settings scene group).state groups id := by
  constructor
  · intro h
    refine ⟨h [] group groups rfl, ?_⟩
    rintro before other after rfl
    exact h (group :: before) other after rfl
  · rintro ⟨hfirst, hrest⟩ before other after hsplit
    cases before with
    | nil =>
        obtain ⟨rfl, rfl⟩ := List.cons.inj hsplit
        exact hfirst
    | cons first before =>
        obtain ⟨rfl, rfl⟩ := List.cons.inj hsplit
        exact hrest before other after rfl

theorem passMoves_cons (scene : Scene) (group : Nat) (groups : List Nat) :
    passMoves visit settings scene (group :: groups) =
      groupMoves visit settings scene group ++
        passMoves visit settings (activateGroup visit settings scene group).state groups := by
  rw [passMoves, activateGroup_state]

theorem untouched_iff {scene : Scene} {groups : List Nat} {id : Nat} :
    Untouched visit settings scene groups id ↔
      Move.written? (passMoves visit settings scene groups) id = none := by
  induction groups generalizing scene with
  | nil =>
      refine iff_of_true ?_ rfl
      intro before group after hsplit
      simp at hsplit
  | cons group groups ih =>
      have hgroup : (∀ text, ¬Writes visit settings scene group id text) ↔
          Move.written? (groupMoves visit settings scene group) id = none := by
        rw [Option.eq_none_iff_forall_ne_some]
        exact forall_congr' fun text => not_congr written?_groupMoves_iff.symm
      rw [untouched_cons, ih, hgroup, passMoves_cons, Move.written?_append, Option.or_eq_none_iff,
        and_comm]

theorem lastWritten_of_written? {scene : Scene} {groups : List Nat} {id : Nat} {text : String}
    (h : Move.written? (passMoves visit settings scene groups) id = some text) :
    LastWritten visit settings scene groups id text := by
  induction groups generalizing scene with
  | nil => contradiction
  | cons group groups ih =>
      rw [passMoves_cons, Move.written?_append, Option.or_eq_some_iff] at h
      rcases h with hrest | ⟨hrest, hgroup⟩
      · obtain ⟨before, other, after, rfl, hwrites, huntouched⟩ := ih hrest
        exact ⟨group :: before, other, after, rfl, hwrites, huntouched⟩
      · exact ⟨[], group, groups, rfl, written?_groupMoves_iff.mp hgroup,
          untouched_iff.mpr hrest⟩

/-- What the pass marks is a tab that some group finds at its turn. -/
theorem exists_group_of_mem_marks {scene : Scene} {groups : List Nat} {id : Nat}
    (h : id ∈ (Move.marks (passMoves visit settings scene groups)).map Prod.fst) :
    ∃ before group after, groups = before ++ group :: after ∧
      id ∈ (Move.marks (groupMoves visit settings
        (activateGroups visit settings scene before).1 group)).map Prod.fst := by
  induction groups generalizing scene with
  | nil => simp [passMoves, Move.marks] at h
  | cons group groups ih =>
      rw [passMoves_cons, Move.marks, List.filterMap_append, List.map_append, List.mem_append] at h
      rcases h with hgroup | hrest
      · exact ⟨[], group, groups, rfl, hgroup⟩
      · obtain ⟨before, other, after, rfl, hmem⟩ := ih hrest
        exact ⟨group :: before, other, after, rfl, hmem⟩

end

/-! ### What a run marks, writes and wires -/

section

variable (visit : Visit) (settings : Settings) (page : Page)

/-- The groups of a run, found when the sidebar pass is done. -/
def runGroups : List Nat := tabGroups settings (highlightSidebar visit settings page).state

/-- The scene of a run when the sidebar pass is done and some groups have had their turn. -/
def sceneAfter (groups : List Nat) : Scene :=
  (activateGroups visit settings (highlightSidebar visit settings page).state.scene groups).1

/-- A link of the sidebar, or a tab that a group finds at its turn. Nothing is marked with a word
that is no class. -/
def Marked (id : Nat) : Prop :=
  Element.classFault? settings.activeClass = none ∧
    (id ∈ linksOf settings page ∨
      ∃ before group after, runGroups visit settings page = before ++ group :: after ∧
        ∃ selector ∈ Browser.selector? settings.tabSelector,
          id ∈ ((sceneAfter visit settings page before).selectIn group selector).map
            Scene.Node.id)

/-- The last text written into a slot. -/
def Written (id : Nat) (text : String) : Prop :=
  LastWritten visit settings (highlightSidebar visit settings page).state.scene
    (runGroups visit settings page) id text

/-- A field that the numeric pass finds without a tag, when the other passes are done. -/
def Wired (id : Nat) : Prop :=
  id ∈ unboundFields settings (sceneAfter visit settings page (runGroups visit settings page))

end

end Pass

/-! ### Frames -/

open Pass (boundAttribute isUnbound)

/-- What may differ in an element: the class, if it was marked, and what wiring adds. -/
structure Element.Framed (word : String) (marked wired : Prop) (before after : Element) : Prop where
  alike : AlikeBut word after before
  unmarked : ¬marked → after.attribute? "class" = before.attribute? "class"
  unwired : ¬wired → after.attribute? boundAttribute = before.attribute? boundAttribute ∧
    after.filters = before.filters
  wired : wired → isUnbound before = true ∧ after.attribute? boundAttribute = some "" ∧
    after.filters = before.filters + 1

/-- What may differ in a forest: an element in the ways given, and the content of an element that a
text was written into. -/
inductive Forest.Framed (word : String) (marked wired : Nat → Prop)
    (written : Nat → String → Prop) : Forest (Nat × Element) → Forest Element → Prop where
  | nil : Framed word marked wired written .nil .nil
  | text {content : String} {rest : Forest (Nat × Element)} {rest' : Forest Element}
      (hrest : Framed word marked wired written rest rest') :
      Framed word marked wired written (.text content rest) (.text content rest')
  | kept {id : Nat} {before after : Element} {children rest : Forest (Nat × Element)}
      {children' rest' : Forest Element}
      (hitem : Element.Framed word (marked id) (wired id) before after)
      (hnone : ∀ text, ¬written id text)
      (hchildren : Framed word marked wired written children children')
      (hrest : Framed word marked wired written rest rest') :
      Framed word marked wired written (.element (id, before) children rest)
        (.element after children' rest')
  | slot {id : Nat} {before after : Element} {children rest : Forest (Nat × Element)}
      {rest' : Forest Element} {text : String}
      (hitem : Element.Framed word (marked id) (wired id) before after) (htext : written id text)
      (hrest : Framed word marked wired written rest rest') :
      Framed word marked wired written (.element (id, before) children rest)
        (.element after (.ofText text) rest')

/-- An update that changes elements and texts within a frame stays within it. -/
theorem Forest.framed_update {word : String} {marked wired : Nat → Prop}
    {written : Nat → String → Prop} {f : Nat → Element → Element} {text? : Nat → Option String}
    (hnone : ∀ id, text? id = none → ∀ text, ¬written id text)
    (hsome : ∀ id text, text? id = some text → written id text) {forest : Forest (Nat × Element)}
    (h : ∀ entry ∈ forest.toList,
      Element.Framed word (marked entry.1) (wired entry.1) entry.2 (f entry.1 entry.2)) :
    forest.Framed word marked wired written (forest.update f text?).unnumber := by
  induction forest with
  | nil => exact .nil
  | text content rest ih => exact .text (ih h)
  | element item children rest ihc ihr =>
      obtain ⟨id, item⟩ := item
      simp only [toList, List.mem_cons, List.mem_append] at h
      have hitem := h (id, item) (.inl rfl)
      have hrest := ihr fun entry hentry => h entry (.inr (.inr hentry))
      have hchildren := ihc fun entry hentry => h entry (.inr (.inl hentry))
      rw [update]
      -- an element is written into as a whole or goes on within
      cases htext : text? id with
      | none => exact .kept hitem (hnone id htext) hchildren hrest
      | some text =>
          have hnew : (ofText text : Forest (Nat × Element)).unnumber = .ofText text :=
            unnumber_ofText text
          rw [unnumber, map, ← unnumber, ← unnumber, hnew]
          exact .slot hitem (hsome id text htext) hrest

/-! ### The frame of a run -/

namespace Pass

variable [Browser] (visit : Visit) (settings : Settings) (page : Page)

def runMoves : List Move :=
  passMoves visit settings (highlightSidebar visit settings page).state.scene
    (runGroups visit settings page)

/-- What the sidebar pass and the tab pass make of an element. -/
def afterMarks (id : Nat) (element : Element) : Element :=
  Move.marked settings.activeClass (runMoves visit settings page) id
    (Move.marked settings.activeClass (sidebarMoves visit settings page.scene) id element)

/-- The sidebar pass and the tab pass as one update. -/
theorem updated_afterMarks :
    page.scene.Updated (sceneAfter visit settings page (runGroups visit settings page))
      (afterMarks visit settings page) (Move.written? (runMoves visit settings page)) := by
  have hsidebar := updated_highlightSidebar visit settings page
  refine ⟨hsidebar.nodup, ?_, ?_⟩
  · rw [sceneAfter, activateGroups_eq_moves]
    exact Scene.nodup_numbers_moves hsidebar.nodup_later _
  · rw [sceneAfter, activateGroups_eq_moves, Scene.attached_moves, hsidebar.attached,
      Forest.update_update]
    apply Forest.update_congr
    intro id _
    exact ⟨rfl, Option.or_none⟩

theorem visited_eq_update :
    (visited visit settings page).1.content =
      (page.scene.attached.update
        (fun id element => wireListed
          (unboundFields settings (sceneAfter visit settings page (runGroups visit settings page)))
          id (afterMarks visit settings page id element))
        (Move.written? (runMoves visit settings page))).unnumber := by
  have hupdated := updated_afterMarks visit settings page
  have hnodup := Scene.nodup_attached hupdated.nodup_later
  have htabs : (activateTabs visit settings (highlightSidebar visit settings page).state).state =
      (sceneAfter visit settings page (runGroups visit settings page)).page :=
    activateTabs_state_groups visit settings _
  have hpage := wireNumeric_page settings hnodup
  rw [← htabs] at hpage
  have hcontent : (visited visit settings page).1 = _ := hpage
  rw [hcontent, Scene.page, attached_wireAll (nodup_unboundFields settings hnodup),
    hupdated.attached, Forest.update_update]
  rfl

theorem marked_of_sidebarMoves {id : Nat}
    (h : id ∈ (Move.marks (sidebarMoves visit settings page.scene)).map Prod.fst) :
    Marked visit settings page id := by
  refine ⟨?_, .inl (mem_linksOf h)⟩
  cases hword : Element.classFault? settings.activeClass with
  | none => rfl
  | some fault => simp [sidebarMoves, hword, Move.marks] at h

theorem marked_of_runMoves {id : Nat}
    (h : id ∈ (Move.marks (runMoves visit settings page)).map Prod.fst) :
    Marked visit settings page id := by
  obtain ⟨before, group, after, hgroups, hmem⟩ := exists_group_of_mem_marks h
  obtain ⟨hword, turn, hturn, hid⟩ := exists_turn_of_mem_marks hmem
  obtain ⟨_, _, selector, -, hread, htabs, -, -⟩ := turn?_eq_some hturn
  exact ⟨hword, .inr ⟨before, group, after, hgroups, selector, hread, htabs ▸ hid⟩⟩

/-- Marks come only to what is marked. -/
theorem afterMarks_eq_self {id : Nat} (hmarked : ¬Marked visit settings page id)
    (element : Element) : afterMarks visit settings page id element = element := by
  have hsidebar := mt (marked_of_sidebarMoves visit settings page) hmarked
  have hrun := mt (marked_of_runMoves visit settings page) hmarked
  rw [afterMarks, Move.marked_eq_self _ hsidebar, Move.marked_eq_self _ hrun]

theorem alike_afterMarks (id : Nat) (element : Element) :
    Element.AlikeBut settings.activeClass (afterMarks visit settings page id element) element :=
  (alike_passMoves visit _ _ id _).trans (alike_sidebarMoves visit settings page.scene id element)

/-- Marks are no tags. -/
theorem attribute?_bound_afterMarks (id : Nat) (element : Element) :
    (afterMarks visit settings page id element).attribute? boundAttribute =
      element.attribute? boundAttribute := by
  rw [afterMarks, Move.attribute?_marked Element.boundAttribute_ne_class,
    Move.attribute?_marked Element.boundAttribute_ne_class]

theorem filters_afterMarks (id : Nat) (element : Element) :
    (afterMarks visit settings page id element).filters = element.filters := by
  rw [afterMarks, Move.filters_marked, Move.filters_marked]

/-- A field that is wired was a field without a tag from the start. -/
theorem isUnbound_of_wired {entry : Nat × Element} (hentry : entry ∈ page.scene.attached.toList)
    (hwired : Wired visit settings page entry.1) : isUnbound entry.2 = true := by
  have hupdated := updated_afterMarks visit settings page
  obtain ⟨-, -, later, hlater, -, hunbound, hid⟩ := exists_place_of_mem_unboundFields hwired
  rw [hupdated.places_eq] at hlater
  obtain ⟨place, hplace, rfl⟩ := List.mem_map.mp hlater
  obtain ⟨other, hother, rfl⟩ := Forest.exists_place_of_mem_toList [] hentry
  obtain rfl : place = other :=
    Forest.place_unique (Scene.nodup_attached hupdated.nodup) (List.mem_filter.mp hplace).1 hother
      hid
  rw [← hunbound]
  exact (isUnbound_congr (alike_afterMarks visit settings page _ _).tag
    (attribute?_bound_afterMarks visit settings page _ _)).symm

theorem framed_element {entry : Nat × Element} (hentry : entry ∈ page.scene.attached.toList) :
    Element.Framed settings.activeClass (Marked visit settings page entry.1)
      (Wired visit settings page entry.1) entry.2
      (wireListed
        (unboundFields settings (sceneAfter visit settings page (runGroups visit settings page)))
        entry.1 (afterMarks visit settings page entry.1 entry.2)) := by
  have halike := alike_afterMarks visit settings page entry.1 entry.2
  -- the numeric pass comes last, on elements that the others have left alike
  by_cases hwired : Wired visit settings page entry.1
  · rw [wireListed_of_mem hwired]
    refine ⟨(Element.alikeBut_wired settings.activeClass _).trans halike, ?_, ?_, ?_⟩
    · intro hmarked
      rw [Element.attribute?_wired Element.boundAttribute_ne_class.symm,
        afterMarks_eq_self visit settings page hmarked]
    · exact fun hnot => absurd hwired hnot
    · intro _
      exact ⟨isUnbound_of_wired visit settings page hentry hwired,
        Element.attribute?_wired_self _,
        congrArg (· + 1) (filters_afterMarks visit settings page entry.1 entry.2)⟩
  · rw [wireListed_of_not_mem hwired]
    refine ⟨halike, ?_, ?_, ?_⟩
    · intro hmarked
      rw [afterMarks_eq_self visit settings page hmarked]
    · intro _
      exact ⟨attribute?_bound_afterMarks visit settings page entry.1 entry.2,
        filters_afterMarks visit settings page entry.1 entry.2⟩
    · exact fun hyes => absurd hyes hwired

theorem framed_visited :
    page.scene.attached.Framed settings.activeClass (Marked visit settings page)
      (Wired visit settings page) (Written visit settings page)
      (visited visit settings page).1.content := by
  rw [visited_eq_update]
  apply Forest.framed_update
  · rintro id hnone text ⟨before, group, after, hgroups, hwrites, -⟩
    exact untouched_iff.mpr hnone before group after hgroups text hwrites
  · intro id text hsome
    exact lastWritten_of_written? hsome
  · exact fun entry hentry => framed_element visit settings page hentry

end Pass

namespace Session

open Pass

/-- The frame of a run. Without a location nothing changes; else only the page does, and it within
the frame that the marks, the written texts and the wired fields of the run leave. -/
theorem run_framed [Browser] (session : Session) (settings : Settings) :
    (∀ error, session.environment.visit = .error error →
      (session.run settings).session = session) ∧
    ∀ visit, session.environment.visit = .ok visit →
      ∃ after, (session.run settings).session = { session with page := after } ∧
        session.page.scene.attached.Framed settings.activeClass
          (Marked visit settings session.page) (Wired visit settings session.page)
          (Written visit settings session.page) after.content := by
  refine ⟨?_, ?_⟩
  · intro error herror
    rw [run, all, herror]
    rfl
  · intro visit hvisit
    refine ⟨(visited visit settings session.page).1, ?_,
      framed_visited visit settings session.page⟩
    rw [run, all, hvisit]
    rfl

def mixedSession : Session := { linkedPage true with page := mixedPage }

theorem run_framed_mixedSession :
    mixedSession.environment.visit = .ok linkedVisit ∧
      ∃ after, (mixedSession.run {}).session = { mixedSession with page := after } ∧
        mixedSession.page.scene.attached.Framed "is-active" (Marked linkedVisit {} mixedPage)
          (Wired linkedVisit {} mixedPage) (Written linkedVisit {} mixedPage) after.content := by
  have hvisit : mixedSession.environment.visit = .ok linkedVisit :=
    Environment.visit_eq_ok.mpr ⟨rfl, rfl, _, _, rfl, by decide +kernel⟩
  exact ⟨hvisit, (run_framed mixedSession {}).2 linkedVisit hvisit⟩

end Session

end PageSync
