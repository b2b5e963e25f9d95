import PageSync.Pass
import PageSync.Proofs.Page.Moves

/-!
The tab pass as moves. A group finds its tabs and which of them is active when its turn comes; what
it then does are marks for its tabs and at most one write. The pass over all groups is the row of
the moves of their turns, each computed on the scene that the turns before have left
(`activateGroups_eq_moves`).
-/

namespace PageSync.Pass

/-- What a group with tabs finds. -/
structure Turn where
  param : String
  tabs : List Scene.Node
  activation : TabGroup.Activation

variable [Browser]

def turn? (visit : Visit) (settings : Settings) (scene : Scene) (id : Nat) : Option Turn :=
  (scene.locate? id).bind fun found =>
    (Browser.selector? settings.tabSelector).bind fun selector =>
      let group := TabGroup.ofMarkup settings.defaultTabParam found.2.element.attribute?
      let tabs := scene.selectIn id selector
      (group.activation? visit.search (tabs.map tabOf) visit.base
        settings.indicatorPlaceholder).map fun activation => ⟨group.param, tabs, activation⟩

namespace Turn

def marks (turn : Turn) : List (Nat × Bool) := tabMarks turn.tabs turn.activation

def chosen? (turn : Turn) : Option Nat :=
  turn.activation.active.bind fun i => turn.tabs[i]?.map Scene.Node.id

def slot? (settings : Settings) (scene : Scene) (turn : Turn) : Option (Nat × String) :=
  turn.activation.indicator.bind fun indicator =>
    (indicatorSlot settings scene indicator.selector).toOption.join.map fun id =>
      (id, indicator.text)

def markMoves (turn : Turn) : List Move := turn.marks.map fun entry => .mark entry.1 entry.2

omit [Browser] in
theorem map_fst_marks (turn : Turn) : turn.marks.map Prod.fst = turn.tabs.map Scene.Node.id := by
  have hids : turn.tabs.zipIdx.map (fun entry => entry.1.id) =
      (turn.tabs.zipIdx.map Prod.fst).map Scene.Node.id := by
    rw [List.map_map]
    rfl
  rw [marks, tabMarks, List.map_map]
  exact hids.trans (by rw [List.zipIdx_map_fst])

omit [Browser] in
/-- A turn marks the tab that it chose, and clears the others. -/
theorem lookup_marks {turn : Turn} (hnodup : (turn.tabs.map Scene.Node.id).Nodup)
    {tab : Scene.Node} (htab : tab ∈ turn.tabs) :
    turn.marks.lookup tab.id = some (decide (turn.chosen? = some tab.id)) := by
  obtain ⟨i, hi⟩ := List.getElem?_of_mem htab
  have hmem : (tab.id, turn.activation.marks i) ∈ turn.marks :=
    List.mem_map.mpr ⟨(tab, i), List.mem_zipIdx_iff_getElem?.mpr hi, rfl⟩
  rw [Move.lookup_of_mem (by rwa [map_fst_marks]) hmem, TabGroup.Activation.marks, chosen?]
  cases turn.activation.active with
  | none => simp
  | some active =>
      have hiff : turn.tabs[active]?.map Scene.Node.id = some tab.id ↔ active = i := by
        constructor
        · intro h
          rw [← List.getElem?_map] at h
          obtain ⟨hlt, -⟩ := List.getElem?_eq_some_iff.mp h
          refine (List.getElem?_inj hlt hnodup).mp ?_
          rw [h, List.getElem?_map, hi, Option.map_some]
        · rintro rfl
          rw [hi, Option.map_some]
      simp only [Option.bind_some, hiff, Option.some_beq_some]
      rfl

/-- The moves of a turn. The indicator is looked for when the tabs have their marks. -/
def moves (settings : Settings) (scene : Scene) (turn : Turn) : List Move :=
  turn.markMoves ++
    (turn.slot? settings (scene.moves settings.activeClass turn.markMoves)).toList.map fun entry =>
      .write entry.1 entry.2

end Turn

/-- The moves of the group with a number. A word that is no class stops it at its first tab. -/
def groupMoves (visit : Visit) (settings : Settings) (scene : Scene) (id : Nat) : List Move :=
  match Element.classFault? settings.activeClass with
  | some _ => []
  | none => ((turn? visit settings scene id).map (Turn.moves settings scene)).getD []

def passMoves (visit : Visit) (settings : Settings) : Scene → List Nat → List Move
  | _, [] => []
  | scene, id :: rest =>
    let list := groupMoves visit settings scene id
    list ++ passMoves visit settings (scene.moves settings.activeClass list) rest

def tabGroups (settings : Settings) (page : Page) : List Nat :=
  ((Browser.selector? settings.tabGroupSelector).map fun selector =>
    (page.scene.select selector).map Scene.Node.id).getD []

theorem tabGroups_eq_places {settings : Settings} {selector : Selector}
    (h : Browser.selector? settings.tabGroupSelector = some selector) (page : Page) :
    tabGroups settings page =
      (page.scene.places.filter (Place.accepted Browser.around selector)).map fun place =>
        place.node.id := by
  rw [tabGroups, h, Option.map_some, Option.getD_some, Scene.select_eq_places, List.map_map]
  rfl

theorem nodup_tabGroups (settings : Settings) (page : Page) : (tabGroups settings page).Nodup := by
  cases hread : Browser.selector? settings.tabGroupSelector with
  | none => simp [tabGroups, hread]
  | some selector =>
      have hids : (page.scene.places.map fun place => place.node.id).Nodup := by
        rw [Scene.places, Forest.map_id_places]
        exact Scene.nodup_attached (Scene.nodup_numbers_scene page)
      rw [tabGroups_eq_places hread]
      exact hids.sublist (List.filter_sublist.map _)

/-! ### The pass is its moves -/

theorem markAll_eq_moves {word : String} (h : Element.classFault? word = none) (scene : Scene)
    (marks : List (Nat × Bool)) :
    scene.markAll word marks =
      (scene.moves word (marks.map fun entry => .mark entry.1 entry.2), none) := by
  induction marks generalizing scene with
  | nil => rfl
  | cons entry marks ih =>
      obtain ⟨id, on⟩ := entry
      rw [Scene.markAll, h]
      exact ih (scene.change id (·.markClass word on))

omit [Browser] in
/-- A word that is no class fails at the first mark. -/
theorem markAll_of_fault {word : String} {fault : Element.ClassFault}
    (h : Element.classFault? word = some fault) (scene : Scene) {marks : List (Nat × Bool)}
    (hmarks : marks ≠ []) : scene.markAll word marks = (scene, some fault) := by
  obtain ⟨entry, rest, rfl⟩ := List.exists_cons_of_ne_nil hmarks
  rw [Scene.markAll, h]

theorem turn?_eq_some {visit : Visit} {settings : Settings} {scene : Scene} {id : Nat}
    {turn : Turn} (h : turn? visit settings scene id = some turn) :
    ∃ ancestors node selector, scene.locate? id = some (ancestors, node) ∧
      Browser.selector? settings.tabSelector = some selector ∧
      turn.tabs = scene.selectIn id selector ∧
      turn.param =
        (TabGroup.ofMarkup settings.defaultTabParam node.element.attribute?).param ∧
      (TabGroup.ofMarkup settings.defaultTabParam node.element.attribute?).activation?
        visit.search (turn.tabs.map tabOf) visit.base settings.indicatorPlaceholder =
          some turn.activation := by
  simp only [turn?, Option.bind_eq_some_iff, Option.map_eq_some_iff] at h
  obtain ⟨⟨ancestors, node⟩, hlocate, selector, hread, activation, hactivation, rfl⟩ := h
  exact ⟨ancestors, node, selector, hlocate, hread, rfl, rfl, hactivation⟩

/-- A group that is there and has tabs has a turn. -/
theorem exists_turn (visit : Visit) {settings : Settings} {scene : Scene} {id : Nat}
    {found : List Element × Scene.Node} (hlocate : scene.locate? id = some found)
    {selector : Selector} (hread : Browser.selector? settings.tabSelector = some selector)
    (htabs : scene.selectIn id selector ≠ []) :
    ∃ turn, turn? visit settings scene id = some turn ∧ turn.tabs = scene.selectIn id selector := by
  rw [turn?, hlocate, hread]
  cases hselect : scene.selectIn id selector with
  | nil => exact absurd hselect htabs
  | cons first others =>
      simp only [Option.bind_some, hselect, List.map_cons, TabGroup.activation?, Option.map_some]
      exact ⟨_, rfl, rfl⟩

theorem Turn.tabs_ne_nil {visit : Visit} {settings : Settings} {scene : Scene} {id : Nat}
    {turn : Turn} (h : turn? visit settings scene id = some turn) : turn.tabs ≠ [] := by
  obtain ⟨_, _, _, _, _, _, _, hactivation⟩ := turn?_eq_some h
  rintro hnil
  rw [hnil, List.map_nil, TabGroup.activation?] at hactivation
  contradiction

theorem applyActivation_state {settings : Settings}
    (h : Element.classFault? settings.activeClass = none) (scene : Scene) (turn : Turn) :
    (applyActivation settings scene turn.param turn.tabs turn.activation).state =
      scene.moves settings.activeClass (turn.moves settings scene) := by
  have hmark : scene.markAll settings.activeClass (tabMarks turn.tabs turn.activation) =
      (scene.moves settings.activeClass turn.markMoves, none) :=
    markAll_eq_moves h scene turn.marks
  rw [applyActivation, hmark, Turn.moves, Scene.moves_append]
  cases hindicator : turn.activation.indicator with
  | none => simp [Turn.slot?, hindicator]
  | some indicator =>
      simp only [Turn.slot?, hindicator, Option.bind_some, fillIndicator]
      cases indicatorSlot settings (scene.moves settings.activeClass turn.markMoves)
          indicator.selector with
      | error error => rfl
      | ok slot =>
          cases slot with
          | none => rfl
          | some id => rfl

/-- A word that is no class stops a group before it has changed anything. -/
theorem applyActivation_state_of_fault {settings : Settings} {fault : Element.ClassFault}
    (h : Element.classFault? settings.activeClass = some fault) (scene : Scene) {turn : Turn}
    (htabs : turn.tabs ≠ []) :
    (applyActivation settings scene turn.param turn.tabs turn.activation).state = scene := by
  have hmarks : tabMarks turn.tabs turn.activation ≠ [] := by
    simpa [tabMarks] using htabs
  rw [applyActivation, markAll_of_fault h scene hmarks]

theorem activateGroup_state (visit : Visit) (settings : Settings) (scene : Scene) (id : Nat) :
    (activateGroup visit settings scene id).state =
      scene.moves settings.activeClass (groupMoves visit settings scene id) := by
  have hgroup : (activateGroup visit settings scene id).state =
      match turn? visit settings scene id with
      | none => scene
      | some turn =>
        (applyActivation settings scene turn.param turn.tabs turn.activation).state := by
    rw [activateGroup, turn?]
    cases scene.locate? id with
    | none => rfl
    | some found =>
        cases Browser.selector? settings.tabSelector with
        | none => rfl
        | some selector =>
            simp only [Option.bind_some]
            cases
              (TabGroup.ofMarkup settings.defaultTabParam found.2.element.attribute?).activation?
                visit.search ((scene.selectIn id selector).map tabOf) visit.base
                settings.indicatorPlaceholder with
            | none => rfl
            | some activation => rfl
  -- a word that is no class stops the group before it has done anything
  rw [hgroup, groupMoves]
  cases hturn : turn? visit settings scene id with
  | none =>
      cases Element.classFault? settings.activeClass with
      | none => rfl
      | some fault => rfl
  | some turn =>
      cases hclass : Element.classFault? settings.activeClass with
      | none => exact applyActivation_state hclass scene turn
      | some fault => exact applyActivation_state_of_fault hclass scene (Turn.tabs_ne_nil hturn)

/-- The scene after the turns of several groups. -/
theorem activateGroups_eq_moves (visit : Visit) (settings : Settings) (scene : Scene)
    (ids : List Nat) :
    (activateGroups visit settings scene ids).1 =
      scene.moves settings.activeClass (passMoves visit settings scene ids) := by
  induction ids generalizing scene with
  | nil => rfl
  | cons id ids ih =>
      rw [passMoves, Scene.moves_append, ← activateGroup_state, ← ih]
      rfl

theorem activateTabs_state_groups (visit : Visit) (settings : Settings) (page : Page) :
    (activateTabs visit settings page).state =
      (activateGroups visit settings page.scene (tabGroups settings page)).1.page := by
  rw [activateTabs, tabGroups]
  cases Browser.selector? settings.tabGroupSelector with
  | none => exact page.page_scene.symm
  | some selector => rfl

/-- The page after the pass. -/
theorem activateTabs_state (visit : Visit) (settings : Settings) (page : Page) :
    (activateTabs visit settings page).state =
      (page.scene.moves settings.activeClass
        (passMoves visit settings page.scene (tabGroups settings page))).page := by
  rw [activateTabs_state_groups, activateGroups_eq_moves]

/-! ### What a group marks and writes -/

theorem marks_moves (settings : Settings) (scene : Scene) (turn : Turn) :
    Move.marks (turn.moves settings scene) = turn.marks := by
  simp [Turn.moves, Turn.markMoves, Move.marks, List.filterMap_append, List.filterMap_map]

theorem writes_moves (settings : Settings) (scene : Scene) (turn : Turn) :
    Move.writes (turn.moves settings scene) =
      (turn.slot? settings (scene.moves settings.activeClass turn.markMoves)).toList := by
  simp [Turn.moves, Turn.markMoves, Move.writes, List.filterMap_append, List.filterMap_map]

section

variable {visit : Visit} {settings : Settings} {scene : Scene} {group id : Nat}

/-- A group marks its tabs only. -/
theorem exists_turn_of_mem_marks
    (h : id ∈ (Move.marks (groupMoves visit settings scene group)).map Prod.fst) :
    Element.classFault? settings.activeClass = none ∧
      ∃ turn, turn? visit settings scene group = some turn ∧ id ∈ turn.tabs.map Scene.Node.id := by
  rw [groupMoves] at h
  cases hword : Element.classFault? settings.activeClass with
  | some fault => simp [hword, Move.marks] at h
  | none =>
      cases hturn : turn? visit settings scene group with
      | none => simp [hword, hturn, Move.marks] at h
      | some turn =>
          simp only [hword, hturn, Option.map_some, Option.getD_some, marks_moves,
            Turn.map_fst_marks] at h
          exact ⟨rfl, turn, rfl, h⟩

/-- The group writes the text into the element, which is its slot when its tabs have their marks. -/
def Writes (visit : Visit) (settings : Settings) (scene : Scene) (group id : Nat) (text : String) :
    Prop :=
  Element.classFault? settings.activeClass = none ∧
    ∃ turn, turn? visit settings scene group = some turn ∧
      turn.slot? settings (scene.moves settings.activeClass turn.markMoves) = some (id, text)

theorem written?_groupMoves_iff {text : String} :
    Move.written? (groupMoves visit settings scene group) id = some text ↔
      Writes visit settings scene group id text := by
  rw [groupMoves, Writes]
  cases hword : Element.classFault? settings.activeClass with
  | some fault => simp [Move.written?, Move.writes]
  | none =>
      cases hturn : turn? visit settings scene group with
      | none => simp [Move.written?, Move.writes]
      | some turn =>
          simp only [Option.map_some, Option.getD_some, true_and, Option.some.injEq,
            exists_eq_left']
          constructor
          · intro h
            have hmem : (id, text) ∈ Move.writes (turn.moves settings scene) :=
              Move.mem_writes_of_written? h
            rw [writes_moves] at hmem
            exact Option.mem_toList.mp hmem
          · intro h
            rw [Move.written?, writes_moves, h]
            simp

end

def visitWith (search : String) : Visit where
  path := "/"
  search := search
  base := ⟨"https".toList, some { host := some (.name "a.b".toList) }, .segments [[]], none, none⟩

end PageSync.Pass
