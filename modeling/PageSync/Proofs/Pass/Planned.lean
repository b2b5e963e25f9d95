import PageSync.Page.Browser
import PageSync.Proofs.Pass.Foresight

/-!
The tab pass goes from group to group, and each group reads the page that those before it have
changed. Where no selector looks at the class that is set, and nothing that a group reads lies where
an indicator text is written, none of this shows: each group makes the moves that it would have made
on the page at the start (`passMoves_planned`).
-/

namespace PageSync.Pass

/-! ### What is found at the start -/

section

variable [Browser]

def tabsOf (settings : Settings) (page : Page) (group : Nat) : List Nat :=
  ((Browser.selector? settings.tabSelector).map fun selector =>
    (page.scene.selectIn group selector).map Scene.Node.id).getD []

def marksOf (visit : Visit) (settings : Settings) (page : Page) (group : Nat) :
    List (Nat × Bool) :=
  ((turn? visit settings page.scene group).map Turn.marks).getD []

def textOf (visit : Visit) (settings : Settings) (page : Page) (group : Nat) :
    Option (Nat × String) :=
  (turn? visit settings page.scene group).bind (Turn.slot? settings page.scene)

def slotOf (visit : Visit) (settings : Settings) (page : Page) (group : Nat) : Option Nat :=
  (textOf visit settings page group).map Prod.fst

/-- The class to set is a class, and no selector that the pass follows tests it. -/
structure Unobserved (settings : Settings) (page : Page) : Prop where
  word : Element.classFault? settings.activeClass = none
  groups : ∃ selector, Browser.selector? settings.tabGroupSelector = some selector ∧
    selector.Ignores settings.activeClass
  tabs : ∃ selector, Browser.selector? settings.tabSelector = some selector ∧
    selector.Ignores settings.activeClass
  emphasis : ∃ selector, Browser.selector? settings.indicatorEmphasis = some selector ∧
    selector.Ignores settings.activeClass
  indicators : ∀ group ∈ tabGroups settings page, ∀ ancestors node,
    page.scene.locate? group = some (ancestors, node) →
      ∀ text, node.element.attribute? "data-indicator" = some text →
        ∀ selector, Browser.selector? text = some selector → selector.Ignores settings.activeClass

/-- The selectors of the settings and those written on the groups can be checked by reading
them. -/
theorem unobserved_of_readsApart {settings : Settings} {page : Page}
    (hword : Element.classFault? settings.activeClass = none)
    (hsettings : ∀ text ∈ [settings.tabGroupSelector, settings.tabSelector,
      settings.indicatorEmphasis], Selector.readsApart settings.activeClass text = true)
    (hindicators : ∀ group ∈ tabGroups settings page, ∀ found ∈ page.scene.locate? group,
      ∀ text ∈ found.2.element.attribute? "data-indicator",
        Selector.readsApart settings.activeClass text = true) :
    Unobserved settings page where
  word := hword
  groups := Selector.exists_ignores_of_readsApart (Element.classFault?_eq_none_iff.mp hword)
    (hsettings _ (by simp))
  tabs := Selector.exists_ignores_of_readsApart (Element.classFault?_eq_none_iff.mp hword)
    (hsettings _ (by simp))
  emphasis := Selector.exists_ignores_of_readsApart (Element.classFault?_eq_none_iff.mp hword)
    (hsettings _ (by simp))
  indicators := by
    intro group hgroup ancestors node hlocate text htext selector hread
    obtain ⟨other, hother, hignores⟩ := Selector.exists_ignores_of_readsApart
      (Element.classFault?_eq_none_iff.mp hword)
      (hindicators group hgroup (ancestors, node) hlocate text htext)
    rw [hread, Option.some.injEq] at hother
    exact hother ▸ hignores

/-- What is written is not in the way of what is read: no slot lies within another, no slot is or
contains a tab or a group, and none lies within a tab. -/
structure Clear (visit : Visit) (settings : Settings) (page : Page) : Prop where
  slots : ∀ a ∈ tabGroups settings page, ∀ b ∈ tabGroups settings page,
    ∀ slot ∈ slotOf visit settings page a, ∀ other ∈ slotOf visit settings page b,
      ¬page.scene.Contains slot other
  slot_tab : ∀ a ∈ tabGroups settings page, ∀ b ∈ tabGroups settings page,
    ∀ slot ∈ slotOf visit settings page a, ∀ tab ∈ tabsOf settings page b,
      slot ≠ tab ∧ ¬page.scene.Contains slot tab ∧ ¬page.scene.Contains tab slot
  slot_group : ∀ a ∈ tabGroups settings page, ∀ b ∈ tabGroups settings page,
    ∀ slot ∈ slotOf visit settings page a, slot ≠ b ∧ ¬page.scene.Contains slot b

/-- The moves of the group with a number, as found at the start. -/
def plannedMoves (visit : Visit) (settings : Settings) (page : Page) (group : Nat) : List Move :=
  (marksOf visit settings page group).map (fun entry => .mark entry.1 entry.2) ++
    (textOf visit settings page group).toList.map fun entry => .write entry.1 entry.2

abbrev Reached (visit : Visit) (settings : Settings) (page : Page) (groups : List Nat)
    (later : Scene) : Prop :=
  page.scene.Updated later
    (Move.marked settings.activeClass (groups.flatMap (plannedMoves visit settings page)))
    (Move.written? (groups.flatMap (plannedMoves visit settings page)))

variable {visit : Visit} {settings : Settings} {page : Page}

theorem reached_nil (visit : Visit) (settings : Settings) (page : Page) :
    Reached visit settings page [] page.scene :=
  Scene.updated_moves (Scene.nodup_numbers_scene page) settings.activeClass []

theorem Reached.moves {groups more : List Nat} {later : Scene}
    (h : Reached visit settings page groups later) :
    Reached visit settings page (groups ++ more)
      (later.moves settings.activeClass (more.flatMap (plannedMoves visit settings page))) := by
  rw [Reached, List.flatMap_append]
  exact Scene.Updated.moves h _

theorem exists_place_of_mem_tabGroups {group : Nat} (h : group ∈ tabGroups settings page) :
    ∃ place ∈ page.scene.places, place.node.id = group := by
  cases hread : Browser.selector? settings.tabGroupSelector with
  | none => simp [tabGroups, hread] at h
  | some selector =>
      rw [tabGroups_eq_places hread] at h
      obtain ⟨place, hplace, rfl⟩ := List.mem_map.mp h
      exact ⟨place, (List.mem_filter.mp hplace).1, rfl⟩

theorem tabsOf_eq {selector : Selector} (h : Browser.selector? settings.tabSelector = some selector)
    {place : Place} (hplace : place ∈ page.scene.places) :
    tabsOf settings page place.node.id =
      ((place.node.content.places place.inside).filter
        (Place.accepted Browser.around selector)).map fun inner => inner.node.id := by
  rw [tabsOf, h, Option.map_some, Option.getD_some,
    Scene.selectIn_of_mem_places (Scene.nodup_numbers_scene page) hplace, List.map_map]
  rfl

theorem nodup_tabsOf {group : Nat} (h : group ∈ tabGroups settings page) :
    (tabsOf settings page group).Nodup := by
  obtain ⟨place, hplace, rfl⟩ := exists_place_of_mem_tabGroups h
  rw [tabsOf]
  cases Browser.selector? settings.tabSelector with
  | none => exact List.nodup_nil
  | some selector => exact Scene.nodup_selectIn (Scene.nodup_numbers_scene page) hplace selector

/-- A group with tabs has its turn at the start. -/
theorem exists_turn_of_tabsOf (visit : Visit) {group : Nat} (h : group ∈ tabGroups settings page)
    (htabs : tabsOf settings page group ≠ []) :
    ∃ turn, turn? visit settings page.scene group = some turn ∧
      turn.tabs.map Scene.Node.id = tabsOf settings page group := by
  obtain ⟨place, hplace, rfl⟩ := exists_place_of_mem_tabGroups h
  have hlocate := Scene.locate?_of_mem_places (Scene.nodup_numbers_scene page) hplace
  cases hread : Browser.selector? settings.tabSelector with
  | none => simp [tabsOf, hread] at htabs
  | some selector =>
      rw [tabsOf, hread, Option.map_some, Option.getD_some] at htabs ⊢
      have hselect : page.scene.selectIn place.node.id selector ≠ [] := by simpa using htabs
      obtain ⟨turn, hturn, heq⟩ := exists_turn visit hlocate hread hselect
      exact ⟨turn, hturn, by rw [heq]⟩

/-- The tabs of a turn are elements of the page. -/
theorem exists_place_of_mem_tabs {group : Nat} (h : group ∈ tabGroups settings page) {turn : Turn}
    (hturn : turn? visit settings page.scene group = some turn) {i : Nat} {tab : Scene.Node}
    (htab : turn.tabs[i]? = some tab) :
    ∃ place ∈ page.scene.places, place.node = tab ∧ tab.id ∈ tabsOf settings page group := by
  obtain ⟨_, _, selector, -, hread, htabs, -, -⟩ := turn?_eq_some hturn
  obtain ⟨place, hplace, rfl⟩ := exists_place_of_mem_tabGroups h
  have hmem : tab ∈ turn.tabs := List.mem_of_getElem? htab
  rw [htabs, Scene.selectIn_of_mem_places (Scene.nodup_numbers_scene page) hplace] at hmem
  obtain ⟨inner, hinner, rfl⟩ := List.mem_map.mp hmem
  refine ⟨inner, ?_, rfl, ?_⟩
  · exact Forest.mem_places_of_mem_content hplace (List.mem_filter.mp hinner).1
  · rw [tabsOf_eq hread hplace]
    exact List.mem_map_of_mem hinner

/-- The indicator of a turn is written on its group. -/
theorem attribute?_indicator {scene : Scene} {group : Nat} {turn : Turn}
    (hturn : turn? visit settings scene group = some turn) {indicator : Indicator}
    (hindicator : turn.activation.indicator = some indicator) :
    ∃ ancestors node, scene.locate? group = some (ancestors, node) ∧
      node.element.attribute? "data-indicator" = some indicator.selector := by
  obtain ⟨ancestors, node, selector, hlocate, -, -, -, hactivation⟩ := turn?_eq_some hturn
  refine ⟨ancestors, node, hlocate, ?_⟩
  cases htabs : turn.tabs.map tabOf with
  | nil => simp [htabs, TabGroup.activation?] at hactivation
  | cons first others =>
      simp only [htabs, TabGroup.activation?, Option.some.injEq] at hactivation
      rw [← hactivation] at hindicator
      simp only [TabGroup.ofMarkup, TabGroup.nonEmpty, Option.map_eq_some_iff,
        Option.filter_eq_some_iff] at hindicator
      obtain ⟨text, ⟨htext, -⟩, rfl⟩ := hindicator
      exact htext

/-- The elements that a turn marks are the tabs of its group. -/
theorem map_fst_marksOf {group : Nat} {turn : Turn}
    (hturn : turn? visit settings page.scene group = some turn) :
    (marksOf visit settings page group).map Prod.fst = tabsOf settings page group := by
  obtain ⟨_, _, selector, -, hread, htabs, -, -⟩ := turn?_eq_some hturn
  rw [marksOf, hturn, Option.map_some, Option.getD_some, Turn.map_fst_marks, tabsOf, hread,
    Option.map_some, Option.getD_some, htabs]

theorem exists_place_of_textOf {group slot : Nat} {text : String}
    (h : textOf visit settings page group = some (slot, text)) :
    ∃ place ∈ page.scene.places, place.node.id = slot := by
  rw [textOf, Option.bind_eq_some_iff] at h
  obtain ⟨turn, -, h⟩ := h
  rw [Turn.slot?, Option.bind_eq_some_iff] at h
  obtain ⟨indicator, -, h⟩ := h
  obtain ⟨id, hid, heq⟩ := Option.map_eq_some_iff.mp h
  injection heq with hslot _
  exact hslot ▸ exists_place_of_indicatorSlot (Scene.nodup_numbers_scene page) hid

/-- What a row of planned moves writes into are slots of its groups. -/
theorem slotOf_of_written? {groups : List Nat} {id : Nat} {text : String}
    (h : Move.written? (groups.flatMap (plannedMoves visit settings page)) id = some text) :
    ∃ group ∈ groups, slotOf visit settings page group = some id := by
  obtain ⟨group, hgroup, hmem⟩ := List.mem_flatMap.mp (Move.mem_of_written? h)
  refine ⟨group, hgroup, ?_⟩
  rw [plannedMoves, List.mem_append] at hmem
  rcases hmem with hmem | hmem
  · simp at hmem
  · obtain ⟨entry, hentry, heq⟩ := List.mem_map.mp hmem
    injection heq with hid _
    rw [slotOf, Option.mem_toList.mp hentry, Option.map_some, hid]

theorem written?_planned_eq_none {groups : List Nat} {id : Nat}
    (h : ∀ group ∈ groups, id ∉ slotOf visit settings page group) :
    Move.written? (groups.flatMap (plannedMoves visit settings page)) id = none := by
  by_contra hne
  obtain ⟨text, htext⟩ := Option.ne_none_iff_exists'.mp hne
  obtain ⟨group, hgroup, hslot⟩ := slotOf_of_written? htext
  exact h group hgroup hslot

/-- What no slot contains stays. -/
theorem kept_planned {groups : List Nat} {place : Place} (hplace : place ∈ page.scene.places)
    (h : ∀ group ∈ groups, ∀ slot ∈ slotOf visit settings page group,
      ¬page.scene.Contains slot place.node.id) :
    place.kept (Move.written? (groups.flatMap (plannedMoves visit settings page))) = true := by
  rw [Place.kept_iff]
  intro id hwithin
  apply written?_planned_eq_none
  intro group hgroup hslot
  exact h group hgroup id hslot
    (Scene.contains_of_within (Scene.nodup_numbers_scene page) hplace hwithin)

section

variable (hclear : Clear visit settings page) {groups : List Nat}
  (hgroups : ∀ group ∈ groups, group ∈ tabGroups settings page)

include hclear hgroups

theorem kept_group {place : Place} (hplace : place ∈ page.scene.places)
    (hgroup : place.node.id ∈ tabGroups settings page) :
    place.kept (Move.written? (groups.flatMap (plannedMoves visit settings page))) = true := by
  apply kept_planned hplace
  intro other hother slot hslot
  exact (hclear.slot_group other (hgroups other hother) _ hgroup slot hslot).2

/-- No planned write is to a tab, around a tab or within a tab. -/
theorem kept_tab {group : Nat} (hgroup : group ∈ tabGroups settings page) {tab : Place}
    (hplace : tab ∈ page.scene.places) (htab : tab.node.id ∈ tabsOf settings page group) :
    tab.kept (Move.written? (groups.flatMap (plannedMoves visit settings page))) = true ∧
      Move.written? (groups.flatMap (plannedMoves visit settings page)) tab.node.id = none ∧
      ∀ id ∈ tab.node.content.numbers,
        Move.written? (groups.flatMap (plannedMoves visit settings page)) id = none := by
  -- no slot is a tab, and neither contains the other
  have happart : ∀ other ∈ groups, ∀ slot ∈ slotOf visit settings page other,
      slot ≠ tab.node.id ∧ ¬page.scene.Contains slot tab.node.id ∧
        ¬page.scene.Contains tab.node.id slot := by
    intro other hother slot hslot
    exact hclear.slot_tab other (hgroups other hother) group hgroup slot hslot _ htab
  refine ⟨?_, ?_, ?_⟩
  · apply kept_planned hplace
    intro other hother slot hslot
    exact (happart other hother slot hslot).2.1
  · apply written?_planned_eq_none
    intro other hother hslot
    exact (happart other hother _ hslot).1 rfl
  · intro id hid
    apply written?_planned_eq_none
    intro other hother hslot
    have hcontains := Scene.contains_of_mem_content (Scene.nodup_numbers_scene page) hplace hid
    exact (happart other hother id hslot).2.2 hcontains

/-- A slot stays: no slot contains it. -/
theorem kept_slot {group : Nat} (hgroup : group ∈ tabGroups settings page) {place : Place}
    (hplace : place ∈ page.scene.places)
    (hslot : slotOf visit settings page group = some place.node.id) :
    place.kept (Move.written? (groups.flatMap (plannedMoves visit settings page))) = true := by
  apply kept_planned hplace
  intro other hother slot hslot'
  exact hclear.slots other (hgroups other hother) group hgroup slot hslot' _ hslot

end

/-! ### Each group finds what it would have found at the start -/

section

variable (hunobserved : Unobserved settings page) (hclear : Clear visit settings page)
  {before : List Nat} (hbefore : ∀ group ∈ before, group ∈ tabGroups settings page)
  {later : Scene} (hlater : Reached visit settings page before later) {group : Nat}
  (hgroup : group ∈ tabGroups settings page)

include hunobserved hclear hbefore hlater hgroup

theorem turn?_planned :
    turn? visit settings later group =
      (turn? visit settings page.scene group).map
        (Turn.updated
          (Move.marked settings.activeClass (before.flatMap (plannedMoves visit settings page)))
          (Move.written? (before.flatMap (plannedMoves visit settings page)))) := by
  obtain ⟨selector, hread, hignores⟩ := hunobserved.tabs
  obtain ⟨place, hplace, rfl⟩ := exists_place_of_mem_tabGroups hgroup
  refine turn?_updated ?_ hlater visit hread (Move.alike_marked hignores _) hplace ?_ ?_
  · intro name hname
    exact Move.attribute?_marked hname settings.activeClass _
  · exact kept_group hclear hbefore hplace hgroup
  · intro inner hinner haccepted
    have htab : inner.node.id ∈ tabsOf settings page place.node.id := by
      rw [tabsOf_eq hread hplace]
      exact List.mem_map_of_mem (List.mem_filter.mpr ⟨hinner, haccepted⟩)
    exact kept_tab hclear hbefore hgroup (Forest.mem_places_of_mem_content hplace hinner) htab

/-- The slot is where it was, with the marks of the group made. -/
theorem slot?_planned {turn : Turn} (hturn : turn? visit settings page.scene group = some turn) :
    turn.slot? settings (later.moves settings.activeClass turn.markMoves) =
      turn.slot? settings page.scene := by
  have hupdated := Scene.Updated.moves hlater turn.markMoves
  rw [Turn.slot?, Turn.slot?]
  cases hindicator : turn.activation.indicator with
  | none => rfl
  | some indicator =>
      rw [Option.bind_some, Option.bind_some]
      cases hread : Browser.selector? indicator.selector with
      | none =>
          -- a text that is no selector finds nothing, then as now
          simp [indicatorSlot, hread, Except.toOption]
      | some selector =>
          obtain ⟨emphasis, hemphasis, hignores⟩ := hunobserved.emphasis
          obtain ⟨ancestors, node, hlocate, hattribute⟩ := attribute?_indicator hturn hindicator
          have hindicators := hunobserved.indicators group hgroup ancestors node hlocate
            indicator.selector hattribute selector hread
          rw [indicatorSlot_updated hupdated hread hemphasis (Move.alike_marked hindicators _)
            (Move.alike_marked hignores _)]
          intro place hplace hslot
          have hslotOf : slotOf visit settings page group = some place.node.id := by
            rw [slotOf, textOf, hturn, Option.bind_some, Turn.slot?, hindicator,
              Option.bind_some, hslot]
            rfl
          -- the marks of the group itself write nothing
          have hwritten : Move.written?
              (before.flatMap (plannedMoves visit settings page) ++ turn.markMoves) =
                Move.written? (before.flatMap (plannedMoves visit settings page)) := by
            funext id
            rw [Move.written?_append, Turn.markMoves, Move.written?_marks, Option.none_or]
          rw [hwritten]
          exact kept_slot hclear hbefore hgroup hplace hslotOf

/-- When its turn comes a group makes the moves that it would have made at the start. -/
theorem groupMoves_planned :
    groupMoves visit settings later group = plannedMoves visit settings page group := by
  rw [groupMoves, hunobserved.word, turn?_planned hunobserved hclear hbefore hlater hgroup,
    plannedMoves, marksOf, textOf]
  cases hturn : turn? visit settings page.scene group with
  | none => rfl
  | some turn =>
      have hslot := slot?_planned hunobserved hclear hbefore hlater hgroup hturn
      simp only [Option.map_some, Option.getD_some, Option.bind_some, Turn.moves, Turn.markMoves,
        Turn.marks_updated]
      rw [Turn.markMoves] at hslot
      rw [← hslot]
      rfl

end

/-- In any order, and also when they have had their turns before, the groups make the moves planned
for them at the start. -/
theorem passMoves_planned (hunobserved : Unobserved settings page)
    (hclear : Clear visit settings page) {before : List Nat} (rest : List Nat)
    (hgroups : ∀ group ∈ before ++ rest, group ∈ tabGroups settings page) {later : Scene}
    (hlater : Reached visit settings page before later) :
    passMoves visit settings later rest = rest.flatMap (plannedMoves visit settings page) := by
  -- induction on the groups to come; `Reached` carries what those before have done
  induction rest generalizing before later with
  | nil => rfl
  | cons group rest ih =>
      have hbefore : ∀ other ∈ before, other ∈ tabGroups settings page := by
        intro other hother
        exact hgroups other (List.mem_append_left _ hother)
      have hgroup : group ∈ tabGroups settings page := hgroups group (by simp)
      have hnext : Reached visit settings page (before ++ [group])
          (later.moves settings.activeClass (plannedMoves visit settings page group)) := by
        rw [← List.flatMap_singleton (plannedMoves visit settings page)]
        exact hlater.moves
      rw [List.append_cons] at hgroups
      rw [passMoves, groupMoves_planned hunobserved hclear hbefore hlater hgroup, List.flatMap_cons,
        ih hgroups hnext]

/-- The turns of the groups make the planned updates. -/
theorem reached_activateGroups (hunobserved : Unobserved settings page)
    (hclear : Clear visit settings page) {before : List Nat} (rest : List Nat)
    (hgroups : ∀ group ∈ before ++ rest, group ∈ tabGroups settings page) {later : Scene}
    (hlater : Reached visit settings page before later) :
    Reached visit settings page (before ++ rest) (activateGroups visit settings later rest).1 := by
  rw [activateGroups_eq_moves, passMoves_planned hunobserved hclear rest hgroups hlater]
  exact hlater.moves

end

/-- Two groups, of which the first one has its indicator between them. -/
def twoGroups : Page where
  content :=
    .element (.ofMarkup "div" [("class", "tabs"), ("data-indicator", "#shown")])
      (.element (.ofMarkup "a" [("class", "tab"), ("data-tab", "day")]) (.ofText "Day")
        (.element (.ofMarkup "a" [("class", "tab is-active"), ("data-tab", "week")])
          (.ofText " Week ") .nil))
      (.element (.ofMarkup "p" [("id", "shown")])
        (.text "now: " (.element (.ofMarkup "strong" []) (.ofText "Day") .nil))
        (.element (.ofMarkup "div" [("class", "tabs")])
          (.element (.ofMarkup "a" [("class", "tab"), ("href", "?tab=week")]) (.ofText "7") .nil)
          .nil))

theorem unobserved_twoGroups : Unobserved {} twoGroups :=
  unobserved_of_readsApart (by decide +kernel) (by decide +kernel) (by decide +kernel)

theorem clear_twoGroups : Clear (visitWith "?tab=week") {} twoGroups where
  slots := by decide +kernel
  slot_tab := by decide +kernel
  slot_group := by decide +kernel

end PageSync.Pass
