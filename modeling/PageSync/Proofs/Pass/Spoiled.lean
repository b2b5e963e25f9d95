import PageSync.Page.Browser
import PageSync.Proofs.Page.Removal
import PageSync.Proofs.Pass.Unseen

/-!
Groups whose indicator is no selector. Such a group is reported when its tabs have their marks, and
that is all: the pass makes the same moves over the page on which these groups, or some of them,
have no indicator at all (`passMoves_bared`), and comes to the same page (`activateTabs_without`).
This is so where no selector of the pass asks for the attribute that is missing.
-/

namespace PageSync.Pass

theorem activation?_indicator_none (group : TabGroup) (search : String) (tabs : List Tab)
    (base : Url) (placeholder : String) :
    { group with indicator := none }.activation? search tabs base placeholder =
      (group.activation? search tabs base placeholder).map ({ · with indicator := none }) := by
  cases tabs with
  | nil => rfl
  | cons first rest => rfl

theorem ofMarkup_bare (defaultParam : String) (ids : List Nat) (id : Nat) (element : Element) :
    TabGroup.ofMarkup defaultParam (element.bare "data-indicator" ids id).attribute? =
      if id ∈ ids then { TabGroup.ofMarkup defaultParam element.attribute? with indicator := none }
      else TabGroup.ofMarkup defaultParam element.attribute? := by
  have halike := Element.alikeLess_bare "data-indicator" ids id element
  have hparam := halike.attributes "data-tab-param" (by decide)
  have hdefault := halike.attributes "data-default-tab" (by decide)
  split
  · next hid =>
      rw [TabGroup.ofMarkup, hparam, hdefault, Element.bare_of_mem hid,
        Element.attribute?_removeAttribute_self]
      rfl
  · next hid => rw [Element.bare_of_not_mem hid]

/-- What a turn comes to without its indicator. -/
def Turn.barePlan (ids : List Nat) (id : Nat) (turn : Turn) : List Nat × TabGroup.Activation :=
  (turn.tabs.map Scene.Node.id,
    if id ∈ ids then { turn.activation with indicator := none } else turn.activation)

theorem tabOf_bared {ids : List Nat} {safe : Nat → String → Prop} {a b : Scene.Node}
    (h : a.Related (Bared "data-indicator" ids safe) b) : tabOf a = tabOf b := by
  have hvalue := h.entry.alike.attributes "data-tab" (by decide)
  have hhref := h.entry.alike.attributes "href" (by decide)
  rw [tabOf, tabOf, hvalue, hhref, h.content.textContent_eq]

section

variable [Browser]

/-- If the text is a selector, it does not ask for the indicators of groups. -/
def ReadsUnasking (text : String) : Prop :=
  ∀ selector ∈ Browser.selector? text, selector.Unasking "data-indicator"

instance (text : String) : Decidable (ReadsUnasking text) :=
  inferInstanceAs (Decidable (∀ selector ∈ Browser.selector? text, _))

def groupNodes (settings : Settings) (page : Page) : List Scene.Node :=
  ((Browser.selector? settings.tabGroupSelector).map page.scene.select).getD []

/-- No selector of the pass asks for the indicators of groups. -/
structure Unasked (settings : Settings) (page : Page) : Prop where
  groups : ReadsUnasking settings.tabGroupSelector
  tabs : ReadsUnasking settings.tabSelector
  emphasis : ReadsUnasking settings.indicatorEmphasis
  indicators : ∀ node ∈ groupNodes settings page,
    ∀ text ∈ node.element.attribute? "data-indicator", ReadsUnasking text

def isSpoiled (node : Scene.Node) : Bool :=
  (node.element.attribute? "data-indicator").any fun text => (Browser.selector? text).isNone

def spoiledGroups (settings : Settings) (page : Page) : List Nat :=
  ((groupNodes settings page).filter isSpoiled).map Scene.Node.id

/-- The indicator of an element can be taken away if it is no selector. It does not ask for
indicators if the element is a group. -/
structure Removable (ids groups : List Nat) (id : Nat) (text : String) : Prop where
  unread : id ∈ ids → Browser.selector? text = none
  unasking : id ∈ groups → ReadsUnasking text

/-! ### The groups of a page -/

section

variable {settings : Settings} {page : Page}

theorem tabGroups_eq_groupNodes (settings : Settings) (page : Page) :
    tabGroups settings page = (groupNodes settings page).map Scene.Node.id := by
  rw [tabGroups, groupNodes]
  cases Browser.selector? settings.tabGroupSelector with
  | none => rfl
  | some selector => rfl

theorem element_of_mem_groupNodes {node : Scene.Node} (hnode : node ∈ groupNodes settings page)
    {entry : Nat × Element} (hentry : entry ∈ page.scene.attached.toList)
    (hid : node.id = entry.1) : node.element = entry.2 := by
  obtain ⟨place, hplace, rfl⟩ := Forest.exists_place_of_mem_toList [] hentry
  rw [groupNodes] at hnode
  cases hread : Browser.selector? settings.tabGroupSelector with
  | none =>
      rw [hread] at hnode
      contradiction
  | some selector =>
      rw [hread, Option.map_some, Option.getD_some] at hnode
      obtain ⟨other, hother, -, rfl⟩ := Scene.mem_select.mp hnode
      rw [Forest.place_unique (Scene.nodup_attached (Scene.nodup_numbers_scene page)) hother hplace
        hid]

theorem removable_of_subset (hunasked : Unasked settings page) {ids : List Nat}
    (hids : ids ⊆ spoiledGroups settings page) :
    ∀ entry ∈ page.scene.attached.toList ++ page.scene.detached.toList,
      ∀ text ∈ entry.2.attribute? "data-indicator",
        Removable ids (tabGroups settings page) entry.1 text := by
  intro entry hentry text htext
  have hentry : entry ∈ page.scene.attached.toList := by
    -- at the start nothing has been cut off
    simpa [Page.scene, Forest.toList] using hentry
  constructor
  · intro hid
    obtain ⟨node, hnode, heq⟩ := List.mem_map.mp (hids hid)
    obtain ⟨hmem, hspoiled⟩ := List.mem_filter.mp hnode
    rw [isSpoiled, element_of_mem_groupNodes hmem hentry heq, Option.mem_def.mp htext,
      Option.any_some, Option.isNone_iff_eq_none] at hspoiled
    exact hspoiled
  · intro hid
    rw [tabGroups_eq_groupNodes] at hid
    obtain ⟨node, hmem, heq⟩ := List.mem_map.mp hid
    refine hunasked.indicators node hmem text ?_
    rw [element_of_mem_groupNodes hmem hentry heq]
    exact htext

end

/-! ### Turns without an indicator -/

section

variable {ids groups : List Nat} {scene other : Scene}
  (h : scene.Related (Bared "data-indicator" ids (Removable ids groups)) other)

include h

theorem plan_bared {settings : Settings} (htab : ReadsUnasking settings.tabSelector)
    (visit : Visit) (id : Nat) :
    (turn? visit settings scene id).map Turn.plan =
      (turn? visit settings other id).map (Turn.barePlan ids id) := by
  have hlocate := h.locate? (fun _ _ => Bared.id) (fun _ _ => Bared.alike)
    (.refl "data-indicator") id
  have hnumber : ∀ found ∈ other.locate? id, found.2.id = id := fun _ => Scene.id_of_locate?
  rw [turn?, turn?]
  -- both scenes have the group, or neither has
  generalize scene.locate? id = found at hlocate ⊢
  generalize other.locate? id = found' at hlocate hnumber ⊢
  cases hlocate with
  | none => rfl
  | @some found found' hfound =>
      have hmarkup := ofMarkup_bare settings.defaultTabParam ids found'.2.id found'.2.element
      rw [← hfound.node.entry.element, hnumber found' rfl] at hmarkup
      cases hread : Browser.selector? settings.tabSelector with
      | none => rfl
      | some selector =>
          have hnodes := h.selectIn (fun _ _ => Bared.id) (fun _ _ => Bared.alike)
            (.refl "data-indicator") (htab selector hread).blind id
          have hids := Scene.map_id_related (fun _ _ => Bared.id) hnodes
          have htabs : (scene.selectIn id selector).map tabOf =
              (other.selectIn id selector).map tabOf := by
            rw [← List.forall₂_eq_eq_eq, List.forall₂_map_left_iff, List.forall₂_map_right_iff]
            exact hnodes.imp fun _ _ => tabOf_bared
          simp only [Option.bind_some, htabs, hmarkup]
          by_cases hid : id ∈ ids
          · simp only [if_pos hid, activation?_indicator_none, Option.map_map]
            refine congrArg (Option.map · _) (funext fun activation => ?_)
            exact Prod.ext hids (if_pos hid).symm
          · simp only [if_neg hid, Option.map_map]
            refine congrArg (Option.map · _) (funext fun activation => ?_)
            exact Prod.ext hids (if_neg hid).symm

/-- What a group of one scene names as its indicator can be taken away. -/
theorem removable_indicator {visit : Visit} {settings : Settings} {id : Nat} {turn : Turn}
    (hturn : turn? visit settings other id = some turn) {indicator : Indicator}
    (hindicator : turn.activation.indicator = some indicator) :
    Removable ids groups id indicator.selector := by
  obtain ⟨ancestors, node, hlocate, hattribute⟩ := attribute?_indicator hturn hindicator
  have hfound := h.locate? (fun _ _ => Bared.id) (fun _ _ => Bared.alike)
    (.refl "data-indicator") id
  rw [hlocate] at hfound
  cases hscene : scene.locate? id with
  | none =>
      rw [hscene] at hfound
      cases hfound
  | some found =>
      rw [hscene] at hfound
      have hentry := (Option.rel_some_some.mp hfound).node.entry
      have hid : node.id = id := Scene.id_of_locate? hlocate
      exact hid ▸ hentry.value _ hattribute

end

/-- A text that is no selector leads to no slot. -/
theorem slot?_of_unread {settings : Settings} {turn : Turn}
    (h : ∀ indicator ∈ turn.activation.indicator, Browser.selector? indicator.selector = none)
    (scene : Scene) : turn.slot? settings scene = none := by
  rw [Turn.slot?, Option.bind_eq_none_iff]
  intro indicator hindicator
  rw [indicatorSlot, h indicator hindicator]
  rfl

section

variable {settings : Settings} (htab : ReadsUnasking settings.tabSelector)
  (hemphasis : ReadsUnasking settings.indicatorEmphasis) {ids groups : List Nat}

include htab hemphasis

theorem groupMoves_bared {scene other : Scene}
    (h : scene.Related (Bared "data-indicator" ids (Removable ids groups)) other) (visit : Visit)
    {id : Nat} (hgroup : id ∈ groups) :
    groupMoves visit settings scene id = groupMoves visit settings other id := by
  rw [groupMoves, groupMoves]
  cases hword : Element.classFault? settings.activeClass with
  | some fault => rfl
  | none =>
      have hplan := plan_bared h htab visit id
      cases hturn : turn? visit settings other id with
      | none =>
          rw [hturn, Option.map_none, Option.map_eq_none_iff] at hplan
          rw [hplan]
          rfl
      | some turn =>
          rw [hturn, Option.map_some, Option.map_eq_some_iff] at hplan
          obtain ⟨bare, hbare, hsame⟩ := hplan
          have hactivation : bare.activation =
              if id ∈ ids then { turn.activation with indicator := none } else turn.activation :=
            congrArg Prod.snd hsame
          have hmarks : bare.markMoves = turn.markMoves := by
            rw [Turn.markMoves_eq_plan, Turn.markMoves_eq_plan, hsame, Turn.barePlan]
            split
            · rfl
            · rfl
          -- the indicator is looked for in the scenes with the marks, which are still alike
          have hlater := h.moves_bared (by decide) settings.activeClass turn.markMoves
          have hslot : bare.slot? settings (scene.moves settings.activeClass turn.markMoves) =
              turn.slot? settings (other.moves settings.activeClass turn.markMoves) := by
            by_cases hid : id ∈ ids
            · rw [slot?_of_unread fun indicator hindicator =>
                (removable_indicator h hturn hindicator).unread hid, Turn.slot?, hactivation,
                if_pos hid]
              rfl
            · rw [Turn.slot?, Turn.slot?, hactivation, if_neg hid]
              cases hindicator : turn.activation.indicator with
              | none => rfl
              | some indicator =>
                  have hunasking := (removable_indicator h hturn hindicator).unasking hgroup
                  rw [Option.bind_some, Option.bind_some,
                    indicatorSlot_of_related (fun _ _ => Bared.id) (fun _ _ => Bared.alike)
                      (.refl "data-indicator") hlater
                      (fun selector hread => (hunasking selector hread).blind)
                      fun emphasis hread => (hemphasis emphasis hread).blind]
          rw [hbare, Option.map_some, Option.map_some, Option.getD_some, Option.getD_some,
            Turn.moves, Turn.moves, hmarks, hslot]

/-- Over the scene without the indicators the pass makes the same moves. -/
theorem passMoves_bared {scene other : Scene}
    (h : scene.Related (Bared "data-indicator" ids (Removable ids groups)) other) (visit : Visit)
    {list : List Nat} (hlist : list ⊆ groups) :
    passMoves visit settings scene list = passMoves visit settings other list := by
  induction list generalizing scene other with
  | nil => rfl
  | cons id list ih =>
      obtain ⟨hid, hrest⟩ := List.cons_subset.mp hlist
      rw [passMoves, passMoves, groupMoves_bared htab hemphasis h visit hid]
      exact congrArg (_ ++ ·) (ih (h.moves_bared (by decide) settings.activeClass _) hrest)

end

/-! ### The pass -/

/-- The group marks its tabs at its turn, and does nothing else. -/
def OnlyMarks (visit : Visit) (settings : Settings) (scene : Scene) (id : Nat) : Prop :=
  ∀ turn, turn? visit settings scene id = some turn →
    (activateGroup visit settings scene id).state =
      (scene.markAll settings.activeClass turn.marks).1

theorem onlyMarks_of_unread {visit : Visit} {settings : Settings} {scene : Scene} {id : Nat}
    (h : ∀ turn, turn? visit settings scene id = some turn →
      ∀ indicator ∈ turn.activation.indicator, Browser.selector? indicator.selector = none) :
    OnlyMarks visit settings scene id := by
  intro turn hturn
  rw [activateGroup_state, groupMoves]
  cases hword : Element.classFault? settings.activeClass with
  | some fault =>
      have hmarks : turn.marks ≠ [] := by
        simpa [Turn.marks, tabMarks] using Turn.tabs_ne_nil hturn
      rw [markAll_of_fault hword scene hmarks]
      rfl
  | none =>
      rw [hturn, Option.map_some, Option.getD_some, Turn.moves, slot?_of_unread (h turn hturn),
        Option.toList_none, List.map_nil, List.append_nil, markAll_eq_moves hword]
      rfl

section

variable {settings : Settings} {page : Page}

theorem tabGroups_without (hgroups : ReadsUnasking settings.tabGroupSelector) {ids : List Nat}
    {safe : Nat → String → Prop}
    (h : (page.scene.without "data-indicator" ids).Related (Bared "data-indicator" ids safe)
      page.scene) :
    tabGroups settings (page.without "data-indicator" ids) = tabGroups settings page := by
  rw [tabGroups, tabGroups, Page.scene_without]
  cases hread : Browser.selector? settings.tabGroupSelector with
  | none => rfl
  | some selector =>
      exact Scene.map_id_related (fun _ _ => Bared.id)
        (h.select (fun _ _ => Bared.alike) (.refl "data-indicator")
          (hgroups selector hread).blind)

theorem bared_of_subset (hunasked : Unasked settings page) {ids : List Nat}
    (hids : ids ⊆ spoiledGroups settings page) :
    (page.scene.without "data-indicator" ids).Related
      (Bared "data-indicator" ids (Removable ids (tabGroups settings page))) page.scene :=
  Scene.related_without (removable_of_subset hunasked hids)

/-- Groups whose indicator is no selector fail, and fail alone: the pass is done, each of them has
marked its tabs, and the page is the one that the pass leaves where any of these groups have no
indicator, up to these attributes. -/
theorem activateTabs_without (visit : Visit) {selector : Selector}
    (hread : Browser.selector? settings.tabGroupSelector = some selector)
    (hunasked : Unasked settings page) {ids : List Nat}
    (hids : ids ⊆ spoiledGroups settings page) :
    let last := (activateGroups visit settings page.scene (tabGroups settings page)).1
    (activateTabs visit settings page).result = .ok () ∧
    (activateTabs visit settings page).state = last.page ∧
    (activateTabs visit settings (page.without "data-indicator" ids)).state =
      (last.without "data-indicator" ids).page ∧
    ∀ before, ∀ id ∈ spoiledGroups settings page,
      OnlyMarks visit settings (activateGroups visit settings page.scene before).1 id := by
  have hrelated := bared_of_subset hunasked hids
  have hmoves := passMoves_bared hunasked.tabs hunasked.emphasis hrelated visit
    (List.Subset.refl (tabGroups settings page))
  refine ⟨by rw [activateTabs, hread], activateTabs_state_groups visit settings page, ?_, ?_⟩
  · -- with the same moves the pages still differ in those attributes alone
    have hlast := hrelated.moves_bared (by decide) settings.activeClass
      (passMoves visit settings page.scene (tabGroups settings page))
    rw [activateTabs_state, tabGroups_without hunasked.groups hrelated, Page.scene_without, hmoves,
      hlast.eq_without, activateGroups_eq_moves]
  · intro before id hid
    have hspoiled := bared_of_subset hunasked (List.Subset.refl _)
    have hturn := hspoiled.moves_bared (by decide) settings.activeClass
      (passMoves visit settings page.scene before)
    rw [activateGroups_eq_moves]
    exact onlyMarks_of_unread fun turn hturn' indicator hindicator =>
      (removable_indicator hturn hturn' hindicator).unread hid

end

end

/-- A group whose indicator is no selector, and after it a group with an indicator between them. -/
def spoiledFirst : Page where
  content :=
    .element (.ofMarkup "div" [("data-indicator", "##"), ("class", "tabs")])
      (.element (.ofMarkup "a" [("class", "tab"), ("data-tab", "day")]) (.ofText "Day") .nil)
      (.element (.ofMarkup "p" [("id", "shown")]) .nil
        (.element (.ofMarkup "div" [("class", "tabs"), ("data-indicator", "#shown")])
          (.element (.ofMarkup "a" [("class", "tab"), ("href", "?tab=week")]) (.ofText "7") .nil)
          .nil))

theorem activateTabs_without_spoiledFirst :
    Unasked {} spoiledFirst ∧ spoiledGroups {} spoiledFirst = [0] ∧
    (activateTabs (visitWith "") {} spoiledFirst).result = .ok () ∧
    (activateTabs (visitWith "") {} spoiledFirst).state ≠ spoiledFirst ∧
    ∃ last : Scene, (activateTabs (visitWith "") {} spoiledFirst).state = last.page ∧
      (activateTabs (visitWith "") {} (spoiledFirst.without "data-indicator" [0])).state =
        (last.without "data-indicator" [0]).page := by
  have hunasked : Unasked {} spoiledFirst :=
    ⟨by decide +kernel, by decide +kernel, by decide +kernel, by decide +kernel⟩
  have hspoiled : spoiledGroups {} spoiledFirst = [0] := by decide +kernel
  have hread : Browser.selector? ({} : Settings).tabGroupSelector =
      some ⟨[⟨⟨none, [.classIs "tabs"]⟩, []⟩]⟩ := by decide +kernel
  obtain ⟨hresult, hlast, hwithout, -⟩ :=
    activateTabs_without (visitWith "") hread hunasked (List.Subset.refl _)
  rw [hspoiled] at hwithout
  exact ⟨hunasked, hspoiled, hresult, by decide +kernel, _, hlast, hwithout⟩

end PageSync.Pass
