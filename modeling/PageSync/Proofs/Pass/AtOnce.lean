import Mathlib.Data.List.Nodup
import PageSync.Proofs.Pass.Planned

/-!
The tab pass goes from group to group, and each group reads the page that those before it have
changed. Where tabs of different groups are different, and the elements that indicators write into
lie apart from each other and from tabs and groups, none of this shows: the page afterwards is the
page at the start with the updates of all groups, as found at the start, made at once.
-/

namespace PageSync

/-- The scene with listed marks set and listed texts written, all at once. -/
def Scene.atOnce (word : String) (marks : List (Nat × Bool)) (texts : List (Nat × String))
    (scene : Scene) : Scene where
  attached := scene.attached.update (Element.markListed word marks) fun id => texts.lookup id
  detached := scene.detached

namespace Pass

section

variable [Browser]

def atOnce (visit : Visit) (settings : Settings) (page : Page) : Scene :=
  page.scene.atOnce settings.activeClass
    ((tabGroups settings page).flatMap (marksOf visit settings page))
    ((tabGroups settings page).filterMap (textOf visit settings page))

/-- What groups do is apart from each other: beside what is in the way of nothing that is read,
different groups have different tabs and different slots. -/
structure Apart (visit : Visit) (settings : Settings) (page : Page) : Prop extends
    Clear visit settings page where
  tabs : ∀ a ∈ tabGroups settings page, ∀ b ∈ tabGroups settings page, a ≠ b →
    ∀ tab ∈ tabsOf settings page a, tab ∉ tabsOf settings page b
  distinct : ∀ a ∈ tabGroups settings page, ∀ b ∈ tabGroups settings page, a ≠ b →
    ∀ slot ∈ slotOf visit settings page a, slot ∉ slotOf visit settings page b

variable {visit : Visit} {settings : Settings} {page : Page}

theorem marks_planned (visit : Visit) (settings : Settings) (page : Page) (groups : List Nat) :
    Move.marks (groups.flatMap (plannedMoves visit settings page)) =
      groups.flatMap (marksOf visit settings page) := by
  rw [Move.marks, List.filterMap_flatMap]
  congr 1
  funext group
  simp [plannedMoves, List.filterMap_append, List.filterMap_map]

theorem writes_planned (visit : Visit) (settings : Settings) (page : Page) (groups : List Nat) :
    Move.writes (groups.flatMap (plannedMoves visit settings page)) =
      groups.filterMap (textOf visit settings page) := by
  induction groups with
  | nil => rfl
  | cons group groups ih =>
      rw [Move.writes] at ih
      rw [List.flatMap_cons, Move.writes, List.filterMap_append, ih, plannedMoves]
      cases htext : textOf visit settings page group with
      | none => simp [htext, List.filterMap_map]
      | some entry => simp [htext, List.filterMap_map]

/-- No tab is marked for two groups. -/
theorem nodup_marks (hapart : Apart visit settings page) :
    (((tabGroups settings page).flatMap (marksOf visit settings page)).map Prod.fst).Nodup := by
  have hsub : ∀ group,
      ((marksOf visit settings page group).map Prod.fst).Sublist (tabsOf settings page group) := by
    intro group
    cases hturn : turn? visit settings page.scene group with
    | none => simp [marksOf, hturn]
    | some turn => rw [map_fst_marksOf hturn]
  -- no tab stands twice in one group, or in two groups
  rw [List.map_flatMap, List.nodup_flatMap]
  constructor
  · intro group hgroup
    exact (nodup_tabsOf hgroup).sublist (hsub group)
  · refine (nodup_tabGroups settings page).imp_of_mem ?_
    intro a b ha hb hne id hida hidb
    exact hapart.tabs a ha b hb hne id ((hsub a).subset hida) ((hsub b).subset hidb)

/-- Nothing is written to twice. -/
theorem nodup_texts (hapart : Apart visit settings page) :
    (((tabGroups settings page).filterMap (textOf visit settings page)).map Prod.fst).Nodup := by
  rw [List.map_filterMap, List.Nodup, List.pairwise_filterMap]
  refine (nodup_tabGroups settings page).imp_of_mem ?_
  intro a b ha hb hne slot hslot other hother
  rintro rfl
  exact hapart.distinct a ha b hb hne slot hslot hother

/-- Planned moves mark and write what is listed for the groups, in any order. -/
theorem planned_eq_lookup (hapart : Apart visit settings page) {order : List Nat}
    (horder : (tabGroups settings page).Perm order) :
    (Move.marked settings.activeClass (order.flatMap (plannedMoves visit settings page)) =
      Element.markListed settings.activeClass
        ((tabGroups settings page).flatMap (marksOf visit settings page))) ∧
    (Move.written? (order.flatMap (plannedMoves visit settings page)) =
      fun id => ((tabGroups settings page).filterMap (textOf visit settings page)).lookup id) := by
  have hmarks := nodup_marks hapart
  have htexts := nodup_texts hapart
  -- where each number has one entry, the last to be made is the one that is listed
  have hmarksPerm := horder.flatMap_right (marksOf visit settings page)
  have htextsPerm := horder.filterMap (textOf visit settings page)
  constructor
  · have horderMarks := (hmarksPerm.map Prod.fst).nodup_iff.mp hmarks
    rw [← marks_planned] at horderMarks
    funext id element
    rw [Move.marked_eq_lookup _ horderMarks, marks_planned, Element.markListed,
      Element.markListed, Move.lookup_perm hmarksPerm hmarks]
  · have horderTexts := (htextsPerm.map Prod.fst).nodup_iff.mp htexts
    rw [← writes_planned] at horderTexts
    funext id
    rw [Move.written?_eq_lookup horderTexts, writes_planned, Move.lookup_perm htextsPerm htexts]

/-- The updates are made in the scene that has them all. -/
theorem updated_atOnce (visit : Visit) (settings : Settings) (page : Page) :
    page.scene.Updated (atOnce visit settings page)
      (Element.markListed settings.activeClass
        ((tabGroups settings page).flatMap (marksOf visit settings page)))
      fun id => ((tabGroups settings page).filterMap (textOf visit settings page)).lookup id where
  nodup := Scene.nodup_numbers_scene page
  nodup_later := by
    have hattached := Scene.nodup_attached (Scene.nodup_numbers_scene page)
    rw [Scene.numbers]
    show (_ ++ []).Nodup
    rw [List.append_nil]
    exact Forest.nodup_numbers_update hattached
  attached := rfl

/-- The order of the turns does not matter. -/
theorem activateGroups_atOnce (hunobserved : Unobserved settings page)
    (hapart : Apart visit settings page) {order : List Nat}
    (horder : (tabGroups settings page).Perm order) :
    (activateGroups visit settings page.scene order).1.page =
      (atOnce visit settings page).page := by
  have hupdated := reached_activateGroups hunobserved hapart.toClear order
    (fun group hgroup => horder.mem_iff.mpr hgroup) (reached_nil visit settings page)
  obtain ⟨hmarked, hwritten⟩ := planned_eq_lookup hapart horder
  rw [List.nil_append] at hupdated
  rw [Scene.page, hupdated.attached, hmarked, hwritten]
  rfl

/-- The tab pass is the update of all groups at once, in whatever order they have their turns: the
page is the one at the start but for what its groups asked for at the start, and all of that is
there. Each group that has tabs has its turn. -/
theorem activateTabs_at_once (hunobserved : Unobserved settings page)
    (hapart : Apart visit settings page) :
    (activateTabs visit settings page).result = .ok () ∧
    (activateTabs visit settings page).state = (atOnce visit settings page).page ∧
    (∀ order, (tabGroups settings page).Perm order →
      (activateGroups visit settings page.scene order).1.page =
        (atOnce visit settings page).page) ∧
    ∀ group ∈ tabGroups settings page, tabsOf settings page group ≠ [] →
      ∃ turn, turn? visit settings page.scene group = some turn ∧
        turn.tabs.map Scene.Node.id = tabsOf settings page group ∧
        (∀ (i : Nat) (tab : Scene.Node), turn.tabs[i]? = some tab → ∃ ancestors node,
          (atOnce visit settings page).locate? tab.id = some (ancestors, node) ∧
            node.element.hasClass settings.activeClass = turn.activation.marks i) ∧
        ∀ slot text, turn.slot? settings page.scene = some (slot, text) → ∃ ancestors node,
          (atOnce visit settings page).locate? slot = some (ancestors, node) ∧
            node.content = .ofText text := by
  have hupdated := updated_atOnce visit settings page
  have hwritten := (planned_eq_lookup hapart (.refl (tabGroups settings page))).2
  refine ⟨?_, ?_, ?_, ?_⟩
  · obtain ⟨selector, hread, -⟩ := hunobserved.groups
    rw [activateTabs, hread]
  · rw [activateTabs_state_groups]
    exact activateGroups_atOnce hunobserved hapart (.refl (tabGroups settings page))
  · intro order horder
    exact activateGroups_atOnce hunobserved hapart horder
  · intro group hgroup htabs
    obtain ⟨turn, hturn, hids⟩ := exists_turn_of_tabsOf visit hgroup htabs
    refine ⟨turn, hturn, hids, ?_, ?_⟩
    · intro i tab htab
      -- a tab is on the page to the end, for no slot is around it
      obtain ⟨place, hplace, rfl, hid⟩ := exists_place_of_mem_tabs hgroup hturn htab
      obtain ⟨hkept, -, -⟩ := kept_tab hapart.toClear (fun _ h => h) hgroup hplace hid
      rw [hwritten] at hkept
      refine ⟨_, _, hupdated.locate?_eq hplace hkept, ?_⟩
      have hmem : (place.node.id, turn.activation.marks i) ∈
          (tabGroups settings page).flatMap (marksOf visit settings page) := by
        refine List.mem_flatMap.mpr ⟨group, hgroup, ?_⟩
        rw [marksOf, hturn]
        exact List.mem_map.mpr ⟨(place.node, i), List.mem_zipIdx_iff_getElem?.mpr htab, rfl⟩
      have hword := Element.classFault?_eq_none_iff.mp hunobserved.word
      rw [Place.element_updated, Element.markListed, Move.lookup_of_mem (nodup_marks hapart) hmem]
      simp [Element.hasClass_markClass hword]
    · intro slot text htext
      have htextOf : textOf visit settings page group = some (slot, text) := by
        rw [textOf, hturn, Option.bind_some, htext]
      obtain ⟨place, hplace, rfl⟩ := exists_place_of_textOf htextOf
      -- and so is a slot, for no slot is around another
      have hslotOf : slotOf visit settings page group = some place.node.id := by
        rw [slotOf, htextOf, Option.map_some]
      have hkept := kept_slot hapart.toClear (fun _ h => h) hgroup hplace hslotOf
      rw [hwritten] at hkept
      refine ⟨_, _, hupdated.locate?_eq hplace hkept, ?_⟩
      have hmem : (place.node.id, text) ∈
          (tabGroups settings page).filterMap (textOf visit settings page) :=
        List.mem_filterMap.mpr ⟨group, hgroup, htextOf⟩
      simp only [Place.updated, Scene.Node.updated, Move.lookup_of_mem (nodup_texts hapart) hmem]

end

/-- Settings that ask for the parent, and compare attributes in other ways than by equality. -/
def closeSettings : Settings :=
  { tabGroupSelector := "div.tabs"
    tabSelector := ".tabs > [data-tab], div > a[href *= 'tab=']"
    indicatorEmphasis := "#shown > strong" }

theorem activateTabs_at_once_twoGroups :
    Unobserved closeSettings twoGroups ∧ Apart (visitWith "?tab=week") closeSettings twoGroups ∧
      (activateTabs (visitWith "?tab=week") closeSettings twoGroups).state =
        (atOnce (visitWith "?tab=week") closeSettings twoGroups).page ∧
      tabGroups closeSettings twoGroups = [0, 5] ∧ tabsOf closeSettings twoGroups 5 = [6] ∧
      ∃ turn, turn? (visitWith "?tab=week") closeSettings twoGroups.scene 5 = some turn ∧
        turn.tabs.map Scene.Node.id = [6] := by
  have hunobserved : Unobserved closeSettings twoGroups :=
    unobserved_of_readsApart (by decide +kernel) (by decide +kernel) (by decide +kernel)
  have hapart : Apart (visitWith "?tab=week") closeSettings twoGroups :=
    { slots := by decide +kernel
      slot_tab := by decide +kernel
      slot_group := by decide +kernel
      tabs := by decide +kernel
      distinct := by decide +kernel }
  have hgroups : tabGroups closeSettings twoGroups = [0, 5] := by decide +kernel
  have htabs : tabsOf closeSettings twoGroups 5 = [6] := by decide +kernel
  obtain ⟨-, hstate, -, hturns⟩ := activateTabs_at_once hunobserved hapart
  obtain ⟨turn, hturn, hids, -⟩ := hturns 5 (by simp [hgroups]) (by simp [htabs])
  exact ⟨hunobserved, hapart, hstate, hgroups, htabs, turn, hturn, hids.trans htabs⟩

end Pass

end PageSync
