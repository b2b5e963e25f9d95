import PageSync.Page.Browser
import PageSync.Proofs.Pass.Planned
import PageSync.Proofs.Pass.Renaming

/-!
The tab pass, made again. It leaves the page as it is exactly if the marks and texts that it asks
for are there already (`activateTabs_state_eq_iff`). After a first run they are, wherever what is
written is not in the way of what is read; a text that is written into a tab becomes part of the
label that the next run reads.
-/

namespace PageSync

namespace Forest

theorem places_eq_nil_of_unnumber {forest : Forest (Nat × Element)} {content : String}
    (h : forest.unnumber = .ofText content) (around : List (Nat × Element)) :
    forest.places around = [] := by
  have hnumbers : forest.numbers.length = forest.unnumber.size := by
    rw [numbers, List.length_map, ← length_toList, unnumber, toList_map, List.length_map]
  have hsize : (Forest.ofText content : Forest Element).size = 0 := by
    unfold ofText
    split
    · rfl
    · rfl
  rw [h, hsize, ← map_id_places around, List.length_map] at hnumbers
  exact List.eq_nil_of_length_eq_zero hnumbers

/-- What an update leaves as it was, elements and content. -/
theorem unnumber_update_eq_iff {f : Nat → Element → Element} {text? : Nat → Option String}
    (around : List (Nat × Element)) (forest : Forest (Nat × Element)) :
    (forest.update f text?).unnumber = forest.unnumber ↔
      ∀ place ∈ forest.places around, f place.node.id place.node.element = place.node.element ∧
        ∀ text, text? place.node.id = some text → place.node.content.unnumber = .ofText text := by
  induction forest generalizing around with
  | nil => simp [update, places]
  | text content rest ih =>
      rw [places, ← ih around]
      show Forest.text content (unnumber _) = Forest.text content (unnumber rest) ↔ _
      rw [text.injEq]
      exact and_iff_right rfl
  | element item children rest ihc ihr =>
      obtain ⟨id, item⟩ := item
      have hrest := ihr around
      have hchildren := ihc ((id, item) :: around)
      simp only [places, List.forall_mem_cons, List.forall_mem_append]
      rw [← hrest]
      show Forest.element (f id item) (unnumber _) (unnumber _) =
        Forest.element item (unnumber children) (unnumber rest) ↔ _
      rw [element.injEq]
      cases htext : text? id with
      | none =>
          simp only [reduceCtorEq, false_implies, implies_true, and_true]
          rw [← hchildren]
      | some new =>
          have hofText : (Forest.ofText new : Forest (Nat × Element)).unnumber = .ofText new := by
            unfold ofText
            split
            · rfl
            · rfl
          simp only [hofText, Option.some.injEq, forall_eq']
          constructor
          · rintro ⟨hitem, hnew, hrest⟩
            refine ⟨⟨hitem, hnew.symm⟩, ?_, hrest⟩
            -- a content that is one text holds no elements
            rw [places_eq_nil_of_unnumber hnew.symm]
            simp
          · rintro ⟨⟨hitem, hnew⟩, -, hrest⟩
            exact ⟨hitem, hnew.symm, hrest⟩

end Forest

namespace Pass

section

variable [Browser]

/-- What the groups of a page ask for, one after the other, is there already: every element is as
the marks for it make it, and contains the last text to be written into it. -/
def Settled (visit : Visit) (settings : Settings) (page : Page) : Prop :=
  ∀ place ∈ page.scene.places,
    let moves := passMoves visit settings page.scene (tabGroups settings page)
    Move.marked settings.activeClass moves place.node.id place.node.element = place.node.element ∧
      ∀ text, Move.written? moves place.node.id = some text →
        place.node.content.unnumber = .ofText text

theorem activateTabs_state_eq_iff (visit : Visit) (settings : Settings) (page : Page) :
    (activateTabs visit settings page).state = page ↔ Settled visit settings page := by
  have hpage : page.content = page.scene.attached.unnumber := by
    show page.content = (page.content.number 0).unnumber
    rw [Forest.unnumber_number]
  rw [activateTabs_state, Scene.page, Scene.attached_moves, Settled, Scene.places,
    ← Forest.unnumber_update_eq_iff [] page.scene.attached, ← hpage]
  constructor
  · intro h
    exact congrArg Page.content h
  · intro h
    exact congrArg Page.mk h

variable {visit : Visit} {settings : Settings} {page : Page}

/-- A scene that the planned moves of all groups have been made in keeps its page when they are made
again. -/
theorem attached_twice (hunobserved : Unobserved settings page) {groups : List Nat}
    {later last : Scene}
    (hlater : Reached visit settings page groups later)
    (hlast : Reached visit settings page (groups ++ groups) last) :
    last.attached = later.attached := by
  have hword := Element.classFault?_eq_none_iff.mp hunobserved.word
  rw [hlast.attached, hlater.attached, List.flatMap_append]
  apply Forest.update_congr
  intro id _
  constructor
  · funext element
    rw [Move.marked_append, Move.marked_marked hword]
  · rw [Move.written?_append, Option.or_self]

/-- The groups of the page are those of every scene that planned moves lead to. -/
theorem select_reached (hclear : Clear visit settings page) {groups : List Nat}
    (hgroups : ∀ group ∈ groups, group ∈ tabGroups settings page) {later : Scene}
    (hlater : Reached visit settings page groups later) {selector : Selector}
    (hread : Browser.selector? settings.tabGroupSelector = some selector)
    (hignores : selector.Ignores settings.activeClass) :
    (later.select selector).map Scene.Node.id = tabGroups settings page := by
  rw [Scene.select_eq_places,
    hlater.filter_places (Move.alike_marked hignores _),
    List.filter_eq_self.mpr, List.map_map, List.map_map, tabGroups_eq_places hread]
  · rfl
  · intro place hplace
    apply kept_group hclear hgroups (List.mem_filter.mp hplace).1
    rw [tabGroups_eq_places hread]
    exact List.mem_map_of_mem hplace

/-- What a run of the tab pass does, a further run leaves exactly if all that it asks for is there.
So it is where nothing that is read lies where something is written. -/
theorem activateTabs_twice (visit : Visit) (settings : Settings) (page : Page) :
    ((activateTabs visit settings (activateTabs visit settings page).state).state =
        (activateTabs visit settings page).state ↔
      Settled visit settings (activateTabs visit settings page).state) ∧
    (Unobserved settings page → Clear visit settings page →
      (activateTabs visit settings (activateTabs visit settings page).state).state =
        (activateTabs visit settings page).state) := by
  refine ⟨activateTabs_state_eq_iff visit settings _, ?_⟩
  intro hunobserved hclear
  obtain ⟨selector, hread, hignores⟩ := hunobserved.groups
  have hgroups : ∀ group ∈ [] ++ tabGroups settings page, group ∈ tabGroups settings page :=
    fun _ h => h
  have hfirst := reached_activateGroups hunobserved hclear (tabGroups settings page) hgroups
    (reached_nil visit settings page)
  rw [List.nil_append] at hfirst
  rw [activateTabs_state_groups visit settings page]
  generalize (activateGroups visit settings page.scene (tabGroups settings page)).1 = later
    at hfirst
  -- the second run begins without what the first one cut off
  have hlater : Reached visit settings page (tabGroups settings page) ⟨later.attached, .nil⟩ :=
    { nodup := hfirst.nodup
      nodup_later := by simpa [Scene.numbers] using Scene.nodup_attached hfirst.nodup_later
      attached := hfirst.attached }
  -- both runs together are one in which every group has two turns
  have hagain : ∀ group ∈ tabGroups settings page ++ tabGroups settings page,
      group ∈ tabGroups settings page := by simp
  have hsecond := reached_activateGroups hunobserved hclear (tabGroups settings page) hagain hlater
  have hsame := attached_twice hunobserved hlater hsecond
  rw [activateTabs_page visit hread (Scene.nodup_attached hfirst.nodup_later),
    select_reached hclear hgroups hfirst hread hignores, Scene.page, hsame]
  rfl

end

theorem activateTabs_twice_twoGroups :
    (Unobserved {} twoGroups ∧ Clear (visitWith "?tab=week") {} twoGroups) ∧
      let once := (activateTabs (visitWith "?tab=week") {} twoGroups).state
      (activateTabs (visitWith "?tab=week") {} once).state = once :=
  ⟨⟨unobserved_twoGroups, clear_twoGroups⟩,
    (activateTabs_twice (visitWith "?tab=week") {} twoGroups).2 unobserved_twoGroups
      clear_twoGroups⟩

/-- A tab whose label holds the indicator of its group. -/
def slotInTab : Page where
  content :=
    .element (.ofMarkup "div" [("class", "tabs"), ("data-indicator", "#shown")])
      (.element (.ofMarkup "a" [("class", "tab"), ("data-tab", "day")])
        (.text "Now " (.element (.ofMarkup "b" [("id", "shown")]) (.ofText "day") .nil)) .nil)
      .nil

/-- Its label grows with every run. -/
theorem activateTabs_slotInTab_ne :
    let once := (activateTabs (visitWith "") {} slotInTab).state
    (activateTabs (visitWith "") {} once).state ≠ once := by
  decide +kernel

end Pass

end PageSync
