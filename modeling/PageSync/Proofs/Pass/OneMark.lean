import PageSync.Page.Browser
import PageSync.Proofs.Pass.Foresight
import PageSync.Proofs.Page.Renaming

/-!
How many tabs of a group the tab pass leaves marked. A tab is marked or cleared by every group
around it, and the innermost of these is the last one to do so (`lastMark?_passMoves`): it decides.
So a group ends with more than one marked tab exactly if, among it and the groups within it, there
are two that keep the tab they chose (`activateTabs_oneMark_iff`).
-/

namespace PageSync.Pass

section

variable [Browser]

/-- The tabs that groups choose when they have their turns, one after the other. -/
def choices (visit : Visit) (settings : Settings) : Scene → List Nat → List (Nat × Nat)
  | _, [] => []
  | scene, id :: rest =>
    (((turn? visit settings scene id).bind Turn.chosen?).map fun tab => (id, tab)).toList ++
      choices visit settings
        (scene.moves settings.activeClass (groupMoves visit settings scene id)) rest

variable {visit : Visit} {settings : Settings}

theorem fst_mem_of_mem_choices {scene : Scene} {ids : List Nat} {id tab : Nat}
    (h : (id, tab) ∈ choices visit settings scene ids) : id ∈ ids := by
  induction ids generalizing scene with
  | nil => simp [choices] at h
  | cons other ids ih =>
      rw [choices, List.mem_append] at h
      rcases h with h | h
      · rw [Option.mem_toList, Option.map_eq_some_iff] at h
        obtain ⟨_, _, heq⟩ := h
        injection heq with heq _
        exact heq ▸ List.mem_cons_self
      · exact List.mem_cons_of_mem other (ih h)

theorem mem_choices_cons {scene : Scene} {ids : List Nat} {id other tab : Nat}
    (hids : (other :: ids).Nodup) :
    (id, tab) ∈ choices visit settings scene (other :: ids) ↔
      if id = other then (turn? visit settings scene other).bind Turn.chosen? = some tab
      else (id, tab) ∈ choices visit settings
        (scene.moves settings.activeClass (groupMoves visit settings scene other)) ids := by
  rw [choices, List.mem_append, Option.mem_toList, Option.map_eq_some_iff]
  -- each group has one turn, so its choice is in front or among the later ones
  split
  · next heq =>
      subst heq
      constructor
      · rintro (⟨_, hchosen, heq⟩ | hmem)
        · injection heq with _ heq
          rw [hchosen, heq]
        · exact absurd (fst_mem_of_mem_choices hmem) (List.nodup_cons.mp hids).1
      · intro hchosen
        exact .inl ⟨tab, hchosen, rfl⟩
  · next hne =>
      constructor
      · rintro (⟨_, -, heq⟩ | hmem)
        · injection heq with heq _
          exact absurd heq.symm hne
        · exact hmem
      · exact .inr

/-- A group that has one turn makes one choice. -/
theorem choices_unique {scene : Scene} {ids : List Nat} (hids : ids.Nodup) {id a b : Nat}
    (ha : (id, a) ∈ choices visit settings scene ids)
    (hb : (id, b) ∈ choices visit settings scene ids) : a = b := by
  induction ids generalizing scene with
  | nil => simp [choices] at ha
  | cons other ids ih =>
      rw [mem_choices_cons hids] at ha hb
      split at ha
      · next heq =>
          rw [if_pos heq, ha] at hb
          exact Option.some.inj hb
      · next hne =>
          rw [if_neg hne] at hb
          exact ih (List.nodup_cons.mp hids).2 ha hb

/-! ### The last mark of a tab -/

section

variable {scene later : Scene} {tabs : Selector}
  (hword : Element.classFault? settings.activeClass = none)
  (hread : Browser.selector? settings.tabSelector = some tabs)
  (hignores : tabs.Ignores settings.activeClass) {tab : Place} (htab : tab ∈ scene.places)
  (haccepted : tab.accepted Browser.around tabs = true) {list : List Move}
  (h : scene.Updated later (Move.marked settings.activeClass list) (Move.written? list))
  (hkept : tab.kept (Move.written? list) = true)

include hword hread hignores htab haccepted h hkept

/-- The last mark for a tab in the turn of a group around it is whether the group has chosen it. -/
theorem lastMark?_groupMoves_of_within {id : Nat} (hwithin : tab.Within id) :
    Move.lastMark? (groupMoves visit settings later id) tab.node.id =
      some (decide ((turn? visit settings later id).bind Turn.chosen? = some tab.node.id)) := by
  obtain ⟨outer, houter, rfl, hinner⟩ :=
    Forest.mem_content_of_mem_around htab hwithin (by simp)
  have hkeptOuter := Forest.kept_of_within (Scene.nodup_attached h.nodup) htab houter hwithin hkept
  have hmem : tab.node.updated (Move.marked settings.activeClass list) (Move.written? list) ∈
      later.selectIn outer.node.id tabs := by
    rw [h.selectIn_eq (Move.alike_marked hignores list) houter hkeptOuter]
    exact List.mem_map_of_mem
      (List.mem_filter.mpr ⟨List.mem_filter.mpr ⟨hinner, haccepted⟩, hkept⟩)
  obtain ⟨turn, hturn, htabs⟩ := exists_turn visit (h.locate?_eq houter hkeptOuter) hread
    (List.ne_nil_of_mem hmem)
  have hnodup : (turn.tabs.map Scene.Node.id).Nodup := by
    rw [htabs]
    exact Scene.nodup_selectIn h.nodup_later (h.mem_places houter hkeptOuter) tabs
  rw [groupMoves, hword, hturn, Option.map_some, Option.getD_some, Move.lastMark?_eq_lookup,
    marks_moves]
  · rw [← htabs] at hmem
    have hlookup := Turn.lookup_marks hnodup hmem
    exact hlookup
  · rwa [marks_moves, Turn.map_fst_marks]

omit hread hignores haccepted in
/-- In the turns of other groups there is no mark for it. -/
theorem lastMark?_groupMoves_of_not_within {id : Nat} (hwithin : ¬tab.Within id) :
    Move.lastMark? (groupMoves visit settings later id) tab.node.id = none := by
  rw [groupMoves, hword]
  cases hturn : turn? visit settings later id with
  | none => rfl
  | some turn =>
      obtain ⟨_, _, selector, -, hselector, htabs, -, -⟩ := turn?_eq_some hturn
      have hnot : tab.node.id ∉ turn.marks.map Prod.fst := by
        rw [Turn.map_fst_marks, htabs]
        intro hmem
        have := Scene.within_of_mem_selectIn h.nodup_later (h.mem_places htab hkept) hmem
        exact hwithin ((Place.within_updated tab id).mp this)
      apply Move.lastMark?_eq_none
      rw [Option.map_some, Option.getD_some, marks_moves]
      exact hnot

end

section

variable {scene later : Scene} {tabs : Selector}
  (hword : Element.classFault? settings.activeClass = none)
  (hread : Browser.selector? settings.tabSelector = some tabs)
  (hignores : tabs.Ignores settings.activeClass) {tab : Place} (htab : tab ∈ scene.places)
  (haccepted : tab.accepted Browser.around tabs = true)

include hword hread hignores htab haccepted

/-- The last group around a tab that has its turn decides on its mark. -/
theorem lastMark?_passMoves {list : List Move}
    (h : scene.Updated later (Move.marked settings.activeClass list) (Move.written? list))
    {ids : List Nat} (hids : ids.Nodup)
    (hkept : tab.kept (Move.written? (list ++ passMoves visit settings later ids)) = true) :
    Move.lastMark? (passMoves visit settings later ids) tab.node.id =
      ((ids.filter fun id => tab.Within id).getLast?).map fun id =>
        decide ((id, tab.node.id) ∈ choices visit settings later ids) := by
  induction ids generalizing later list with
  | nil => rfl
  | cons id ids ih =>
      have hkeptNow := Move.kept_of_append hkept
      rw [passMoves, ← List.append_assoc] at hkept
      have hrest :=
        ih (h.moves (groupMoves visit settings later id)) (List.nodup_cons.mp hids).2 hkept
      rw [passMoves, Move.lastMark?_append, hrest]
      -- if a group to come is around the tab, the last of them decides, and else this group
      cases hlast : (ids.filter fun id => tab.Within id).getLast? with
      | some inner =>
          have hinner : inner ∈ ids := List.mem_of_mem_filter (List.mem_of_getLast? hlast)
          have hne : inner ≠ id := by
            rintro rfl
            exact (List.nodup_cons.mp hids).1 hinner
          have hcons : ((id :: ids).filter fun id => tab.Within id).getLast? = some inner := by
            rw [List.filter_cons]
            split
            · rw [List.getLast?_cons, hlast, Option.getD_some]
            · exact hlast
          rw [hcons]
          simp only [Option.map_some, Option.some_or, mem_choices_cons hids, if_neg hne]
      | none =>
          have hnil : (ids.filter fun id => tab.Within id) = [] :=
            List.getLast?_eq_none_iff.mp hlast
          rw [Option.map_none, Option.none_or, List.filter_cons, hnil]
          by_cases hwithin : tab.Within id
          · rw [lastMark?_groupMoves_of_within hword hread hignores htab haccepted h hkeptNow
              hwithin]
            simp [hwithin, mem_choices_cons hids]
          · rw [lastMark?_groupMoves_of_not_within hword htab h hkeptNow hwithin]
            simp [hwithin]

end

/-! ### Marked tabs of a group -/

def OneMarkIn (tabs : Selector) (word : String) (scene : Scene) (group : Nat) : Prop :=
  ((scene.selectIn group tabs).filter fun tab => tab.element.hasClass word).length ≤ 1

def OneMark (settings : Settings) (scene : Scene) : Prop :=
  ∀ groups ∈ Browser.selector? settings.tabGroupSelector,
    ∀ tabs ∈ Browser.selector? settings.tabSelector,
      ∀ group ∈ scene.select groups, OneMarkIn tabs settings.activeClass scene group.id

instance (tabs : Selector) (word : String) (scene : Scene) (group : Nat) :
    Decidable (OneMarkIn tabs word scene group) :=
  inferInstanceAs (Decidable (_ ≤ 1))

instance (settings : Settings) (scene : Scene) : Decidable (OneMark settings scene) :=
  inferInstanceAs (Decidable (∀ groups ∈ Browser.selector? settings.tabGroupSelector,
    ∀ tabs ∈ Browser.selector? settings.tabSelector,
      ∀ group ∈ scene.select groups, OneMarkIn tabs settings.activeClass scene group.id))

/-- A group keeps the tab that it chose: the tab is still one of its tabs, and not one of a group
within. -/
def Keeps (groups tabs : Selector) (scene : Scene) (chosen : List (Nat × Nat)) (group tab : Nat) :
    Prop :=
  (group, tab) ∈ chosen ∧ tab ∈ (scene.selectIn group tabs).map Scene.Node.id ∧
    ∀ inner ∈ scene.selectIn group groups,
      tab ∉ (scene.selectIn inner.id tabs).map Scene.Node.id

/-- Of a group and the groups within it only one keeps the tab that it chose. -/
def OneKeepsIn (groups tabs : Selector) (scene : Scene) (chosen : List (Nat × Nat)) (group : Nat) :
    Prop :=
  ∀ a ∈ group :: (scene.selectIn group groups).map Scene.Node.id,
    ∀ b ∈ group :: (scene.selectIn group groups).map Scene.Node.id, ∀ tab other,
      Keeps groups tabs scene chosen a tab → Keeps groups tabs scene chosen b other → a = b

/-- So it is with each group when all have had their turns. -/
def OneKeeps (visit : Visit) (settings : Settings) (page : Page) : Prop :=
  ∀ groups ∈ Browser.selector? settings.tabGroupSelector,
    ∀ tabs ∈ Browser.selector? settings.tabSelector,
      let last := (activateGroups visit settings page.scene (tabGroups settings page)).1
      let chosen := choices visit settings page.scene (tabGroups settings page)
      ∀ group ∈ last.select groups, OneKeepsIn groups tabs last chosen group.id

omit [Browser] in
theorem length_le_one_iff {nodes : List Scene.Node} (h : (nodes.map Scene.Node.id).Nodup) :
    nodes.length ≤ 1 ↔ ∀ a ∈ nodes, ∀ b ∈ nodes, a.id = b.id := by
  cases nodes with
  | nil => simp
  | cons first others =>
      cases others with
      | nil => simp
      | cons second others =>
          rw [List.map_cons, List.nodup_cons] at h
          constructor
          · intro hlength
            simp at hlength
          · intro hall
            have heq := hall first (by simp) second (by simp)
            exact absurd (by simp [heq]) h.1

/-- The group is the innermost of those around a tab. -/
structure Innermost (scene : Scene) (groups : Selector) (tab inner : Place) : Prop where
  place : inner ∈ scene.places
  accepted : inner.accepted Browser.around groups = true
  within : tab.Within inner.node.id
  least : ∀ other ∈ scene.places, other.accepted Browser.around groups = true →
    tab.Within other.node.id → ¬other.Within inner.node.id

section

variable {scene : Scene} (hnodup : scene.numbers.Nodup) {groups : Selector} {tab : Place}
  (htab : tab ∈ scene.places)

include hnodup

theorem exists_innermost {outer : Place} (houter : outer ∈ scene.places)
    (haccepted : outer.accepted Browser.around groups = true)
    (hwithin : tab.Within outer.node.id) : ∃ inner, Innermost scene groups tab inner := by
  obtain ⟨inner, hinner, hwithin, hleast⟩ := Forest.exists_innermost (Scene.nodup_attached hnodup)
    (List.filter_sublist (p := Place.accepted Browser.around groups))
    (List.mem_filter.mpr ⟨houter, haccepted⟩) hwithin
  obtain ⟨hplace, haccepted⟩ := List.mem_filter.mp hinner
  exact ⟨inner, hplace, haccepted, hwithin, fun other hother hgroup =>
    hleast other (List.mem_filter.mpr ⟨hother, hgroup⟩)⟩

include htab

/-- The innermost group around a tab is one of, or lies within, each group around it. -/
theorem Innermost.eq_or_within {inner outer : Place} (h : Innermost scene groups tab inner)
    (houter : outer ∈ scene.places) (haccepted : outer.accepted Browser.around groups = true)
    (hwithin : tab.Within outer.node.id) : inner = outer ∨ inner.Within outer.node.id := by
  rcases Forest.within_comparable (Scene.nodup_attached hnodup) htab h.place houter h.within hwithin
    with heq | hbelow | habove
  · exact .inl heq
  · exact .inr hbelow
  · exact absurd habove (h.least outer houter haccepted hwithin)

theorem Innermost.unique {a b : Place} (ha : Innermost scene groups tab a)
    (hb : Innermost scene groups tab b) : a = b := by
  rcases ha.eq_or_within hnodup htab hb.place hb.accepted hb.within with heq | hwithin
  · exact heq
  · exact absurd hwithin (hb.least a ha.place ha.accepted ha.within)

end

theorem Keeps.exists_tab {scene : Scene} (hnodup : scene.numbers.Nodup) {groups tabs : Selector}
    {chosen : List (Nat × Nat)} {group : Place} (hgroup : group ∈ scene.places) {id : Nat}
    (h : Keeps groups tabs scene chosen group.node.id id) :
    ∃ tab ∈ scene.places, tab.accepted Browser.around tabs = true ∧ tab.node.id = id := by
  obtain ⟨node, hnode, rfl⟩ := List.mem_map.mp h.2.1
  obtain ⟨tab, htab, -, haccepted, rfl⟩ := (Scene.mem_selectIn hnodup hgroup).mp hnode
  exact ⟨tab, htab, haccepted, rfl⟩

/-- A group keeps the tab that it chose if it is the innermost around it. -/
theorem keeps_iff {scene : Scene} (hnodup : scene.numbers.Nodup) {groups tabs : Selector}
    {chosen : List (Nat × Nat)} {group tab : Place} (hgroup : group ∈ scene.places)
    (hgroupAccepted : group.accepted Browser.around groups = true) (htab : tab ∈ scene.places)
    (htabAccepted : tab.accepted Browser.around tabs = true) :
    Keeps groups tabs scene chosen group.node.id tab.node.id ↔
      (group.node.id, tab.node.id) ∈ chosen ∧ Innermost scene groups tab group := by
  -- a tab is found in a group exactly if it lies within it
  have hin : ∀ outer ∈ scene.places,
      tab.node.id ∈ (scene.selectIn outer.node.id tabs).map Scene.Node.id ↔
        tab.Within outer.node.id := by
    intro outer houter
    constructor
    · exact Scene.within_of_mem_selectIn hnodup htab
    · intro hwithin
      exact List.mem_map_of_mem
        ((Scene.mem_selectIn hnodup houter).mpr ⟨tab, htab, hwithin, htabAccepted, rfl⟩)
  constructor
  · rintro ⟨hchosen, hmem, hinner⟩
    refine ⟨hchosen, hgroup, hgroupAccepted, (hin group hgroup).mp hmem, ?_⟩
    intro other hother hotherAccepted hwithin hbelow
    have hnode : other.node ∈ scene.selectIn group.node.id groups :=
      (Scene.mem_selectIn hnodup hgroup).mpr ⟨other, hother, hbelow, hotherAccepted, rfl⟩
    exact hinner other.node hnode ((hin other hother).mpr hwithin)
  · rintro ⟨hchosen, hinnermost⟩
    refine ⟨hchosen, (hin group hgroup).mpr hinnermost.within, ?_⟩
    intro node hnode hmem
    obtain ⟨other, hother, hbelow, hotherAccepted, rfl⟩ :=
      (Scene.mem_selectIn hnodup hgroup).mp hnode
    exact hinnermost.least other hother hotherAccepted ((hin other hother).mp hmem) hbelow

/-- The groups at and within a group. -/
theorem mem_below {scene : Scene} (hnodup : scene.numbers.Nodup) {groups : Selector} {group : Place}
    (hgroup : group ∈ scene.places) (haccepted : group.accepted Browser.around groups = true)
    {id : Nat} :
    id ∈ group.node.id :: (scene.selectIn group.node.id groups).map Scene.Node.id ↔
      ∃ inner ∈ scene.places, inner.accepted Browser.around groups = true ∧ inner.node.id = id ∧
        (inner = group ∨ inner.Within group.node.id) := by
  rw [List.mem_cons, List.mem_map]
  constructor
  · rintro (rfl | ⟨node, hnode, rfl⟩)
    · exact ⟨group, hgroup, haccepted, rfl, .inl rfl⟩
    · obtain ⟨inner, hinner, hwithin, hinnerAccepted, rfl⟩ :=
        (Scene.mem_selectIn hnodup hgroup).mp hnode
      exact ⟨inner, hinner, hinnerAccepted, rfl, .inr hwithin⟩
  · rintro ⟨inner, hinner, hinnerAccepted, rfl, rfl | hwithin⟩
    · exact .inl rfl
    · exact .inr ⟨inner.node,
        (Scene.mem_selectIn hnodup hgroup).mpr ⟨inner, hinner, hwithin, hinnerAccepted, rfl⟩, rfl⟩

theorem mem_marked {scene : Scene} (hnodup : scene.numbers.Nodup) {tabs : Selector} {word : String}
    {group : Place} (hgroup : group ∈ scene.places) {node : Scene.Node} :
    node ∈ ((scene.selectIn group.node.id tabs).filter fun tab => tab.element.hasClass word) ↔
      ∃ tab ∈ scene.places, tab.Within group.node.id ∧ tab.accepted Browser.around tabs = true ∧
        tab.node.element.hasClass word = true ∧ tab.node = node := by
  rw [List.mem_filter, Scene.mem_selectIn hnodup hgroup]
  constructor
  · rintro ⟨⟨tab, htab, hwithin, haccepted, rfl⟩, hclass⟩
    exact ⟨tab, htab, hwithin, haccepted, hclass, rfl⟩
  · rintro ⟨tab, htab, hwithin, haccepted, hclass, rfl⟩
    exact ⟨⟨tab, htab, hwithin, haccepted, rfl⟩, hclass⟩

section

variable {scene : Scene} (hnodup : scene.numbers.Nodup) {groups tabs : Selector} {word : String}
  {chosen : List (Nat × Nat)}
  (hunique : ∀ id a b, (id, a) ∈ chosen → (id, b) ∈ chosen → a = b)
  (hdecides : ∀ tab ∈ scene.places, tab.accepted Browser.around tabs = true → ∀ inner,
    Innermost scene groups tab inner →
      (tab.node.element.hasClass word = true ↔ (inner.node.id, tab.node.id) ∈ chosen))
  {group : Place} (hgroup : group ∈ scene.places)
  (haccepted : group.accepted Browser.around groups = true)

include hnodup hunique hdecides hgroup haccepted

/-- If the innermost group decides on each tab, at most one tab of a group is marked exactly if only
one of the groups at or within it keeps a tab. -/
theorem oneMarkIn_iff_oneKeepsIn :
    OneMarkIn tabs word scene group.node.id ↔
      OneKeepsIn groups tabs scene chosen group.node.id := by
  have hattached := Scene.nodup_attached hnodup
  have hids : (((scene.selectIn group.node.id tabs).filter fun tab =>
      tab.element.hasClass word).map Scene.Node.id).Nodup :=
    (Scene.nodup_selectIn hnodup hgroup tabs).sublist (List.filter_sublist.map _)
  rw [OneMarkIn, length_le_one_iff hids]
  constructor
  · -- two groups that keep tabs have marked them, and one mark is one tab, which has one innermost
    -- group
    intro hone a ha b hb x y hkeepsA hkeepsB
    obtain ⟨inner, hinner, hinnerAccepted, rfl, hbelow⟩ := (mem_below hnodup hgroup haccepted).mp ha
    obtain ⟨other, hother, hotherAccepted, rfl, hbelow'⟩ :=
      (mem_below hnodup hgroup haccepted).mp hb
    obtain ⟨tab, htab, htabAccepted, rfl⟩ := hkeepsA.exists_tab hnodup hinner
    obtain ⟨tab', htab', htabAccepted', rfl⟩ := hkeepsB.exists_tab hnodup hother
    rw [keeps_iff hnodup hinner hinnerAccepted htab htabAccepted] at hkeepsA
    rw [keeps_iff hnodup hother hotherAccepted htab' htabAccepted'] at hkeepsB
    have hclass := (hdecides tab htab htabAccepted inner hkeepsA.2).mpr hkeepsA.1
    have hclass' := (hdecides tab' htab' htabAccepted' other hkeepsB.2).mpr hkeepsB.1
    have hwithin : tab.Within group.node.id := by
      rcases hbelow with rfl | hbelow
      · exact hkeepsA.2.within
      · exact Forest.within_trans hattached htab hinner hkeepsA.2.within hbelow
    have hwithin' : tab'.Within group.node.id := by
      rcases hbelow' with rfl | hbelow'
      · exact hkeepsB.2.within
      · exact Forest.within_trans hattached htab' hother hkeepsB.2.within hbelow'
    have hsame := hone tab.node
      ((mem_marked hnodup hgroup).mpr ⟨tab, htab, hwithin, htabAccepted, hclass, rfl⟩) tab'.node
      ((mem_marked hnodup hgroup).mpr ⟨tab', htab', hwithin', htabAccepted', hclass', rfl⟩)
    obtain rfl := Forest.place_unique hattached htab htab' hsame
    rw [hkeepsA.2.unique hnodup htab hkeepsB.2]
  · -- two marks come from the innermost groups around them, which are one group with one choice
    intro hkeeps x hx y hy
    obtain ⟨tab, htab, hwithin, htabAccepted, hclass, rfl⟩ := (mem_marked hnodup hgroup).mp hx
    obtain ⟨tab', htab', hwithin', htabAccepted', hclass', rfl⟩ := (mem_marked hnodup hgroup).mp hy
    obtain ⟨inner, hinner⟩ := exists_innermost hnodup hgroup haccepted hwithin
    obtain ⟨other, hother⟩ := exists_innermost hnodup hgroup haccepted hwithin'
    have hchosen := (hdecides tab htab htabAccepted inner hinner).mp hclass
    have hchosen' := (hdecides tab' htab' htabAccepted' other hother).mp hclass'
    have hbelow := hinner.eq_or_within hnodup htab hgroup haccepted hwithin
    have hbelow' := hother.eq_or_within hnodup htab' hgroup haccepted hwithin'
    have hsame := hkeeps inner.node.id
      ((mem_below hnodup hgroup haccepted).mpr ⟨inner, hinner.place, hinner.accepted, rfl, hbelow⟩)
      other.node.id
      ((mem_below hnodup hgroup haccepted).mpr ⟨other, hother.place, hother.accepted, rfl, hbelow'⟩)
      tab.node.id tab'.node.id
      ((keeps_iff hnodup hinner.place hinner.accepted htab htabAccepted).mpr ⟨hchosen, hinner⟩)
      ((keeps_iff hnodup hother.place hother.accepted htab' htabAccepted').mpr ⟨hchosen', hother⟩)
    rw [← hsame] at hchosen'
    exact hunique inner.node.id tab.node.id tab'.node.id hchosen hchosen'

end

/-! ### The pass -/

section

variable {page : Page} {last : Scene}
  (hword : Element.classFault? settings.activeClass = none)
  {groups tabs : Selector} (hgroups : Browser.selector? settings.tabGroupSelector = some groups)
  (hgroupsIgnore : groups.Ignores settings.activeClass)
  (htabs : Browser.selector? settings.tabSelector = some tabs)
  (htabsIgnore : tabs.Ignores settings.activeClass)
  (hlast : page.scene.Updated last
    (Move.marked settings.activeClass
      (passMoves visit settings page.scene (tabGroups settings page)))
    (Move.written? (passMoves visit settings page.scene (tabGroups settings page))))

include hword hgroups hgroupsIgnore htabs htabsIgnore hlast

/-- After the pass the innermost group around a tab has decided on it. -/
theorem hasClass_iff_chosen {tab inner : Place} (htab : tab ∈ last.places)
    (haccepted : tab.accepted Browser.around tabs = true)
    (hinner : Innermost last groups tab inner) :
    tab.node.element.hasClass settings.activeClass = true ↔
      (inner.node.id, tab.node.id) ∈
        choices visit settings page.scene (tabGroups settings page) := by
  have hnodup := Scene.nodup_numbers_scene page
  have hplace := hinner.place
  rw [hlast.places_eq] at htab hplace
  -- both were on the page at the start
  obtain ⟨start, hstart, rfl⟩ := List.mem_map.mp htab
  obtain ⟨outer, houter, rfl⟩ := List.mem_map.mp hplace
  obtain ⟨hmem, hkept⟩ := List.mem_filter.mp hstart
  obtain ⟨houterMem, -⟩ := List.mem_filter.mp houter
  have hgroupsAlike := Move.alike_marked hgroupsIgnore
    (passMoves visit settings page.scene (tabGroups settings page))
  rw [Forest.accepted_updated (Move.alike_marked htabsIgnore _)] at haccepted
  have houterAccepted := hinner.accepted
  rw [Forest.accepted_updated hgroupsAlike] at houterAccepted
  have hwithin := (Place.within_updated start _).mp hinner.within
  have hinnermost : ∀ other ∈ page.scene.places.filter (Place.accepted Browser.around groups),
      start.Within other.node.id → ¬other.Within outer.node.id := by
    intro other hother hwithinOther hbelow
    obtain ⟨hotherMem, hotherAccepted⟩ := List.mem_filter.mp hother
    have hotherKept := Forest.kept_of_within (Scene.nodup_attached hnodup) hmem hotherMem
      hwithinOther hkept
    refine hinner.least _ (hlast.mem_places hotherMem hotherKept) ?_ ?_ ?_
    · rw [Forest.accepted_updated hgroupsAlike]
      exact hotherAccepted
    · exact (Place.within_updated start _).mpr hwithinOther
    · exact (Place.within_updated other _).mpr hbelow
  have hlastGroup : ((tabGroups settings page).filter fun id => start.Within id).getLast? =
      some outer.node.id := by
    rw [tabGroups_eq_places hgroups]
    exact Forest.getLast?_innermost (Scene.nodup_attached hnodup) List.filter_sublist hmem
      (List.mem_filter.mpr ⟨houterMem, houterAccepted⟩) hwithin hinnermost
  have hstarted := Scene.updated_moves hnodup settings.activeClass []
  have hlastMark := lastMark?_passMoves hword htabs htabsIgnore hmem haccepted hstarted
    (nodup_tabGroups settings page) hkept
  rw [Scene.moves_nil, hlastGroup, Option.map_some] at hlastMark
  rw [Place.element_updated, Move.hasClass_marked (Element.classFault?_eq_none_iff.mp hword),
    hlastMark, Option.getD_some, decide_eq_true_iff]
  rfl

theorem oneMarkIn_iff {group : Scene.Node} (hgroup : group ∈ last.select groups) :
    OneMarkIn tabs settings.activeClass last group.id ↔
      OneKeepsIn groups tabs last (choices visit settings page.scene (tabGroups settings page))
        group.id := by
  obtain ⟨place, hplace, haccepted, rfl⟩ := Scene.mem_select.mp hgroup
  refine oneMarkIn_iff_oneKeepsIn hlast.nodup_later ?_ ?_ hplace haccepted
  · intro id a b
    exact choices_unique (nodup_tabGroups settings page)
  · intro tab htab htabAccepted inner hinner
    exact hasClass_iff_chosen hword hgroups hgroupsIgnore htabs htabsIgnore hlast htab htabAccepted
      hinner

end

theorem oneMark_rename {σ : Nat → Nat} (hσ : Function.Injective σ) (settings : Settings)
    (scene : Scene) : OneMark settings (scene.rename σ) ↔ OneMark settings scene := by
  have hin (tabs : Selector) (group : Nat) :
      OneMarkIn tabs settings.activeClass (scene.rename σ) (σ group) ↔
        OneMarkIn tabs settings.activeClass scene group := by
    rw [OneMarkIn, OneMarkIn, Scene.selectIn_rename hσ, List.filter_map, List.length_map]
    rfl
  simp only [OneMark, Scene.select_rename, List.forall_mem_map]
  exact forall₂_congr fun groups _ => forall₂_congr fun tabs _ => forall₂_congr fun group _ =>
    hin tabs group.id

/-- What was cut off does not count. -/
theorem oneMark_attached (settings : Settings) {scene : Scene} (h : scene.numbers.Nodup) :
    OneMark settings ⟨scene.attached, .nil⟩ ↔ OneMark settings scene := by
  have hattached : (Scene.mk scene.attached .nil).numbers.Nodup := by
    simpa [Scene.numbers] using Scene.nodup_attached h
  refine forall₂_congr fun groups _ => forall₂_congr fun tabs _ =>
    forall₂_congr fun group hgroup => ?_
  obtain ⟨place, hplace, -, rfl⟩ := Scene.mem_select.mp hgroup
  rw [OneMarkIn, OneMarkIn, Scene.selectIn_of_mem_places h hplace,
    Scene.selectIn_of_mem_places hattached hplace]

/-- In the page that the pass leaves, at most one tab of each group is marked exactly if of each
group and the groups within it only one keeps the tab that it chose. -/
theorem activateTabs_oneMark_iff (visit : Visit) (page : Page)
    (hword : Element.classFault? settings.activeClass = none)
    (hgroups : ∃ groups, Browser.selector? settings.tabGroupSelector = some groups ∧
      groups.Ignores settings.activeClass)
    (htabs : ∃ tabs, Browser.selector? settings.tabSelector = some tabs ∧
      tabs.Ignores settings.activeClass) :
    OneMark settings (activateTabs visit settings page).state.scene ↔
      OneKeeps visit settings page := by
  obtain ⟨groups, hgroups, hgroupsIgnore⟩ := hgroups
  obtain ⟨tabs, htabs, htabsIgnore⟩ := htabs
  have hlast := Scene.updated_moves (Scene.nodup_numbers_scene page) settings.activeClass
    (passMoves visit settings page.scene (tabGroups settings page))
  rw [← activateGroups_eq_moves] at hlast
  rw [activateTabs_state_groups, OneKeeps]
  generalize (activateGroups visit settings page.scene (tabGroups settings page)).1 = last
    at hlast ⊢
  obtain ⟨σ, hσ, hrename⟩ := Scene.exists_rename (Scene.nodup_attached hlast.nodup_later)
  rw [← oneMark_rename hσ, hrename, oneMark_attached settings hlast.nodup_later]
  simp only [OneMark, hgroups, htabs, Option.mem_some_iff, forall_eq']
  exact forall₂_congr fun group hgroup =>
    oneMarkIn_iff hword hgroups hgroupsIgnore htabs htabsIgnore hlast hgroup

end

/-- A group with a tab of its own and a group within, which has one too. -/
def nestedGroups : Page where
  content :=
    .element (.ofMarkup "div" [("class", "tabs")])
      (.element (.ofMarkup "a" [("class", "tab"), ("data-tab", "outer")]) (.ofText "Outer")
        (.element (.ofMarkup "div" [("class", "tabs")])
          (.element (.ofMarkup "a" [("class", "tab"), ("data-tab", "inner")]) (.ofText "Inner")
            .nil)
          .nil))
      .nil

/-- With a query for the inner tab both groups choose it; without, each chooses its first one. -/
theorem oneKeeps_nestedGroups :
    OneKeeps (visitWith "?tab=inner") {} nestedGroups ∧
      ¬OneKeeps (visitWith "") {} nestedGroups := by
  have hword : Element.classFault? ({} : Settings).activeClass = none := by decide +kernel
  have hclass := Element.classFault?_eq_none_iff.mp hword
  have hgroups := Selector.exists_ignores_of_readsApart hclass
    (by decide +kernel : Selector.readsApart "is-active" ".tabs" = true)
  have htabs := Selector.exists_ignores_of_readsApart hclass
    (by decide +kernel : Selector.readsApart "is-active" ".tab" = true)
  constructor
  · rw [← activateTabs_oneMark_iff (visitWith "?tab=inner") nestedGroups hword hgroups htabs]
    decide +kernel
  · rw [← activateTabs_oneMark_iff (visitWith "") nestedGroups hword hgroups htabs]
    decide +kernel

/-- The selectors can be read and do not mention the class, and yet two tabs of the outer group are
marked. -/
theorem activateTabs_nestedGroups_not_oneMark :
    Element.classFault? ({} : Settings).activeClass = none ∧
      Selector.readsApart ({} : Settings).activeClass ({} : Settings).tabGroupSelector = true ∧
      Selector.readsApart ({} : Settings).activeClass ({} : Settings).tabSelector = true ∧
      ¬OneMark {} (activateTabs (visitWith "") {} nestedGroups).state.scene := by
  refine ⟨?_, ?_, ?_, ?_⟩ <;> decide +kernel

end PageSync.Pass
