import PageSync.Proofs.Pass.Unseen

/-!
What the tab pass spares. Where no element that an indicator of a group selects contains a given
element, the element stays on the page during the whole pass (`kept_passMoves`), and if it is no tab
of a group it gets no mark (`not_mem_marks_passMoves`). Both are shown for one group, in whatever
scene the groups before it have left, and then for a row of groups.
-/

namespace PageSync.Pass

open Selector (ReadsBlind)

variable [Browser]

/-- No element that the text selects contains the one with the number. -/
def Spares (page : Page) (id : Nat) (text : String) : Prop :=
  ∀ selector ∈ Browser.selector? text, ∀ target ∈ page.scene.select selector,
    ¬page.scene.Contains target.id id

/-- A scene on the way, after a list of moves in the scene of the page. -/
structure Underway (word : String) (safe : Nat → String → Prop) (page : Page) (list : List Move)
    (later : Scene) : Prop where
  updated : page.scene.Updated later (Move.marked word list) (Move.written? list)
  related : later.Related (Twin word safe) later

variable (visit : Visit) {settings : Settings} {page : Page} {safe : Nat → String → Prop}

theorem Underway.moves {word : String} (hword : Element.classFault? word = none) {list : List Move}
    {later : Scene} (h : Underway word safe page list later) (more : List Move) :
    Underway word safe page (list ++ more) (later.moves word more) :=
  ⟨h.updated.moves more, moves_related hword h.related more⟩

/-- A word that is no class keeps every group from moving. -/
theorem passMoves_of_fault {fault : Element.ClassFault}
    (h : Element.classFault? settings.activeClass = some fault) (scene : Scene) (ids : List Nat) :
    passMoves visit settings scene ids = [] := by
  induction ids generalizing scene with
  | nil => rfl
  | cons id ids ih =>
      have hnone : groupMoves visit settings scene id = [] := by rw [groupMoves, h]
      rw [passMoves, hnone]
      exact ih scene

theorem alike_passMoves (scene : Scene) (ids : List Nat) (id : Nat) (element : Element) :
    Element.AlikeBut settings.activeClass
      (Move.marked settings.activeClass (passMoves visit settings scene ids) id element)
      element := by
  cases hword : Element.classFault? settings.activeClass with
  | none => exact Move.alikeBut_marked (Element.classFault?_eq_none_iff.mp hword) _ id element
  | some fault =>
      rw [passMoves_of_fault visit hword]
      exact .refl settings.activeClass element

section

variable (hword : Element.classFault? settings.activeClass = none) {list : List Move}
  {later : Scene} (h : Underway settings.activeClass safe page list later) {place : Place}
  (hplace : place ∈ page.scene.places) (hkept : place.kept (Move.written? list) = true)

include hword h hplace hkept

/-! ### Places -/

theorem kept_groupMoves {group : Nat}
    (hsafe : ∀ text, safe group text →
      ReadsBlind settings.activeClass text ∧ Spares page place.node.id text) :
    place.kept (Move.written? (list ++ groupMoves visit settings later group)) = true := by
  rw [Place.kept_iff]
  intro id hwithin
  rw [Move.written?_append, Place.kept_iff.mp hkept id hwithin, Option.or_none]
  by_contra hne
  obtain ⟨new, hnew⟩ := Option.ne_none_iff_exists'.mp hne
  obtain ⟨-, turn, hturn, hslot⟩ := written?_groupMoves_iff.mp hnew
  obtain ⟨indicator, hindicator, hfound⟩ := Option.bind_eq_some_iff.mp hslot
  obtain ⟨slot, hjoin, hpair⟩ := Option.map_eq_some_iff.mp hfound
  obtain rfl : slot = id := congrArg Prod.fst hpair
  obtain ⟨hblind, hspares⟩ := hsafe _ (safe_indicator h.related hturn hindicator)
  -- the indicator is looked for when the tabs of the group have their marks
  have hmarked := h.moves hword turn.markMoves
  have hnone : Move.written? (list ++ turn.markMoves) = Move.written? list := by
    funext other
    rw [Move.written?_append, Turn.markMoves, Move.written?_marks, Option.none_or]
  have hkept' : place.kept (Move.written? (list ++ turn.markMoves)) = true := hnone ▸ hkept
  have hlater := hmarked.updated.mem_places hplace hkept'
  obtain ⟨selector, hread, target, htarget, haccepted, hinTarget⟩ :=
    exists_target_around hmarked.updated.nodup_later hjoin hlater
      ((Place.within_updated place slot).mpr hwithin)
  rw [hmarked.updated.places_eq] at htarget
  obtain ⟨first, hfirst, rfl⟩ := List.mem_map.mp htarget
  have halike (id : Nat) (item : Element) :
      selector.Alike (Move.marked settings.activeClass (list ++ turn.markMoves) id item) item :=
    hblind selector hread _ _
      (Move.alikeBut_marked (Element.classFault?_eq_none_iff.mp hword) _ id item)
  rw [Forest.accepted_updated halike] at haccepted
  exact hspares selector hread first.node
    (Scene.mem_select.mpr ⟨first, (List.mem_filter.mp hfirst).1, haccepted, rfl⟩)
    (Scene.contains_of_within h.updated.nodup hplace
      ((Place.within_updated place first.node.id).mp hinTarget))

theorem kept_passMoves {ids : List Nat}
    (hsafe : ∀ id ∈ ids, ∀ text, safe id text →
      ReadsBlind settings.activeClass text ∧ Spares page place.node.id text) :
    place.kept (Move.written? (list ++ passMoves visit settings later ids)) = true := by
  induction ids generalizing list later with
  | nil => rwa [passMoves, List.append_nil]
  | cons id ids ih =>
      rw [List.forall_mem_cons] at hsafe
      rw [passMoves, ← List.append_assoc]
      exact ih (h.moves hword _) (kept_groupMoves visit hword h hplace hkept hsafe.1) hsafe.2

/-! ### Marks -/

theorem not_mem_marks_groupMoves (htab : ReadsBlind settings.activeClass settings.tabSelector)
    {group : Nat} (hnot : place.node.id ∉ tabsOf settings page group) :
    place.node.id ∉ (Move.marks (groupMoves visit settings later group)).map Prod.fst := by
  intro hmem
  obtain ⟨-, turn, hturn, hid⟩ := exists_turn_of_mem_marks hmem
  obtain ⟨_, _, selector, -, hread, htabs, -, -⟩ := turn?_eq_some hturn
  have halike (id : Nat) (item : Element) :
      selector.Alike (Move.marked settings.activeClass list id item) item :=
    htab selector hread _ _
      (Move.alikeBut_marked (Element.classFault?_eq_none_iff.mp hword) _ id item)
  rw [htabs] at hid
  apply hnot
  rw [tabsOf, hread, Option.map_some, Option.getD_some]
  exact h.updated.mem_selectIn_before halike hplace hkept hid

theorem not_mem_marks_passMoves (htab : ReadsBlind settings.activeClass settings.tabSelector)
    {ids : List Nat}
    (hsafe : ∀ id ∈ ids, ∀ text, safe id text →
      ReadsBlind settings.activeClass text ∧ Spares page place.node.id text)
    (hnot : ∀ group ∈ ids, place.node.id ∉ tabsOf settings page group) :
    place.node.id ∉ (Move.marks (passMoves visit settings later ids)).map Prod.fst := by
  induction ids generalizing list later with
  | nil => exact List.not_mem_nil
  | cons id ids ih =>
      rw [List.forall_mem_cons] at hsafe hnot
      have hgroup := not_mem_marks_groupMoves visit hword h hplace hkept htab hnot.1
      have hrest := ih (h.moves hword _)
        (kept_groupMoves visit hword h hplace hkept hsafe.1) hsafe.2 hnot.2
      rw [passMoves, Move.marks, List.filterMap_append, List.map_append, List.mem_append, not_or]
      exact ⟨hgroup, hrest⟩

end

end PageSync.Pass
