import PageSync.Proofs.Page.Related
import PageSync.Proofs.Pass.Planned

/-!
What the tab pass does not see. In two scenes that differ only in the class that it sets and in the
wiring of fields, and where none of its selectors looks at these, the pass makes the same moves
(`passMoves_related`).
-/

namespace PageSync.Pass

open Selector (ReadsBlind)

/-- An element of two scenes, where it may differ in the class and in the wiring. The indicator
written on it, if any, is one that is safe there. -/
structure Twin (word : String) (safe : Nat → String → Prop) (a b : Nat × Element) : Prop where
  id : a.1 = b.1
  alike : Element.AlikeBut word a.2 b.2
  indicator : ∀ text ∈ a.2.attribute? "data-indicator", safe a.1 text

variable {word : String} {safe : Nat → String → Prop}

theorem Twin.markClass (hword : Element.IsClassWord word) (on : Bool) (a b : Nat × Element)
    (h : Twin word safe a b) :
    Twin word safe (a.1, a.2.markClass word on) (b.1, b.2.markClass word on) where
  id := h.id
  alike := (Element.alikeBut_markClass hword a.2 on).trans
    (h.alike.trans (Element.alikeBut_markClass hword b.2 on).symm)
  indicator := by
    have hname : "data-indicator" ≠ "class" := by decide
    show ∀ text ∈ (a.2.markClass word on).attribute? "data-indicator", safe a.1 text
    rw [Element.attribute?_markClass hname]
    exact h.indicator

theorem tabOf_related {a b : Scene.Node} (h : a.Related (Twin word safe) b) :
    tabOf a = tabOf b := by
  have hvalue := h.entry.alike.attributes "data-tab" (by decide) (by decide)
  have hhref := h.entry.alike.attributes "href" (by decide) (by decide)
  rw [tabOf, tabOf, hvalue, hhref, h.content.textContent_eq]

/-- What a turn comes to: the numbers of the tabs, and which of them is active. -/
def Turn.plan (turn : Turn) : List Nat × TabGroup.Activation :=
  (turn.tabs.map Scene.Node.id, turn.activation)

theorem Turn.markMoves_eq_plan (turn : Turn) :
    turn.markMoves =
      turn.plan.1.zipIdx.map fun (id, i) => .mark id (turn.plan.2.marks i) := by
  rw [markMoves, marks, tabMarks, plan, List.zipIdx_map, List.map_map, List.map_map]
  rfl

variable [Browser]

/-- Scenes whose elements a selector cannot tell apart have the same slot for it. -/
theorem indicatorSlot_of_related {r : Nat × Element → Nat × Element → Prop}
    {alike : Element → Element → Prop} (hid : ∀ a b, r a b → a.1 = b.1)
    (halike : ∀ a b, r a b → alike a.2 b.2) (hrefl : ∀ element, alike element element)
    {scene other : Scene} (h : scene.Related r other) {settings : Settings} {indicator : String}
    (hindicator : ∀ selector ∈ Browser.selector? indicator, selector.Blind alike)
    (hemphasis : ∀ emphasis ∈ Browser.selector? settings.indicatorEmphasis, emphasis.Blind alike) :
    indicatorSlot settings scene indicator = indicatorSlot settings other indicator := by
  rw [indicatorSlot, indicatorSlot]
  cases hread : Browser.selector? indicator with
  | none => rfl
  | some selector =>
      have hnodes := h.select halike hrefl (hindicator selector hread)
      simp only
      -- only the first elements selected matter, and they have the same number
      generalize scene.select selector = nodes at hnodes ⊢
      generalize other.select selector = others at hnodes ⊢
      cases hnodes with
      | nil => rfl
      | @cons target target' _ _ htarget _ =>
          have htargetId : target.id = target'.id := hid _ _ htarget.entry
          cases hinner : Browser.selector? settings.indicatorEmphasis with
          | none => rfl
          | some emphasis =>
              have hids := Scene.map_id_related hid
                (h.selectIn hid halike hrefl (hemphasis emphasis hinner) target.id)
              have hfirst := congrArg List.head? hids
              rw [List.head?_map, List.head?_map] at hfirst
              simp only [List.head?_cons, ← htargetId]
              cases hslot : (scene.selectIn target.id emphasis).head? with
              | none =>
                  rw [hslot, Option.map_none, eq_comm, Option.map_eq_none_iff] at hfirst
                  rw [hfirst, Option.getD_none, Option.getD_none, htargetId]
              | some slot =>
                  rw [hslot, Option.map_some, eq_comm, Option.map_eq_some_iff] at hfirst
                  obtain ⟨slot', hslot', heq⟩ := hfirst
                  rw [hslot', Option.getD_some, Option.getD_some, heq]

section

variable {scene other : Scene} (h : scene.Related (Twin word safe) other)

include h

theorem select_related {selector : Selector} (hselector : selector.Overlooks word) :
    List.Forall₂ (Scene.Node.Related (Twin word safe)) (scene.select selector)
      (other.select selector) :=
  h.select (fun _ _ => Twin.alike) (.refl word) hselector

theorem map_id_select_related {selector : Selector} (hselector : selector.Overlooks word) :
    (scene.select selector).map Scene.Node.id = (other.select selector).map Scene.Node.id :=
  Scene.map_id_related (fun _ _ => Twin.id) (select_related h hselector)

theorem locate?_related (id : Nat) :
    Option.Rel (Scene.FoundRelated (Twin word safe) (Element.AlikeBut word)) (scene.locate? id)
      (other.locate? id) :=
  h.locate? (fun _ _ => Twin.id) (fun _ _ => Twin.alike) (.refl word) id

theorem selectIn_related {selector : Selector} (hselector : selector.Overlooks word) (id : Nat) :
    List.Forall₂ (Scene.Node.Related (Twin word safe)) (scene.selectIn id selector)
      (other.selectIn id selector) :=
  h.selectIn (fun _ _ => Twin.id) (fun _ _ => Twin.alike) (.refl word) hselector id

theorem map_id_selectIn_related {selector : Selector} (hselector : selector.Overlooks word)
    (id : Nat) :
    (scene.selectIn id selector).map Scene.Node.id =
      (other.selectIn id selector).map Scene.Node.id :=
  Scene.map_id_related (fun _ _ => Twin.id) (selectIn_related h hselector id)

/-- Both scenes have the same slot for an indicator. -/
theorem indicatorSlot_related {settings : Settings} {indicator : String}
    (hindicator : ReadsBlind word indicator)
    (hemphasis : ReadsBlind word settings.indicatorEmphasis) :
    indicatorSlot settings scene indicator = indicatorSlot settings other indicator :=
  indicatorSlot_of_related (fun _ _ => Twin.id) (fun _ _ => Twin.alike) (.refl word) h
    hindicator hemphasis

/-- A group comes to the same in both scenes. -/
theorem plan_related {settings : Settings} (htab : ReadsBlind word settings.tabSelector)
    (visit : Visit) (id : Nat) :
    (turn? visit settings scene id).map Turn.plan =
      (turn? visit settings other id).map Turn.plan := by
  have hlocate := locate?_related h id
  rw [turn?, turn?]
  -- both scenes have the group, or neither has
  generalize scene.locate? id = found at hlocate ⊢
  generalize other.locate? id = found' at hlocate ⊢
  cases hlocate with
  | none => rfl
  | @some found found' hfound =>
      have hmarkup : TabGroup.ofMarkup settings.defaultTabParam found.2.element.attribute? =
          TabGroup.ofMarkup settings.defaultTabParam found'.2.element.attribute? := by
        have hnames : ∀ name ∈ groupAttributes, name ≠ "class" ∧ name ≠ boundAttribute := by
          decide
        exact ofMarkup_congr fun name hname =>
          hfound.node.entry.alike.attributes name (hnames name hname).1 (hnames name hname).2
      cases hread : Browser.selector? settings.tabSelector with
      | none => rfl
      | some selector =>
          have hids := map_id_selectIn_related h (htab selector hread) id
          have hnodes := selectIn_related h (htab selector hread) id
          have htabs : (scene.selectIn id selector).map tabOf =
              (other.selectIn id selector).map tabOf := by
            rw [← List.forall₂_eq_eq_eq, List.forall₂_map_left_iff, List.forall₂_map_right_iff]
            exact hnodes.imp fun _ _ => tabOf_related
          simp only [Option.bind_some, hmarkup, htabs, Option.map_map]
          refine congrArg (Option.map · _) (funext fun activation => ?_)
          exact Prod.ext hids rfl

end

/-! ### The moves -/

theorem moves_related {scene other : Scene} (hword : Element.classFault? word = none)
    (h : scene.Related (Twin word safe) other) (list : List Move) :
    (scene.moves word list).Related (Twin word safe) (other.moves word list) :=
  h.moves (fun _ _ => Twin.id) (fun _ _ => Twin.alike) (.refl word)
    (Twin.markClass (Element.classFault?_eq_none_iff.mp hword)) list

/-- What a group writes on itself stays safe. -/
theorem safe_indicator {visit : Visit} {settings : Settings} {scene other : Scene}
    (h : scene.Related (Twin word safe) other) {id : Nat} {turn : Turn}
    (hturn : turn? visit settings scene id = some turn) {indicator : Indicator}
    (hindicator : turn.activation.indicator = some indicator) :
    safe id indicator.selector := by
  obtain ⟨ancestors, node, hlocate, hattribute⟩ := attribute?_indicator hturn hindicator
  have hfound := locate?_related h id
  rw [hlocate] at hfound
  cases hother : other.locate? id with
  | none =>
      rw [hother] at hfound
      cases hfound
  | some found =>
      rw [hother] at hfound
      have hnode := (Option.rel_some_some.mp hfound).node.entry
      have hnodeId : node.id = id := Scene.id_of_locate? hlocate
      exact hnodeId ▸ hnode.indicator _ hattribute

section

variable {settings : Settings} (htab : ReadsBlind settings.activeClass settings.tabSelector)
  (hemphasis : ReadsBlind settings.activeClass settings.indicatorEmphasis)

include htab hemphasis

theorem groupMoves_related {scene other : Scene}
    (h : scene.Related (Twin settings.activeClass safe) other) (visit : Visit) {id : Nat}
    (hsafe : ∀ text, safe id text → ReadsBlind settings.activeClass text) :
    groupMoves visit settings scene id = groupMoves visit settings other id := by
  rw [groupMoves, groupMoves]
  cases hword : Element.classFault? settings.activeClass with
  | some fault => rfl
  | none =>
      have hplan := plan_related h htab visit id
      cases hturn : turn? visit settings scene id with
      | none =>
          rw [hturn, Option.map_none, eq_comm, Option.map_eq_none_iff] at hplan
          rw [hplan]
          rfl
      | some turn =>
          rw [hturn, Option.map_some, eq_comm, Option.map_eq_some_iff] at hplan
          obtain ⟨turn', hturn', hsame⟩ := hplan
          have hmarks : turn'.markMoves = turn.markMoves := by
            rw [Turn.markMoves_eq_plan, Turn.markMoves_eq_plan, hsame]
          have hactivation : turn'.activation = turn.activation := congrArg Prod.snd hsame
          -- the indicator is looked for in the scenes with the marks, which are still alike
          have hlater := moves_related hword h turn.markMoves
          have hslot : turn.slot? settings (scene.moves settings.activeClass turn.markMoves) =
              turn'.slot? settings (other.moves settings.activeClass turn.markMoves) := by
            rw [Turn.slot?, Turn.slot?, hactivation]
            cases hindicator : turn.activation.indicator with
            | none => rfl
            | some indicator =>
                have hblind := hsafe _ (safe_indicator h hturn hindicator)
                rw [Option.bind_some, Option.bind_some,
                  indicatorSlot_related hlater hblind hemphasis]
          rw [hturn', Option.map_some, Option.map_some, Option.getD_some, Option.getD_some,
            Turn.moves, Turn.moves, hmarks, hslot]

/-- In scenes that the pass cannot tell apart it makes the same moves. -/
theorem passMoves_related {scene other : Scene}
    (h : scene.Related (Twin settings.activeClass safe) other) (visit : Visit) {ids : List Nat}
    (hsafe : ∀ id ∈ ids, ∀ text, safe id text → ReadsBlind settings.activeClass text) :
    passMoves visit settings scene ids = passMoves visit settings other ids := by
  induction ids generalizing scene other with
  | nil => rfl
  | cons id ids ih =>
      rw [List.forall_mem_cons] at hsafe
      have hgroup := groupMoves_related htab hemphasis h visit hsafe.1
      rw [passMoves, passMoves, hgroup]
      cases hword : Element.classFault? settings.activeClass with
      | some fault =>
          -- no group makes a move
          have hnone : groupMoves visit settings other id = [] := by rw [groupMoves, hword]
          rw [hnone]
          exact ih h hsafe.2
      | none => exact congrArg (_ ++ ·) (ih (moves_related hword h _) hsafe.2)

end

end PageSync.Pass
