import PageSync.Pass
import PageSync.Proofs.Page.Renaming

/-!
The tab pass does not look at numbers either: over a scene with other numbers it does and reports
the same. So the pass over a page that is left by a scene can be followed in that scene
(`activateTabs_page`).
-/

namespace PageSync.Pass

def Outcome.mapState {α β γ : Type} (f : α → β) (outcome : Outcome α γ) : Outcome β γ :=
  ⟨f outcome.state, outcome.events, outcome.result⟩

variable {σ : Nat → Nat}

@[simp] theorem tabOf_rename (node : Scene.Node) : tabOf (node.rename σ) = tabOf node := by
  simp [tabOf, Scene.Node.rename]

theorem tabMarks_rename (tabs : List Scene.Node) (activation : TabGroup.Activation) :
    tabMarks (tabs.map (Scene.Node.rename σ)) activation =
      (tabMarks tabs activation).map fun (id, on) => (σ id, on) := by
  simp [tabMarks, List.zipIdx_map, Scene.Node.rename, Function.comp_def]

variable (hσ : Function.Injective σ)

include hσ

variable [Browser]

theorem indicatorSlot_rename (settings : Settings) (scene : Scene) (indicator : String) :
    indicatorSlot settings (scene.rename σ) indicator =
      (indicatorSlot settings scene indicator).map (Option.map σ) := by
  rw [indicatorSlot, indicatorSlot]
  cases Browser.selector? indicator with
  | none => rfl
  | some selector =>
      simp only [Scene.select_rename, List.head?_map]
      cases (scene.select selector).head? with
      | none => rfl
      | some node =>
          cases Browser.selector? settings.indicatorEmphasis with
          | none => rfl
          | some emphasis =>
              have hinner := Scene.selectIn_rename hσ scene node.id emphasis
              simp only [Option.map_some, Scene.Node.rename, hinner, List.head?_map]
              cases (scene.selectIn node.id emphasis).head? with
              | none => rfl
              | some inner => rfl

theorem fillIndicator_rename (settings : Settings) (scene : Scene) (indicator : Indicator) :
    fillIndicator settings (scene.rename σ) indicator =
      (fillIndicator settings scene indicator).map (Scene.rename σ) := by
  rw [fillIndicator, fillIndicator, indicatorSlot_rename hσ]
  cases indicatorSlot settings scene indicator.selector with
  | error error => rfl
  | ok slot =>
      cases slot with
      | none => rfl
      | some id => exact congrArg Except.ok (Scene.write_rename hσ scene id indicator.text)

theorem applyActivation_rename (settings : Settings) (scene : Scene) (param : String)
    (tabs : List Scene.Node) (activation : TabGroup.Activation) :
    applyActivation settings (scene.rename σ) param (tabs.map (Scene.Node.rename σ)) activation =
      (applyActivation settings scene param tabs activation).mapState (Scene.rename σ) := by
  rw [applyActivation, applyActivation, tabMarks_rename, Scene.markAll_rename hσ]
  cases scene.markAll settings.activeClass (tabMarks tabs activation) with
  | mk marked fault =>
      cases fault with
      | some fault => rfl
      | none =>
          simp only
          cases activation.indicator with
          | none => rfl
          | some indicator =>
              simp only [fillIndicator_rename hσ]
              cases fillIndicator settings marked indicator with
              | error error => rfl
              | ok last => rfl

theorem activateGroup_rename (visit : Visit) (settings : Settings) (scene : Scene) (id : Nat) :
    activateGroup visit settings (scene.rename σ) (σ id) =
      (activateGroup visit settings scene id).mapState (Scene.rename σ) := by
  have htabOf : tabOf ∘ Scene.Node.rename σ = tabOf := funext tabOf_rename
  rw [activateGroup, activateGroup, Scene.locate?_rename hσ]
  cases scene.locate? id with
  | none => rfl
  | some found =>
      cases Browser.selector? settings.tabSelector with
      | none => rfl
      | some selector =>
          simp only [Option.map_some, Scene.Node.rename, Scene.selectIn_rename hσ, List.map_map,
            htabOf]
          cases (TabGroup.ofMarkup settings.defaultTabParam found.2.element.attribute?).activation?
              visit.search ((scene.selectIn id selector).map tabOf) visit.base
              settings.indicatorPlaceholder with
          | none => rfl
          | some activation =>
              exact
                applyActivation_rename hσ settings scene _ (scene.selectIn id selector) activation

theorem activateGroups_rename (visit : Visit) (settings : Settings) (scene : Scene)
    (ids : List Nat) :
    activateGroups visit settings (scene.rename σ) (ids.map σ) =
      ((activateGroups visit settings scene ids).1.rename σ,
        (activateGroups visit settings scene ids).2) := by
  induction ids generalizing scene with
  | nil => rfl
  | cons id ids ih =>
      rw [List.map_cons, activateGroups, activateGroup_rename hσ, activateGroups]
      simp only [Outcome.mapState, ih]
      rfl

omit hσ in
/-- The pass over the page of a scene is the pass over its groups in the scene itself. -/
theorem activateTabs_page (visit : Visit) {settings : Settings} {selector : Selector}
    (hread : Browser.selector? settings.tabGroupSelector = some selector) {scene : Scene}
    (h : scene.attached.numbers.Nodup) :
    (activateTabs visit settings scene.page).state =
      (activateGroups visit settings ⟨scene.attached, .nil⟩
        ((scene.select selector).map Scene.Node.id)).1.page := by
  obtain ⟨σ, hσ, hrename⟩ := Scene.exists_rename h
  have hgroups : (scene.select selector).map Scene.Node.id =
      ((scene.page.scene.select selector).map Scene.Node.id).map σ := by
    have hselect := Scene.select_rename (σ := σ) scene.page.scene selector
    rw [hrename] at hselect
    have hids := congrArg (List.map Scene.Node.id) hselect
    rw [List.map_map] at hids
    rw [List.map_map]
    exact hids
  rw [activateTabs, hread, hgroups, ← hrename, activateGroups_rename hσ]
  exact (Scene.page_rename _).symm

end PageSync.Pass
