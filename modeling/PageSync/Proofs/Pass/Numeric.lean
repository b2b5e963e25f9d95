import PageSync.Proofs.Page.Likeness
import PageSync.Proofs.Page.Renaming
import PageSync.Proofs.Pass.Foresight

/-!
The numeric pass as an update: the fields that it finds without a tag are wired, each once, and
nothing else changes (`updated_wireNumeric`). Over the page of a scene it is the same update of the
scene (`wireNumeric_page`).
-/

namespace PageSync.Pass

def wireListed (ids : List Nat) (id : Nat) (element : Element) : Element :=
  if id ∈ ids then wired element else element

theorem wireListed_of_mem {ids : List Nat} {id : Nat} (h : id ∈ ids) (element : Element) :
    wireListed ids id element = wired element := if_pos h

theorem wireListed_of_not_mem {ids : List Nat} {id : Nat} (h : id ∉ ids) (element : Element) :
    wireListed ids id element = element := if_neg h

theorem attached_wireAll {ids : List Nat} (h : ids.Nodup) (scene : Scene) :
    (wireAll scene ids).attached = scene.attached.update (wireListed ids) fun _ => none := by
  -- no field is listed twice, so none is wired twice
  induction ids generalizing scene with
  | nil =>
      symm
      apply Forest.update_eq_self
      intro id _
      refine ⟨?_, rfl⟩
      funext element
      simp [wireListed]
  | cons field ids ih =>
      rw [List.nodup_cons] at h
      show (wireAll (scene.change field wired) ids).attached = _
      rw [ih h.2, Scene.change, Forest.change_eq_update, Forest.update_update]
      apply Forest.update_congr
      intro id _
      refine ⟨?_, rfl⟩
      funext element
      by_cases hid : id = field
      · subst hid
        simp [wireListed, h.1]
      · simp [wireListed, hid]

theorem wireAll_rename {σ : Nat → Nat} (hσ : Function.Injective σ) (scene : Scene)
    (ids : List Nat) : wireAll (scene.rename σ) (ids.map σ) = (wireAll scene ids).rename σ := by
  induction ids generalizing scene with
  | nil => rfl
  | cons id ids ih =>
      show wireAll ((scene.rename σ).change (σ id) wired) (ids.map σ) = _
      rw [Scene.change_rename hσ, ih]
      rfl

theorem isUnbound_wired (element : Element) : isUnbound (wired element) = false := by
  rw [isUnbound, Element.hasAttribute_wired_self, Bool.not_true, Bool.and_false]

theorem isUnbound_congr {a b : Element} (htag : a.tag = b.tag)
    (hattribute : a.attribute? boundAttribute = b.attribute? boundAttribute) :
    isUnbound a = isUnbound b := by
  simp only [isUnbound, Element.isInput, Element.hasTag, Element.hasAttribute, htag, hattribute]

variable [Browser]

/-- The fields that the pass finds without a tag. -/
def unboundFields (settings : Settings) (scene : Scene) : List Nat :=
  ((Browser.selector? settings.numericSelector).map fun selector =>
    ((scene.select selector).filter fun node => isUnbound node.element).map
      Scene.Node.id).getD []

theorem wireNumeric_state (settings : Settings) (page : Page) :
    (wireNumeric settings page).state =
      (wireAll page.scene (unboundFields settings page.scene)).page := by
  rw [wireNumeric, unboundFields]
  cases Browser.selector? settings.numericSelector with
  | none => exact page.page_scene.symm
  | some selector => rfl

/-! ### The fields that are found -/

theorem unboundFields_eq_places {settings : Settings} {selector : Selector}
    (h : Browser.selector? settings.numericSelector = some selector) (scene : Scene) :
    unboundFields settings scene =
      ((scene.places.filter (Place.accepted Browser.around selector)).filter fun place =>
        isUnbound place.node.element).map fun place => place.node.id := by
  rw [unboundFields, h, Option.map_some, Option.getD_some, Scene.select_eq_places,
    List.filter_map, List.map_map]
  rfl

theorem nodup_unboundFields (settings : Settings) {scene : Scene}
    (h : scene.attached.numbers.Nodup) : (unboundFields settings scene).Nodup := by
  cases hread : Browser.selector? settings.numericSelector with
  | none => simp [unboundFields, hread]
  | some selector =>
      have hids : (scene.places.map fun place => place.node.id).Nodup := by
        rwa [Scene.places, Forest.map_id_places]
      rw [unboundFields_eq_places hread]
      exact hids.sublist ((List.filter_sublist.trans List.filter_sublist).map _)

theorem exists_place_of_mem_unboundFields {settings : Settings} {scene : Scene} {id : Nat}
    (h : id ∈ unboundFields settings scene) :
    ∃ selector, Browser.selector? settings.numericSelector = some selector ∧
      ∃ place ∈ scene.places, place.accepted Browser.around selector = true ∧
        isUnbound place.node.element = true ∧ place.node.id = id := by
  cases hread : Browser.selector? settings.numericSelector with
  | none => simp [unboundFields, hread] at h
  | some selector =>
      rw [unboundFields_eq_places hread] at h
      obtain ⟨place, hplace, rfl⟩ := List.mem_map.mp h
      obtain ⟨haccepted, hunbound⟩ := List.mem_filter.mp hplace
      exact ⟨selector, rfl, place, (List.mem_filter.mp haccepted).1,
        (List.mem_filter.mp haccepted).2, hunbound, rfl⟩

theorem isUnbound_of_mem_unboundFields {settings : Settings} {scene : Scene}
    (hnodup : scene.attached.numbers.Nodup) {entry : Nat × Element}
    (hentry : entry ∈ scene.attached.toList) (h : entry.1 ∈ unboundFields settings scene) :
    isUnbound entry.2 = true := by
  obtain ⟨-, -, place, hplace, -, hunbound, hid⟩ := exists_place_of_mem_unboundFields h
  obtain ⟨other, hother, rfl⟩ := Forest.exists_place_of_mem_toList [] hentry
  rwa [← Forest.place_unique hnodup hplace hother hid]

/-- An update that keeps the fields to be wired, and that neither the selector nor the tags show,
leaves them as the fields to be wired. -/
theorem unboundFields_updated {scene later : Scene} {f : Nat → Element → Element}
    {text? : Nat → Option String} (h : scene.Updated later f text?) {settings : Settings}
    {selector : Selector} (hread : Browser.selector? settings.numericSelector = some selector)
    (hf : ∀ id item, selector.Alike (f id item) item)
    (htagged : ∀ id item,
      (f id item).attribute? boundAttribute = item.attribute? boundAttribute)
    (hkept : ∀ place ∈ scene.places, place.node.id ∈ unboundFields settings scene →
      place.kept text? = true) :
    unboundFields settings later = unboundFields settings scene := by
  rw [unboundFields_eq_places hread, unboundFields_eq_places hread,
    h.filter_places_of_kept hf, List.map_map]
  · rfl
  · intro place
    exact isUnbound_congr (hf place.node.id place.node.element).tag
      (htagged place.node.id place.node.element)
  · intro place hplace haccepted hfield
    apply hkept place hplace
    rw [unboundFields_eq_places hread]
    exact List.mem_map_of_mem
      (List.mem_filter.mpr ⟨List.mem_filter.mpr ⟨hplace, haccepted⟩, hfield⟩)

/-! ### The pass is an update -/

theorem updated_wireNumeric (settings : Settings) (page : Page) :
    page.scene.Updated (wireNumeric settings page).state.scene
      (wireListed (unboundFields settings page.scene)) fun _ => none := by
  rw [wireNumeric_state]
  exact Scene.updated_page (attached_wireAll
    (nodup_unboundFields settings (Scene.nodup_attached (Scene.nodup_numbers_scene page)))
    page.scene)

/-- What was wired is not wired again, whatever the settings are. -/
theorem not_mem_unboundFields_of_wired {settings : Settings} {page : Page} {id : Nat}
    (h : id ∈ unboundFields settings page.scene) (again : Settings) :
    id ∉ unboundFields again (wireNumeric settings page).state.scene := by
  intro hagain
  obtain ⟨-, -, later, hlater, -, hunbound, rfl⟩ := exists_place_of_mem_unboundFields hagain
  rw [(updated_wireNumeric settings page).places_eq] at hlater
  obtain ⟨place, -, rfl⟩ := List.mem_map.mp hlater
  rw [Place.id_updated] at h
  rw [Place.element_updated, wireListed_of_mem h, isUnbound_wired] at hunbound
  contradiction

theorem unboundFields_rename {σ : Nat → Nat} (settings : Settings) (scene : Scene) :
    unboundFields settings (scene.rename σ) = (unboundFields settings scene).map σ := by
  rw [unboundFields, unboundFields]
  cases Browser.selector? settings.numericSelector with
  | none => rfl
  | some selector =>
      simp only [Option.map_some, Option.getD_some, Scene.select_rename, List.filter_map,
        List.map_map]
      rfl

/-- The pass over the page of a scene is its update of the scene itself. -/
theorem wireNumeric_page (settings : Settings) {scene : Scene}
    (h : scene.attached.numbers.Nodup) :
    (wireNumeric settings scene.page).state =
      (wireAll scene (unboundFields settings scene)).page := by
  obtain ⟨σ, hσ, hrename⟩ := Scene.exists_rename h
  have hfields : unboundFields settings scene =
      (unboundFields settings scene.page.scene).map σ := by
    rw [← unboundFields_rename, hrename]
    rfl
  have hpage : (wireAll scene (unboundFields settings scene)).page =
      (wireAll ⟨scene.attached, .nil⟩ (unboundFields settings scene)).page := by
    have hnodup := nodup_unboundFields settings h
    rw [Scene.page, Scene.page, attached_wireAll hnodup, attached_wireAll hnodup]
  rw [wireNumeric_state, hpage, hfields, ← hrename, wireAll_rename hσ, Scene.page_rename]

end PageSync.Pass
