import PageSync.Proofs.Page.Classes
import PageSync.Proofs.Page.Places

/-!
Updates of a forest: every element is changed by a function of its number, and some elements get a
text for their content, all in one pass. Marks and writes that a scene goes through one after the
other come to one update, in which an element gets all its marks and the last text written to it
(`attached_moves`).
-/

namespace PageSync

namespace Forest

def update (f : Nat → Element → Element) (text? : Nat → Option String) :
    Forest (Nat × Element) → Forest (Nat × Element)
  | .nil => .nil
  | .text content rest => .text content (rest.update f text?)
  | .element (id, item) children rest =>
    .element (id, f id item)
      (match text? id with
        | some new => .ofText new
        | none => children.update f text?)
      (rest.update f text?)

variable {f g : Nat → Element → Element} {text? more? : Nat → Option String}

@[simp] theorem update_ofText (content : String) :
    (Forest.ofText content).update f text? = .ofText content := by
  unfold ofText
  split
  · rfl
  · rfl

@[simp] theorem unnumber_ofText {α : Type} (content : String) :
    (Forest.ofText content : Forest (Nat × α)).unnumber = .ofText content := by
  unfold ofText
  split
  · rfl
  · rfl

/-- An update is determined by what it does to the numbers of the forest. -/
theorem update_congr {forest : Forest (Nat × Element)}
    (h : ∀ id ∈ forest.numbers, f id = g id ∧ text? id = more? id) :
    forest.update f text? = forest.update g more? := by
  induction forest with
  | nil => rfl
  | text content rest ih => rw [update, update, ih h]
  | element item children rest ihc ihr =>
      obtain ⟨id, item⟩ := item
      have hid := h id (by simp)
      have hchildren := ihc fun other hother => h other (by simp [hother])
      have hrest := ihr fun other hother => h other (by simp [hother])
      rw [update, update, hid.1, hid.2, hchildren, hrest]

theorem update_eq_self {forest : Forest (Nat × Element)}
    (h : ∀ id ∈ forest.numbers, f id = (fun item => item) ∧ text? id = none) :
    forest.update f text? = forest := by
  induction forest with
  | nil => rfl
  | text content rest ih => rw [update, ih h]
  | element item children rest ihc ihr =>
      obtain ⟨id, item⟩ := item
      have hid := h id (by simp)
      have hchildren := ihc fun other hother => h other (by simp [hother])
      have hrest := ihr fun other hother => h other (by simp [hother])
      rw [update, hid.1, hid.2, hchildren, hrest]

@[simp] theorem update_id (forest : Forest (Nat × Element)) :
    forest.update (fun _ item => item) (fun _ => none) = forest :=
  update_eq_self fun _ _ => ⟨rfl, rfl⟩

/-- Two updates in a row are one. -/
theorem update_update (forest : Forest (Nat × Element)) :
    (forest.update f text?).update g more? =
      forest.update (fun id item => g id (f id item)) (fun id => (more? id).or (text? id)) := by
  induction forest with
  | nil => rfl
  | text content rest ih => rw [update, update, ih, update]
  | element item children rest ihc ihr =>
      obtain ⟨id, item⟩ := item
      rw [update, update, update, ihr]
      cases hmore : more? id with
      | some new => rfl
      | none =>
          cases htext : text? id with
          | some new => simp
          | none => simp [ihc]

theorem change_eq_update (id : Nat) (f : Element → Element) (forest : Forest (Nat × Element)) :
    forest.change id f =
      forest.update (fun other item => if other = id then f item else item) fun _ => none := by
  induction forest with
  | nil => rfl
  | text content rest ih =>
      rw [change] at ih
      rw [change, map, ih, update]
  | element item children rest ihc ihr =>
      rw [change] at ihc ihr
      rw [change, map, ihc, ihr]
      rfl

theorem changeContent_eq_update (id : Nat) (new : String) (forest : Forest (Nat × Element)) :
    forest.changeContent id (fun _ => .ofText new) =
      forest.update (fun _ item => item) fun other => if other = id then some new else none := by
  induction forest with
  | nil => rfl
  | text content rest ih => rw [changeContent, ih, update]
  | element item children rest ihc ihr =>
      obtain ⟨other, item⟩ := item
      rw [changeContent, ihr, update]
      by_cases h : other = id
      · simp [h]
      · simp [h, ihc]

end Forest

/-! ### Places after an update -/

def Scene.Node.updated (f : Nat → Element → Element) (text? : Nat → Option String)
    (node : Scene.Node) : Scene.Node where
  id := node.id
  element := f node.id node.element
  content :=
    match text? node.id with
    | some new => .ofText new
    | none => node.content.update f text?

@[simp] theorem Scene.Node.id_updated (f : Nat → Element → Element) (text? : Nat → Option String)
    (node : Scene.Node) : (node.updated f text?).id = node.id := rfl

namespace Place

def changed (f : Nat → Element → Element) (around : List (Nat × Element)) :
    List (Nat × Element) :=
  around.map fun entry => (entry.1, f entry.1 entry.2)

def updated (f : Nat → Element → Element) (text? : Nat → Option String) (place : Place) :
    Place where
  around := changed f place.around
  node := place.node.updated f text?

/-- No content that the place lies in is replaced. -/
def kept (text? : Nat → Option String) (place : Place) : Bool :=
  place.around.all fun entry => (text? entry.1).isNone

variable {f : Nat → Element → Element} {text? : Nat → Option String}

theorem kept_iff {place : Place} :
    place.kept text? = true ↔ ∀ id, place.Within id → text? id = none := by
  simp only [kept, List.all_eq_true, Option.isNone_iff_eq_none]
  constructor
  · intro h id hid
    obtain ⟨entry, hentry, rfl⟩ := List.mem_map.mp hid
    exact h entry hentry
  · intro h entry hentry
    exact h entry.1 (List.mem_map_of_mem hentry)

/-- Where no content is replaced every place is kept. -/
theorem kept_none (place : Place) : place.kept (fun _ => none) = true :=
  kept_iff.mpr fun _ _ => rfl

@[simp] theorem id_updated (place : Place) :
    (place.updated f text?).node.id = place.node.id := rfl

@[simp] theorem element_updated (place : Place) :
    (place.updated f text?).node.element = f place.node.id place.node.element := rfl

@[simp] theorem within_updated (place : Place) (id : Nat) :
    (place.updated f text?).Within id ↔ place.Within id := by
  simp [Within, updated, changed]

theorem inside_updated (place : Place) :
    (place.updated f text?).inside = changed f place.inside := rfl

theorem content_updated {place : Place} (h : text? place.node.id = none) :
    (place.updated f text?).node.content = place.node.content.update f text? := by
  simp only [updated, Scene.Node.updated, h]

end Place

namespace Forest

variable {f : Nat → Element → Element} {text? : Nat → Option String}

/-- What is around a place that stays, stays. -/
theorem kept_of_within {forest : Forest (Nat × Element)} (hnodup : forest.numbers.Nodup)
    {place outer : Place} (hplace : place ∈ forest.places []) (houter : outer ∈ forest.places [])
    (hwithin : place.Within outer.node.id) (h : place.kept text? = true) :
    outer.kept text? = true := by
  rw [Place.kept_iff] at h ⊢
  intro id hid
  exact h id (within_trans hnodup hplace houter hwithin hid)

@[simp] theorem places_ofText (content : String) (around : List (Nat × Element)) :
    (Forest.ofText content).places around = [] := by
  unfold ofText
  split
  · rfl
  · rfl

/-- With a content that is replaced go all the places within. -/
theorem filter_kept_eq_nil {id : Nat} {new : String} (h : text? id = some new) (item : Element)
    (around : List (Nat × Element)) (forest : Forest (Nat × Element)) :
    (forest.places ((id, item) :: around)).filter (Place.kept text?) = [] := by
  rw [List.filter_eq_nil_iff]
  intro place hplace hkept
  obtain ⟨before, hbefore⟩ := suffix_around hplace
  have hwithin : place.Within id := by
    rw [Place.Within, ← hbefore, List.map_append]
    exact List.mem_append_right _ List.mem_cons_self
  rw [Place.kept_iff.mp hkept id hwithin] at h
  contradiction

/-- After an update there are those places whose surroundings were not replaced. -/
theorem places_update {around : List (Nat × Element)}
    (haround : ∀ entry ∈ around, text? entry.1 = none) (forest : Forest (Nat × Element)) :
    (forest.update f text?).places (Place.changed f around) =
      ((forest.places around).filter (Place.kept text?)).map (Place.updated f text?) := by
  induction forest generalizing around with
  | nil => rfl
  | text content rest ih => exact ih haround
  | element item children rest ihc ihr =>
      obtain ⟨id, item⟩ := item
      have hkept : Place.kept text? ⟨around, ⟨id, item, children⟩⟩ = true := by
        simpa [Place.kept] using fun other item h => haround (other, item) h
      rw [update, places, places, List.filter_cons_of_pos hkept, List.map_cons, List.filter_append,
        List.map_append, ihr haround]
      cases htext : text? id with
      | none =>
          have hinside : ∀ entry ∈ (id, item) :: around, text? entry.1 = none := by
            simpa [htext] using haround
          have hchildren := ihc hinside
          simp only [htext, Place.updated, Scene.Node.updated]
          rw [← hchildren]
          rfl
      | some new =>
          -- all within is gone, and the new text holds no elements
          have hgone := filter_kept_eq_nil htext item around children
          simp only [htext, hgone, Place.updated, Scene.Node.updated, places_ofText, List.map_nil,
            List.nil_append]

/-- The same at the top of a forest. -/
theorem places_update_nil (forest : Forest (Nat × Element)) :
    (forest.update f text?).places [] =
      ((forest.places []).filter (Place.kept text?)).map (Place.updated f text?) := by
  have hnone : ∀ entry ∈ ([] : List (Nat × Element)), text? entry.1 = none := by simp
  exact places_update hnone forest

/-- The places within an element that stays are those of its content that stay. -/
theorem places_content_updated {place : Place} (h : place.kept text? = true) :
    (place.updated f text?).node.content.places (place.updated f text?).inside =
      ((place.node.content.places place.inside).filter (Place.kept text?)).map
        (Place.updated f text?) := by
  cases htext : text? place.node.id with
  | none =>
      have haround : ∀ entry ∈ place.inside, text? entry.1 = none := by
        intro entry hentry
        rcases List.mem_cons.mp hentry with rfl | hentry
        · exact htext
        · exact Place.kept_iff.mp h entry.1 (List.mem_map_of_mem hentry)
      rw [Place.content_updated htext, Place.inside_updated, places_update haround]
  | some new =>
      have hgone : (place.node.content.places place.inside).filter (Place.kept text?) = [] :=
        filter_kept_eq_nil htext place.node.element place.around place.node.content
      have hcontent : (place.updated f text?).node.content = .ofText new := by
        simp only [Place.updated, Scene.Node.updated, htext]
      rw [hgone, hcontent, places_ofText, List.map_nil]

theorem numbers_update_sublist (forest : Forest (Nat × Element)) :
    (forest.update f text?).numbers.Sublist forest.numbers := by
  rw [← map_id_places [], ← map_id_places [], places_update_nil, List.map_map]
  exact List.filter_sublist.map _

theorem nodup_numbers_update {forest : Forest (Nat × Element)} (h : forest.numbers.Nodup) :
    (forest.update f text?).numbers.Nodup :=
  h.sublist (numbers_update_sublist forest)

/-- An update that replaces no content within a forest leaves its text. -/
theorem textContent_update {forest : Forest (Nat × Element)}
    (h : ∀ id ∈ forest.numbers, text? id = none) :
    (forest.update f text?).textContent = forest.textContent := by
  induction forest with
  | nil => rfl
  | text content rest ih => rw [update, textContent, textContent, ih h]
  | element item children rest ihc ihr =>
      obtain ⟨id, item⟩ := item
      have hid : text? id = none := h id (by simp)
      have hchildren := ihc fun other hother => h other (by simp [hother])
      have hrest := ihr fun other hother => h other (by simp [hother])
      simp only [update, textContent, hid, hchildren, hrest]

/-! ### Numbers after an update -/

theorem size_unnumber_update (n : Nat) (forest : Forest Element) :
    ((forest.number n).update f fun _ => none).unnumber.size = forest.size := by
  induction forest generalizing n with
  | nil => rfl
  | text content rest ih => exact ih n
  | element item children rest ihc ihr =>
      exact congrArg₂ (· + · + 1) (ihc (n + 1)) (ihr (n + 1 + children.size))

/-- An update that replaces no content leaves the elements with the numbers of their places. -/
theorem number_unnumber_update (n : Nat) (forest : Forest Element) :
    ((forest.number n).update f fun _ => none).unnumber.number n =
      (forest.number n).update f fun _ => none := by
  induction forest generalizing n with
  | nil => rfl
  | text content rest ih => exact congrArg (Forest.text content) (ih n)
  | element item children rest ihc ihr =>
      let inner := (children.number (n + 1)).update f fun _ => none
      let after := (rest.number (n + 1 + children.size)).update f fun _ => none
      show Forest.element (n, f n item) (inner.unnumber.number (n + 1))
        (after.unnumber.number (n + 1 + inner.unnumber.size)) = .element (n, f n item) inner after
      rw [size_unnumber_update, ihc, ihr]

/-! ### Selectors after an update -/

/-- A selector that cannot tell changed elements from what they were accepts the same places. -/
theorem accepted_updated {selector : Selector} (hf : ∀ id item, selector.Alike (f id item) item)
    (outer : List Element) (place : Place) :
    (place.updated f text?).accepted outer selector = place.accepted outer selector := by
  apply Selector.accepts_congr
  · apply List.rel_append
    · show List.Forall₂ selector.Alike ((Place.changed f place.around).map Prod.snd)
        (place.around.map Prod.snd)
      rw [Place.changed, List.map_map, List.forall₂_map_left_iff, List.forall₂_map_right_iff,
        List.forall₂_same]
      intro entry _
      exact hf entry.1 entry.2
    · rw [List.forall₂_same]
      intro element _
      exact .refl selector element
  · exact hf place.node.id place.node.element

/-- Of the places of an element that stays, a selector accepts those that it accepted and that
stay. -/
theorem filter_content_updated {selector : Selector}
    (hf : ∀ id item, selector.Alike (f id item) item) (outer : List Element) {place : Place}
    (h : place.kept text? = true) :
    ((place.updated f text?).node.content.places (place.updated f text?).inside).filter
        (Place.accepted outer selector) =
      (((place.node.content.places place.inside).filter (Place.accepted outer selector)).filter
        (Place.kept text?)).map (Place.updated f text?) := by
  have haccepted : (Place.accepted outer selector) ∘ Place.updated f text? =
      Place.accepted outer selector := by
    funext inner
    exact accepted_updated hf outer inner
  rw [places_content_updated h, List.filter_map, haccepted, List.filter_filter, List.filter_filter]
  simp only [Bool.and_comm]

/-- The same for all places of a forest. -/
theorem filter_places_update {selector : Selector}
    (hf : ∀ id item, selector.Alike (f id item) item) (outer : List Element)
    (forest : Forest (Nat × Element)) :
    ((forest.update f text?).places []).filter (Place.accepted outer selector) =
      (((forest.places []).filter (Place.accepted outer selector)).filter
        (Place.kept text?)).map (Place.updated f text?) := by
  have haccepted : (Place.accepted outer selector) ∘ Place.updated f text? =
      Place.accepted outer selector := by
    funext inner
    exact accepted_updated hf outer inner
  rw [places_update_nil, List.filter_map, haccepted, List.filter_filter, List.filter_filter]
  simp only [Bool.and_comm]

end Forest

theorem Scene.scene_page {f : Nat → Element → Element} {page : Page} {later : Scene}
    (h : later.attached = page.scene.attached.update f fun _ => none) :
    later.page.scene = ⟨later.attached, .nil⟩ := by
  show Scene.mk (later.attached.unnumber.number 0) .nil = _
  rw [h]
  exact congrArg (Scene.mk · .nil) (Forest.number_unnumber_update 0 page.content)

end PageSync
