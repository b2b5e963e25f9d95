import Mathlib.Data.List.Forall2
import PageSync.Proofs.Page.Likeness
import PageSync.Proofs.Page.Moves

/-!
Forests of one shape whose elements are related one by one. A search that cannot tell related
elements apart finds related elements at the same places (`Scene.Related.select`,
`Scene.Related.selectIn`), and the same moves lead from related scenes to related scenes
(`Scene.Related.moves`).
-/

namespace PageSync

namespace Forest

inductive Related {α β : Type} (r : α → β → Prop) : Forest α → Forest β → Prop where
  | nil : Related r .nil .nil
  | text {content : String} {rest : Forest α} {rest' : Forest β} (hrest : Related r rest rest') :
    Related r (.text content rest) (.text content rest')
  | element {a : α} {b : β} {children rest : Forest α} {children' rest' : Forest β} (hab : r a b)
    (hchildren : Related r children children') (hrest : Related r rest rest') :
    Related r (.element a children rest) (.element b children' rest')

namespace Related

variable {α β : Type} {r : α → β → Prop} {forest : Forest α} {other : Forest β}

theorem textContent_eq (h : forest.Related r other) : forest.textContent = other.textContent := by
  induction h with
  | nil => rfl
  | text _ ih => rw [textContent, textContent, ih]
  | element _ _ _ ihc ihr => rw [textContent, textContent, ihc, ihr]

theorem append (h : forest.Related r other) {more : Forest α} {more' : Forest β}
    (hmore : more.Related r more') : (forest.append more).Related r (other.append more') := by
  induction h with
  | nil => exact hmore
  | text _ ih => exact .text ih
  | element hab hchildren _ _ ihr => exact .element hab hchildren ihr

theorem ofText (content : String) : (Forest.ofText content).Related r (.ofText content) := by
  unfold Forest.ofText
  split
  · exact .nil
  · exact .text .nil

/-- Without the numbers. -/
theorem unnumber {r : Nat × Element → Nat × Element → Prop} {s : Element → Element → Prop}
    (hrs : ∀ a b, r a b → s a.2 b.2) {forest other : Forest (Nat × Element)}
    (h : forest.Related r other) : forest.unnumber.Related s other.unnumber := by
  induction h with
  | nil => exact .nil
  | text _ ih => exact .text ih
  | element hab _ _ ihc ihr => exact .element (hrs _ _ hab) ihc ihr

end Related

/-- Two updates that give related elements, and the same texts, give related forests. -/
theorem related_update {r : Nat × Element → Nat × Element → Prop} {f g : Nat → Element → Element}
    (text? : Nat → Option String) {forest : Forest (Nat × Element)}
    (h : ∀ entry ∈ forest.toList, r (entry.1, f entry.1 entry.2) (entry.1, g entry.1 entry.2)) :
    (forest.update f text?).Related r (forest.update g text?) := by
  induction forest with
  | nil => exact .nil
  | text content rest ih => exact .text (ih h)
  | element item children rest ihc ihr =>
      obtain ⟨id, item⟩ := item
      simp only [toList, List.mem_cons, List.mem_append] at h
      have hitem := h (id, item) (.inl rfl)
      have hrest := ihr fun entry hentry => h entry (.inr (.inr hentry))
      have hchildren := ihc fun entry hentry => h entry (.inr (.inl hentry))
      rw [update, update]
      cases text? id with
      | none => exact .element hitem hchildren hrest
      | some new => exact .element hitem (.ofText new) hrest

end Forest

/-! ### Numbered forests -/

structure Scene.Node.Related (r : Nat × Element → Nat × Element → Prop) (a b : Scene.Node) :
    Prop where
  entry : r (a.id, a.element) (b.id, b.element)
  content : a.content.Related r b.content

theorem rel_or {α β : Type} {R : α → β → Prop} {a a' : Option α} {b b' : Option β}
    (h : Option.Rel R a b) (h' : Option.Rel R a' b') : Option.Rel R (a.or a') (b.or b') := by
  cases h with
  | none => exact h'
  | some hab => exact .some hab

theorem Scene.map_id_related {r : Nat × Element → Nat × Element → Prop}
    (hid : ∀ a b, r a b → a.1 = b.1) {nodes others : List Scene.Node}
    (h : List.Forall₂ (Scene.Node.Related r) nodes others) :
    nodes.map Scene.Node.id = others.map Scene.Node.id := by
  rw [← List.forall₂_eq_eq_eq, List.forall₂_map_left_iff, List.forall₂_map_right_iff]
  exact h.imp fun _ _ hnode => hid _ _ hnode.entry

structure Scene.FoundRelated (r : Nat × Element → Nat × Element → Prop)
    (alike : Element → Element → Prop) (a b : List Element × Scene.Node) : Prop where
  ancestors : List.Forall₂ alike a.1 b.1
  node : a.2.Related r b.2

section

variable {r : Nat × Element → Nat × Element → Prop} {alike : Element → Element → Prop}
  (hid : ∀ a b, r a b → a.1 = b.1) (halike : ∀ a b, r a b → alike a.2 b.2)

namespace Forest.Related

variable {forest other : Forest (Nat × Element)}

include halike in
theorem select {selector : Selector} (hselector : selector.Blind alike)
    (h : forest.Related r other) {ancestors others : List Element}
    (hancestors : List.Forall₂ alike ancestors others) :
    List.Forall₂ (Scene.Node.Related r) (forest.select selector ancestors)
      (other.select selector others) := by
  induction h generalizing ancestors others with
  | nil => exact .nil
  | text _ ih => exact ih hancestors
  | @element a b children rest children' rest' hab hchildren hrest ihc ihr =>
      obtain ⟨id, item⟩ := a
      obtain ⟨id', item'⟩ := b
      have hitem := halike _ _ hab
      have haccepts : selector.accepts ancestors item = selector.accepts others item' :=
        Selector.accepts_congr (hancestors.imp hselector) (hselector _ _ hitem)
      have hinner := List.rel_append (ihc (.cons hitem hancestors)) (ihr hancestors)
      rw [Forest.select, Forest.select, haccepts]
      by_cases haccepted : selector.accepts others item' = true
      · rw [if_pos haccepted, if_pos haccepted]
        exact .cons ⟨hab, hchildren⟩ hinner
      · rw [if_neg haccepted, if_neg haccepted]
        exact hinner

include hid halike

theorem locate? (id : Nat) (h : forest.Related r other) {ancestors others : List Element}
    (hancestors : List.Forall₂ alike ancestors others) :
    Option.Rel (Scene.FoundRelated r alike) (forest.locate? id ancestors)
      (other.locate? id others) := by
  induction h generalizing ancestors others with
  | nil => exact .none
  | text _ ih => exact ih hancestors
  | @element a b children rest children' rest' hab hchildren hrest ihc ihr =>
      obtain ⟨number, item⟩ := a
      obtain ⟨number', item'⟩ := b
      obtain rfl : number = number' := hid _ _ hab
      rw [Forest.locate?, Forest.locate?]
      by_cases hnumber : number = id
      · subst hnumber
        rw [if_pos rfl, if_pos rfl]
        exact .some ⟨hancestors, hab, hchildren⟩
      · rw [if_neg hnumber, if_neg hnumber]
        exact rel_or (ihc (.cons (halike _ _ hab) hancestors)) (ihr hancestors)

end Forest.Related

/-! ### Scenes -/

structure Scene.Related (r : Nat × Element → Nat × Element → Prop) (scene other : Scene) :
    Prop where
  attached : scene.attached.Related r other.attached
  detached : scene.detached.Related r other.detached

namespace Scene.Related

variable [Browser] {scene other : Scene} (hrefl : ∀ element, alike element element)

include hrefl

theorem around_alike : List.Forall₂ alike Browser.around Browser.around :=
  List.forall₂_same.mpr fun element _ => hrefl element

include halike in
theorem select {selector : Selector} (hselector : selector.Blind alike)
    (h : scene.Related r other) :
    List.Forall₂ (Node.Related r) (scene.select selector) (other.select selector) :=
  h.attached.select halike hselector (around_alike hrefl)

include hid halike

theorem locate? (id : Nat) (h : scene.Related r other) :
    Option.Rel (FoundRelated r alike) (scene.locate? id) (other.locate? id) := by
  rw [Scene.locate?, Scene.locate?]
  exact rel_or (h.attached.locate? hid halike id (around_alike hrefl))
    (h.detached.locate? hid halike id .nil)

theorem selectIn {selector : Selector} (hselector : selector.Blind alike) (id : Nat)
    (h : scene.Related r other) :
    List.Forall₂ (Node.Related r) (scene.selectIn id selector) (other.selectIn id selector) := by
  have hlocate := h.locate? hid halike hrefl id
  rw [Scene.selectIn, Scene.selectIn]
  generalize scene.locate? id = found at hlocate ⊢
  generalize other.locate? id = found' at hlocate ⊢
  cases hlocate with
  | none => exact .nil
  | some hfound =>
      exact hfound.node.content.select halike hselector
        (.cons (halike _ _ hfound.node.entry) hfound.ancestors)

end Scene.Related

end

/-! ### Moves -/

theorem Move.alikeBut_marked {word : String} (hword : Element.IsClassWord word) (list : List Move)
    (id : Nat) (element : Element) :
    Element.AlikeBut word (marked word list id element) element := by
  induction list generalizing element with
  | nil => exact .refl word element
  | cons move list ih =>
      cases move with
      | mark other on =>
          refine (ih _).trans ?_
          split
          · exact Element.alikeBut_markClass hword element on
          · exact .refl word element
      | write other text => exact ih element

theorem Move.same_marked (word : String) (list : List Move) (id : Nat) {a b : Element}
    (h : Element.Same a b) : Element.Same (marked word list id a) (marked word list id b) := by
  induction list generalizing a b with
  | nil => exact h
  | cons move list ih =>
      cases move with
      | mark other on =>
          rw [marked, marked]
          split
          · exact ih (h.markClass word on)
          · exact ih h
      | write other text => exact ih h

/-- Marks and the wiring of a field come to the same in either order. -/
theorem Move.same_marked_wired (word : String) (list : List Move) (id : Nat) (element : Element) :
    Element.Same (marked word list id (Pass.wired element))
      (Pass.wired (marked word list id element)) := by
  induction list generalizing element with
  | nil => exact .refl _
  | cons move list ih =>
      cases move with
      | mark other on =>
          rw [marked, marked]
          split
          · exact (same_marked word list id (Element.same_markClass_wired element word on)).trans
              (ih _)
          · exact ih element
      | write other text => exact ih element

section

variable {r : Nat × Element → Nat × Element → Prop} {alike : Element → Element → Prop}
  (hid : ∀ a b, r a b → a.1 = b.1)

namespace Forest.Related

variable {forest other : Forest (Nat × Element)}

include hid

/-- The same change of the same element keeps forests related if it keeps elements related. -/
theorem change {f : Element → Element} (hf : ∀ a b, r a b → r (a.1, f a.2) (b.1, f b.2))
    (id : Nat) (h : forest.Related r other) :
    (forest.change id f).Related r (other.change id f) := by
  induction h with
  | nil => exact .nil
  | text _ ih => exact .text ih
  | @element a b children rest children' rest' hab hchildren hrest ihc ihr =>
      refine .element ?_ ihc ihr
      obtain ⟨number, item⟩ := a
      obtain ⟨number', item'⟩ := b
      obtain rfl : number = number' := hid _ _ hab
      by_cases hnumber : number = id
      · simp only [hnumber, if_true]
        exact hnumber ▸ hf _ _ hab
      · simp only [hnumber, if_false]
        exact hab

theorem changeContent (id : Nat) (new : String) (h : forest.Related r other) :
    (forest.changeContent id fun _ => .ofText new).Related r
      (other.changeContent id fun _ => .ofText new) := by
  induction h with
  | nil => exact .nil
  | text _ ih => exact .text ih
  | @element a b children rest children' rest' hab hchildren hrest ihc ihr =>
      obtain ⟨number, item⟩ := a
      obtain ⟨number', item'⟩ := b
      obtain rfl : number = number' := hid _ _ hab
      refine .element hab ?_ ihr
      split
      · exact .ofText new
      · exact ihc

end Forest.Related

namespace Scene.Related

variable [Browser] {scene other : Scene} (halike : ∀ a b, r a b → alike a.2 b.2)
  (hrefl : ∀ element, alike element element)

include hid halike hrefl

theorem write (id : Nat) (new : String) (h : scene.Related r other) :
    (scene.write id new).Related r (other.write id new) := by
  have hlocate := h.attached.locate? hid halike id (around_alike hrefl)
  rw [Scene.write, Scene.write]
  generalize scene.attached.locate? id Browser.around = found at hlocate ⊢
  generalize other.attached.locate? id Browser.around = found' at hlocate ⊢
  cases hlocate with
  | none => exact h
  | some hfound =>
      exact ⟨h.attached.changeContent hid id new, hfound.node.content.append h.detached⟩

/-- Moves keep scenes related if marks keep elements related. -/
theorem moves {word : String}
    (hmark : ∀ on a b, r a b → r (a.1, a.2.markClass word on) (b.1, b.2.markClass word on))
    (h : scene.Related r other) (list : List Move) :
    (scene.moves word list).Related r (other.moves word list) := by
  induction list generalizing scene other with
  | nil => exact h
  | cons move list ih =>
      apply ih
      cases move with
      | mark id on =>
          exact ⟨h.attached.change hid (f := (·.markClass word on)) (hmark on) id,
            h.detached.change hid (f := (·.markClass word on)) (hmark on) id⟩
      | write id new => exact h.write hid halike hrefl id new

end Scene.Related

end

end PageSync
