import PageSync.Proofs.Page.Related
import PageSync.Proofs.Page.Wiring

/-!
An attribute taken from some elements. A selector that does not ask for the attribute cannot tell
the elements from what they were (`Selector.Unasking.blind`), and marks and writes go on as before:
what they make of the scene without the attributes is the scene that they make, without the
attributes (`Scene.Related.moves_bared`, `Scene.Related.eq_without`).
-/

namespace PageSync

namespace Element

/-- The elements differ in no more than one attribute. -/
structure AlikeLess (name : String) (a b : Element) : Prop where
  tag : a.tag = b.tag
  attributes : ∀ other, other ≠ name → a.attribute? other = b.attribute? other

theorem AlikeLess.refl (name : String) (element : Element) : AlikeLess name element element :=
  ⟨rfl, fun _ _ => rfl⟩

theorem attribute?_removeAttribute_self (element : Element) (name : String) :
    (element.removeAttribute name).attribute? name = none := by
  rw [attribute?, removeAttribute, List.lookup_eq_none_iff]
  intro entry hentry
  have hne : entry.1 ≠ name := by simpa using (List.mem_filter.mp hentry).2
  exact bne_iff_ne.mpr hne.symm

theorem filter_putAttribute {name other : String} (h : other ≠ name) (value : String)
    (attributes : List (String × String)) :
    (putAttribute other value attributes).filter (fun (key, _) => key != name) =
      putAttribute other value (attributes.filter fun (key, _) => key != name) := by
  induction attributes with
  | nil => simp [putAttribute, h]
  | cons head rest ih =>
      obtain ⟨key, old⟩ := head
      by_cases hother : key = other
      · simp [putAttribute, hother, h]
      · by_cases hname : key = name
        · simp [putAttribute, hname, Ne.symm h, ih]
        · simp [putAttribute, hother, hname, ih]

theorem removeAttribute_markClass {name : String} (h : name ≠ "class") (element : Element)
    (word : String) (on : Bool) :
    (element.markClass word on).removeAttribute name =
      (element.removeAttribute name).markClass word on := by
  have hclass := attribute?_removeAttribute_of_ne element h.symm
  rw [markClass, markClass, hasClass_congr hclass, classes_congr hclass]
  split
  · rfl
  · exact congrArg (Element.mk _ · _ _) (filter_putAttribute h.symm _ element.attributes)

/-- The element without the attribute, if its number is among those given. -/
def bare (name : String) (ids : List Nat) (id : Nat) (element : Element) : Element :=
  if id ∈ ids then element.removeAttribute name else element

theorem bare_of_mem {ids : List Nat} {id : Nat} (h : id ∈ ids) (name : String)
    (element : Element) : element.bare name ids id = element.removeAttribute name := if_pos h

theorem bare_of_not_mem {ids : List Nat} {id : Nat} (h : id ∉ ids) (name : String)
    (element : Element) : element.bare name ids id = element := if_neg h

theorem alikeLess_bare (name : String) (ids : List Nat) (id : Nat) (element : Element) :
    AlikeLess name (element.bare name ids id) element := by
  rw [bare]
  split
  · exact ⟨rfl, fun _ hother => attribute?_removeAttribute_of_ne element hother⟩
  · exact .refl name element

end Element

namespace Selector

def Unasking (name : String) (selector : Selector) : Prop :=
  ∀ test ∈ selector.tests, test.asks name = false

instance (name : String) (selector : Selector) : Decidable (selector.Unasking name) :=
  inferInstanceAs (Decidable (∀ test ∈ selector.tests, _))

theorem Test.accepts_of_alikeLess {name : String} {a b : Element} (h : Element.AlikeLess name a b)
    {test : Test} (hasks : test.asks name = false) :
    Test.accepts a test = Test.accepts b test := by
  cases test with
  | id value =>
      rw [asks, beq_eq_false_iff_ne] at hasks
      rw [accepts, accepts, h.attributes "id" hasks.symm]
  | classIs word =>
      rw [asks, beq_eq_false_iff_ne] at hasks
      rw [accepts, accepts, Element.hasClass_congr (h.attributes "class" hasks.symm)]
  | hasAttribute other =>
      rw [asks, beq_eq_false_iff_ne] at hasks
      rw [accepts, accepts, Element.hasAttribute, Element.hasAttribute,
        h.attributes other hasks.symm]
  | attributeIs other relation value anyCase =>
      rw [asks, beq_eq_false_iff_ne] at hasks
      rw [accepts, accepts, h.attributes other hasks.symm]

theorem Unasking.blind {name : String} {selector : Selector} (h : selector.Unasking name) :
    selector.Blind (Element.AlikeLess name) :=
  fun _ _ hab => ⟨hab.tag, fun test htest => Test.accepts_of_alikeLess hab (h test htest)⟩

end Selector

/-! ### Scenes and pages -/

def Scene.without (name : String) (ids : List Nat) (scene : Scene) : Scene :=
  ⟨scene.attached.update (fun id element => element.bare name ids id) fun _ => none,
    scene.detached.update (fun id element => element.bare name ids id) fun _ => none⟩

def Page.without (name : String) (ids : List Nat) (page : Page) : Page :=
  (page.scene.without name ids).page

theorem Page.scene_without (name : String) (ids : List Nat) (page : Page) :
    (page.without name ids).scene = page.scene.without name ids :=
  Scene.scene_page rfl

/-- An element of two scenes, in one of them without the attribute. What the attribute says is safe
for the element. -/
structure Bared (name : String) (ids : List Nat) (safe : Nat → String → Prop)
    (a b : Nat × Element) : Prop where
  id : a.1 = b.1
  element : a.2 = b.2.bare name ids b.1
  value : ∀ text ∈ b.2.attribute? name, safe b.1 text

namespace Bared

variable {name : String} {ids : List Nat} {safe : Nat → String → Prop}

theorem alike {a b : Nat × Element} (h : Bared name ids safe a b) :
    Element.AlikeLess name a.2 b.2 :=
  h.element ▸ Element.alikeLess_bare name ids b.1 b.2

theorem markClass (hname : name ≠ "class") {word : String} (on : Bool) (a b : Nat × Element)
    (h : Bared name ids safe a b) :
    Bared name ids safe (a.1, a.2.markClass word on) (b.1, b.2.markClass word on) where
  id := h.id
  element := by
    show a.2.markClass word on = (b.2.markClass word on).bare name ids b.1
    rw [h.element, Element.bare, Element.bare]
    split
    · exact (Element.removeAttribute_markClass hname b.2 word on).symm
    · rfl
  value := by
    show ∀ text ∈ (b.2.markClass word on).attribute? name, safe b.1 text
    rw [Element.attribute?_markClass hname]
    exact h.value

end Bared

/-- Scenes that are so related are one scene, with and without the attributes. -/
theorem Forest.Related.eq_update {name : String} {ids : List Nat} {safe : Nat → String → Prop}
    {forest other : Forest (Nat × Element)} (h : forest.Related (Bared name ids safe) other) :
    forest = other.update (fun id element => element.bare name ids id) fun _ => none := by
  induction h with
  | nil => rfl
  | text _ ih => rw [update, ← ih]
  | @element a b _ _ _ _ hab _ _ ihc ihr =>
      obtain ⟨id, item⟩ := a
      obtain ⟨number, other⟩ := b
      obtain rfl : id = number := hab.id
      obtain rfl : item = other.bare name ids id := hab.element
      rw [update, ← ihc, ← ihr]

namespace Scene

variable {name : String} {ids : List Nat} {safe : Nat → String → Prop} {scene other : Scene}

theorem Related.eq_without (h : scene.Related (Bared name ids safe) other) :
    scene = other.without name ids :=
  congrArg₂ Scene.mk h.attached.eq_update h.detached.eq_update

theorem related_without (hvalue : ∀ entry ∈ scene.attached.toList ++ scene.detached.toList,
    ∀ text ∈ entry.2.attribute? name, safe entry.1 text) :
    (scene.without name ids).Related (Bared name ids safe) scene := by
  have hforest : ∀ forest : Forest (Nat × Element),
      (∀ entry ∈ forest.toList, ∀ text ∈ entry.2.attribute? name, safe entry.1 text) →
        (forest.update (fun id element => element.bare name ids id) fun _ => none).Related
          (Bared name ids safe) forest := by
    intro forest h
    have hrelated := Forest.related_update (fun _ => none) (r := Bared name ids safe)
      (f := fun id element => element.bare name ids id) (g := fun _ element => element)
      fun entry hentry => ⟨rfl, rfl, h entry hentry⟩
    rwa [Forest.update_id] at hrelated
  rw [List.forall_mem_append] at hvalue
  exact ⟨hforest _ hvalue.1, hforest _ hvalue.2⟩

variable [Browser]

/-- Moves do not depend on the attribute, and leave it. -/
theorem Related.moves_bared (hname : name ≠ "class") (word : String)
    (h : scene.Related (Bared name ids safe) other) (list : List Move) :
    (scene.moves word list).Related (Bared name ids safe) (other.moves word list) :=
  h.moves (fun _ _ => Bared.id) (fun _ _ => Bared.alike) (.refl name)
    (Bared.markClass hname) list

end Scene

end PageSync
