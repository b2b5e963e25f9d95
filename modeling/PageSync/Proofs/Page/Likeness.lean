import PageSync.Pass
import PageSync.Proofs.Page.Classes

/-!
Elements that are alike. Two elements may differ in one class and in what wiring adds to a field,
and no selector that overlooks both can tell them apart (`Selector.Overlooks.alike`). And two
elements may be the same but for the order in which their attributes stand, which nothing depends
on: marking and wiring an element come to the same in either order (`Element.same_markClass_wired`).
-/

namespace PageSync

open Pass (boundAttribute wired isUnbound)

namespace Element

theorem boundAttribute_ne_class : boundAttribute ≠ "class" := by decide

/-! ### Wired fields -/

@[simp] theorem tag_wired (element : Element) : (wired element).tag = element.tag := rfl

@[simp] theorem value_wired (element : Element) : (wired element).value = element.value := rfl

@[simp] theorem filters_wired (element : Element) :
    (wired element).filters = element.filters + 1 := rfl

theorem attribute?_wired {name : String} (h : name ≠ boundAttribute) (element : Element) :
    (wired element).attribute? name = element.attribute? name :=
  attribute?_setAttribute_of_ne element h ""

@[simp] theorem attribute?_wired_self (element : Element) :
    (wired element).attribute? boundAttribute = some "" :=
  attribute?_setAttribute_self element boundAttribute ""

@[simp] theorem hasAttribute_wired_self (element : Element) :
    (wired element).hasAttribute boundAttribute = true := by
  rw [hasAttribute, attribute?_wired_self, Option.isSome_some]

theorem classes_congr {a b : Element} (h : a.attribute? "class" = b.attribute? "class") :
    a.classes = b.classes := by
  rw [classes, classes, h]

theorem hasClass_congr {a b : Element} (h : a.attribute? "class" = b.attribute? "class")
    (word : String) : a.hasClass word = b.hasClass word := by
  rw [hasClass, hasClass, classes_congr h]

theorem hasClass_wired (element : Element) (word : String) :
    (wired element).hasClass word = element.hasClass word :=
  hasClass_congr (attribute?_wired boundAttribute_ne_class.symm element) word

/-! ### Elements that differ in a class and in the wiring -/

structure AlikeBut (word : String) (a b : Element) : Prop where
  tag : a.tag = b.tag
  value : a.value = b.value
  hasClass : ∀ other, other ≠ word → a.hasClass other = b.hasClass other
  attributes : ∀ name, name ≠ "class" → name ≠ boundAttribute →
    a.attribute? name = b.attribute? name

namespace AlikeBut

variable {word : String} {a b c : Element}

theorem refl (word : String) (element : Element) : AlikeBut word element element :=
  ⟨rfl, rfl, fun _ _ => rfl, fun _ _ _ => rfl⟩

theorem symm (h : AlikeBut word a b) : AlikeBut word b a where
  tag := h.tag.symm
  value := h.value.symm
  hasClass other hother := (h.hasClass other hother).symm
  attributes name hclass hbound := (h.attributes name hclass hbound).symm

theorem trans (h : AlikeBut word a b) (h' : AlikeBut word b c) : AlikeBut word a c where
  tag := h.tag.trans h'.tag
  value := h.value.trans h'.value
  hasClass other hother := (h.hasClass other hother).trans (h'.hasClass other hother)
  attributes name hclass hbound :=
    (h.attributes name hclass hbound).trans (h'.attributes name hclass hbound)

end AlikeBut

theorem alikeBut_markClass {word : String} (hword : IsClassWord word) (element : Element)
    (on : Bool) : AlikeBut word (element.markClass word on) element where
  tag := tag_markClass element word on
  value := value_markClass element word on
  hasClass other hother := by rw [hasClass_markClass hword, if_neg hother]
  attributes name hclass _ := attribute?_markClass hclass element word on

theorem alikeBut_wired (word : String) (element : Element) :
    AlikeBut word (wired element) element where
  tag := rfl
  value := rfl
  hasClass other _ := hasClass_wired element other
  attributes _ _ hbound := attribute?_wired hbound element

/-! ### Elements that differ in the order of their attributes -/

structure Same (a b : Element) : Prop where
  tag : a.tag = b.tag
  attributes : ∀ name, a.attribute? name = b.attribute? name
  value : a.value = b.value
  filters : a.filters = b.filters

namespace Same

variable {a b c : Element}

theorem refl (element : Element) : Same element element :=
  ⟨rfl, fun _ => rfl, rfl, rfl⟩

theorem symm (h : Same a b) : Same b a where
  tag := h.tag.symm
  attributes name := (h.attributes name).symm
  value := h.value.symm
  filters := h.filters.symm

theorem trans (h : Same a b) (h' : Same b c) : Same a c where
  tag := h.tag.trans h'.tag
  attributes name := (h.attributes name).trans (h'.attributes name)
  value := h.value.trans h'.value
  filters := h.filters.trans h'.filters

theorem setAttribute (h : Same a b) (name value : String) :
    Same (a.setAttribute name value) (b.setAttribute name value) where
  tag := h.tag
  attributes other := by
    by_cases hother : other = name
    · subst hother
      rw [attribute?_setAttribute_self, attribute?_setAttribute_self]
    · rw [attribute?_setAttribute_of_ne a hother, attribute?_setAttribute_of_ne b hother,
        h.attributes]
  value := h.value
  filters := h.filters

theorem markClass (h : Same a b) (word : String) (on : Bool) :
    Same (a.markClass word on) (b.markClass word on) := by
  have hclass : a.hasClass word = b.hasClass word := hasClass_congr (h.attributes "class") word
  have hclasses : a.classes = b.classes := classes_congr (h.attributes "class")
  by_cases hon : a.hasClass word = on
  · rw [markClass_eq_self hon, markClass_eq_self (hclass ▸ hon)]
    exact h
  · cases on with
    | true =>
        have hoff := Bool.eq_false_iff.mpr hon
        rw [markClass_true hoff, markClass_true (hclass ▸ hoff), hclasses]
        exact h.setAttribute _ _
    | false =>
        have hset := Bool.ne_false_iff.mp hon
        rw [markClass_false hset, markClass_false (hclass ▸ hset), hclasses]
        exact h.setAttribute _ _

theorem wired (h : Same a b) : Same (Pass.wired a) (Pass.wired b) where
  tag := h.tag
  attributes := (h.setAttribute boundAttribute "").attributes
  value := h.value
  filters := congrArg (· + 1) h.filters

end Same

/-- Marking a field and wiring it come to the same in either order. -/
theorem same_markClass_wired (element : Element) (word : String) (on : Bool) :
    Same ((wired element).markClass word on) (wired (element.markClass word on)) where
  tag := by rw [tag_markClass, tag_wired, tag_wired, tag_markClass]
  attributes name := by
    by_cases hbound : name = boundAttribute
    · subst hbound
      rw [attribute?_markClass boundAttribute_ne_class, attribute?_wired_self,
        attribute?_wired_self]
    · rw [attribute?_wired hbound]
      by_cases hclass : name = "class"
      · subst hclass
        have hsame : (wired element).attribute? "class" = element.attribute? "class" :=
          attribute?_wired hbound element
        have hclasses : (wired element).classes = element.classes := classes_congr hsame
        by_cases hon : element.hasClass word = on
        · rw [markClass_eq_self hon, markClass_eq_self ((hasClass_wired element word).trans hon),
            hsame]
        · -- the class attribute is written from the same words
          have hon' : (wired element).hasClass word ≠ on := by rwa [hasClass_wired]
          simp only [markClass, beq_iff_eq, hon, hon', if_false, hclasses,
            attribute?_setAttribute_self]
      · rw [attribute?_markClass hclass, attribute?_markClass hclass, attribute?_wired hbound]
  value := by rw [value_markClass, value_wired, value_wired, value_markClass]
  filters := by rw [filters_markClass, filters_wired, filters_wired, filters_markClass]

end Element

namespace Selector

/-! ### Selectors that overlook a class and the wiring -/

def Test.asks (name : String) : Test → Bool
  | .id _ => name == "id"
  | .classIs _ => name == "class"
  | .hasAttribute other => name == other
  | .attributeIs other _ _ _ => name == other

/-- No elements that are alike can be told apart by the selector. -/
def Blind (alike : Element → Element → Prop) (selector : Selector) : Prop :=
  ∀ a b, alike a b → selector.Alike a b

/-- The selector can see neither the class nor what wiring adds to a field. -/
def Overlooks (selector : Selector) (word : String) : Prop :=
  selector.Blind (Element.AlikeBut word)

theorem Test.accepts_eq {word : String} {a b : Element} (h : Element.AlikeBut word a b)
    {test : Test} (hmentions : test.mentions word = false)
    (hasks : test.asks boundAttribute = false) : Test.accepts a test = Test.accepts b test := by
  cases test with
  | id value =>
      have hclass : "id" ≠ "class" := by decide
      have hbound : "id" ≠ boundAttribute := by decide
      rw [accepts, accepts, h.attributes "id" hclass hbound]
  | classIs other =>
      rw [mentions, beq_eq_false_iff_ne] at hmentions
      rw [accepts, accepts, h.hasClass other hmentions]
  | hasAttribute name =>
      rw [mentions, beq_eq_false_iff_ne] at hmentions
      rw [asks, beq_eq_false_iff_ne] at hasks
      rw [accepts, accepts, Element.hasAttribute, Element.hasAttribute,
        h.attributes name hmentions hasks.symm]
  | attributeIs name relation value anyCase =>
      rw [mentions, beq_eq_false_iff_ne] at hmentions
      rw [asks, beq_eq_false_iff_ne] at hasks
      rw [accepts, accepts, h.attributes name hmentions hasks.symm]

/-- A selector cannot see what none of its tests is about. -/
theorem overlooks_of_tests {selector : Selector} {word : String}
    (h : ∀ test ∈ selector.tests, test.mentions word = false ∧ test.asks boundAttribute = false) :
    selector.Overlooks word := fun _ _ hab =>
  ⟨hab.tag, fun test htest => Test.accepts_eq hab (h test htest).1 (h test htest).2⟩

section

variable [Browser]

/-- If the text is a selector, it overlooks the class and the tag of wired fields. -/
def ReadsBlind (word text : String) : Prop :=
  ∀ selector ∈ Browser.selector? text, selector.Overlooks word

def asksNeither (word text : String) : Bool :=
  (Browser.selector? text).all fun selector => selector.tests.all fun test =>
    !test.mentions word && !test.asks boundAttribute

theorem readsBlind_of_asksNeither {word text : String} (h : asksNeither word text = true) :
    ReadsBlind word text := by
  intro selector hselector
  refine overlooks_of_tests fun test htest => ?_
  rw [asksNeither, Option.all_eq_true] at h
  have htests := h selector hselector
  rw [List.all_eq_true] at htests
  simpa using htests test htest

end

end Selector

end PageSync
