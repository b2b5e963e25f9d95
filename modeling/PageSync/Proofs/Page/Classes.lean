import Mathlib.Data.List.Forall2
import PageSync.Page.Selector
import PageSync.Proofs.Text.Pieces

/-!
What setting or clearing a class does to an element: the class is there or not as asked, every
other class stays, and nothing but the class attribute changes. A selector none of whose tests
looks at the class accepts the element as before.
-/

namespace PageSync

namespace Element

/-! ### Class words -/

/-- A word that can be set as a class: not empty, and without white space. -/
def IsClassWord (word : String) : Prop :=
  word ≠ "" ∧ ∀ x ∈ word.toList, Text.isAsciiBlank x = false

theorem classFault?_eq_none_iff {word : String} : classFault? word = none ↔ IsClassWord word := by
  unfold classFault? IsClassWord
  by_cases hempty : word = ""
  · simp [hempty]
  · simp [hempty]

theorem isClassWord_of_mem_wordsOf {text word : String} (h : word ∈ wordsOf text) :
    IsClassWord word := by
  simp only [wordsOf, Text.words, List.mem_map, List.mem_filter] at h
  obtain ⟨piece, ⟨hpiece, hne⟩, rfl⟩ := h
  refine ⟨?_, ?_⟩
  · intro hempty
    have : piece = [] := by simpa using congrArg String.toList hempty
    simp [this] at hne
  · intro x hx
    exact Text.sep_eq_false_of_mem_pieces hpiece (by simpa using hx)

/-- A list of class words that is joined by spaces is read back as it was. -/
theorem wordsOf_intercalate {words : List String} (hwords : ∀ word ∈ words, IsClassWord word) :
    wordsOf (" ".intercalate words) = words := by
  have hread : Text.words Text.isAsciiBlank ([' '].intercalate (words.map String.toList)) =
      words.map String.toList := by
    apply Text.words_intercalate rfl
    intro word hword
    obtain ⟨text, htext, rfl⟩ := List.mem_map.mp hword
    obtain ⟨hne, hblank⟩ := hwords text htext
    exact ⟨by simpa using hne, hblank⟩
  rw [wordsOf, String.toList_intercalate]
  show List.map String.ofList (Text.words Text.isAsciiBlank
    ([' '].intercalate (words.map String.toList))) = words
  rw [hread, List.map_map]
  simp

/-! ### Attributes and the mark -/

theorem attribute?_setAttribute_of_ne (element : Element) {name other : String}
    (h : other ≠ name) (value : String) :
    (element.setAttribute name value).attribute? other = element.attribute? other := by
  simp only [attribute?, setAttribute]
  induction element.attributes with
  | nil =>
      have hb : (other == name) = false := beq_false_of_ne h
      simp [putAttribute, List.lookup_cons, hb]
  | cons head tail ih =>
      obtain ⟨key, old⟩ := head
      by_cases hkey : key = name
      · have hb : (other == name) = false := beq_false_of_ne h
        simp [putAttribute, hkey, List.lookup_cons, hb]
      · simp [putAttribute, hkey, List.lookup_cons, ih]

@[simp] theorem tag_markClass (element : Element) (word : String) (on : Bool) :
    (element.markClass word on).tag = element.tag := by
  unfold markClass
  split
  · rfl
  · rfl

@[simp] theorem value_markClass (element : Element) (word : String) (on : Bool) :
    (element.markClass word on).value = element.value := by
  unfold markClass
  split
  · rfl
  · rfl

@[simp] theorem filters_markClass (element : Element) (word : String) (on : Bool) :
    (element.markClass word on).filters = element.filters := by
  unfold markClass
  split
  · rfl
  · rfl

theorem attribute?_markClass {name : String} (h : name ≠ "class") (element : Element)
    (word : String) (on : Bool) :
    (element.markClass word on).attribute? name = element.attribute? name := by
  unfold markClass
  split
  · rfl
  · exact attribute?_setAttribute_of_ne element h _

theorem isClassWord_of_mem_classes {element : Element} {word : String}
    (h : word ∈ element.classes) : IsClassWord word :=
  isClassWord_of_mem_wordsOf h

def withClasses (element : Element) (words : List String) : Element :=
  element.setAttribute "class" (" ".intercalate words)

/-- The class attribute is written so that its words are those meant. -/
theorem classes_withClasses (element : Element) {words : List String}
    (hwords : ∀ word ∈ words, IsClassWord word) : (element.withClasses words).classes = words := by
  rw [withClasses, classes, attribute?_setAttribute_self]
  exact wordsOf_intercalate hwords

theorem markClass_eq_self {element : Element} {word : String} {on : Bool}
    (h : element.hasClass word = on) : element.markClass word on = element := by
  simp [markClass, h]

theorem markClass_true {element : Element} {word : String} (h : element.hasClass word = false) :
    element.markClass word true = element.withClasses (element.classes.eraseDups ++ [word]) := by
  simp [markClass, withClasses, h]

theorem markClass_false {element : Element} {word : String} (h : element.hasClass word = true) :
    element.markClass word false =
      element.withClasses (element.classes.eraseDups.filter (· != word)) := by
  simp [markClass, withClasses, h]

/-- After a mark the class is there as asked, and the other classes are there as before. -/
theorem hasClass_markClass {word : String} (hword : IsClassWord word) (element : Element)
    (on : Bool) (other : String) :
    (element.markClass word on).hasClass other =
      if other = word then on else element.hasClass other := by
  -- the attribute is written only if the class changes, and then without repeats
  by_cases hsame : element.hasClass word = on
  · rw [markClass_eq_self hsame]
    split
    · next h => rw [h, hsame]
    · rfl
  · have hvalid : ∀ w ∈ element.classes.eraseDups, IsClassWord w := by
      intro w hw
      exact isClassWord_of_mem_classes (List.mem_eraseDups.mp hw)
    cases on with
    | true =>
        have hwords : ∀ w ∈ element.classes.eraseDups ++ [word], IsClassWord w := by
          intro w hw
          rcases List.mem_append.mp hw with hw | hw
          · exact hvalid w hw
          · exact List.mem_singleton.mp hw ▸ hword
        rw [markClass_true (Bool.eq_false_iff.mpr hsame), hasClass,
          classes_withClasses element hwords, hasClass]
        by_cases h : other = word <;> simp [h, List.mem_eraseDups]
    | false =>
        have hwords : ∀ w ∈ element.classes.eraseDups.filter (· != word), IsClassWord w := by
          intro w hw
          exact hvalid w (List.mem_filter.mp hw).1
        rw [markClass_false (Bool.ne_false_iff.mp hsame), hasClass,
          classes_withClasses element hwords, hasClass]
        by_cases h : other = word <;> simp [h, List.mem_eraseDups]

/-! ### Marks that are made again -/

theorem withClasses_withClasses (element : Element) (old words : List String) :
    (element.withClasses old).withClasses words = element.withClasses words := by
  simp only [withClasses, setAttribute, mk.injEq, true_and, and_true]
  induction element.attributes with
  | nil => simp [putAttribute]
  | cons head tail ih =>
      obtain ⟨other, text⟩ := head
      by_cases h : other = "class"
      · simp [putAttribute, h]
      · simp [putAttribute, h, ih]

theorem nodup_eraseDups (words : List String) : words.eraseDups.Nodup := by
  induction hlength : words.length using Nat.strongRecOn generalizing words with
  | ind n ih =>
      cases words with
      | nil => exact List.nodup_nil
      | cons word words =>
          have hlt : (words.filter fun other => !other == word).length < n := by
            rw [← hlength, List.length_cons]
            exact Nat.lt_succ_of_le (List.length_filter_le _ words)
          rw [List.eraseDups_cons, List.nodup_cons]
          refine ⟨?_, ih _ hlt _ rfl⟩
          intro hmem
          simpa using (List.mem_filter.mp (List.mem_eraseDups.mp hmem)).2

theorem eraseDups_eq_self {words : List String} (h : words.Nodup) : words.eraseDups = words := by
  induction words with
  | nil => rfl
  | cons word words ih =>
      rw [List.nodup_cons] at h
      have hfilter : words.filter (fun other => !other == word) = words := by
        rw [List.filter_eq_self]
        intro other hother
        have hne : other ≠ word := fun heq => h.1 (heq ▸ hother)
        simpa using hne
      rw [List.eraseDups_cons, hfilter, ih h.2]

section

variable {word : String} (hword : IsClassWord word) (element : Element) {words : List String}
  (hwords : ∀ w ∈ words, IsClassWord w) (hnodup : words.Nodup) (hnew : word ∉ words)

include hwords hnodup hnew

theorem markClass_withClasses :
    (element.withClasses words).markClass word true = element.withClasses (words ++ [word]) := by
  have hclasses := classes_withClasses element hwords
  have habsent : (element.withClasses words).hasClass word = false := by
    rw [hasClass, hclasses]
    simpa using hnew
  rw [markClass_true habsent, hclasses, eraseDups_eq_self hnodup, withClasses_withClasses]

include hword

theorem markClass_withClasses_append :
    (element.withClasses (words ++ [word])).markClass word false = element.withClasses words := by
  have hall : ∀ w ∈ words ++ [word], IsClassWord w := by
    intro w hw
    rcases List.mem_append.mp hw with hw | hw
    · exact hwords w hw
    · exact List.mem_singleton.mp hw ▸ hword
  have hall_nodup : (words ++ [word]).Nodup := by
    rw [List.nodup_append]
    refine ⟨hnodup, by simp, ?_⟩
    rintro a ha b hb rfl
    exact hnew (List.mem_singleton.mp hb ▸ ha)
  have hfilter : (words ++ [word]).filter (· != word) = words := by
    rw [List.filter_append, List.filter_eq_self.mpr, List.filter_eq_nil_iff.mpr, List.append_nil]
    · simp
    · intro w hw
      have hne : w ≠ word := fun heq => hnew (heq ▸ hw)
      simpa using hne
  have hclasses := classes_withClasses element hall
  have hthere : (element.withClasses (words ++ [word])).hasClass word = true := by
    rw [hasClass, hclasses]
    simp
  rw [markClass_false hthere, hclasses, eraseDups_eq_self hall_nodup, hfilter,
    withClasses_withClasses]

end

/-- The opposite mark can be undone without a trace. -/
def Steady (element : Element) (word : String) : Prop :=
  (element.markClass word (!element.hasClass word)).markClass word (element.hasClass word) = element

/-- A mark that has changed an element has written its class attribute, and leaves it steady. -/
theorem steady_markClass {word : String} (hword : IsClassWord word) {element : Element} {on : Bool}
    (h : element.hasClass word ≠ on) : (element.markClass word on).Steady word := by
  have hdistinct := nodup_eraseDups element.classes
  have hvalid : ∀ w ∈ element.classes.eraseDups, IsClassWord w := by
    intro w hw
    exact isClassWord_of_mem_classes (List.mem_eraseDups.mp hw)
  have hmark : (element.markClass word on).hasClass word = on := by
    rw [hasClass_markClass hword, if_pos rfl]
  rw [Steady, hmark]
  -- once the attribute is written anew, the word can only come and go at its end
  cases on with
  | true =>
      have hnew : word ∉ element.classes.eraseDups := by
        rw [List.mem_eraseDups]
        simpa [hasClass] using h
      rw [markClass_true (Bool.eq_false_iff.mpr h), Bool.not_true,
        markClass_withClasses_append hword element hvalid hdistinct hnew,
        markClass_withClasses element hvalid hdistinct hnew]
  | false =>
      have hvalid' : ∀ w ∈ element.classes.eraseDups.filter (· != word), IsClassWord w := by
        intro w hw
        exact hvalid w (List.mem_filter.mp hw).1
      have hnew : word ∉ element.classes.eraseDups.filter (· != word) := by simp
      rw [markClass_false (Bool.ne_false_iff.mp h), Bool.not_false,
        markClass_withClasses element hvalid' (hdistinct.filter _) hnew,
        markClass_withClasses_append hword element hvalid' (hdistinct.filter _) hnew]

theorem Steady.markClass {word : String} (hword : IsClassWord word) {element : Element}
    (h : element.Steady word) (on : Bool) : (element.markClass word on).Steady word := by
  by_cases hon : element.hasClass word = on
  · have heq : element.markClass word on = element := markClass_eq_self hon
    rw [heq]
    exact h
  · exact steady_markClass hword hon

/-- Of two marks of a steady element only the last one counts. -/
theorem Steady.markClass_markClass {word : String} (hword : IsClassWord word) {element : Element}
    (h : element.Steady word) (on last : Bool) :
    (element.markClass word on).markClass word last = element.markClass word last := by
  have hmark : (element.markClass word on).hasClass word = on := by
    rw [hasClass_markClass hword, if_pos rfl]
  by_cases hon : element.hasClass word = on
  · rw [markClass_eq_self hon]
  · by_cases hlast : last = on
    · rw [hlast, markClass_eq_self hmark]
    · have hclass : element.hasClass word = last := by
        revert hon hlast
        cases element.hasClass word <;> cases last <;> cases on <;> simp
      have hother : on = !element.hasClass word := by
        revert hon
        cases element.hasClass word <;> cases on <;> simp
      rw [Steady, ← hother, hclass] at h
      rw [h, markClass_eq_self hclass]

end Element

namespace Selector

/-! ### Selectors that do not look at a class -/

def tests (selector : Selector) : List Test :=
  selector.chains.flatMap fun chain =>
    (chain.subject :: chain.around.map Prod.snd).flatMap Compound.tests

/-- Setting or clearing the class never changes the answer of the test. -/
def Test.Ignores (word : String) (test : Test) : Prop :=
  ∀ element on, Test.accepts (Element.markClass element word on) test = Test.accepts element test

def Ignores (selector : Selector) (word : String) : Prop :=
  ∀ test ∈ selector.tests, test.Ignores word

def Test.mentions (word : String) : Test → Bool
  | .id _ => false
  | .classIs other => other == word
  | .hasAttribute name => name == "class"
  | .attributeIs name _ _ _ => name == "class"

/-- A test that does not mention the class does not look at it. -/
theorem Test.ignores_of_mentions {word : String} (hword : Element.IsClassWord word) {test : Test}
    (h : test.mentions word = false) : test.Ignores word := by
  intro element on
  cases test with
  | id value =>
      have hname : "id" ≠ "class" := by decide
      rw [accepts, accepts, Element.attribute?_markClass hname]
  | classIs other =>
      rw [mentions, beq_eq_false_iff_ne] at h
      rw [accepts, accepts, Element.hasClass_markClass hword, if_neg h]
  | hasAttribute name =>
      rw [mentions, beq_eq_false_iff_ne] at h
      rw [accepts, accepts, Element.hasAttribute, Element.hasAttribute,
        Element.attribute?_markClass h]
  | attributeIs name relation value anyCase =>
      rw [mentions, beq_eq_false_iff_ne] at h
      rw [accepts, accepts, Element.attribute?_markClass h]

def mentions (selector : Selector) (word : String) : Bool :=
  selector.tests.any (Test.mentions word)

theorem ignores_of_mentions {word : String} (hword : Element.IsClassWord word)
    {selector : Selector} (h : selector.mentions word = false) : selector.Ignores word := by
  rw [mentions, List.any_eq_false] at h
  exact fun test htest =>
    Test.ignores_of_mentions hword (Bool.eq_false_iff.mpr (h test htest))

/-- The text is a selector that does not mention the class. -/
def readsApart [Browser] (word text : String) : Bool :=
  (Browser.selector? text).any fun selector => !selector.mentions word

theorem exists_ignores_of_readsApart [Browser] {word text : String}
    (hword : Element.IsClassWord word) (h : readsApart word text = true) :
    ∃ selector, Browser.selector? text = some selector ∧ selector.Ignores word := by
  rw [readsApart, Option.any_eq_true] at h
  obtain ⟨selector, hread, hmentions⟩ := h
  exact ⟨selector, hread, ignores_of_mentions hword (by simpa using hmentions)⟩

/-- Two elements that a selector cannot tell apart. -/
structure Alike (selector : Selector) (element other : Element) : Prop where
  tag : element.tag = other.tag
  test : ∀ test ∈ selector.tests, Test.accepts element test = Test.accepts other test

theorem Alike.refl (selector : Selector) (element : Element) : selector.Alike element element :=
  ⟨rfl, fun _ _ => rfl⟩

theorem Alike.trans {selector : Selector} {a b c : Element} (hab : selector.Alike a b)
    (hbc : selector.Alike b c) : selector.Alike a c :=
  ⟨hab.tag.trans hbc.tag, fun test htest => (hab.test test htest).trans (hbc.test test htest)⟩

theorem Ignores.alike {selector : Selector} {word : String} (h : selector.Ignores word)
    (element : Element) (on : Bool) : selector.Alike (element.markClass word on) element :=
  ⟨Element.tag_markClass element word on, fun test htest => h test htest element on⟩

theorem Alike.accepts_compound {selector : Selector} {element other : Element}
    (h : selector.Alike element other) {compound : Compound}
    (hcompound : ∀ test ∈ compound.tests, test ∈ selector.tests) :
    compound.accepts element = compound.accepts other := by
  have htag : element.hasTag = other.hasTag := by
    funext tag
    rw [Element.hasTag, Element.hasTag, h.tag]
  have htests : compound.tests.all (Test.accepts element) =
      compound.tests.all (Test.accepts other) := by
    rw [Bool.eq_iff_iff, List.all_eq_true, List.all_eq_true]
    constructor
    · intro hall test htest
      rw [← h.test test (hcompound test htest)]
      exact hall test htest
    · intro hall test htest
      rw [h.test test (hcompound test htest)]
      exact hall test htest
  rw [Compound.accepts, Compound.accepts, htag, htests]

theorem acceptsAround_congr {selector : Selector} {around : List (Combinator × Compound)}
    (haround : ∀ entry ∈ around, ∀ test ∈ entry.2.tests, test ∈ selector.tests)
    {ancestors others : List Element} (h : List.Forall₂ selector.Alike ancestors others) :
    acceptsAround around ancestors = acceptsAround around others := by
  induction h generalizing around with
  | nil => rfl
  | cons hhead _ ih =>
      cases around with
      | nil => rfl
      | cons entry rest =>
          obtain ⟨combinator, compound⟩ := entry
          have hfirst := hhead.accepts_compound (haround (combinator, compound) List.mem_cons_self)
          have hrest := ih fun other hother =>
            haround other (List.mem_cons_of_mem (combinator, compound) hother)
          cases combinator with
          | child => rw [acceptsAround, acceptsAround, hfirst, hrest]
          | descendant => rw [acceptsAround, acceptsAround, hfirst, hrest, ih haround]

/-- A selector accepts one of two elements that it cannot tell apart if it accepts the other. -/
theorem accepts_congr {selector : Selector} {ancestors others : List Element}
    {element other : Element} (hancestors : List.Forall₂ selector.Alike ancestors others)
    (h : selector.Alike element other) :
    selector.accepts ancestors element = selector.accepts others other := by
  have hchain : ∀ chain ∈ selector.chains,
      chain.accepts ancestors element = chain.accepts others other := by
    intro chain hchain
    have hmem : ∀ compound ∈ chain.subject :: chain.around.map Prod.snd,
        ∀ test ∈ compound.tests, test ∈ selector.tests := by
      intro compound hcompound test htest
      exact List.mem_flatMap.mpr ⟨chain, hchain, List.mem_flatMap.mpr ⟨compound, hcompound, htest⟩⟩
    rw [Chain.accepts, Chain.accepts, h.accepts_compound (hmem chain.subject List.mem_cons_self),
      acceptsAround_congr (fun entry hentry => hmem entry.2
        (List.mem_cons_of_mem chain.subject (List.mem_map_of_mem hentry))) hancestors]
  rw [accepts, accepts, Bool.eq_iff_iff, List.any_eq_true, List.any_eq_true]
  constructor
  · rintro ⟨chain, hmem, haccepts⟩
    exact ⟨chain, hmem, hchain chain hmem ▸ haccepts⟩
  · rintro ⟨chain, hmem, haccepts⟩
    exact ⟨chain, hmem, (hchain chain hmem).symm ▸ haccepts⟩

end Selector

end PageSync
