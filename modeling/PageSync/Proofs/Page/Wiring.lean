import PageSync.Page.Edit
import PageSync.Proofs.Page.Likeness
import PageSync.Proofs.Page.Moves

/-!
The tag of a field and its digit filter go together: an element has one filter if it has the tag,
and else none (`Element.WiredOnce`). Updates and edits of a page keep this of all its elements if
they keep it of each. An event that is typed into such a field leaves the digits of what was typed,
and into any other element just what was typed (`Page.WiredOnce.typed_eq`).
-/

namespace PageSync

open Pass (boundAttribute isUnbound wired)

def asciiDigits (text : String) : String :=
  String.ofList (text.toList.filter fun c => decide ('0' ≤ c ∧ c ≤ '9'))

theorem only_eq_asciiDigits (text : String) : Digits.only text = asciiDigits text := by
  rw [Digits.only, asciiDigits]
  congr 2
  funext c
  rw [Char.isDigit, Bool.decide_and]
  rfl

theorem asciiDigits_asciiDigits (text : String) :
    asciiDigits (asciiDigits text) = asciiDigits text := by
  simp [asciiDigits]

namespace Element

def WiredOnce (element : Element) : Prop :=
  element.filters = if element.hasAttribute boundAttribute then 1 else 0

variable {a b element : Element}

theorem wiredOnce_congr (hattribute : a.attribute? boundAttribute = b.attribute? boundAttribute)
    (hfilters : a.filters = b.filters) : a.WiredOnce ↔ b.WiredOnce := by
  rw [WiredOnce, WiredOnce, hasAttribute, hasAttribute, hattribute, hfilters]

theorem WiredOnce.filters_le_one (h : element.WiredOnce) : element.filters ≤ 1 := by
  rw [h]
  split
  · exact Nat.le_refl 1
  · exact Nat.zero_le 1

theorem WiredOnce.filters_eq_one_iff (h : element.WiredOnce) :
    element.filters = 1 ↔ element.hasAttribute boundAttribute = true := by
  rw [h]
  split
  · next htag => exact iff_of_true rfl htag
  · next htag => exact iff_of_false Nat.zero_ne_one htag

/-- A field without the tag has no filter, so wiring gives it its first. -/
theorem WiredOnce.wired (h : element.WiredOnce) (hunbound : isUnbound element = true) :
    (wired element).WiredOnce := by
  have htag : element.hasAttribute boundAttribute = false := by
    simpa using (Bool.and_eq_true_iff.mp hunbound).2
  rw [WiredOnce, htag] at h
  rw [WiredOnce, hasAttribute_wired_self, filters_wired, h]
  rfl

/-- The fields to wire are those without a filter. -/
theorem WiredOnce.isUnbound_eq (h : element.WiredOnce) :
    isUnbound element = (element.isInput && element.filters == 0) := by
  rw [isUnbound, h]
  cases element.hasAttribute boundAttribute with
  | true => rfl
  | false => rfl

theorem attribute?_removeAttribute_of_ne (element : Element) {name other : String}
    (h : other ≠ name) :
    (element.removeAttribute name).attribute? other = element.attribute? other := by
  simp only [attribute?, removeAttribute]
  induction element.attributes with
  | nil => rfl
  | cons head tail ih =>
      obtain ⟨key, value⟩ := head
      by_cases hkey : key = name
      · have hb : (other == key) = false := beq_false_of_ne (hkey ▸ h)
        simp [hkey, List.lookup_cons, hkey ▸ hb, ih]
      · simp [hkey, List.lookup_cons, ih]

/-! ### Typing -/

def setValue (element : Element) (value : String) : Element := { element with value }

theorem filtered_eq (element : Element) :
    element.filtered = element.setValue (asciiDigits element.value) := by
  rw [filtered, Digits.correction?, setValue, ← only_eq_asciiDigits]
  by_cases hall : element.value.toList.all Char.isDigit = true
  · have hsame : Digits.only element.value = element.value := by
      rw [Digits.only, List.filter_eq_self.mpr (List.all_eq_true.mp hall), String.ofList_toList]
    rw [if_pos hall, hsame]
  · rw [if_neg hall]

/-- What an input event leaves in a field with the number of filters that its tag tells. -/
def typedValue (tagged : Bool) (value : String) : String :=
  if tagged then asciiDigits value else value

theorem typedValue_typedValue (tagged : Bool) (value : String) :
    typedValue tagged (typedValue tagged value) = typedValue tagged value := by
  cases tagged with
  | true => exact asciiDigits_asciiDigits value
  | false => rfl

/-- Typing changes nothing but the value. -/
theorem exists_typed_eq (element : Element) (value : String) (listening : Nat) :
    ∃ left, element.typed value listening = element.setValue left := by
  induction listening with
  | zero => exact ⟨value, rfl⟩
  | succ listening ih =>
      obtain ⟨left, hleft⟩ := ih
      refine ⟨asciiDigits left, ?_⟩
      show (element.typed value listening).filtered = _
      rw [hleft, filtered_eq]
      rfl

theorem typed_eq (element : Element) (value : String) (tagged : Bool) :
    element.typed value (if tagged then 1 else 0) =
      element.setValue (typedValue tagged value) := by
  cases tagged with
  | true => exact filtered_eq (element.setValue value)
  | false => rfl

/-- No selector looks at the current value. -/
theorem alike_value (selector : Selector) (element : Element) (value : String) :
    selector.Alike (element.setValue value) element :=
  ⟨rfl, fun test _ => by cases test <;> rfl⟩

end Element

/-! ### Elements of a changed forest -/

namespace Forest

theorem mem_toList_update {f : Nat → Element → Element} {text? : Nat → Option String}
    {forest : Forest (Nat × Element)} {entry : Nat × Element}
    (h : entry ∈ (forest.update f text?).toList) :
    ∃ old ∈ forest.toList, entry = (old.1, f old.1 old.2) := by
  obtain ⟨later, hlater, rfl⟩ := exists_place_of_mem_toList [] h
  rw [places_update_nil] at hlater
  obtain ⟨place, hplace, rfl⟩ := List.mem_map.mp hlater
  refine ⟨(place.node.id, place.node.element), ?_, rfl⟩
  rw [← map_entry_places []]
  exact List.mem_map_of_mem (List.mem_filter.mp hplace).1

theorem mem_toList_remove {id : Nat} {forest : Forest (Nat × Element)} {entry : Nat × Element}
    (h : entry ∈ (forest.remove id).toList) : entry ∈ forest.toList := by
  induction forest with
  | nil => exact h
  | text content rest ih => exact ih h
  | element item children rest ihc ihr =>
      obtain ⟨other, item⟩ := item
      rw [remove] at h
      split at h
      · exact List.mem_cons_of_mem _ (List.mem_append_right _ (ihr h))
      · rcases List.mem_cons.mp h with rfl | h
        · exact List.mem_cons_self
        · rcases List.mem_append.mp h with h | h
          · exact List.mem_cons_of_mem _ (List.mem_append_left _ (ihc h))
          · exact List.mem_cons_of_mem _ (List.mem_append_right _ (ihr h))

theorem mem_toList_changeContent_append {id : Nat} {nodes forest : Forest (Nat × Element)}
    {entry : Nat × Element}
    (h : entry ∈ (forest.changeContent id fun content => content.append nodes).toList) :
    entry ∈ forest.toList ∨ entry ∈ nodes.toList := by
  induction forest with
  | nil => exact .inl h
  | text content rest ih => exact ih h
  | element item children rest ihc ihr =>
      obtain ⟨other, item⟩ := item
      rcases List.mem_cons.mp h with rfl | h
      · exact .inl List.mem_cons_self
      · rcases List.mem_append.mp h with h | h
        · have hchildren : entry ∈ children.toList ∨ entry ∈ nodes.toList := by
            split at h
            · rwa [toList_append, List.mem_append] at h
            · exact ihc h
          exact hchildren.imp_left fun h => List.mem_cons_of_mem _ (List.mem_append_left _ h)
        · exact (ihr h).imp_left fun h => List.mem_cons_of_mem _ (List.mem_append_right _ h)

theorem mem_unnumber {forest : Forest (Nat × Element)} {element : Element} :
    element ∈ forest.unnumber.toList ↔ ∃ entry ∈ forest.toList, entry.2 = element := by
  rw [unnumber, toList_map, List.mem_map]

/-- A change that leaves the element with the number leaves the forest. -/
theorem change_eq_self {id : Nat} {f : Element → Element} {forest : Forest (Nat × Element)}
    (h : ∀ entry ∈ forest.toList, entry.1 = id → f entry.2 = entry.2) :
    forest.change id f = forest := by
  induction forest with
  | nil => rfl
  | text content rest ih => exact congrArg (Forest.text content) (ih h)
  | element item children rest ihc ihr =>
      obtain ⟨other, item⟩ := item
      simp only [toList, List.mem_cons, List.mem_append] at h
      have hitem : (if other = id then f item else item) = item := by
        split
        · next heq => exact h (other, item) (.inl rfl) heq
        · rfl
      have hchildren := ihc fun entry hentry => h entry (.inr (.inl hentry))
      have hrest := ihr fun entry hentry => h entry (.inr (.inr hentry))
      show Forest.element (other, if other = id then f item else item) (children.change id f)
        (rest.change id f) = _
      rw [hitem, hchildren, hrest]

end Forest

/-! ### Pages -/

namespace Page

def WiredOnce (page : Page) : Prop := ∀ element ∈ page.content.toList, element.WiredOnce

def Fresh (page : Page) : Prop :=
  ∀ element ∈ page.content.toList,
    element.hasAttribute boundAttribute = false ∧ element.filters = 0

instance (page : Page) : Decidable page.Fresh :=
  inferInstanceAs (Decidable (∀ element ∈ page.content.toList, _))

variable {page : Page}

theorem Fresh.wiredOnce (h : page.Fresh) : page.WiredOnce := by
  intro element helement
  obtain ⟨htag, hfilters⟩ := h element helement
  rw [Element.WiredOnce, htag, hfilters]
  rfl

theorem WiredOnce.entry (h : page.WiredOnce) {entry : Nat × Element}
    (hentry : entry ∈ page.scene.attached.toList) : entry.2.WiredOnce := by
  apply h
  rw [← Forest.unnumber_number 0 page.content, Forest.mem_unnumber]
  exact ⟨entry, hentry, rfl⟩

theorem WiredOnce.place (h : page.WiredOnce) {place : Place} (hplace : place ∈ page.scene.places) :
    place.node.element.WiredOnce := by
  have hentry : (place.node.id, place.node.element) ∈ page.scene.attached.toList := by
    rw [← Forest.map_entry_places []]
    exact List.mem_map_of_mem hplace
  exact h.entry hentry

theorem WiredOnce.update (h : page.WiredOnce) {f : Nat → Element → Element}
    {text? : Nat → Option String}
    (hf : ∀ entry ∈ page.scene.attached.toList, entry.2.WiredOnce →
      (f entry.1 entry.2).WiredOnce) :
    WiredOnce ⟨(page.scene.attached.update f text?).unnumber⟩ := by
  intro element helement
  obtain ⟨entry, hentry, rfl⟩ := Forest.mem_unnumber.mp helement
  obtain ⟨old, hold, rfl⟩ := Forest.mem_toList_update hentry
  exact hf old hold (h.entry hold)

theorem WiredOnce.change (h : page.WiredOnce) (id : Nat) {f : Element → Element}
    (hf : ∀ element : Element, element.WiredOnce → (f element).WiredOnce) :
    (page.edit (·.change id f)).WiredOnce := by
  rw [edit, Forest.change_eq_update]
  apply h.update
  intro entry _ hentry
  split
  · exact hf entry.2 hentry
  · exact hentry

theorem WiredOnce.typed (h : page.WiredOnce) (node : Scene.Node) (value event : String) :
    (page.typed node value event).1.WiredOnce := by
  apply h.change
  intro element helement
  obtain ⟨left, hleft⟩ :=
    Element.exists_typed_eq element value (if event = "input" then node.element.filters else 0)
  rw [hleft]
  exact (Element.wiredOnce_congr rfl rfl).mpr helement

theorem WiredOnce.append (h : page.WiredOnce) {nodes : Forest Element}
    (hnodes : ∀ element ∈ nodes.toList, element.WiredOnce) : (page.append nodes).WiredOnce := by
  intro element helement
  rw [Page.append, Forest.toList_append, List.mem_append] at helement
  exact helement.elim (h element) (hnodes element)

variable [Browser]

theorem WiredOnce.appendTo? (h : page.WiredOnce) {selector : String} {nodes : Forest Element}
    (hnodes : ∀ element ∈ nodes.toList, element.WiredOnce) {last : Page}
    (hlast : page.appendTo? selector nodes = some last) : last.WiredOnce := by
  obtain ⟨node, -, rfl⟩ := Option.map_eq_some_iff.mp hlast
  intro element helement
  obtain ⟨entry, hentry, rfl⟩ := Forest.mem_unnumber.mp helement
  rcases Forest.mem_toList_changeContent_append hentry with hentry | hentry
  · exact h.entry hentry
  · apply hnodes
    rw [← Forest.unnumber_number page.content.size nodes, Forest.mem_unnumber]
    exact ⟨entry, hentry, rfl⟩

theorem WiredOnce.remove? (h : page.WiredOnce) {selector : String} {last : Page}
    (hlast : page.remove? selector = some last) : last.WiredOnce := by
  obtain ⟨node, -, rfl⟩ := Option.map_eq_some_iff.mp hlast
  intro element helement
  obtain ⟨entry, hentry, rfl⟩ := Forest.mem_unnumber.mp helement
  exact h.entry (Forest.mem_toList_remove hentry)

theorem WiredOnce.setAttribute? (h : page.WiredOnce) {selector name : String}
    {value : Option String} (hname : name ≠ boundAttribute) {last : Page}
    (hlast : page.setAttribute? selector name value = some last) : last.WiredOnce := by
  obtain ⟨node, -, rfl⟩ := Option.map_eq_some_iff.mp hlast
  apply h.change
  intro element helement
  cases value with
  | some value =>
      exact (Element.wiredOnce_congr
        (Element.attribute?_setAttribute_of_ne element hname.symm value) rfl).mpr helement
  | none =>
      exact (Element.wiredOnce_congr
        (Element.attribute?_removeAttribute_of_ne element hname.symm) rfl).mpr helement

end Page

end PageSync
