import Mathlib.Data.List.Nodup
import PageSync.Page.Scene

/-!
The places of a forest: its elements in document order, each with what it contains and with the
numbered elements around it. Searching by number and searching by selector are searches in this
list. Where no number occurs twice, a place is known by its number, and an element lies within
another exactly if the number of the other is among those around it.
-/

namespace PageSync

structure Place where
  /-- the elements around it, the innermost first -/
  around : List (Nat × Element)
  node : Scene.Node

namespace Place

def inside (place : Place) : List (Nat × Element) :=
  (place.node.id, place.node.element) :: place.around

def Within (place : Place) (id : Nat) : Prop := id ∈ place.around.map Prod.fst

instance (place : Place) (id : Nat) : Decidable (place.Within id) :=
  inferInstanceAs (Decidable (_ ∈ _))

def ancestors (outer : List Element) (place : Place) : List Element :=
  place.around.map Prod.snd ++ outer

def accepted (outer : List Element) (selector : Selector) (place : Place) : Bool :=
  selector.accepts (place.ancestors outer) place.node.element

end Place

namespace Forest

def places (around : List (Nat × Element)) : Forest (Nat × Element) → List Place
  | .nil => []
  | .text _ rest => rest.places around
  | .element (id, item) children rest =>
    ⟨around, ⟨id, item, children⟩⟩ ::
      (children.places ((id, item) :: around) ++ rest.places around)

def numbers {α : Type} (forest : Forest (Nat × α)) : List Nat := forest.toList.map Prod.fst

@[simp] theorem numbers_nil {α : Type} : (Forest.nil : Forest (Nat × α)).numbers = [] := rfl

@[simp] theorem numbers_text {α : Type} (content : String) (rest : Forest (Nat × α)) :
    (Forest.text content rest).numbers = rest.numbers := rfl

@[simp] theorem numbers_element {α : Type} (id : Nat) (item : α)
    (children rest : Forest (Nat × α)) :
    (Forest.element (id, item) children rest).numbers =
      id :: (children.numbers ++ rest.numbers) := by
  simp [numbers, toList]

@[simp] theorem numbers_append {α : Type} (forest other : Forest (Nat × α)) :
    (forest.append other).numbers = forest.numbers ++ other.numbers := by
  simp [numbers]

/-- No number occurs twice in a forest that was numbered in document order. -/
theorem nodup_numbers_number {α : Type} (n : Nat) (forest : Forest α) :
    (forest.number n).numbers.Nodup := by
  rw [numbers, fst_number]
  exact List.nodup_range'

/-- The places of a forest are its elements, in the same order. -/
theorem map_entry_places (around : List (Nat × Element)) (forest : Forest (Nat × Element)) :
    (forest.places around).map (fun place => (place.node.id, place.node.element)) =
      forest.toList := by
  induction forest generalizing around with
  | nil => rfl
  | text _ _ ih => exact ih around
  | element item children rest ihc ihr =>
      obtain ⟨id, item⟩ := item
      simp [places, toList, ihc, ihr]

@[simp] theorem map_id_places (around : List (Nat × Element)) (forest : Forest (Nat × Element)) :
    (forest.places around).map (·.node.id) = forest.numbers := by
  rw [numbers, ← map_entry_places around, List.map_map]
  rfl

theorem id_mem_numbers {around : List (Nat × Element)} {forest : Forest (Nat × Element)}
    {place : Place} (h : place ∈ forest.places around) : place.node.id ∈ forest.numbers := by
  rw [← map_id_places around]
  exact List.mem_map_of_mem h

theorem exists_place_of_mem_numbers (around : List (Nat × Element))
    {forest : Forest (Nat × Element)} {id : Nat} (h : id ∈ forest.numbers) :
    ∃ place ∈ forest.places around, place.node.id = id := by
  rw [← map_id_places around] at h
  exact List.mem_map.mp h

theorem exists_place_of_mem_toList (around : List (Nat × Element))
    {forest : Forest (Nat × Element)} {entry : Nat × Element} (h : entry ∈ forest.toList) :
    ∃ place ∈ forest.places around, (place.node.id, place.node.element) = entry := by
  rw [← map_entry_places around] at h
  exact List.mem_map.mp h

/-! ### Searching -/

/-- A selector finds the places that it accepts. -/
theorem select_eq_places (selector : Selector) (around : List (Nat × Element))
    (outer : List Element) (forest : Forest (Nat × Element)) :
    forest.select selector (around.map Prod.snd ++ outer) =
      ((forest.places around).filter (Place.accepted outer selector)).map Place.node := by
  induction forest generalizing around with
  | nil => rfl
  | text _ _ ih => exact ih around
  | element item children rest ihc ihr =>
      obtain ⟨id, item⟩ := item
      have hchildren := ihc ((id, item) :: around)
      rw [List.map_cons, List.cons_append] at hchildren
      simp only [select, places, List.filter_cons, List.filter_append, hchildren, ihr around]
      by_cases h : selector.accepts (around.map Prod.snd ++ outer) item
      · simp [Place.accepted, Place.ancestors, h]
      · simp [Place.accepted, Place.ancestors, h]

/-- A number finds the first place that has it. -/
theorem locate?_eq_places (id : Nat) (around : List (Nat × Element)) (outer : List Element)
    (forest : Forest (Nat × Element)) :
    forest.locate? id (around.map Prod.snd ++ outer) =
      ((forest.places around).find? (·.node.id == id)).map fun place =>
        (place.ancestors outer, place.node) := by
  induction forest generalizing around with
  | nil => rfl
  | text _ _ ih => exact ih around
  | element item children rest ihc ihr =>
      obtain ⟨other, item⟩ := item
      have hchildren := ihc ((other, item) :: around)
      rw [List.map_cons, List.cons_append] at hchildren
      simp only [locate?, places, List.find?_cons, List.find?_append, hchildren, ihr around]
      by_cases h : other = id
      · simp [h, Place.ancestors]
      · have hb : (other == id) = false := beq_false_of_ne h
        simp [h, hb, Option.map_or]

theorem place_unique {around : List (Nat × Element)} {forest : Forest (Nat × Element)}
    (hnodup : forest.numbers.Nodup) {place other : Place} (hplace : place ∈ forest.places around)
    (hother : other ∈ forest.places around) (h : place.node.id = other.node.id) :
    place = other := by
  rw [← map_id_places around] at hnodup
  exact List.inj_on_of_nodup_map hnodup hplace hother h

theorem locate?_of_mem_places {around : List (Nat × Element)} {forest : Forest (Nat × Element)}
    (hnodup : forest.numbers.Nodup) {place : Place} (hplace : place ∈ forest.places around)
    (outer : List Element) :
    forest.locate? place.node.id (around.map Prod.snd ++ outer) =
      some (place.ancestors outer, place.node) := by
  have hfind : (forest.places around).find? (·.node.id == place.node.id) = some place := by
    cases h : (forest.places around).find? (·.node.id == place.node.id) with
    | none =>
        have := List.find?_eq_none.mp h place hplace
        simp at this
    | some found =>
        have hid : found.node.id = place.node.id := by simpa using List.find?_some h
        rw [place_unique hnodup (List.mem_of_find?_eq_some h) hplace hid]
  rw [locate?_eq_places, hfind, Option.map_some]

theorem locate?_eq_none {forest : Forest (Nat × Element)} {id : Nat} (h : id ∉ forest.numbers)
    (around : List (Nat × Element)) (outer : List Element) :
    forest.locate? id (around.map Prod.snd ++ outer) = none := by
  rw [locate?_eq_places, Option.map_eq_none_iff, List.find?_eq_none]
  intro place hplace hid
  exact h (beq_iff_eq.mp hid ▸ id_mem_numbers hplace)

theorem id_of_locate? {id : Nat} {ancestors : List Element} {forest : Forest (Nat × Element)}
    {found : List Element × Scene.Node} (h : forest.locate? id ancestors = some found) :
    found.2.id = id := by
  have hplaces := locate?_eq_places id [] ancestors forest
  rw [List.map_nil, List.nil_append, h, eq_comm, Option.map_eq_some_iff] at hplaces
  obtain ⟨place, hfind, rfl⟩ := hplaces
  simpa using List.find?_some hfind

/-! ### Places within places -/

/-- What is around a forest is around each of its places. -/
theorem suffix_around {around : List (Nat × Element)} {forest : Forest (Nat × Element)}
    {place : Place} (h : place ∈ forest.places around) : around <:+ place.around := by
  induction forest generalizing around with
  | nil => simp [places] at h
  | text _ _ ih => exact ih h
  | element item children rest ihc ihr =>
      obtain ⟨id, item⟩ := item
      simp only [places, List.mem_cons, List.mem_append] at h
      rcases h with rfl | h | h
      · exact List.suffix_refl around
      · exact (List.suffix_cons (id, item) around).trans (ihc h)
      · exact ihr h

/-- The places within an element are places of the forest. -/
theorem mem_places_of_mem_content {around : List (Nat × Element)}
    {forest : Forest (Nat × Element)} {outer inner : Place} (houter : outer ∈ forest.places around)
    (hinner : inner ∈ outer.node.content.places outer.inside) :
    inner ∈ forest.places around := by
  induction forest generalizing around with
  | nil => simp [places] at houter
  | text _ _ ih => exact ih houter
  | element item children rest ihc ihr =>
      obtain ⟨id, item⟩ := item
      simp only [places, List.mem_cons, List.mem_append] at houter ⊢
      rcases houter with rfl | houter | houter
      · exact .inr (.inl hinner)
      · exact .inr (.inl (ihc houter))
      · exact .inr (.inr (ihr houter))

theorem numbers_content_sublist {around : List (Nat × Element)} {forest : Forest (Nat × Element)}
    {place : Place} (h : place ∈ forest.places around) :
    place.node.content.numbers.Sublist forest.numbers := by
  induction forest generalizing around with
  | nil => simp [places] at h
  | text _ _ ih => exact ih h
  | element item children rest ihc ihr =>
      obtain ⟨id, item⟩ := item
      simp only [places, List.mem_cons, List.mem_append] at h
      rw [numbers_element]
      rcases h with rfl | h | h
      · exact (List.sublist_append_left _ _).cons id
      · exact ((ihc h).trans (List.sublist_append_left _ _)).cons id
      · exact ((ihr h).trans (List.sublist_append_right _ _)).cons id

/-- Each element around a place, unless it is around the forest, is a place that it lies in. -/
theorem mem_content_of_mem_around {around : List (Nat × Element)}
    {forest : Forest (Nat × Element)} {inner : Place} (hinner : inner ∈ forest.places around)
    {id : Nat} (hid : inner.Within id) (haround : id ∉ around.map Prod.fst) :
    ∃ outer ∈ forest.places around,
      outer.node.id = id ∧ inner ∈ outer.node.content.places outer.inside := by
  induction forest generalizing around with
  | nil => simp [places] at hinner
  | text _ _ ih => exact ih hinner haround
  | element item children rest ihc ihr =>
      obtain ⟨other, item⟩ := item
      simp only [places, List.mem_cons, List.mem_append] at hinner
      rcases hinner with rfl | hinner | hinner
      · exact absurd hid haround
      · -- it is this element, or one further in
        by_cases h : id = other
        · subst h
          exact ⟨⟨around, ⟨id, item, children⟩⟩, List.mem_cons_self, rfl, hinner⟩
        · obtain ⟨outer, houter, heq, hmem⟩ := ihc hinner (by simpa [h] using haround)
          exact ⟨outer, by simp [places, houter], heq, hmem⟩
      · obtain ⟨outer, houter, heq, hmem⟩ := ihr hinner haround
        exact ⟨outer, by simp [places, houter], heq, hmem⟩

theorem within_of_mem_content {outer inner : Place}
    (h : inner ∈ outer.node.content.places outer.inside) : inner.Within outer.node.id := by
  obtain ⟨before, hbefore⟩ := suffix_around h
  rw [Place.Within, ← hbefore, List.map_append]
  exact List.mem_append_right _ List.mem_cons_self

section

variable {forest : Forest (Nat × Element)} (hnodup : forest.numbers.Nodup)

include hnodup

theorem mem_content_of_within {outer inner : Place} (houter : outer ∈ forest.places [])
    (hinner : inner ∈ forest.places []) (h : inner.Within outer.node.id) :
    inner ∈ outer.node.content.places outer.inside := by
  obtain ⟨other, hother, hid, hmem⟩ := mem_content_of_mem_around hinner h (by simp)
  rwa [place_unique hnodup hother houter hid] at hmem

/-- An element lies within another exactly if the other contains its number. -/
theorem within_iff {outer inner : Place} (houter : outer ∈ forest.places [])
    (hinner : inner ∈ forest.places []) :
    inner.Within outer.node.id ↔ inner.node.id ∈ outer.node.content.numbers := by
  constructor
  · intro h
    exact id_mem_numbers (mem_content_of_within hnodup houter hinner h)
  · intro h
    obtain ⟨place, hplace, hid⟩ := exists_place_of_mem_numbers outer.inside h
    have hmem := mem_places_of_mem_content houter hplace
    rw [← place_unique hnodup hmem hinner hid]
    exact within_of_mem_content hplace

theorem not_within_self {place : Place} (hplace : place ∈ forest.places []) :
    ¬place.Within place.node.id := by
  intro h
  have hmem := mem_content_of_within hnodup hplace hplace h
  -- what is around it would be longer than itself
  have hlength := (suffix_around hmem).length_le
  rw [Place.inside, List.length_cons] at hlength
  omega

theorem within_trans {place outer : Place} (hplace : place ∈ forest.places [])
    (houter : outer ∈ forest.places []) (h : place.Within outer.node.id) {id : Nat}
    (hid : outer.Within id) : place.Within id := by
  obtain ⟨before, hbefore⟩ := suffix_around (mem_content_of_within hnodup houter hplace h)
  rw [Place.Within, ← hbefore, List.map_append]
  exact List.mem_append_right _ (List.mem_cons_of_mem _ hid)

/-- Of two elements around a third, one is the other or lies within it. -/
theorem within_comparable {place a b : Place} (hplace : place ∈ forest.places [])
    (ha : a ∈ forest.places []) (hb : b ∈ forest.places []) (hwa : place.Within a.node.id)
    (hwb : place.Within b.node.id) :
    a = b ∨ a.Within b.node.id ∨ b.Within a.node.id := by
  have hsa := suffix_around (mem_content_of_within hnodup ha hplace hwa)
  have hsb := suffix_around (mem_content_of_within hnodup hb hplace hwb)
  -- the chains of both end the chain around the third, so one of them ends the other
  have hstep : ∀ {x y : Place}, x ∈ forest.places [] → y ∈ forest.places [] →
      x.inside <:+ y.inside → x = y ∨ y.Within x.node.id := by
    intro x y hx hy hsuffix
    rcases List.suffix_cons_iff.mp hsuffix with heq | hsuffix
    · have hid : x.node.id = y.node.id := congrArg Prod.fst (List.cons.inj heq).1
      exact .inl (place_unique hnodup hx hy hid)
    · exact .inr ((hsuffix.map Prod.fst).subset List.mem_cons_self)
  rcases List.suffix_or_suffix_of_suffix hsa hsb with h | h
  · rcases hstep ha hb h with heq | hwithin
    · exact .inl heq
    · exact .inr (.inr hwithin)
  · rcases hstep hb ha h with heq | hwithin
    · exact .inl heq.symm
    · exact .inr (.inl hwithin)

end

theorem mem_of_within {around : List (Nat × Element)} {forest : Forest (Nat × Element)}
    {place : Place} (hplace : place ∈ forest.places around) {id : Nat} (h : place.Within id) :
    id ∈ around.map Prod.fst ∨ id ∈ forest.numbers := by
  by_cases haround : id ∈ around.map Prod.fst
  · exact .inl haround
  · obtain ⟨outer, houter, hid, -⟩ := mem_content_of_mem_around hplace h haround
    exact .inr (hid ▸ id_mem_numbers houter)

/-- In document order an element comes after those around it. -/
theorem pairwise_places {around : List (Nat × Element)} {forest : Forest (Nat × Element)}
    (hnodup : forest.numbers.Nodup)
    (haround : ∀ id ∈ around.map Prod.fst, id ∉ forest.numbers) :
    (forest.places around).Pairwise fun earlier later => ¬earlier.Within later.node.id := by
  induction forest generalizing around with
  | nil => exact List.Pairwise.nil
  | text _ _ ih => exact ih hnodup haround
  | element item children rest ihc ihr =>
      obtain ⟨id, item⟩ := item
      simp only [numbers_element, List.nodup_cons, List.nodup_append, List.mem_append,
        not_or] at hnodup
      obtain ⟨⟨hidc, hidr⟩, hchildren, hrest, hdisjoint⟩ := hnodup
      have hoc : ∀ other ∈ ((id, item) :: around).map Prod.fst, other ∉ children.numbers := by
        intro other hother hmem
        rcases List.mem_cons.mp hother with rfl | hother
        · exact hidc hmem
        · exact haround other hother (by simp [hmem])
      have hor : ∀ other ∈ around.map Prod.fst, other ∉ rest.numbers := by
        intro other hother hmem
        exact haround other hother (by simp [hmem])
      rw [places, List.pairwise_cons, List.pairwise_append]
      refine ⟨?_, ihc hchildren hoc, ihr hrest hor, ?_⟩
      -- the element lies in what is around the forest, and none of that is in the forest
      · intro later hlater hwithin
        have hmem : later.node.id ∈ children.numbers ∨ later.node.id ∈ rest.numbers := by
          rcases List.mem_append.mp hlater with h | h
          · exact .inl (id_mem_numbers h)
          · exact .inr (id_mem_numbers h)
        exact haround later.node.id hwithin (by simp [hmem])
      -- what lies in the children lies in the element, in other children or around the forest
      · intro earlier hearlier later hlater hwithin
        have hmem := id_mem_numbers hlater
        rcases mem_of_within hearlier hwithin with h | h
        · rcases List.mem_cons.mp h with h | h
          · have heq : later.node.id = id := h
            exact hidr (heq ▸ hmem)
          · exact hor later.node.id h hmem
        · exact hdisjoint later.node.id h later.node.id hmem rfl

/-! ### The innermost of some elements around an element -/

section

variable {forest : Forest (Nat × Element)} (hnodup : forest.numbers.Nodup) {list : List Place}
  (hlist : list.Sublist (forest.places []))

include hnodup hlist

/-- In a part of the document order none lies within the last. -/
theorem not_within_getLast {last : Place} (hlast : list.getLast? = some last) :
    ∀ place ∈ list, ¬place.Within last.node.id := by
  have hpairwise : list.Pairwise fun earlier later => ¬earlier.Within later.node.id :=
    (pairwise_places hnodup (by simp)).sublist hlist
  obtain ⟨before, rfl⟩ := List.getLast?_eq_some_iff.mp hlast
  intro place hplace
  rcases List.mem_append.mp hplace with hbefore | hself
  · exact (List.pairwise_append.mp hpairwise).2.2 place hbefore last List.mem_cons_self
  · rw [List.mem_singleton.mp hself]
    exact not_within_self hnodup (hlist.subset (by simp))

variable {tab : Place}

theorem exists_innermost {outer : Place} (houter : outer ∈ list)
    (hwithin : tab.Within outer.node.id) :
    ∃ inner ∈ list, tab.Within inner.node.id ∧
      ∀ other ∈ list, tab.Within other.node.id → ¬other.Within inner.node.id := by
  have hmem : outer ∈ list.filter fun place => tab.Within place.node.id :=
    List.mem_filter.mpr ⟨houter, by simpa using hwithin⟩
  cases hlast : (list.filter fun place => tab.Within place.node.id).getLast? with
  | none =>
      rw [List.getLast?_eq_none_iff.mp hlast] at hmem
      contradiction
  | some last =>
      obtain ⟨hlast', hwithinLast⟩ := List.mem_filter.mp (List.mem_of_getLast? hlast)
      refine ⟨last, hlast', by simpa using hwithinLast, ?_⟩
      intro other hother hwithinOther
      exact not_within_getLast hnodup (List.filter_sublist.trans hlist) hlast other
        (List.mem_filter.mpr ⟨hother, by simpa using hwithinOther⟩)

/-- The innermost of them comes last. -/
theorem getLast?_innermost (htab : tab ∈ forest.places []) {inner : Place} (hinner : inner ∈ list)
    (hwithin : tab.Within inner.node.id)
    (hinnermost : ∀ other ∈ list, tab.Within other.node.id → ¬other.Within inner.node.id) :
    ((list.map fun place => place.node.id).filter fun id => tab.Within id).getLast? =
      some inner.node.id := by
  have hmem : inner ∈ list.filter fun place => tab.Within place.node.id :=
    List.mem_filter.mpr ⟨hinner, by simpa using hwithin⟩
  have hlast : (list.filter fun place => tab.Within place.node.id).getLast? = some inner := by
    cases hlast : (list.filter fun place => tab.Within place.node.id).getLast? with
    | none =>
        rw [List.getLast?_eq_none_iff.mp hlast] at hmem
        contradiction
    | some last =>
        obtain ⟨hlast', hwithinLast⟩ := List.mem_filter.mp (List.mem_of_getLast? hlast)
        have hwithinLast : tab.Within last.node.id := by simpa using hwithinLast
        -- of two elements around the tab one is around the other
        rcases within_comparable hnodup htab (hlist.subset hlast') (hlist.subset hinner) hwithinLast
          hwithin with heq | hlower | hupper
        · rw [heq]
        · exact absurd hlower (hinnermost last hlast' hwithinLast)
        · exact absurd hupper
            (not_within_getLast hnodup (List.filter_sublist.trans hlist) hlast inner hmem)
  rw [List.filter_map, List.getLast?_map]
  show ((list.filter fun place => tab.Within place.node.id).getLast?).map _ = _
  rw [hlast, Option.map_some]

end

end Forest

end PageSync
