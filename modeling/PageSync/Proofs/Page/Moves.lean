import PageSync.Proofs.Page.Updates

/-!
Moves in a scene: an element gets or loses a class, or a text is written into it. What a row of
moves does to the page is one update (`attached_moves`); no element is ever in two places, neither
on the page nor among what was cut off (`nodup_numbers_moves`).
-/

namespace PageSync

def Element.markListed (word : String) (marks : List (Nat × Bool)) (id : Nat) (element : Element) :
    Element :=
  match marks.lookup id with
  | some on => element.markClass word on
  | none => element

inductive Move where
  | mark (id : Nat) (on : Bool)
  | write (id : Nat) (text : String)
deriving Repr, DecidableEq

namespace Move

/-- What the marks for a number make of an element. -/
def marked (word : String) : List Move → Nat → Element → Element
  | [], _, element => element
  | .mark other on :: rest, id, element =>
    marked word rest id (if other = id then element.markClass word on else element)
  | .write _ _ :: rest, id, element => marked word rest id element

def marks (list : List Move) : List (Nat × Bool) :=
  list.filterMap fun
    | .mark id on => some (id, on)
    | .write _ _ => none

def writes (list : List Move) : List (Nat × String) :=
  list.filterMap fun
    | .mark _ _ => none
    | .write id text => some (id, text)

def lastMark? (list : List Move) (id : Nat) : Option Bool := (marks list).reverse.lookup id

def written? (list : List Move) (id : Nat) : Option String := (writes list).reverse.lookup id

theorem marked_append (word : String) (list more : List Move) (id : Nat) (element : Element) :
    marked word (list ++ more) id element = marked word more id (marked word list id element) := by
  induction list generalizing element with
  | nil => rfl
  | cons move list ih =>
      cases move with
      | mark other on => exact ih _
      | write other text => exact ih element

theorem lastMark?_append (list more : List Move) (id : Nat) :
    lastMark? (list ++ more) id = (lastMark? more id).or (lastMark? list id) := by
  rw [lastMark?, marks, List.filterMap_append, List.reverse_append, List.lookup_append]
  rfl

theorem written?_append (list more : List Move) (id : Nat) :
    written? (list ++ more) id = (written? more id).or (written? list id) := by
  rw [written?, writes, List.filterMap_append, List.reverse_append, List.lookup_append]
  rfl

theorem lastMark?_mark (other : Nat) (on : Bool) (list : List Move) (id : Nat) :
    lastMark? (.mark other on :: list) id =
      (lastMark? list id).or (if other = id then some on else none) := by
  show lastMark? ([.mark other on] ++ list) id = _
  rw [lastMark?_append]
  by_cases h : other = id
  · simp [lastMark?, marks, h]
  · have hb : (id == other) = false := beq_false_of_ne (Ne.symm h)
    simp [lastMark?, marks, h, List.lookup_cons, hb]

/-- What all moves of a row keep, the first of them keep. -/
theorem kept_of_append {list more : List Move} {place : Place}
    (h : place.kept (written? (list ++ more)) = true) : place.kept (written? list) = true := by
  rw [Place.kept_iff] at h ⊢
  intro id hid
  have hnone := h id hid
  rw [written?_append, Option.or_eq_none_iff] at hnone
  exact hnone.2

theorem lookup_eq_none_of_not_mem {α : Type} {list : List (Nat × α)} {id : Nat}
    (h : id ∉ list.map Prod.fst) : list.lookup id = none := by
  rw [List.lookup_eq_none_iff]
  intro entry hentry
  have hne : id ≠ entry.1 := by
    rintro rfl
    exact h (List.mem_map_of_mem hentry)
  simpa using hne

theorem lookup_of_mem {α : Type} {list : List (Nat × α)} (h : (list.map Prod.fst).Nodup)
    {id : Nat} {a : α} (hmem : (id, a) ∈ list) : list.lookup id = some a := by
  induction list with
  | nil => simp at hmem
  | cons entry list ih =>
      rw [List.map_cons, List.nodup_cons] at h
      rcases List.mem_cons.mp hmem with rfl | hmem
      · exact List.lookup_cons_self
      · have hne : (id == entry.1) = false := by
          apply beq_false_of_ne
          rintro rfl
          exact h.1 (List.mem_map.mpr ⟨_, hmem, rfl⟩)
        rw [List.lookup_cons, hne]
        exact ih h.2 hmem

/-- The order of a list without repeated numbers does not matter to a search in it. -/
theorem lookup_perm {α : Type} {list other : List (Nat × α)} (hperm : list.Perm other)
    (h : (list.map Prod.fst).Nodup) (id : Nat) : list.lookup id = other.lookup id := by
  have hother : (other.map Prod.fst).Nodup := (hperm.map Prod.fst).nodup_iff.mp h
  by_cases hid : id ∈ list.map Prod.fst
  · obtain ⟨⟨_, a⟩, hmem, rfl⟩ := List.mem_map.mp hid
    rw [lookup_of_mem h hmem, lookup_of_mem hother (hperm.mem_iff.mp hmem)]
  · have hid' : id ∉ other.map Prod.fst := by rwa [← (hperm.map Prod.fst).mem_iff]
    rw [lookup_eq_none_of_not_mem hid, lookup_eq_none_of_not_mem hid']

/-- Where no element is marked twice, each gets the mark that is listed for it. -/
theorem marked_eq_lookup (word : String) {list : List Move}
    (h : ((marks list).map Prod.fst).Nodup) (id : Nat) (element : Element) :
    marked word list id element = element.markListed word (marks list) id := by
  induction list generalizing element with
  | nil => rfl
  | cons move list ih =>
      cases move with
      | mark other on =>
          have hcons : marks (.mark other on :: list) = (other, on) :: marks list := rfl
          rw [hcons, List.map_cons, List.nodup_cons] at h
          rw [marked, ih h.2, hcons, Element.markListed, Element.markListed, List.lookup_cons]
          by_cases heq : other = id
          · subst heq
            simp [lookup_eq_none_of_not_mem h.1]
          · have hb : (id == other) = false := beq_false_of_ne (Ne.symm heq)
            simp [heq, hb]
      | write other text => exact ih h element

/-- What has no mark is as it was. -/
theorem marked_eq_self (word : String) {list : List Move} {id : Nat}
    (h : id ∉ (marks list).map Prod.fst) (element : Element) :
    marked word list id element = element := by
  induction list generalizing element with
  | nil => rfl
  | cons move list ih =>
      cases move with
      | mark other on =>
          have hcons : marks (.mark other on :: list) = (other, on) :: marks list := rfl
          rw [hcons, List.map_cons, List.mem_cons, not_or] at h
          rw [marked, ih h.2, if_neg (Ne.symm h.1)]
      | write other text => exact ih h element

theorem lastMark?_eq_none {list : List Move} {id : Nat} (h : id ∉ (marks list).map Prod.fst) :
    lastMark? list id = none := by
  apply lookup_eq_none_of_not_mem
  rwa [List.map_reverse, List.mem_reverse]

/-- Where no element is marked twice, the last mark is the one that is listed. -/
theorem lastMark?_eq_lookup {list : List Move} (h : ((marks list).map Prod.fst).Nodup) (id : Nat) :
    lastMark? list id = (marks list).lookup id :=
  (lookup_perm (List.reverse_perm (marks list)).symm h id).symm

/-- Where nothing is written to twice, each element gets the text that is listed for it. -/
theorem written?_eq_lookup {list : List Move} (h : ((writes list).map Prod.fst).Nodup) (id : Nat) :
    written? list id = (writes list).lookup id :=
  (lookup_perm (List.reverse_perm (writes list)).symm h id).symm

/-- Marks alone write nothing. -/
@[simp] theorem written?_marks (marks : List (Nat × Bool)) (id : Nat) :
    written? (marks.map fun entry => .mark entry.1 entry.2) id = none := by
  simp [written?, writes, List.filterMap_map]

theorem mem_writes_of_written? {list : List Move} {id : Nat} {text : String}
    (h : written? list id = some text) : (id, text) ∈ writes list := by
  obtain ⟨before, after, hsplit, -⟩ := List.lookup_eq_some_iff.mp h
  rw [← List.mem_reverse, hsplit]
  simp

theorem mem_of_written? {list : List Move} {id : Nat} {text : String}
    (h : written? list id = some text) : .write id text ∈ list := by
  obtain ⟨move, hmove, heq⟩ := List.mem_filterMap.mp (mem_writes_of_written? h)
  cases move with
  | mark other on => contradiction
  | write other new =>
      simp only [Option.some.injEq, Prod.mk.injEq] at heq
      rw [← heq.1, ← heq.2]
      exact hmove

theorem attribute?_marked {name : String} (h : name ≠ "class") (word : String) (list : List Move)
    (id : Nat) (element : Element) :
    (marked word list id element).attribute? name = element.attribute? name := by
  induction list generalizing element with
  | nil => rfl
  | cons move list ih =>
      cases move with
      | mark other on =>
          rw [marked, ih]
          split
          · exact Element.attribute?_markClass h element word on
          · rfl
      | write other text => exact ih element

@[simp] theorem filters_marked (word : String) (list : List Move) (id : Nat) (element : Element) :
    (marked word list id element).filters = element.filters := by
  induction list generalizing element with
  | nil => rfl
  | cons move list ih =>
      cases move with
      | mark other on =>
          rw [marked, ih]
          split
          · exact Element.filters_markClass element word on
          · rfl
      | write other text => exact ih element

/-- After marks the class is there as the last of them asked. -/
theorem hasClass_marked {word : String} (hword : Element.IsClassWord word) (list : List Move)
    (id : Nat) (element : Element) :
    (marked word list id element).hasClass word =
      (lastMark? list id).getD (element.hasClass word) := by
  induction list generalizing element with
  | nil => rfl
  | cons move list ih =>
      cases move with
      | mark other on =>
          rw [marked, ih, lastMark?_mark]
          by_cases h : other = id
          · simp [h, Element.hasClass_markClass hword, Option.or_some]
          · simp [h]
      | write other text => exact ih element

/-- Marks leave an element as it was, or steady. -/
theorem marked_eq_self_or_steady {word : String} (hword : Element.IsClassWord word)
    (list : List Move) (id : Nat) (element : Element) :
    marked word list id element = element ∨ (marked word list id element).Steady word := by
  induction list generalizing element with
  | nil => exact .inl rfl
  | cons move list ih =>
      cases move with
      | write other text => exact ih element
      | mark other on =>
          rw [marked]
          by_cases h : other = id ∧ element.hasClass word ≠ on
          · -- the first mark that changes something writes the attribute anew
            have hsteady := Element.steady_markClass hword h.2
            rw [if_pos h.1]
            rcases ih (element.markClass word on) with heq | hlater
            · exact .inr (heq.symm ▸ hsteady)
            · exact .inr hlater
          · have hsame : (if other = id then element.markClass word on else element) = element := by
              split
              · next heq => exact Element.markClass_eq_self (by simpa [heq] using h)
              · rfl
            rw [hsame]
            exact ih element

/-- Of the marks for a steady element only the last one counts. -/
theorem marked_of_steady {word : String} (hword : Element.IsClassWord word) (list : List Move)
    (id : Nat) {element : Element} (h : element.Steady word) :
    marked word list id element =
      element.markClass word ((lastMark? list id).getD (element.hasClass word)) := by
  induction list generalizing element with
  | nil => exact (Element.markClass_eq_self rfl).symm
  | cons move list ih =>
      cases move with
      | write other text => exact ih h
      | mark other on =>
          rw [marked, lastMark?_mark]
          by_cases heq : other = id
          · have hmark : (element.markClass word on).hasClass word = on := by
              rw [Element.hasClass_markClass hword, if_pos rfl]
            rw [if_pos heq, if_pos heq, ih (h.markClass hword on), hmark,
              h.markClass_markClass hword]
            simp [Option.or_some]
          · rw [if_neg heq, if_neg heq, ih h, Option.or_none]

/-- Marks that are made again change nothing. -/
theorem marked_marked {word : String} (hword : Element.IsClassWord word) (list : List Move)
    (id : Nat) (element : Element) :
    marked word list id (marked word list id element) = marked word list id element := by
  rcases marked_eq_self_or_steady hword list id element with heq | hsteady
  · rw [heq, heq]
  · have hclass : (lastMark? list id).getD ((marked word list id element).hasClass word) =
        (marked word list id element).hasClass word := by
      rw [hasClass_marked hword]
      cases lastMark? list id with
      | none => rfl
      | some on => rfl
    rw [marked_of_steady hword list id hsteady, hclass, Element.markClass_eq_self rfl]

theorem alike_marked {selector : Selector} {word : String} (h : selector.Ignores word)
    (list : List Move) (id : Nat) (element : Element) :
    selector.Alike (marked word list id element) element := by
  induction list generalizing element with
  | nil => exact .refl selector element
  | cons move list ih =>
      cases move with
      | mark other on =>
          refine (ih _).trans ?_
          split
          · exact h.alike element on
          · exact .refl selector element
      | write other text => exact ih element

end Move

namespace Scene

variable [Browser]

def move (word : String) (scene : Scene) : Move → Scene
  | .mark id on => scene.change id (·.markClass word on)
  | .write id text => scene.write id text

def moves (word : String) (scene : Scene) (list : List Move) : Scene :=
  list.foldl (move word) scene

@[simp] theorem moves_nil (word : String) (scene : Scene) : scene.moves word [] = scene := rfl

@[simp] theorem moves_cons (word : String) (scene : Scene) (move : Move) (list : List Move) :
    scene.moves word (move :: list) = (scene.move word move).moves word list := rfl

theorem moves_append (word : String) (scene : Scene) (list more : List Move) :
    scene.moves word (list ++ more) = (scene.moves word list).moves word more :=
  List.foldl_append

theorem attached_move (word : String) (scene : Scene) (move : Move) :
    (scene.move word move).attached =
      scene.attached.update (Move.marked word [move]) (Move.written? [move]) := by
  cases move with
  | mark id on =>
      rw [Scene.move, change, Forest.change_eq_update]
      apply Forest.update_congr
      intro other _
      refine ⟨?_, rfl⟩
      funext item
      simp only [Move.marked, eq_comm (a := other)]
  | write id text =>
      have hwritten : Move.written? [.write id text] =
          fun other => if other = id then some text else none := by
        funext other
        by_cases h : other = id
        · simp [Move.written?, Move.writes, h]
        · have hb : (other == id) = false := beq_false_of_ne h
          simp [Move.written?, Move.writes, h, List.lookup_cons, hb]
      rw [Scene.move, write]
      cases hlocate : scene.attached.locate? id Browser.around with
      | none =>
          -- nothing is written, and the number is none of the page
          symm
          apply Forest.update_eq_self
          intro other hother
          refine ⟨rfl, ?_⟩
          rw [hwritten]
          show (if other = id then some text else none) = none
          split
          · next heq =>
              obtain ⟨place, hplace, hid⟩ := Forest.exists_place_of_mem_numbers [] hother
              have hfound := Forest.locate?_eq_places id [] Browser.around scene.attached
              rw [List.map_nil, List.nil_append, hlocate, eq_comm, Option.map_eq_none_iff,
                List.find?_eq_none] at hfound
              exact absurd (by simp [hid, heq]) (hfound place hplace)
          · rfl
      | some found =>
          show scene.attached.changeContent id (fun _ => .ofText text) = _
          rw [Forest.changeContent_eq_update, hwritten]
          rfl

/-- What a row of moves makes of a page is one update. -/
theorem attached_moves (word : String) (scene : Scene) (list : List Move) :
    (scene.moves word list).attached =
      scene.attached.update (Move.marked word list) (Move.written? list) := by
  induction list generalizing scene with
  | nil =>
      symm
      exact Forest.update_id scene.attached
  | cons move list ih =>
      have hcons : move :: list = [move] ++ list := rfl
      rw [moves_cons, ih, attached_move, Forest.update_update, hcons]
      apply Forest.update_congr
      intro id _
      refine ⟨?_, ?_⟩
      · funext item
        rw [Move.marked_append]
      · rw [Move.written?_append]

/-! ### Numbers of a scene -/

def numbers (scene : Scene) : List Nat := scene.attached.numbers ++ scene.detached.numbers

omit [Browser] in
theorem nodup_attached {scene : Scene} (h : scene.numbers.Nodup) :
    scene.attached.numbers.Nodup :=
  (List.nodup_append.mp h).1

omit [Browser] in
theorem not_mem_detached {scene : Scene} (h : scene.numbers.Nodup) {id : Nat}
    (hid : id ∈ scene.attached.numbers) : id ∉ scene.detached.numbers :=
  fun hmem => (List.nodup_append.mp h).2.2 id hid id hmem rfl

omit [Browser] in
theorem numbers_change (scene : Scene) (id : Nat) (f : Element → Element) :
    (scene.change id f).numbers = scene.numbers := by
  have hforest (forest : Forest (Nat × Element)) :
      (forest.change id f).numbers = forest.numbers := by
    simp [Forest.change, Forest.numbers]
  rw [numbers, numbers, change, hforest, hforest]

/-- A write moves numbers from the page to what was cut off. -/
theorem nodup_numbers_write {scene : Scene} (h : scene.numbers.Nodup) (id : Nat) (text : String) :
    (scene.write id text).numbers.Nodup := by
  have hattached := nodup_attached h
  rw [write]
  split
  · next ancestors node hlocate =>
      have hfound := Forest.locate?_eq_places id [] Browser.around scene.attached
      rw [List.map_nil, List.nil_append, hlocate, eq_comm, Option.map_eq_some_iff] at hfound
      obtain ⟨target, htarget, hpair⟩ := hfound
      have hplace := List.mem_of_find?_eq_some htarget
      have hid : target.node.id = id := by simpa using List.find?_some htarget
      obtain rfl : target.node = node := congrArg Prod.snd hpair
      have hsub := Forest.numbers_content_sublist hplace
      -- what was within the element has left the page, so it can be among what was cut off
      have hcut : ∀ other ∈ (scene.attached.changeContent id fun _ => .ofText text).numbers,
          other ∉ target.node.content.numbers := by
        intro other hother hmem
        rw [Forest.changeContent_eq_update, ← Forest.map_id_places [],
          Forest.places_update_nil, List.map_map] at hother
        obtain ⟨place, hmem', rfl⟩ := List.mem_map.mp hother
        obtain ⟨hplace', hkept⟩ := List.mem_filter.mp hmem'
        have hwithin := (Forest.within_iff hattached hplace hplace').mpr hmem
        have := Place.kept_iff.mp hkept id (hid ▸ hwithin)
        simp at this
      show ((scene.attached.changeContent id fun _ => .ofText text).numbers ++
        (target.node.content.append scene.detached).numbers).Nodup
      have hkeep : (scene.attached.changeContent id fun _ => .ofText text).numbers.Sublist
          scene.attached.numbers := by
        rw [Forest.changeContent_eq_update]
        exact Forest.numbers_update_sublist scene.attached
      rw [Forest.numbers_append, List.nodup_append, List.nodup_append]
      refine ⟨hattached.sublist hkeep,
        ⟨hattached.sublist hsub, (List.nodup_append.mp h).2.1, ?_⟩, ?_⟩
      · rintro a ha b hb rfl
        exact not_mem_detached h (hsub.subset ha) hb
      · rintro a ha b hb rfl
        rcases List.mem_append.mp hb with hb | hb
        · exact hcut a ha hb
        · exact not_mem_detached h (hkeep.subset ha) hb
  · exact h

theorem nodup_numbers_moves {word : String} {scene : Scene} (h : scene.numbers.Nodup)
    (list : List Move) : (scene.moves word list).numbers.Nodup := by
  induction list generalizing scene with
  | nil => exact h
  | cons move list ih =>
      apply ih
      cases move with
      | mark id on =>
          show (scene.change id _).numbers.Nodup
          rw [numbers_change]
          exact h
      | write id text => exact nodup_numbers_write h id text

omit [Browser] in
/-- The scene of a page gives every element a number of its own. -/
theorem nodup_numbers_scene (page : Page) : page.scene.numbers.Nodup := by
  rw [numbers]
  show ((page.content.number 0).numbers ++ []).Nodup
  rw [List.append_nil]
  exact Forest.nodup_numbers_number 0 page.content

/-! ### Searching a scene -/

def places (scene : Scene) : List Place := scene.attached.places []

theorem select_eq_places (scene : Scene) (selector : Selector) :
    scene.select selector =
      (scene.places.filter (Place.accepted Browser.around selector)).map Place.node :=
  Forest.select_eq_places selector [] Browser.around scene.attached

theorem locate?_of_mem_places {scene : Scene} (h : scene.numbers.Nodup) {place : Place}
    (hplace : place ∈ scene.places) :
    scene.locate? place.node.id = some (place.ancestors Browser.around, place.node) := by
  have hfound := Forest.locate?_of_mem_places (nodup_attached h) hplace Browser.around
  rw [List.map_nil, List.nil_append] at hfound
  rw [locate?, hfound, Option.some_or]

theorem id_of_locate? {scene : Scene} {id : Nat} {found : List Element × Node}
    (h : scene.locate? id = some found) : found.2.id = id := by
  rw [locate?, Option.or_eq_some_iff] at h
  rcases h with h | ⟨-, h⟩
  · exact Forest.id_of_locate? h
  · exact Forest.id_of_locate? h

/-- Within an element of the page a selector finds the places in its content that it accepts. -/
theorem selectIn_of_mem_places {scene : Scene} (h : scene.numbers.Nodup) {place : Place}
    (hplace : place ∈ scene.places) (selector : Selector) :
    scene.selectIn place.node.id selector =
      ((place.node.content.places place.inside).filter
        (Place.accepted Browser.around selector)).map Place.node := by
  rw [selectIn, locate?_of_mem_places h hplace]
  exact Forest.select_eq_places selector place.inside Browser.around place.node.content

theorem mem_select {scene : Scene} {selector : Selector} {node : Node} :
    node ∈ scene.select selector ↔
      ∃ place ∈ scene.places,
        place.accepted Browser.around selector = true ∧ place.node = node := by
  rw [select_eq_places, List.mem_map]
  simp only [List.mem_filter, and_assoc]

/-- What is found within an element are elements of the page within it. -/
theorem mem_selectIn {scene : Scene} (h : scene.numbers.Nodup) {outer : Place}
    (houter : outer ∈ scene.places) {selector : Selector} {node : Node} :
    node ∈ scene.selectIn outer.node.id selector ↔ ∃ place ∈ scene.places,
      place.Within outer.node.id ∧ place.accepted Browser.around selector = true ∧
        place.node = node := by
  rw [selectIn_of_mem_places h houter, List.mem_map]
  simp only [List.mem_filter]
  constructor
  · rintro ⟨place, ⟨hmem, haccepted⟩, heq⟩
    exact ⟨place, Forest.mem_places_of_mem_content houter hmem, Forest.within_of_mem_content hmem,
      haccepted, heq⟩
  · rintro ⟨place, hplace, hwithin, haccepted, heq⟩
    have hmem := Forest.mem_content_of_within (nodup_attached h) houter hplace hwithin
    exact ⟨place, ⟨hmem, haccepted⟩, heq⟩

theorem nodup_selectIn {scene : Scene} (h : scene.numbers.Nodup) {place : Place}
    (hplace : place ∈ scene.places) (selector : Selector) :
    ((scene.selectIn place.node.id selector).map Node.id).Nodup := by
  have hids : ((place.node.content.places place.inside).map fun inner => inner.node.id).Nodup := by
    rw [Forest.map_id_places]
    exact (nodup_attached h).sublist (Forest.numbers_content_sublist hplace)
  rw [selectIn_of_mem_places h hplace, List.map_map]
  exact hids.sublist (List.filter_sublist.map _)

def Contains (scene : Scene) (outer inner : Nat) : Prop :=
  inner ∈ ((scene.locate? outer).map fun found => found.2.content.numbers).getD []

instance (scene : Scene) (outer inner : Nat) : Decidable (scene.Contains outer inner) :=
  inferInstanceAs (Decidable (_ ∈ _))

theorem contains_of_mem_content {scene : Scene} (h : scene.numbers.Nodup) {outer : Place}
    (houter : outer ∈ scene.places) {id : Nat} (hid : id ∈ outer.node.content.numbers) :
    scene.Contains outer.node.id id := by
  rw [Contains, locate?_of_mem_places h houter, Option.map_some, Option.getD_some]
  exact hid

theorem contains_of_within {scene : Scene} (h : scene.numbers.Nodup) {inner : Place}
    (hinner : inner ∈ scene.places) {id : Nat} (hid : inner.Within id) :
    scene.Contains id inner.node.id := by
  obtain ⟨outer, houter, rfl, hmem⟩ := Forest.mem_content_of_mem_around hinner hid (by simp)
  exact contains_of_mem_content h houter (Forest.id_mem_numbers hmem)

/-- What is found within an element that was cut off was cut off too. -/
theorem mem_detached_of_mem_selectIn {scene : Scene} {id : Nat}
    (hid : id ∉ scene.attached.numbers) {selector : Selector} {node : Node}
    (hnode : node ∈ scene.selectIn id selector) : node.id ∈ scene.detached.numbers := by
  have hnone := Forest.locate?_eq_none hid [] Browser.around
  rw [List.map_nil, List.nil_append] at hnone
  -- the element itself was cut off, so what is within it was too
  rw [selectIn, locate?, hnone, Option.none_or] at hnode
  have hplaces := Forest.locate?_eq_places id [] [] scene.detached
  rw [List.map_nil, List.nil_append] at hplaces
  rw [hplaces] at hnode
  cases hfind : (scene.detached.places []).find? (·.node.id == id) with
  | none => simp [hfind] at hnode
  | some outer =>
      have houter := List.mem_of_find?_eq_some hfind
      rw [hfind, Option.map_some] at hnode
      have hselect := Forest.select_eq_places selector outer.inside [] outer.node.content
      have hancestors : outer.node.element :: outer.ancestors [] =
          outer.inside.map Prod.snd ++ [] := rfl
      simp only [hancestors, hselect, List.mem_map, List.mem_filter] at hnode
      obtain ⟨inner, ⟨hinner, -⟩, rfl⟩ := hnode
      exact Forest.id_mem_numbers (Forest.mem_places_of_mem_content houter hinner)

/-- An element of the page that is found within another one lies within it. -/
theorem within_of_mem_selectIn {scene : Scene} (h : scene.numbers.Nodup) {place : Place}
    (hplace : place ∈ scene.places) {selector : Selector} {id : Nat}
    (hid : place.node.id ∈ (scene.selectIn id selector).map Node.id) : place.Within id := by
  obtain ⟨node, hnode, heq⟩ := List.mem_map.mp hid
  by_cases hattached : id ∈ scene.attached.numbers
  · obtain ⟨outer, houter, rfl⟩ := Forest.exists_place_of_mem_numbers [] hattached
    rw [selectIn_of_mem_places h houter] at hnode
    obtain ⟨inner, hinner, rfl⟩ := List.mem_map.mp hnode
    rw [Forest.within_iff (nodup_attached h) houter hplace, ← heq]
    exact Forest.id_mem_numbers (List.mem_filter.mp hinner).1
  · have hdetached := mem_detached_of_mem_selectIn hattached hnode
    rw [heq] at hdetached
    exact absurd hdetached (not_mem_detached h (Forest.id_mem_numbers hplace))

end Scene

end PageSync
