import PageSync.Proofs.Pass.Turns

/-!
What an update of the page changes for a turn that is still to come. If selectors and attributes
that the turn looks at are as before, and no content is replaced around or within its tabs nor
around its slot, the turn finds what it would have found before the update.
-/

namespace PageSync

structure Scene.Updated (scene later : Scene) (f : Nat → Element → Element)
    (text? : Nat → Option String) : Prop where
  nodup : scene.numbers.Nodup
  nodup_later : later.numbers.Nodup
  attached : later.attached = scene.attached.update f text?

variable [Browser]

theorem Scene.updated_moves {scene : Scene} (h : scene.numbers.Nodup) (word : String)
    (list : List Move) :
    scene.Updated (scene.moves word list) (Move.marked word list) (Move.written? list) :=
  ⟨h, nodup_numbers_moves h list, attached_moves word scene list⟩

/-- Moves go on from an update that moves have made. -/
theorem Scene.Updated.moves {scene later : Scene} {word : String} {list : List Move}
    (h : scene.Updated later (Move.marked word list) (Move.written? list)) (more : List Move) :
    scene.Updated (later.moves word more) (Move.marked word (list ++ more))
      (Move.written? (list ++ more)) where
  nodup := h.nodup
  nodup_later := nodup_numbers_moves h.nodup_later more
  attached := by
    rw [attached_moves, h.attached, Forest.update_update]
    apply Forest.update_congr
    intro id _
    constructor
    · funext item
      rw [Move.marked_append]
    · rw [Move.written?_append]

omit [Browser] in
/-- A page that is left by an update without texts is that update of the page before. -/
theorem Scene.updated_page {page : Page} {later : Scene} {f : Nat → Element → Element}
    (h : later.attached = page.scene.attached.update f fun _ => none) :
    page.scene.Updated later.page.scene f fun _ => none := by
  have hnodup := nodup_numbers_scene page
  rw [scene_page h]
  refine ⟨hnodup, ?_, h⟩
  rw [numbers, h]
  show (_ ++ []).Nodup
  rw [List.append_nil]
  exact Forest.nodup_numbers_update (nodup_attached hnodup)

namespace Scene.Updated

variable {scene later : Scene} {f : Nat → Element → Element} {text? : Nat → Option String}
  (h : scene.Updated later f text?)

include h

omit [Browser] in
theorem places_eq : later.places =
    (scene.places.filter (Place.kept text?)).map (Place.updated f text?) := by
  rw [places, h.attached]
  exact Forest.places_update_nil scene.attached

omit [Browser] in
theorem mem_places {place : Place} (hplace : place ∈ scene.places)
    (hkept : place.kept text? = true) : place.updated f text? ∈ later.places := by
  rw [h.places_eq]
  exact List.mem_map_of_mem (List.mem_filter.mpr ⟨hplace, hkept⟩)

theorem filter_places {selector : Selector} (hf : ∀ id item, selector.Alike (f id item) item) :
    later.places.filter (Place.accepted Browser.around selector) =
      ((scene.places.filter (Place.accepted Browser.around selector)).filter
        (Place.kept text?)).map (Place.updated f text?) := by
  rw [places, h.attached]
  exact Forest.filter_places_update hf Browser.around scene.attached

/-- If all accepted places with a property stay, and keep it, they are found as before. -/
theorem filter_places_of_kept {selector : Selector}
    (hf : ∀ id item, selector.Alike (f id item) item) {p : Place → Bool}
    (hp : ∀ place, p (place.updated f text?) = p place)
    (hkept : ∀ place ∈ scene.places, place.accepted Browser.around selector = true →
      p place = true → place.kept text? = true) :
    (later.places.filter (Place.accepted Browser.around selector)).filter p =
      ((scene.places.filter (Place.accepted Browser.around selector)).filter p).map
        (Place.updated f text?) := by
  have hcomp : p ∘ Place.updated f text? = p := funext hp
  rw [h.filter_places hf, List.filter_map, hcomp, List.filter_filter]
  congr 1
  apply List.filter_congr
  intro place hplace
  obtain ⟨hmem, haccepted⟩ := List.mem_filter.mp hplace
  cases hproperty : p place with
  | false => rfl
  | true => rw [hkept place hmem haccepted hproperty, Bool.true_and]

theorem locate?_eq {place : Place} (hplace : place ∈ scene.places)
    (hkept : place.kept text? = true) :
    later.locate? place.node.id =
      some ((place.updated f text?).ancestors Browser.around, (place.updated f text?).node) :=
  Scene.locate?_of_mem_places h.nodup_later (h.mem_places hplace hkept)

/-- Within an element that stays a selector finds what it found, less what is gone. -/
theorem selectIn_eq {selector : Selector} (hf : ∀ id item, selector.Alike (f id item) item)
    {place : Place} (hplace : place ∈ scene.places) (hkept : place.kept text? = true) :
    later.selectIn place.node.id selector =
      (((place.node.content.places place.inside).filter
        (Place.accepted Browser.around selector)).filter
          (Place.kept text?)).map fun inner => inner.node.updated f text? := by
  have hselect := Scene.selectIn_of_mem_places h.nodup_later (h.mem_places hplace hkept) selector
  rw [Place.id_updated] at hselect
  rw [hselect, Forest.filter_content_updated hf Browser.around hkept, List.map_map]
  rfl

/-- What a selector finds within an element after an update, and what is still on the page, it found
there before. -/
theorem mem_selectIn_before {selector : Selector} (hf : ∀ id item, selector.Alike (f id item) item)
    {place : Place} (hplace : place ∈ scene.places) (hkept : place.kept text? = true) {id : Nat}
    (hid : place.node.id ∈ (later.selectIn id selector).map Scene.Node.id) :
    place.node.id ∈ (scene.selectIn id selector).map Scene.Node.id := by
  have hlater := h.mem_places hplace hkept
  have hwithin : place.Within id :=
    (Place.within_updated place id).mp
      (Scene.within_of_mem_selectIn h.nodup_later hlater hid)
  obtain ⟨outer, houter, rfl, hinner⟩ :=
    Forest.mem_content_of_mem_around hplace hwithin (by simp)
  have hkeptOuter :=
    Forest.kept_of_within (Scene.nodup_attached h.nodup) hplace houter hwithin hkept
  rw [h.selectIn_eq hf houter hkeptOuter] at hid
  rw [Scene.selectIn_of_mem_places h.nodup houter]
  obtain ⟨_, hnode, heq⟩ := List.mem_map.mp hid
  obtain ⟨found, hfound, rfl⟩ := List.mem_map.mp hnode
  exact List.mem_map.mpr
    ⟨found.node, List.mem_map_of_mem (List.mem_filter.mp hfound).1, heq⟩

end Scene.Updated

namespace Pass

/-- The tabs of a turn as an update leaves them. -/
def Turn.updated (f : Nat → Element → Element) (text? : Nat → Option String) (turn : Turn) : Turn :=
  { turn with tabs := turn.tabs.map (Scene.Node.updated f text?) }

omit [Browser] in
@[simp] theorem Turn.marks_updated (f : Nat → Element → Element) (text? : Nat → Option String)
    (turn : Turn) : (turn.updated f text?).marks = turn.marks := by
  simp [marks, updated, tabMarks, List.zipIdx_map, Scene.Node.updated]

def groupAttributes : List String := ["data-tab-param", "data-default-tab", "data-indicator"]

omit [Browser] in
theorem ofMarkup_congr {defaultParam : String} {element other : Element}
    (h : ∀ name ∈ groupAttributes, element.attribute? name = other.attribute? name) :
    TabGroup.ofMarkup defaultParam element.attribute? =
      TabGroup.ofMarkup defaultParam other.attribute? := by
  have hparam := h "data-tab-param" (by decide)
  have hdefault := h "data-default-tab" (by decide)
  have hindicator := h "data-indicator" (by decide)
  simp only [TabGroup.ofMarkup, hparam, hdefault, hindicator]

section

variable {f : Nat → Element → Element} {text? : Nat → Option String}
  (hattr : ∀ name ≠ "class", ∀ id item, (f id item).attribute? name = item.attribute? name)

include hattr

omit [Browser] in
theorem tabOf_updated {node : Scene.Node} (hnode : text? node.id = none)
    (hcontent : ∀ id ∈ node.content.numbers, text? id = none) :
    tabOf (node.updated f text?) = tabOf node := by
  have htab : "data-tab" ≠ "class" := by decide
  have hhref : "href" ≠ "class" := by decide
  simp only [tabOf, Scene.Node.updated, hnode, hattr _ htab, hattr _ hhref,
    Forest.textContent_update hcontent]

/-- Nothing that an update changes is read by the turn of a group at a place, except for classes
that its selector does not test. -/
theorem turn?_updated {scene later : Scene} (h : scene.Updated later f text?) (visit : Visit)
    {settings : Settings} {selector : Selector}
    (hread : Browser.selector? settings.tabSelector = some selector)
    (hf : ∀ id item, selector.Alike (f id item) item) {place : Place}
    (hplace : place ∈ scene.places) (hkept : place.kept text? = true)
    (htabs : ∀ inner ∈ place.node.content.places place.inside,
      inner.accepted Browser.around selector = true → inner.kept text? = true ∧
        text? inner.node.id = none ∧ ∀ id ∈ inner.node.content.numbers, text? id = none) :
    turn? visit settings later place.node.id =
      (turn? visit settings scene place.node.id).map (Turn.updated f text?) := by
  have hmarkup : TabGroup.ofMarkup settings.defaultTabParam
      (place.updated f text?).node.element.attribute? =
        TabGroup.ofMarkup settings.defaultTabParam place.node.element.attribute? := by
    have hnames : ∀ name ∈ groupAttributes, name ≠ "class" := by decide
    exact ofMarkup_congr fun name hname =>
      hattr name (hnames name hname) place.node.id place.node.element
  have hselect : later.selectIn place.node.id selector =
      (scene.selectIn place.node.id selector).map (Scene.Node.updated f text?) := by
    rw [h.selectIn_eq hf hplace hkept, Scene.selectIn_of_mem_places h.nodup hplace, List.map_map]
    rw [List.filter_eq_self.mpr]
    · rfl
    · intro inner hinner
      obtain ⟨hmem, haccepted⟩ := List.mem_filter.mp hinner
      exact (htabs inner hmem haccepted).1
  -- nothing is written into a tab, so its label is as it was
  have hsources : (later.selectIn place.node.id selector).map tabOf =
      (scene.selectIn place.node.id selector).map tabOf := by
    rw [hselect, List.map_map]
    apply List.map_congr_left
    intro node hnode
    rw [Scene.selectIn_of_mem_places h.nodup hplace] at hnode
    obtain ⟨inner, hinner, rfl⟩ := List.mem_map.mp hnode
    obtain ⟨hmem, haccepted⟩ := List.mem_filter.mp hinner
    obtain ⟨-, hid, hcontent⟩ := htabs inner hmem haccepted
    exact tabOf_updated hattr hid hcontent
  rw [turn?, turn?, h.locate?_eq hplace hkept, Scene.locate?_of_mem_places h.nodup hplace, hread]
  simp only [Option.bind_some, hmarkup, hsources]
  rw [hselect, Option.map_map]
  rfl

end

/-! ### Slots -/

def emphasized (emphasis : Selector) (place : Place) : Place :=
  ((place.node.content.places place.inside).filter
    (Place.accepted Browser.around emphasis)).head?.getD place

theorem indicatorSlot_eq {scene : Scene} (h : scene.numbers.Nodup) {settings : Settings}
    {indicator : String} {selector emphasis : Selector}
    (hread : Browser.selector? indicator = some selector)
    (hemphasis : Browser.selector? settings.indicatorEmphasis = some emphasis) :
    (indicatorSlot settings scene indicator).toOption.join =
      ((scene.places.filter (Place.accepted Browser.around selector)).head?.map
        (emphasized emphasis)).map fun place => place.node.id := by
  simp only [indicatorSlot, hread, Scene.select_eq_places, List.head?_map]
  cases hfound : (scene.places.filter (Place.accepted Browser.around selector)).head? with
  | none => rfl
  | some target =>
      have htarget : target ∈ scene.places :=
        (List.mem_filter.mp (List.mem_of_head? hfound)).1
      simp only [Option.map_some, hemphasis, emphasized]
      rw [Scene.selectIn_of_mem_places h htarget, List.head?_map]
      cases ((target.node.content.places target.inside).filter
          (Place.accepted Browser.around emphasis)).head? with
      | none => rfl
      | some inner => rfl

theorem emphasized_mem (emphasis : Selector) (place : Place) :
    emphasized emphasis place = place ∨
      emphasized emphasis place ∈ place.node.content.places place.inside := by
  rw [emphasized]
  cases hfound : ((place.node.content.places place.inside).filter
      (Place.accepted Browser.around emphasis)).head? with
  | none => exact .inl rfl
  | some inner => exact .inr (List.mem_filter.mp (List.mem_of_head? hfound)).1

/-- A slot is an element that the indicator selects, or lies within one. -/
theorem exists_target_of_indicatorSlot {scene : Scene} (h : scene.numbers.Nodup)
    {settings : Settings} {indicator : String} {id : Nat}
    (hslot : (indicatorSlot settings scene indicator).toOption.join = some id) :
    ∃ selector, Browser.selector? indicator = some selector ∧ ∃ target ∈ scene.places,
      target.accepted Browser.around selector = true ∧
        (target.node.id = id ∨
          ∃ inner ∈ target.node.content.places target.inside, inner.node.id = id) := by
  cases hread : Browser.selector? indicator with
  | none => simp [indicatorSlot, hread, Except.toOption] at hslot
  | some selector =>
      refine ⟨selector, rfl, ?_⟩
      cases hemphasis : Browser.selector? settings.indicatorEmphasis with
      | none =>
          simp only [indicatorSlot, hread, hemphasis] at hslot
          cases hfound : (scene.select selector).head? with
          | none => simp [hfound, Except.toOption] at hslot
          | some node => simp [hfound, Except.toOption] at hslot
      | some emphasis =>
          rw [indicatorSlot_eq h hread hemphasis, Option.map_eq_some_iff] at hslot
          obtain ⟨place, hplace, rfl⟩ := hslot
          obtain ⟨target, htarget, rfl⟩ := Option.map_eq_some_iff.mp hplace
          obtain ⟨hmem, haccepted⟩ := List.mem_filter.mp (List.mem_of_head? htarget)
          refine ⟨target, hmem, haccepted, ?_⟩
          rcases emphasized_mem emphasis target with heq | hinner
          · exact .inl (by rw [heq])
          · exact .inr ⟨_, hinner, rfl⟩

/-- Around what lies in a slot is an element that the indicator selects. -/
theorem exists_target_around {scene : Scene} (h : scene.numbers.Nodup) {settings : Settings}
    {indicator : String} {id : Nat}
    (hslot : (indicatorSlot settings scene indicator).toOption.join = some id) {place : Place}
    (hplace : place ∈ scene.places) (hwithin : place.Within id) :
    ∃ selector, Browser.selector? indicator = some selector ∧ ∃ target ∈ scene.places,
      target.accepted Browser.around selector = true ∧ place.Within target.node.id := by
  obtain ⟨selector, hread, target, htarget, haccepted, rfl | ⟨inner, hinner, rfl⟩⟩ :=
    exists_target_of_indicatorSlot h hslot
  · exact ⟨selector, hread, target, htarget, haccepted, hwithin⟩
  · exact ⟨selector, hread, target, htarget, haccepted,
      Forest.within_trans (Scene.nodup_attached h) hplace
        (Forest.mem_places_of_mem_content htarget hinner) hwithin
        (Forest.within_of_mem_content hinner)⟩

/-- A slot is an element of the page. -/
theorem exists_place_of_indicatorSlot {scene : Scene} (h : scene.numbers.Nodup)
    {settings : Settings} {indicator : String} {id : Nat}
    (hslot : (indicatorSlot settings scene indicator).toOption.join = some id) :
    ∃ place ∈ scene.places, place.node.id = id := by
  obtain ⟨-, -, target, htarget, -, heq | ⟨inner, hinner, heq⟩⟩ :=
    exists_target_of_indicatorSlot h hslot
  · exact ⟨target, htarget, heq⟩
  · exact ⟨inner, Forest.mem_places_of_mem_content htarget hinner, heq⟩

section

variable {scene later : Scene} {f : Nat → Element → Element} {text? : Nat → Option String}
  (h : scene.Updated later f text?)

include h

/-- If the slot stays, what is around it stays. -/
theorem kept_of_kept_emphasized {emphasis : Selector} {place : Place}
    (hplace : place ∈ scene.places) (hkept : (emphasized emphasis place).kept text? = true) :
    place.kept text? = true := by
  rcases emphasized_mem emphasis place with heq | hmem
  · rwa [heq] at hkept
  · have hinner := Forest.mem_places_of_mem_content hplace hmem
    exact Forest.kept_of_within (Scene.nodup_attached h.nodup) hinner hplace
      (Forest.within_of_mem_content hmem) hkept

theorem emphasized_updated {emphasis : Selector}
    (hf : ∀ id item, emphasis.Alike (f id item) item) {place : Place}
    (hplace : place ∈ scene.places) (hkept : (emphasized emphasis place).kept text? = true) :
    emphasized emphasis (place.updated f text?) =
      (emphasized emphasis place).updated f text? := by
  have houter := kept_of_kept_emphasized h hplace hkept
  rw [emphasized] at hkept
  rw [emphasized, emphasized, Forest.filter_content_updated hf Browser.around houter]
  cases hfound : (place.node.content.places place.inside).filter
      (Place.accepted Browser.around emphasis) with
  | nil => rfl
  | cons inner others =>
      -- the first that was found stays, so it is still the first
      rw [hfound] at hkept
      rw [List.filter_cons_of_pos (by exact hkept)]
      rfl

/-- The slot of an indicator stays if no content around it is replaced. -/
theorem indicatorSlot_updated {settings : Settings} {indicator : String}
    {selector emphasis : Selector} (hread : Browser.selector? indicator = some selector)
    (hemphasis : Browser.selector? settings.indicatorEmphasis = some emphasis)
    (hf : ∀ id item, selector.Alike (f id item) item)
    (hfEmphasis : ∀ id item, emphasis.Alike (f id item) item)
    (hslot : ∀ place ∈ scene.places,
      (indicatorSlot settings scene indicator).toOption.join = some place.node.id →
        place.kept text? = true) :
    (indicatorSlot settings later indicator).toOption.join =
      (indicatorSlot settings scene indicator).toOption.join := by
  rw [indicatorSlot_eq h.nodup hread hemphasis] at hslot
  rw [indicatorSlot_eq h.nodup_later hread hemphasis, indicatorSlot_eq h.nodup hread hemphasis,
    h.filter_places hf]
  cases hfound : scene.places.filter (Place.accepted Browser.around selector) with
  | nil => rfl
  | cons target others =>
      have htarget : target ∈ scene.places :=
        (List.mem_filter.mp (hfound ▸ List.mem_cons_self)).1
      have hmem : emphasized emphasis target ∈ scene.places := by
        rcases emphasized_mem emphasis target with heq | hinner
        · rwa [heq]
        · exact Forest.mem_places_of_mem_content htarget hinner
      have hkept : (emphasized emphasis target).kept text? = true := by
        apply hslot _ hmem
        rw [hfound]
        rfl
      -- what is around a slot that stays has stayed, so the indicator still finds it first
      have houter := kept_of_kept_emphasized h htarget hkept
      rw [List.filter_cons_of_pos houter, List.map_cons, List.head?_cons, List.head?_cons,
        Option.map_some, Option.map_some, emphasized_updated h hfEmphasis htarget hkept]
      rfl

end

end Pass

end PageSync
