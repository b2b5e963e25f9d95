import PageSync.Proofs.Page.Places

/-!
Numbers are only names. If the elements of a scene get other numbers, and no two get the same, then
all that is done in the scene is done alike, and a page comes out that is the same. Every scene
whose numbers are distinct is the scene of its page with other numbers (`exists_rename`).
-/

namespace PageSync

def Forest.rename (σ : Nat → Nat) (forest : Forest (Nat × Element)) : Forest (Nat × Element) :=
  forest.map fun (id, item) => (σ id, item)

def Scene.Node.rename (σ : Nat → Nat) (node : Scene.Node) : Scene.Node :=
  ⟨σ node.id, node.element, node.content.rename σ⟩

namespace Forest

variable {σ : Nat → Nat}

@[simp] theorem textContent_rename (forest : Forest (Nat × Element)) :
    (forest.rename σ).textContent = forest.textContent := by
  induction forest with
  | nil => rfl
  | text content rest ih => exact congrArg (content ++ ·) ih
  | element item children rest ihc ihr => exact congrArg₂ (· ++ ·) ihc ihr

@[simp] theorem unnumber_rename (forest : Forest (Nat × Element)) :
    (forest.rename σ).unnumber = forest.unnumber := by
  induction forest with
  | nil => rfl
  | text content rest ih => exact congrArg (Forest.text content) ih
  | element item children rest ihc ihr => exact congrArg₂ (Forest.element item.2) ihc ihr

theorem rename_append (forest other : Forest (Nat × Element)) :
    (forest.append other).rename σ = (forest.rename σ).append (other.rename σ) := by
  induction forest with
  | nil => rfl
  | text content rest ih => exact congrArg (Forest.text content) ih
  | element item children rest ihc ihr => exact congrArg (Forest.element _ _) ihr

@[simp] theorem rename_ofText (content : String) :
    (Forest.ofText content).rename σ = .ofText content := by
  unfold ofText
  split
  · rfl
  · rfl

theorem select_rename (selector : Selector) (ancestors : List Element)
    (forest : Forest (Nat × Element)) :
    (forest.rename σ).select selector ancestors =
      (forest.select selector ancestors).map (Scene.Node.rename σ) := by
  induction forest generalizing ancestors with
  | nil => rfl
  | text content rest ih => exact ih ancestors
  | element item children rest ihc ihr =>
      obtain ⟨id, item⟩ := item
      have hchildren := ihc (item :: ancestors)
      have hrest := ihr ancestors
      rw [rename] at hchildren hrest
      simp only [rename, map, select, hchildren, hrest, List.map_append]
      congr 1
      by_cases h : selector.accepts ancestors item
      · simp [h, Scene.Node.rename, rename]
      · simp [h]

variable (hσ : Function.Injective σ)

include hσ

theorem locate?_rename (id : Nat) (ancestors : List Element) (forest : Forest (Nat × Element)) :
    (forest.rename σ).locate? (σ id) ancestors =
      (forest.locate? id ancestors).map fun found => (found.1, found.2.rename σ) := by
  induction forest generalizing ancestors with
  | nil => rfl
  | text content rest ih => exact ih ancestors
  | element item children rest ihc ihr =>
      obtain ⟨other, item⟩ := item
      have hchildren := ihc (item :: ancestors)
      have hrest := ihr ancestors
      rw [rename] at hchildren hrest
      simp only [rename, map, locate?, hσ.eq_iff, hchildren, hrest]
      by_cases h : other = id
      · simp [h, Scene.Node.rename, rename]
      · simp [h, Option.map_or]

theorem change_rename (id : Nat) (f : Element → Element) (forest : Forest (Nat × Element)) :
    (forest.rename σ).change (σ id) f = (forest.change id f).rename σ := by
  induction forest with
  | nil => rfl
  | text content rest ih => exact congrArg (Forest.text content) ih
  | element item children rest ihc ihr =>
      obtain ⟨other, item⟩ := item
      rw [change, rename, change, rename] at ihc ihr ⊢
      simp only [map, ihc, ihr, hσ.eq_iff]

theorem changeContent_rename (id : Nat) (new : String) (forest : Forest (Nat × Element)) :
    (forest.rename σ).changeContent (σ id) (fun _ => .ofText new) =
      (forest.changeContent id fun _ => .ofText new).rename σ := by
  induction forest with
  | nil => rfl
  | text content rest ih => exact congrArg (Forest.text content) ih
  | element item children rest ihc ihr =>
      obtain ⟨other, item⟩ := item
      rw [rename, rename] at ihc ihr ⊢
      simp only [map, changeContent, ihc, ihr, hσ.eq_iff]
      by_cases h : other = id
      · have hnew : (Forest.ofText new).map (fun entry : Nat × Element => (σ entry.1, entry.2)) =
            .ofText new := rename_ofText new
        simp [h, hnew]
      · simp [h]

end Forest

/-! ### Scenes -/

def Scene.rename (σ : Nat → Nat) (scene : Scene) : Scene :=
  ⟨scene.attached.rename σ, scene.detached.rename σ⟩

namespace Scene

variable {σ : Nat → Nat}

theorem page_rename (scene : Scene) : (scene.rename σ).page = scene.page := by
  simp [page, rename]

variable [Browser]

theorem select_rename (scene : Scene) (selector : Selector) :
    (scene.rename σ).select selector = (scene.select selector).map (Node.rename σ) :=
  Forest.select_rename selector Browser.around scene.attached

variable (hσ : Function.Injective σ)

include hσ

theorem locate?_rename (scene : Scene) (id : Nat) :
    (scene.rename σ).locate? (σ id) =
      (scene.locate? id).map fun found => (found.1, found.2.rename σ) := by
  simp only [locate?, rename, Forest.locate?_rename hσ, Option.map_or]

theorem selectIn_rename (scene : Scene) (id : Nat) (selector : Selector) :
    (scene.rename σ).selectIn (σ id) selector =
      (scene.selectIn id selector).map (Node.rename σ) := by
  rw [selectIn, locate?_rename hσ, selectIn]
  cases scene.locate? id with
  | none => rfl
  | some found =>
      exact Forest.select_rename selector (found.2.element :: found.1) found.2.content

omit [Browser] in
theorem change_rename (scene : Scene) (id : Nat) (f : Element → Element) :
    (scene.rename σ).change (σ id) f = (scene.change id f).rename σ := by
  simp only [change, rename, Forest.change_rename hσ]

theorem write_rename (scene : Scene) (id : Nat) (new : String) :
    (scene.rename σ).write (σ id) new = (scene.write id new).rename σ := by
  simp only [write, rename, Forest.locate?_rename hσ]
  cases scene.attached.locate? id Browser.around with
  | none => rfl
  | some found =>
      obtain ⟨ancestors, node⟩ := found
      simp only [Option.map_some, Node.rename, Forest.changeContent_rename hσ,
        Forest.rename_append]

omit [Browser] in
theorem markAll_rename (scene : Scene) (word : String) (marks : List (Nat × Bool)) :
    (scene.rename σ).markAll word (marks.map fun (id, on) => (σ id, on)) =
      ((scene.markAll word marks).1.rename σ, (scene.markAll word marks).2) := by
  induction marks generalizing scene with
  | nil => rfl
  | cons entry marks ih =>
      obtain ⟨id, on⟩ := entry
      rw [List.map_cons, markAll, markAll]
      cases Element.classFault? word with
      | some fault => rfl
      | none => rw [change_rename hσ, ih]

end Scene

/-! ### Every scene is the scene of its page, renamed -/

/-- Numbering in document order, renamed by the numbers that stand there. -/
theorem Forest.rename_number {σ : Nat → Nat} (n : Nat) (forest : Forest (Nat × Element))
    (h : ∀ i id, forest.numbers[i]? = some id → σ (n + i) = id) :
    (forest.unnumber.number n).rename σ = forest := by
  induction forest generalizing n with
  | nil => rfl
  | text content rest ih => exact congrArg (Forest.text content) (ih n h)
  | element item children rest ihc ihr =>
      obtain ⟨id, item⟩ := item
      -- the number of the next sibling is past all those within
      have hlength : children.numbers.length = children.unnumber.size := by
        rw [numbers, List.length_map, ← length_toList, unnumber, toList_map, List.length_map]
      have hid : σ n = id := h 0 id rfl
      have hchildren := ihc (n + 1) fun i other hother => by
        have hlt : i < children.numbers.length := (List.getElem?_eq_some_iff.mp hother).1
        have := h (i + 1) other (by simp [List.getElem?_append_left hlt, hother])
        rwa [Nat.add_assoc, Nat.add_comm 1 i]
      have hrest := ihr (n + 1 + children.unnumber.size) fun i other hother => by
        have := h (children.numbers.length + i + 1) other (by
          simp [List.getElem?_append_right, hother])
        rw [← this, hlength]
        congr 1
        omega
      show Forest.element (σ n, item) _ _ = Forest.element (id, item) _ _
      rw [hid]
      exact congrArg₂ (Forest.element (id, item)) hchildren hrest

/-- The scene of the page of a scene is that scene with other numbers, less what was cut off. -/
theorem Scene.exists_rename {scene : Scene} (h : scene.attached.numbers.Nodup) :
    ∃ σ, Function.Injective σ ∧ scene.page.scene.rename σ = ⟨scene.attached, .nil⟩ := by
  -- beyond the numbers of the page any further ones will do
  let σ (i : Nat) : Nat :=
    scene.attached.numbers[i]?.getD (scene.attached.numbers.max?.getD 0 + i + 1)
  have hmem (i id : Nat) (hid : scene.attached.numbers[i]? = some id) :
      id ≤ scene.attached.numbers.max?.getD 0 :=
    List.le_max?_getD_of_mem (List.mem_of_getElem? hid)
  refine ⟨σ, ?_, ?_⟩
  · intro i j hij
    simp only [σ] at hij
    cases hi : scene.attached.numbers[i]? with
    | none =>
        cases hj : scene.attached.numbers[j]? with
        | none =>
            simp only [hi, hj, Option.getD_none] at hij
            omega
        | some id =>
            have := hmem j id hj
            simp only [hi, hj, Option.getD_none, Option.getD_some] at hij
            omega
    | some id =>
        have := hmem i id hi
        cases hj : scene.attached.numbers[j]? with
        | none =>
            simp only [hi, hj, Option.getD_none, Option.getD_some] at hij
            omega
        | some other =>
            simp only [hi, hj, Option.getD_some] at hij
            obtain ⟨hlt, -⟩ := List.getElem?_eq_some_iff.mp hi
            exact (List.getElem?_inj hlt h).mp (by rw [hi, hj, hij])
  · rw [Scene.rename, Page.scene, Scene.page, Scene.mk.injEq]
    refine ⟨?_, rfl⟩
    apply Forest.rename_number
    intro i id hid
    show scene.attached.numbers[0 + i]?.getD _ = id
    rw [Nat.zero_add, hid, Option.getD_some]

end PageSync
