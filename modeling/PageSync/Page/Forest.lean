/-!
Ordered forests of elements and texts. A forest is empty, or starts with a text, or with an element
whose children are a forest; what follows is a forest again.
-/

namespace PageSync

inductive Forest (α : Type) where
  | nil
  | text (content : String) (rest : Forest α)
  | element (item : α) (children rest : Forest α)
deriving Repr, DecidableEq

namespace Forest

variable {α β : Type}

def size : Forest α → Nat
  | .nil => 0
  | .text _ rest => rest.size
  | .element _ children rest => children.size + rest.size + 1

def toList : Forest α → List α
  | .nil => []
  | .text _ rest => rest.toList
  | .element item children rest => item :: (children.toList ++ rest.toList)

def map (f : α → β) : Forest α → Forest β
  | .nil => .nil
  | .text content rest => .text content (rest.map f)
  | .element item children rest => .element (f item) (children.map f) (rest.map f)

def append : Forest α → Forest α → Forest α
  | .nil, other => other
  | .text content rest, other => .text content (rest.append other)
  | .element item children rest, other => .element item children (rest.append other)

def textContent : Forest α → String
  | .nil => ""
  | .text content rest => content ++ rest.textContent
  | .element _ children rest => children.textContent ++ rest.textContent

def ofText (content : String) : Forest α := if content = "" then .nil else .text content .nil

def number (n : Nat) : Forest α → Forest (Nat × α)
  | .nil => .nil
  | .text content rest => .text content (rest.number n)
  | .element item children rest =>
    .element (n, item) (children.number (n + 1)) (rest.number (n + 1 + children.size))

def unnumber (forest : Forest (Nat × α)) : Forest α := forest.map Prod.snd

@[simp] theorem length_toList (forest : Forest α) : forest.toList.length = forest.size := by
  induction forest with
  | nil => rfl
  | text _ _ ih => exact ih
  | element _ _ _ ihc ihr => simp [toList, size, ihc, ihr]

@[simp] theorem toList_map (f : α → β) (forest : Forest α) :
    (forest.map f).toList = forest.toList.map f := by
  induction forest with
  | nil => rfl
  | text _ _ ih => exact ih
  | element _ _ _ ihc ihr => simp [toList, map, ihc, ihr]

@[simp] theorem toList_append (a b : Forest α) : (a.append b).toList = a.toList ++ b.toList := by
  induction a with
  | nil => rfl
  | text _ _ ih => exact ih
  | element _ _ _ _ ihr => simp [toList, append, ihr]

@[simp] theorem unnumber_number (n : Nat) (forest : Forest α) :
    (forest.number n).unnumber = forest := by
  induction forest generalizing n with
  | nil => rfl
  | text _ _ ih => simp [number, unnumber, map]; exact ih n
  | element _ _ _ ihc ihr =>
    simp only [number, unnumber, map, element.injEq, true_and]
    exact ⟨ihc _, ihr _⟩

/-- The numbers are consecutive in document order. -/
theorem fst_number (n : Nat) (forest : Forest α) :
    (forest.number n).toList.map Prod.fst = List.range' n forest.size := by
  induction forest generalizing n with
  | nil => rfl
  | text _ _ ih => exact ih n
  | element _ children rest ihc ihr =>
    simp only [number, toList, List.map_cons, List.map_append, ihc, ihr, size]
    rw [List.range'_append_1, List.range'_succ]

end Forest

end PageSync
