import Mathlib.Data.List.TakeWhile
import PageSync.Text.Pieces

/-!
Cutting texts that were put together: at separators, where a stretch of characters of one kind ends,
and at byte offsets. If the characters of a text are spelled out and no spelling makes or hides a
separator, cutting the spelled text gives the spellings of the pieces.
-/

namespace PageSync.Text

/-! ### Pieces -/

/-- A stretch without separators belongs to the piece that follows. -/
theorem pieces_append {sep : Char → Bool} {word rest first : List Char} {others : List (List Char)}
    (hword : ∀ x ∈ word, sep x = false) (hrest : pieces sep rest = first :: others) :
    pieces sep (word ++ rest) = (word ++ first) :: others := by
  induction word with
  | nil => exact hrest
  | cons x word ih =>
      have hx : sep x = false := hword x List.mem_cons_self
      have hmore := ih fun y hy => hword y (List.mem_cons_of_mem x hy)
      simp [pieces, hx, hmore]

/-- A stretch without separators ends at the first separator. -/
theorem pieces_append_cons {sep : Char → Bool} {c : Char} (hc : sep c) (word rest : List Char)
    (hword : ∀ x ∈ word, sep x = false) :
    pieces sep (word ++ c :: rest) = word :: pieces sep rest := by
  have hrest : pieces sep (c :: rest) = [] :: pieces sep rest := by rw [pieces, if_pos hc]
  rw [pieces_append hword hrest, List.append_nil]

theorem pieces_eq_singleton {sep : Char → Bool} {word : List Char}
    (hword : ∀ x ∈ word, sep x = false) : pieces sep word = [word] := by
  have hnil : pieces sep (word ++ []) = [word ++ []] := pieces_append hword rfl
  rwa [List.append_nil] at hnil

/-- No piece holds a separator. -/
theorem sep_eq_false_of_mem_pieces {sep : Char → Bool} {text piece : List Char} {x : Char}
    (hpiece : piece ∈ pieces sep text) (hx : x ∈ piece) : sep x = false := by
  induction text generalizing piece with
  | nil =>
      simp only [pieces, List.mem_singleton] at hpiece
      subst hpiece
      simp at hx
  | cons c rest ih =>
      obtain ⟨first, others, hrest⟩ := List.exists_cons_of_ne_nil (pieces_ne_nil sep rest)
      by_cases hc : sep c
      · simp only [pieces, hc, if_true, List.mem_cons] at hpiece
        rcases hpiece with rfl | hpiece
        · simp at hx
        · exact ih hpiece hx
      · simp only [pieces, hc, Bool.false_eq_true, if_false, hrest, List.mem_cons] at hpiece
        rcases hpiece with rfl | hpiece
        · rcases List.mem_cons.mp hx with rfl | hx
          · simpa using hc
          · exact ih (hrest ▸ List.mem_cons_self) hx
        · exact ih (hrest ▸ List.mem_cons_of_mem first hpiece) hx

/-- Pieces that are joined by a separator are cut apart as they were. -/
theorem pieces_intercalate {sep : Char → Bool} {c : Char} (hc : sep c) {list : List (List Char)}
    (hne : list ≠ []) (hlist : ∀ piece ∈ list, ∀ x ∈ piece, sep x = false) :
    pieces sep ([c].intercalate list) = list := by
  induction list with
  | nil => contradiction
  | cons piece list ih =>
      obtain ⟨hpiece, hrest⟩ := List.forall_mem_cons.mp hlist
      cases list with
      | nil => simp [pieces_eq_singleton hpiece]
      | cons next list =>
          have hjoin : [c].intercalate (piece :: next :: list) =
              piece ++ c :: [c].intercalate (next :: list) := by
            simp [List.intercalate]
          rw [hjoin, pieces_append_cons hc piece _ hpiece, ih (List.cons_ne_nil _ _) hrest]

/-- Words that are joined by a separator are read back as they were. -/
theorem words_intercalate {sep : Char → Bool} {c : Char} (hc : sep c) (list : List (List Char))
    (hlist : ∀ word ∈ list, word ≠ [] ∧ ∀ x ∈ word, sep x = false) :
    words sep ([c].intercalate list) = list := by
  cases list with
  | nil => rfl
  | cons word list =>
      rw [words, pieces_intercalate hc (List.cons_ne_nil _ _) fun piece hpiece =>
        (hlist piece hpiece).2, List.filter_eq_self]
      intro piece hpiece
      simpa using (hlist piece hpiece).1

/-- Separators in front make no words. -/
theorem words_replicate_append {sep : Char → Bool} {c : Char} (hc : sep c) (n : Nat)
    (rest : List Char) : words sep (List.replicate n c ++ rest) = words sep rest := by
  induction n with
  | zero => rw [List.replicate_zero, List.nil_append]
  | succ n ih =>
      have hskip : words sep (c :: (List.replicate n c ++ rest)) =
          words sep (List.replicate n c ++ rest) := by
        rw [words, pieces, if_pos hc, List.filter_cons_of_neg (by simp), words]
      rw [List.replicate_succ, List.cons_append, hskip, ih]

/-- A word ends where the text does, or at a separator. -/
theorem words_append {sep : Char → Bool} {word rest : List Char} (hne : word ≠ [])
    (hword : ∀ x ∈ word, sep x = false) (hend : ∀ c ∈ rest.head?, sep c = true) :
    words sep (word ++ rest) = word :: words sep rest := by
  cases rest with
  | nil =>
      rw [List.append_nil, words, pieces_eq_singleton hword,
        List.filter_cons_of_pos (by simpa using hne)]
      rfl
  | cons c rest =>
      have hc : sep c = true := hend c rfl
      have hskip := words_replicate_append hc 1 rest
      rw [List.replicate_one, List.singleton_append] at hskip
      rw [words, pieces_append_cons hc word rest hword,
        List.filter_cons_of_pos (by simpa using hne), hskip, words]

theorem cutAt_cons_self (sep : Char) (rest : List Char) :
    cutAt sep (sep :: rest) = ([], some rest) := by
  simp [cutAt]

theorem cutAt_append {sep : Char} {word : List Char} (hword : ∀ x ∈ word, (x == sep) = false)
    (rest : List Char) :
    cutAt sep (word ++ rest) = (word ++ (cutAt sep rest).1, (cutAt sep rest).2) := by
  have hne : ∀ x ∈ word, (x != sep) = true := by
    intro x hx
    rw [bne, hword x hx, Bool.not_false]
  rw [cutAt, List.takeWhile_append_of_pos hne, List.dropWhile_append_of_pos hne]
  rfl

/-! ### Stretches and offsets -/

theorem stretch_of_dropWhile {goes : Char → Bool} {text rest : List Char} {c : Char}
    (h : text.dropWhile goes = c :: rest) : text = text.takeWhile goes ++ c :: rest ∧
      (∀ x ∈ text.takeWhile goes, goes x = true) ∧ goes c = false := by
  have hc := List.head?_dropWhile_not goes text
  rw [h] at hc
  refine ⟨?_, fun x => List.mem_takeWhile_imp, hc⟩
  rw [← h, List.takeWhile_append_dropWhile]

section

variable {goes : Char → Bool} {word : List Char} (hword : ∀ x ∈ word, goes x = true) {c : Char}
  (hc : goes c = false) (rest : List Char)

include hword hc

theorem takeWhile_stretch : (word ++ c :: rest).takeWhile goes = word := by
  rw [List.takeWhile_append_of_pos hword, List.takeWhile_cons_of_neg (by simp [hc]),
    List.append_nil]

theorem dropWhile_stretch : (word ++ c :: rest).dropWhile goes = c :: rest := by
  rw [List.dropWhile_append_of_pos hword, List.dropWhile_cons_of_neg (by simp [hc])]

end

/-- A text without the separator is not cut; any other is cut where the separator first stands. -/
theorem cutAt_cases (sep : Char) (text : List Char) :
    sep ∉ text ∧ cutAt sep text = (text, none) ∨ ∃ word rest, text = word ++ sep :: rest ∧
      sep ∉ word ∧ cutAt sep text = (word, some rest) := by
  cases h : text.dropWhile (· != sep) with
  | nil =>
      have hall := List.dropWhile_eq_nil_iff.mp h
      refine .inl ⟨fun hmem => by simpa using hall sep hmem, ?_⟩
      rw [cutAt, h, List.takeWhile_eq_self_iff.mpr hall]
      rfl
  | cons c rest =>
      obtain ⟨htext, hword, hc⟩ := stretch_of_dropWhile h
      obtain rfl : c = sep := by simpa using hc
      refine .inr ⟨_, rest, htext, fun hmem => by simpa using hword c hmem, ?_⟩
      rw [cutAt, h]
      rfl

theorem takeBytes_zero (text : List Char) : takeBytes 0 text = [] := by
  cases text <;> rfl

theorem takeBytes_byteLength (front rest : List Char) :
    takeBytes (byteLength front) (front ++ rest) = front := by
  induction front with
  | nil => exact takeBytes_zero rest
  | cons c front ih =>
      have hne : c.utf8Size + byteLength front ≠ 0 := by
        have := c.utf8Size_pos
        omega
      rw [List.cons_append, byteLength, takeBytes, if_neg hne, Nat.add_sub_cancel_left, ih]

/-- What stands behind a stretch begins at the offset where the stretch ends. -/
theorem dropBytes_byteLength (front rest : List Char) :
    dropBytes (byteLength front) (front ++ rest) = rest := by
  have hboth := takeBytes_append_dropBytes (byteLength front) (front ++ rest)
  rw [takeBytes_byteLength] at hboth
  exact List.append_cancel_left hboth

theorem isBoundary_byteLength (front rest : List Char) :
    isBoundary (byteLength front) (front ++ rest) = true := by
  rw [isBoundary, takeBytes_byteLength]
  exact beq_self_eq_true _

/-! ### Spelled texts -/

/-- Separators are spelled as themselves, and no other character is spelled with one. -/
structure Separates (sep : Char → Bool) (spelling : Char → List Char) : Prop where
  self : ∀ c, sep c = true → spelling c = [c]
  other : ∀ c, sep c = false → spelling c ≠ [] ∧ ∀ d ∈ spelling c, sep d = false

namespace Separates

variable {sep : Char → Bool} {spelling : Char → List Char} (h : Separates sep spelling)

include h

theorem ne_nil (c : Char) : spelling c ≠ [] := by
  cases hc : sep c with
  | true =>
      rw [h.self c hc]
      exact List.cons_ne_nil c []
  | false => exact (h.other c hc).1

theorem isEmpty_flatMap (text : List Char) : (text.flatMap spelling).isEmpty = text.isEmpty := by
  cases text with
  | nil => rfl
  | cons c rest => simp [h.ne_nil c]

theorem pieces_flatMap (text : List Char) :
    pieces sep (text.flatMap spelling) = (pieces sep text).map (·.flatMap spelling) := by
  induction text with
  | nil => rfl
  | cons c rest ih =>
      obtain ⟨first, others, hrest⟩ := List.exists_cons_of_ne_nil (pieces_ne_nil sep rest)
      rw [List.flatMap_cons]
      cases hc : sep c with
      | true =>
          rw [h.self c hc]
          simp [pieces, hc, ih]
      | false =>
          rw [hrest, List.map_cons] at ih
          rw [pieces_append (h.other c hc).2 ih]
          simp [pieces, hc, hrest]

theorem words_flatMap (text : List Char) :
    words sep (text.flatMap spelling) = (words sep text).map (·.flatMap spelling) := by
  have hkept : ∀ piece ∈ pieces sep text,
      (!(piece.flatMap spelling).isEmpty) = !piece.isEmpty := by
    intro piece _
    rw [h.isEmpty_flatMap]
  rw [words, words, h.pieces_flatMap, List.filter_map]
  exact congrArg (List.map _) (List.filter_congr hkept)

end Separates

theorem Separates.cutAt_flatMap {sep : Char} {spelling : Char → List Char}
    (h : Separates (· == sep) spelling) (text : List Char) :
    cutAt sep (text.flatMap spelling) =
      ((cutAt sep text).1.flatMap spelling, (cutAt sep text).2.map (·.flatMap spelling)) := by
  induction text with
  | nil => rfl
  | cons c rest ih =>
      rw [List.flatMap_cons]
      cases hc : c == sep with
      | true =>
          obtain rfl := eq_of_beq hc
          rw [h.self c hc, List.singleton_append, cutAt_cons_self, cutAt_cons_self]
          rfl
      | false =>
          have hself : ∀ x ∈ [c], (x == sep) = false := by simpa using hc
          have hcons := cutAt_append hself rest
          rw [List.singleton_append] at hcons
          rw [cutAt_append (h.other c hc).2, ih, hcons, List.singleton_append, List.flatMap_cons]

end PageSync.Text
