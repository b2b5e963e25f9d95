import PageSync.Proofs.Text.Percent
import PageSync.Proofs.Text.Pieces
import PageSync.Proofs.Text.Utf8
import PageSync.Query

/-!
The ways to write a list of parameters in form encoding. A character stands for itself, unless the
encoding gives it a meaning, or is escaped byte by byte, and a plus is a space; pairs are parted by
ampersands. However a list is written, its values are found as they were (`searchValue?_of_spells`).
-/

namespace PageSync.Query

open Text

/-! ### Spellings -/

/-- Every byte written as an escape, with digits of either case. -/
inductive EscapesBytes : List UInt8 → List Char → Prop where
  | nil : EscapesBytes [] []
  | cons {b : UInt8} {bytes : List UInt8} {high low : Char} {spelling : List Char}
      (hhigh : hexValue? high = some (b.toNat / 16)) (hlow : hexValue? low = some (b.toNat % 16))
      (rest : EscapesBytes bytes spelling) :
      EscapesBytes (b :: bytes) ('%' :: high :: low :: spelling)

/-- The spellings of a character where those of `reserved` do not stand for themselves. -/
inductive SpellsChar (reserved : List Char) : Char → List Char → Prop where
  | self {c : Char} (h : c ∉ reserved) : SpellsChar reserved c [c]
  | plus : SpellsChar reserved ' ' ['+']
  | escaped {c : Char} {spelling : List Char}
      (h : EscapesBytes (String.utf8EncodeChar c) spelling) : SpellsChar reserved c spelling

inductive SpellsText (reserved : List Char) : List Char → List Char → Prop where
  | nil : SpellsText reserved [] []
  | cons {c : Char} {text spelling rest : List Char} (head : SpellsChar reserved c spelling)
      (tail : SpellsText reserved text rest) : SpellsText reserved (c :: text) (spelling ++ rest)

def reservedInValue : List Char := ['&', '+', '%']

def reservedInKey : List Char := '=' :: reservedInValue

/-- Key and value around an equals sign. A value that is empty may be left out with the sign, if
something is left then. -/
inductive SpellsPair : String × String → List Char → Prop where
  | bare {key : String} {spelling : List Char}
      (hkey : SpellsText reservedInKey key.toList spelling) (hne : spelling ≠ []) :
      SpellsPair (key, "") spelling
  | full {key value : String} {left right : List Char}
      (hkey : SpellsText reservedInKey key.toList left)
      (hvalue : SpellsText reservedInValue value.toList right) :
      SpellsPair (key, value) (left ++ '=' :: right)

/-- Pairs with one or more ampersands between them, and any number at the ends. -/
inductive SpellsPairs : List (String × String) → List Char → Prop where
  | nil (n : Nat) : SpellsPairs [] (List.replicate n '&')
  | cons {pair : String × String} {pairs : List (String × String)} {piece rest : List Char}
      (n : Nat) (head : SpellsPair pair piece) (tail : SpellsPairs pairs rest)
      (parted : pairs ≠ [] → rest.head? = some '&') :
      SpellsPairs (pair :: pairs) (List.replicate n '&' ++ piece ++ rest)

/-! ### Characters and texts -/

theorem EscapesBytes.percentDecode {bytes : List UInt8} {spelling : List Char}
    (h : EscapesBytes bytes spelling) (rest : List Char) :
    percentDecode (spelling.map plusAsSpace ++ rest) = bytes ++ percentDecode rest := by
  induction h with
  | nil => rfl
  | @cons b bytes high low spelling hhigh hlow _ ih =>
      have hdigit : ∀ {c : Char} {n : Nat}, hexValue? c = some n → plusAsSpace c = c := by
        intro c n hc
        refine if_neg ?_
        rintro rfl
        contradiction
      have hsplit : b.toNat / 16 * 16 + b.toNat % 16 = b.toNat := by omega
      have hbyte : escapedByte? high low = some b := by
        refine escapedByte?_eq_some_iff.mpr ⟨_, _, hhigh, hlow, ?_⟩
        rw [hsplit, UInt8.ofNat_toNat]
      rw [List.map_cons, List.map_cons, List.map_cons, hdigit hhigh, hdigit hlow,
        List.cons_append, List.cons_append, List.cons_append]
      exact (percentDecode_of_escapedByte? hbyte _).trans (congrArg (b :: ·) ih)

theorem EscapesBytes.ne_mark {bytes : List UInt8} {spelling : List Char}
    (h : EscapesBytes bytes spelling) {mark : Char} (hmark : mark ≠ '%')
    (hdigit : hexValue? mark = none) : ∀ c ∈ spelling, (c == mark) = false := by
  have hother : ∀ {c : Char} {n : Nat}, hexValue? c = some n → (c == mark) = false := by
    intro c n hc
    rw [beq_eq_false_iff_ne]
    rintro rfl
    rw [hdigit] at hc
    contradiction
  induction h with
  | nil => exact List.forall_mem_nil _
  | cons hhigh hlow _ ih =>
      simp only [List.forall_mem_cons]
      exact ⟨beq_eq_false_iff_ne.mpr hmark.symm, hother hhigh, hother hlow, ih⟩

section

variable {reserved : List Char}

theorem SpellsChar.percentDecode {c : Char} {spelling : List Char}
    (h : SpellsChar reserved c spelling) (hplus : '+' ∈ reserved) (hpercent : '%' ∈ reserved)
    (rest : List Char) :
    percentDecode (spelling.map plusAsSpace ++ rest) =
      String.utf8EncodeChar c ++ percentDecode rest := by
  cases h with
  | self hc =>
      have hself : plusAsSpace c = c := by
        refine if_neg ?_
        rintro rfl
        exact hc hplus
      have hne : c ≠ '%' := by
        rintro rfl
        exact hc hpercent
      rw [List.map_singleton, hself, List.singleton_append, percentDecode_cons_of_ne hne]
  | plus => exact percentDecode_cons_of_ne (by decide) rest
  | escaped hbytes => exact hbytes.percentDecode rest

theorem SpellsText.percentDecode {text spelling : List Char}
    (h : SpellsText reserved text spelling) (hplus : '+' ∈ reserved) (hpercent : '%' ∈ reserved) :
    percentDecode (spelling.map plusAsSpace) = encode text := by
  induction h with
  | nil => rfl
  | cons head _ ih =>
      rw [List.map_append, head.percentDecode hplus hpercent, ih, encode, encode,
        List.flatMap_cons]

/-- What is spelled is read as it was. -/
theorem SpellsText.decode_eq {text spelling : List Char} (h : SpellsText reserved text spelling)
    (hplus : '+' ∈ reserved) (hpercent : '%' ∈ reserved) : decode spelling = text := by
  rw [decode, h.percentDecode hplus hpercent, decodeLossy_encode]

/-- No spelling makes a separator. -/
theorem SpellsText.ne_mark {text spelling : List Char} (h : SpellsText reserved text spelling)
    {mark : Char} (hmark : mark = '&' ∨ mark = '=') (hreserved : mark ∈ reserved) :
    ∀ c ∈ spelling, (c == mark) = false := by
  induction h with
  | nil => exact List.forall_mem_nil _
  | cons head _ ih =>
      rw [List.forall_mem_append]
      refine ⟨?_, ih⟩
      cases head with
      | self hc =>
          rw [List.forall_mem_singleton, beq_eq_false_iff_ne]
          rintro rfl
          exact hc hreserved
      | plus => rcases hmark with rfl | rfl <;> decide
      | escaped hbytes =>
          refine hbytes.ne_mark ?_ ?_
          · rcases hmark with rfl | rfl <;> decide
          · rcases hmark with rfl | rfl <;> decide

end

/-- A text that has no meaning in it stands for itself. -/
theorem SpellsText.of_forall_not_mem {reserved text : List Char} (h : ∀ c ∈ text, c ∉ reserved) :
    SpellsText reserved text text := by
  induction text with
  | nil => exact .nil
  | cons c rest ih =>
      obtain ⟨hc, hrest⟩ := List.forall_mem_cons.mp h
      exact .cons (.self hc) (ih hrest)

/-! ### Pairs -/

theorem decodePiece_bare {key spelling : List Char} (hkey : SpellsText reservedInKey key spelling) :
    decodePiece spelling = (key, []) := by
  have hcut := cutAt_append (hkey.ne_mark (.inr rfl) (by decide)) []
  have hempty : decode [] = [] := by simp [decode, percentDecode, decodeLossy]
  rw [List.append_nil] at hcut
  rw [decodePiece, hcut]
  simp only [cutAt, List.takeWhile_nil, List.dropWhile_nil, List.tail?_nil, List.append_nil,
    Option.getD_none, hempty, hkey.decode_eq (by decide) (by decide)]

theorem decodePiece_full {key value left right : List Char}
    (hkey : SpellsText reservedInKey key left) (hvalue : SpellsText reservedInValue value right) :
    decodePiece (left ++ '=' :: right) = (key, value) := by
  have hcut := cutAt_append (hkey.ne_mark (.inr rfl) (by decide)) ('=' :: right)
  rw [cutAt_cons_self, List.append_nil] at hcut
  rw [decodePiece, hcut]
  simp only [Option.getD_some, hkey.decode_eq (by decide) (by decide),
    hvalue.decode_eq (by decide) (by decide)]

/-- A pair is read from its piece as it was. -/
theorem SpellsPair.decodePiece_eq {pair : String × String} {piece : List Char}
    (h : SpellsPair pair piece) : decodePiece piece = (pair.1.toList, pair.2.toList) := by
  cases h with
  | bare hkey _ => exact decodePiece_bare hkey
  | full hkey hvalue => exact decodePiece_full hkey hvalue

theorem SpellsPair.ne_nil {pair : String × String} {piece : List Char}
    (h : SpellsPair pair piece) : piece ≠ [] := by
  cases h with
  | bare _ hne => exact hne
  | full _ _ => exact List.append_ne_nil_of_right_ne_nil _ (List.cons_ne_nil _ _)

/-- No piece holds what parts pieces. -/
theorem SpellsPair.ne_amp {pair : String × String} {piece : List Char}
    (h : SpellsPair pair piece) : ∀ c ∈ piece, (c == '&') = false := by
  cases h with
  | bare hkey _ => exact hkey.ne_mark (.inl rfl) (by decide)
  | full hkey hvalue =>
      rw [List.forall_mem_append, List.forall_mem_cons]
      exact ⟨hkey.ne_mark (.inl rfl) (by decide), rfl, hvalue.ne_mark (.inl rfl) (by decide)⟩

/-- After a piece the text ends, or an ampersand follows. -/
theorem SpellsPairs.head_eq {list : List (String × String)} {rest : List Char}
    (h : SpellsPairs list rest) (parted : list ≠ [] → rest.head? = some '&') :
    ∀ c ∈ rest.head?, (c == '&') = true := by
  intro c hc
  cases h with
  | nil n =>
      cases n with
      | zero => contradiction
      | succ n =>
          obtain rfl := Option.some.inj hc
          rfl
  | cons _ _ _ _ =>
      rw [parted (List.cons_ne_nil _ _)] at hc
      obtain rfl := Option.some.inj hc
      rfl

theorem words_replicate_amp (n : Nat) (rest : List Char) :
    words (· == '&') (List.replicate n '&' ++ rest) = words (· == '&') rest :=
  words_replicate_append (by rfl) n rest

/-- A list of pairs is read as it was, however it is written. -/
theorem SpellsPairs.pairs_eq {list : List (String × String)} {text : List Char}
    (h : SpellsPairs list text) :
    pairs text = list.map fun pair => (pair.1.toList, pair.2.toList) := by
  induction h with
  | nil n =>
      rw [pairs, ← List.append_nil (List.replicate n '&'), words_replicate_amp]
      rfl
  | cons n head tail parted ih =>
      rw [pairs] at ih
      rw [pairs, List.append_assoc, words_replicate_amp,
        words_append head.ne_nil head.ne_amp (tail.head_eq parted), List.map_cons, List.map_cons,
        head.decodePiece_eq, ih]

/-- The value that is found for a name is that of the first pair with it, however the pairs are
written. -/
theorem searchValue?_of_spells {list : List (String × String)} {text : List Char}
    (h : SpellsPairs list text) (name : String) :
    searchValue? (String.ofList ('?' :: text)) name =
      (list.find? fun pair => pair.1 == name).map (·.2) := by
  have hname : ∀ pair : String × String,
      (pair.1.toList == name.toList) = (pair.1 == name) := by
    intro pair
    rw [Bool.eq_iff_iff, beq_iff_eq, beq_iff_eq, String.toList_inj]
  rw [searchValue?, String.toList_ofList, withoutMark, value?, h.pairs_eq, List.find?_map,
    Option.map_map]
  simp [Function.comp_def, hname]

/-- A value without a name, a name that is escaped in part, and a bare name that comes again. -/
def mixedPairs : List (String × String) := [("", "é="), ("view", "a b"), ("view", "")]

def mixedQuery : List Char := "&=%c3%A9=&&v%69ew=a+%62&view".toList

theorem spellsPairs_mixedQuery : SpellsPairs mixedPairs mixedQuery := by
  have hnothing : SpellsText reservedInKey "".toList [] := .nil
  have hescaped : SpellsText reservedInValue "é=".toList "%c3%A9=".toList := by
    have hchar : SpellsChar reservedInValue 'é' ['%', 'c', '3', '%', 'A', '9'] :=
      .escaped (.cons rfl rfl (.cons rfl rfl .nil))
    exact SpellsText.cons hchar (.of_forall_not_mem (by decide))
  have hname : SpellsText reservedInKey "view".toList "v%69ew".toList := by
    have hchar : SpellsChar reservedInKey 'i' ['%', '6', '9'] := .escaped (.cons rfl rfl .nil)
    exact SpellsText.cons (.self (by decide)) (.cons hchar (.of_forall_not_mem (by decide)))
  have hvalue : SpellsText reservedInValue "a b".toList "a+%62".toList := by
    have hchar : SpellsChar reservedInValue 'b' ['%', '6', '2'] := .escaped (.cons rfl rfl .nil)
    exact SpellsText.cons (.self (by decide)) (.cons .plus (.cons hchar .nil))
  have hbare : SpellsText reservedInKey "view".toList "view".toList :=
    .of_forall_not_mem (by decide)
  exact .cons 1 (.full hnothing hescaped)
    (.cons 2 (.full hname hvalue)
      (.cons 1 (.bare hbare (by decide)) (.nil 0) (fun h => absurd rfl h)) (fun _ => rfl))
    (fun _ => rfl)

theorem searchValue?_of_spells_mixedQuery :
    SpellsPairs mixedPairs mixedQuery ∧
    searchValue? (String.ofList ('?' :: mixedQuery)) "view" = some "a b" ∧
    searchValue? (String.ofList ('?' :: mixedQuery)) "" = some "é=" ∧
    searchValue? (String.ofList ('?' :: mixedQuery)) "tab" = none :=
  ⟨spellsPairs_mixedQuery, searchValue?_of_spells spellsPairs_mixedQuery "view",
    searchValue?_of_spells spellsPairs_mixedQuery "",
    searchValue?_of_spells spellsPairs_mixedQuery "tab"⟩

end PageSync.Query
