import PageSync.Proofs.Text.Percent
import PageSync.Proofs.Text.Pieces
import PageSync.Query

/-!
Query strings that were escaped beforehand. Escaping keeps the characters that the form encoding
gives a meaning to, so the pairs are cut at the same places, and what is escaped is read back as
what it was: the pairs of the escaped query are those of the query (`pairs_percentEncode`).
-/

namespace PageSync.Query

open Text

/-- All that the form encoding gives a meaning to is kept. -/
def KeepsForm (keep : Char → Bool) : Prop :=
  ∀ c, isHexDigit c = true ∨ c = '%' ∨ c = '&' ∨ c = '=' ∨ c = '+' → keep c = true

section

variable {keep : Char → Bool} (hkeep : KeepsForm keep)

include hkeep

theorem separates_percentEncodeChar {mark : Char} (hmark : mark = '&' ∨ mark = '=') :
    Separates (· == mark) (percentEncodeChar keep) := by
  have hpercent : mark ≠ '%' := by rcases hmark with rfl | rfl <;> decide
  have hdigit : isHexDigit mark = false := by rcases hmark with rfl | rfl <;> decide
  constructor
  · intro c hc
    obtain rfl := eq_of_beq hc
    have hform : keep c = true := hkeep c (by rcases hmark with rfl | rfl <;> simp)
    rw [percentEncodeChar, if_pos hform]
  · intro c hc
    refine ⟨percentEncodeChar_ne_nil keep c, fun d hd => ?_⟩
    simpa using ne_of_mem_percentEncodeChar hpercent hdigit (by simpa using hc) hd

/-- With a plus read as a space, too, what is escaped is read as what it was. -/
theorem spells_plusAsSpace :
    Spells plusAsSpace fun c => (percentEncodeChar keep c).map plusAsSpace := by
  intro c
  cases hc : keep c with
  | true =>
      left
      simp only [percentEncodeChar, if_pos hc]
      rfl
  | false =>
      have hnot : ¬(isHexDigit c = true ∨ c = '%' ∨ c = '&' ∨ c = '=' ∨ c = '+') := by
        intro hform
        rw [hkeep c hform] at hc
        contradiction
      simp only [not_or, Bool.not_eq_true] at hnot
      obtain ⟨hdigit, hpercent, -, -, hplus⟩ := hnot
      have hself : plusAsSpace c = c := if_neg hplus
      have hescapes : (percentEncodeChar keep c).map plusAsSpace =
          (String.utf8EncodeChar c).flatMap escapeByte := by
        -- no plus sign is written in an escape, so none of it becomes a space
        have hno : ∀ d ∈ percentEncodeChar keep c, plusAsSpace d = d := by
          intro d hd
          exact if_neg (ne_of_mem_percentEncodeChar (by decide) (by decide) hplus hd)
        rw [List.map_congr_left hno, List.map_id', percentEncodeChar, hc]
        rfl
      right
      rw [hself]
      refine ⟨?_, hpercent, hdigit⟩
      simp only [hescapes]
      exact escapes_escapeBytes c

theorem decode_percentEncode (text : List Char) :
    decode (percentEncode keep text) = decode text := by
  have hmap : (percentEncode keep text).map plusAsSpace =
      text.flatMap fun c => (percentEncodeChar keep c).map plusAsSpace := by
    rw [percentEncode, List.map_flatMap]
  rw [decode, hmap, (spells_plusAsSpace hkeep).percentDecode_flatMap, decode]

theorem decodePiece_percentEncode (piece : List Char) :
    decodePiece (percentEncode keep piece) = decodePiece piece := by
  have hcut := (separates_percentEncodeChar hkeep (.inr rfl)).cutAt_flatMap piece
  have hdecode : ∀ text, decode (text.flatMap (percentEncodeChar keep)) = decode text :=
    decode_percentEncode hkeep
  rw [decodePiece, percentEncode, hcut, decodePiece]
  simp only [hdecode]
  cases (cutAt '=' piece).2 with
  | none => rfl
  | some value => simp only [Option.map_some, Option.getD_some, hdecode]

/-- An escaped query has the pairs of the query. -/
theorem pairs_percentEncode (query : List Char) :
    pairs (percentEncode keep query) = pairs query := by
  have hwords := (separates_percentEncodeChar hkeep (.inl rfl)).words_flatMap query
  rw [pairs, percentEncode, hwords, List.map_map, pairs]
  exact List.map_congr_left fun piece _ => decodePiece_percentEncode hkeep piece

theorem value?_percentEncode (query : List Char) (name : String) :
    value? (percentEncode keep query) name = value? query name := by
  rw [value?, pairs_percentEncode hkeep, value?]

end

end PageSync.Query
