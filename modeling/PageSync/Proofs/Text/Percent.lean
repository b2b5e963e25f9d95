import PageSync.Text.Percent

/-!
Reading percent escapes. An escape is read as its byte, and a percent sign that begins none as
itself. So a text can have any of its characters escaped beforehand, as long as those that make up
escapes stay: it is read as the same bytes (`percentDecode_flatMap`).
-/

namespace PageSync.Text

/-- What holds of the characters of a text is decided on them; as a statement about every character
there is, it would be tried on all. -/
instance (priority := 2000) decidableForallMem {p : Char → Prop} [DecidablePred p]
    (text : List Char) : Decidable (∀ c ∈ text, p c) :=
  List.decidableBAll p text

/-! ### Hexadecimal digits -/

theorem hexValue?_upperHexDigit {n : Nat} (h : n < 16) :
    hexValue? (upperHexDigit n) = some n := by
  have hall : ∀ n < 16, hexValue? (upperHexDigit n) = some n := by decide
  exact hall n h

theorem isHexDigit_upperHexDigit {n : Nat} (h : n < 16) : isHexDigit (upperHexDigit n) = true := by
  rw [isHexDigit, hexValue?_upperHexDigit h, Option.isSome_some]

theorem isHexDigit_percent : isHexDigit '%' = false := by decide

/-- The hexadecimal digits are ASCII. -/
theorem toNat_of_isHexDigit {c : Char} (h : isHexDigit c = true) :
    '0'.toNat ≤ c.toNat ∧ c.toNat ≤ 'f'.toNat := by
  have hrange : ∀ low high : Char, (decide (low ≤ c) && decide (c ≤ high)) = true →
      low.toNat ≤ c.toNat ∧ c.toNat ≤ high.toNat := by
    intro low high hc
    rw [Bool.and_eq_true, decide_eq_true_eq, decide_eq_true_eq] at hc
    exact hc
  have hends : '0'.toNat ≤ 'A'.toNat ∧ '9'.toNat ≤ 'f'.toNat ∧ '0'.toNat ≤ 'a'.toNat ∧
      'F'.toNat ≤ 'f'.toNat := by decide
  rw [isHexDigit, hexValue?] at h
  split at h
  · have hc := hrange _ _ ‹_›
    omega
  · split at h
    · have hc := hrange _ _ ‹_›
      omega
    · split at h
      · have hc := hrange _ _ ‹_›
        omega
      · contradiction

theorem hexValue?_lt {c : Char} {n : Nat} (h : hexValue? c = some n) : n < 16 := by
  have hall : ∀ code ≤ 'f'.toNat, ∀ n ∈ hexValue? (Char.ofNat code), n < 16 := by decide
  have hdigit : isHexDigit c = true := by rw [isHexDigit, h, Option.isSome_some]
  rw [← Char.ofNat_toNat c] at h
  exact hall c.toNat (toNat_of_isHexDigit hdigit).2 n h

theorem escapedByte?_eq_some_iff {high low : Char} {b : UInt8} :
    escapedByte? high low = some b ↔
      ∃ h l, hexValue? high = some h ∧ hexValue? low = some l ∧ UInt8.ofNat (h * 16 + l) = b := by
  simp only [escapedByte?, bind, pure, Option.bind_eq_some_iff, Option.some.injEq,
    exists_and_left]

theorem isHexDigit_of_escapedByte? {high low : Char} {b : UInt8}
    (h : escapedByte? high low = some b) : isHexDigit high = true ∧ isHexDigit low = true := by
  obtain ⟨_, _, hhigh, hlow, -⟩ := escapedByte?_eq_some_iff.mp h
  exact ⟨by rw [isHexDigit, hhigh, Option.isSome_some],
    by rw [isHexDigit, hlow, Option.isSome_some]⟩

/-! ### Reading from the front -/

theorem percentDecode_cons_of_ne {c : Char} (h : c ≠ '%') (rest : List Char) :
    percentDecode (c :: rest) = String.utf8EncodeChar c ++ percentDecode rest := by
  rw [percentDecode]
  rintro _ _ _ rfl
  contradiction

theorem percentDecode_of_escapedByte? {high low : Char} {b : UInt8}
    (h : escapedByte? high low = some b) (rest : List Char) :
    percentDecode ('%' :: high :: low :: rest) = b :: percentDecode rest := by
  rw [percentDecode, h]

/-- A percent sign without two digits after it stands for itself. -/
theorem percentDecode_stray {rest : List Char}
    (h : ∀ high low after, rest = high :: low :: after → escapedByte? high low = none) :
    percentDecode ('%' :: rest) = 0x25 :: percentDecode rest := by
  match rest with
  | [] => rfl
  | [_] => rfl
  | high :: low :: after => rw [percentDecode, h high low after rfl]

/-- The escape of a byte is read as the byte. -/
theorem percentDecode_escapeByte (b : UInt8) (rest : List Char) :
    percentDecode (escapeByte b ++ rest) = b :: percentDecode rest := by
  have hb : b.toNat < 256 := b.toNat_lt
  have hhigh : b.toNat / 16 < 16 := by omega
  have hlow : b.toNat % 16 < 16 := by omega
  have hsplit : b.toNat / 16 * 16 + b.toNat % 16 = b.toNat := by omega
  apply percentDecode_of_escapedByte?
  refine escapedByte?_eq_some_iff.mpr ⟨_, _, hexValue?_upperHexDigit hhigh,
    hexValue?_upperHexDigit hlow, ?_⟩
  rw [hsplit, UInt8.ofNat_toNat]

theorem percentDecode_escapeBytes (bytes : List UInt8) (rest : List Char) :
    percentDecode (bytes.flatMap escapeByte ++ rest) = bytes ++ percentDecode rest := by
  induction bytes with
  | nil => rfl
  | cons b bytes ih =>
      rw [List.flatMap_cons, List.append_assoc, percentDecode_escapeByte, ih, List.cons_append]

/-! ### What escapes are made of -/

theorem mem_escapeByte {b : UInt8} {c : Char} (h : c ∈ escapeByte b) :
    c = '%' ∨ isHexDigit c = true := by
  have hb : b.toNat < 256 := b.toNat_lt
  have hhigh : b.toNat / 16 < 16 := by omega
  have hlow : b.toNat % 16 < 16 := by omega
  simp only [escapeByte, List.mem_cons, List.not_mem_nil, or_false] at h
  rcases h with rfl | rfl | rfl
  · exact .inl rfl
  · exact .inr (isHexDigit_upperHexDigit hhigh)
  · exact .inr (isHexDigit_upperHexDigit hlow)

theorem percentEncodeChar_ne_nil (keep : Char → Bool) (c : Char) :
    percentEncodeChar keep c ≠ [] := by
  rw [percentEncodeChar]
  split
  · exact List.cons_ne_nil c []
  · cases hbytes : String.utf8EncodeChar c with
    | nil => exact absurd hbytes String.utf8EncodeChar_ne_nil
    | cons b bytes => simp [escapeByte]

/-- What no escape is made of is only spelled where it stands. -/
theorem ne_of_mem_percentEncodeChar {keep : Char → Bool} {c d mark : Char} (hmark : mark ≠ '%')
    (hdigit : isHexDigit mark = false) (hc : c ≠ mark) (hd : d ∈ percentEncodeChar keep c) :
    d ≠ mark := by
  rw [percentEncodeChar] at hd
  split at hd
  · rw [List.mem_singleton.mp hd]
    exact hc
  · obtain ⟨b, -, hb⟩ := List.mem_flatMap.mp hd
    rintro rfl
    rcases mem_escapeByte hb with hpercent | hyes
    · exact hmark hpercent
    · rw [hdigit] at hyes
      contradiction

/-! ### Escaping beforehand -/

/-- A spelling that begins with a percent sign and is read as the bytes of the character, whatever
follows it. -/
def Escapes (c : Char) (spelling : List Char) : Prop :=
  spelling.head? = some '%' ∧
    ∀ rest, percentDecode (spelling ++ rest) = String.utf8EncodeChar c ++ percentDecode rest

theorem escapes_escapeBytes (c : Char) :
    Escapes c ((String.utf8EncodeChar c).flatMap escapeByte) := by
  refine ⟨?_, percentDecode_escapeBytes _⟩
  cases hbytes : String.utf8EncodeChar c with
  | nil => exact absurd hbytes String.utf8EncodeChar_ne_nil
  | cons b bytes => rfl

/-- Every character stands for itself or is escaped, and those that make up escapes stand for
themselves. -/
def Spells {α : Type} (char : α → Char) (spelling : α → List Char) : Prop :=
  ∀ a, spelling a = [char a] ∨
    Escapes (char a) (spelling a) ∧ char a ≠ '%' ∧ isHexDigit (char a) = false

section

variable {α : Type} {char : α → Char} {spelling : α → List Char}

theorem spells_self (char : α → Char) : Spells char fun a => [char a] := fun _ => .inl rfl

theorem Spells.of_isHexDigit (h : Spells char spelling) {a : α}
    (ha : isHexDigit (char a) = true) : spelling a = [char a] := by
  rcases h a with hself | ⟨-, -, hnot⟩
  · exact hself
  · rw [hnot] at ha
    contradiction

/-- A digit at the head of a spelled text stands for itself. -/
theorem Spells.head_of_isHexDigit (h : Spells char spelling) {text : List α} {c : Char}
    {rest : List Char} (hc : isHexDigit c = true) (htext : text.flatMap spelling = c :: rest) :
    ∃ a after, text = a :: after ∧ char a = c ∧ after.flatMap spelling = rest := by
  cases text with
  | nil => simp at htext
  | cons a after =>
      rw [List.flatMap_cons] at htext
      rcases h a with hself | ⟨⟨hhead, -⟩, -, -⟩
      · rw [hself, List.singleton_append, List.cons.injEq] at htext
        exact ⟨a, after, rfl, htext⟩
      · -- the spelling would begin with the percent sign, which is no digit
        obtain ⟨escape, hescape⟩ := List.head?_eq_some_iff.mp hhead
        rw [hescape, List.cons_append, List.cons.injEq] at htext
        rw [← htext.1, isHexDigit_percent] at hc
        contradiction

/-- After a percent sign the text would go on with the two digits of an escape. -/
def GoesOnAsEscape (char : α → Char) (text : List α) : Prop :=
  ∃ a b rest byte, text = a :: b :: rest ∧ escapedByte? (char a) (char b) = some byte

/-- No spelling makes an escape of a percent sign that begins none. -/
theorem Spells.percentDecode_stray (h : Spells char spelling) {text : List α}
    (htext : ¬GoesOnAsEscape char text) :
    percentDecode ('%' :: text.flatMap spelling) =
      0x25 :: percentDecode (text.flatMap spelling) := by
  apply Text.percentDecode_stray
  intro high low after hspelled
  rw [Option.eq_none_iff_forall_ne_some]
  intro byte hbyte
  obtain ⟨hhigh, hlow⟩ := isHexDigit_of_escapedByte? hbyte
  obtain ⟨a, more, rfl, rfl, hmore⟩ := h.head_of_isHexDigit hhigh hspelled
  obtain ⟨b, rest, rfl, rfl, -⟩ := h.head_of_isHexDigit hlow hmore
  exact htext ⟨a, b, rest, byte, rfl, hbyte⟩

/-- However a text is spelled, it is read as the same bytes. -/
theorem Spells.percentDecode_flatMap (h : Spells char spelling) (text : List α) :
    percentDecode (text.flatMap spelling) = percentDecode (text.map char) := by
  match text with
  | [] => rfl
  | a :: rest =>
    have hrest := percentDecode_flatMap h rest
    rw [List.flatMap_cons, List.map_cons]
    rcases h a with hself | ⟨⟨-, hescape⟩, hne, -⟩
    · rw [hself, List.singleton_append]
      by_cases hpercent : char a = '%'
      · rw [hpercent]
        -- a percent sign that begins an escape takes its two digits with it, however the rest is
        -- spelled
        by_cases hdigits : GoesOnAsEscape char rest
        · obtain ⟨b, c, after, byte, rfl, hbyte⟩ := hdigits
          obtain ⟨hb, hc⟩ := isHexDigit_of_escapedByte? hbyte
          have hafter := percentDecode_flatMap h after
          rw [List.flatMap_cons, List.flatMap_cons, h.of_isHexDigit hb, h.of_isHexDigit hc,
            List.singleton_append, List.singleton_append, List.map_cons, List.map_cons,
            percentDecode_of_escapedByte? hbyte, percentDecode_of_escapedByte? hbyte, hafter]
        · have hplain := (spells_self char).percentDecode_stray hdigits
          rw [← List.map_eq_flatMap] at hplain
          rw [h.percentDecode_stray hdigits, hplain, hrest]
      · rw [percentDecode_cons_of_ne hpercent, percentDecode_cons_of_ne hpercent, hrest]
    · rw [hescape, percentDecode_cons_of_ne hne, hrest]
termination_by text.length

end

end PageSync.Text
