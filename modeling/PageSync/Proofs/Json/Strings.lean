import Mathlib.Data.List.TakeWhile
import PageSync.Json.Value
import PageSync.Proofs.Except
import PageSync.Proofs.Text.Percent

/-!
Space and strings in JSON text, and the ways to write a string: every character as itself, as a
short escape, or in hexadecimal digits, characters beyond sixteen bits as a surrogate pair. What is
read is exactly what is written so (`readString_eq_ok`). A string that is passed over may hold any
sixteen bits (`skipString_eq_ok`).
-/

namespace PageSync.Json

open Text

/-! ### Space -/

def Space (text : List Char) : Prop := ∀ c ∈ text, c ∈ [' ', '\n', '\t', '\r']

instance (text : List Char) : Decidable (Space text) := List.decidableBAll _ text

theorem isSpace_iff {c : Char} : isSpace c = true ↔ c ∈ [' ', '\n', '\t', '\r'] := by
  simp only [isSpace, Bool.or_eq_true, beq_iff_eq, List.mem_cons, List.not_mem_nil, or_false,
    or_assoc]

theorem space_nil : Space [] := List.forall_mem_nil _

theorem Space.append {before after : List Char} (hbefore : Space before) (hafter : Space after) :
    Space (before ++ after) :=
  List.forall_mem_append.mpr ⟨hbefore, hafter⟩

theorem skipSpace_append {space : List Char} (h : Space space) (rest : List Char) :
    skipSpace (space ++ rest) = skipSpace rest :=
  List.dropWhile_append_of_pos fun c hc => isSpace_iff.mpr (h c hc)

theorem skipSpace_cons {c : Char} (h : isSpace c = false) (rest : List Char) :
    skipSpace (c :: rest) = c :: rest :=
  List.dropWhile_cons_of_neg (by rw [h]; decide)

/-- What is skipped is space. -/
theorem exists_space (text : List Char) :
    ∃ space, Space space ∧ text = space ++ skipSpace text :=
  ⟨text.takeWhile isSpace, fun _ hc => isSpace_iff.mp (List.mem_takeWhile_imp hc),
    List.takeWhile_append_dropWhile.symm⟩

theorem skipSpace_eq_nil {text : List Char} : skipSpace text = [] ↔ Space text := by
  refine List.dropWhile_eq_nil_iff.trans (forall₂_congr fun c _ => ?_)
  exact isSpace_iff

theorem skipSpace_eq_cons {c : Char} (hc : isSpace c = false) {text rest : List Char} :
    skipSpace text = c :: rest ↔ ∃ space, Space space ∧ text = space ++ c :: rest := by
  constructor
  · intro h
    obtain ⟨space, hspace, htext⟩ := exists_space text
    exact ⟨space, hspace, by rw [htext, h]⟩
  · rintro ⟨space, hspace, rfl⟩
    rw [skipSpace_append hspace, skipSpace_cons hc]

/-! ### Written strings -/

/-- Four digits that write a number. -/
structure SpellsUnit (n : Nat) (digits : List Char) : Prop where
  length_eq : digits.length = 4
  digit : ∀ c ∈ digits, isHexDigit c = true
  value_eq : hexNumeral digits = n

/-- The letters of short escapes, with what they stand for. -/
def shortEscapes : List (Char × Char) :=
  [('"', '"'), ('\\', '\\'), ('/', '/'), ('b', '\x08'), ('f', '\x0c'), ('n', '\n'), ('r', '\r'),
    ('t', '\t')]

structure StandsForItself (c : Char) : Prop where
  notControl : 0x20 ≤ c.toNat
  notQuote : c ≠ '"'
  notBackslash : c ≠ '\\'

inductive SpellsChar : Char → List Char → Prop where
  | self {c : Char} (h : StandsForItself c) : SpellsChar c [c]
  | short {letter c : Char} (h : (letter, c) ∈ shortEscapes) : SpellsChar c ['\\', letter]
  | unit {c : Char} {digits : List Char} (h : SpellsUnit c.toNat digits) :
      SpellsChar c ('\\' :: 'u' :: digits)
  | pair {c : Char} {high low : List Char} (h : 0x10000 ≤ c.toNat)
      (hhigh : SpellsUnit (0xD800 + (c.toNat - 0x10000) / 0x400) high)
      (hlow : SpellsUnit (0xDC00 + (c.toNat - 0x10000) % 0x400) low) :
      SpellsChar c ('\\' :: 'u' :: (high ++ '\\' :: 'u' :: low))

inductive SpellsChars : List Char → List Char → Prop where
  | nil : SpellsChars [] []
  | cons {c : Char} {content spelling body : List Char} (head : SpellsChar c spelling)
      (tail : SpellsChars content body) : SpellsChars (c :: content) (spelling ++ body)

inductive SpellsString (content : List Char) : List Char → Prop where
  | quoted {body : List Char} (h : SpellsChars content body) :
      SpellsString content ('"' :: (body ++ ['"']))

/-- What any string may hold between its quotes: any four digits are an escape. -/
inductive StringBody : List Char → Prop where
  | nil : StringBody []
  | self {c : Char} {body : List Char} (h : StandsForItself c) (tail : StringBody body) :
      StringBody (c :: body)
  | short {letter c : Char} {body : List Char} (h : (letter, c) ∈ shortEscapes)
      (tail : StringBody body) : StringBody ('\\' :: letter :: body)
  | unit {n : Nat} {digits body : List Char} (h : SpellsUnit n digits) (tail : StringBody body) :
      StringBody ('\\' :: 'u' :: (digits ++ body))

theorem StringBody.append_chars {c : Char} {spelling body : List Char} (h : SpellsChar c spelling)
    (tail : StringBody body) : StringBody (spelling ++ body) := by
  cases h with
  | self h => exact .self h tail
  | short h => exact .short h tail
  | unit h => exact .unit h tail
  | pair _ hhigh hlow =>
      have hboth := StringBody.unit hhigh (.unit hlow tail)
      simpa only [List.cons_append, List.append_assoc] using hboth

theorem SpellsChars.stringBody {content body : List Char} (h : SpellsChars content body) :
    StringBody body := by
  induction h with
  | nil => exact .nil
  | cons head _ ih => exact ih.append_chars head

/-! ### Escapes -/

theorem hexQuad_eq_ok {text rest : List Char} {n : Nat} :
    hexQuad text = .ok (n, rest) ↔ ∃ digits, SpellsUnit n digits ∧ text = digits ++ rest := by
  constructor
  · intro h
    unfold hexQuad at h
    split at h
    · rename_i a b c d rest'
      split at h
      · rename_i hdigits
        simp only [Except.ok.injEq, Prod.mk.injEq] at h
        obtain ⟨hvalue, rfl⟩ := h
        exact ⟨[a, b, c, d], ⟨rfl, List.all_eq_true.mp hdigits, hvalue⟩, rfl⟩
      · contradiction
    · contradiction
  · rintro ⟨digits, ⟨hlength, hdigit, rfl⟩, rfl⟩
    match digits with
    | [a, b, c, d] =>
      have hall : [a, b, c, d].all isHexDigit = true := List.all_eq_true.mpr hdigit
      simp [hexQuad, hall]

theorem SpellsUnit.lt {n : Nat} {digits : List Char} (h : SpellsUnit n digits) : n < 0x10000 := by
  obtain ⟨hlength, hdigit, rfl⟩ := h
  match digits with
  | [a, b, c, d] =>
    have hlt : ∀ x ∈ [a, b, c, d], (hexValue? x).getD 0 < 16 := by
      intro x hx
      obtain ⟨n, hn⟩ := Option.isSome_iff_exists.mp (hdigit x hx)
      rw [hn]
      exact hexValue?_lt hn
    simp only [List.forall_mem_cons] at hlt
    obtain ⟨ha, hb, hc, hd, -⟩ := hlt
    simp only [hexNumeral, numeral, List.map_cons, List.map_nil, List.foldl_cons, List.foldl_nil]
    omega

theorem shortEscape?_eq_some_iff {letter c : Char} :
    shortEscape? letter = some c ↔ (letter, c) ∈ shortEscapes := by
  simp only [shortEscapes, List.mem_cons, Prod.mk.injEq, List.not_mem_nil, or_false]
  constructor
  · intro h
    unfold shortEscape? at h
    split at h
    all_goals
      cases h
    all_goals simp
  · rintro (⟨rfl, rfl⟩ | ⟨rfl, rfl⟩ | ⟨rfl, rfl⟩ | ⟨rfl, rfl⟩ | ⟨rfl, rfl⟩ | ⟨rfl, rfl⟩ |
      ⟨rfl, rfl⟩ | ⟨rfl, rfl⟩)
    all_goals rfl

theorem toNat_ofNat_of_valid {n : Nat} (h : n.isValidChar) : (Char.ofNat n).toNat = n := by
  rw [Char.ofNat, dif_pos h]
  rfl

theorem lowHalf_eq_ok {high : Nat} {text rest : List Char} {c : Char} :
    lowHalf high text = .ok (c, rest) ↔ ∃ low digits, SpellsUnit low digits ∧
      isLowSurrogate low = true ∧ c = Char.ofNat (pairValue high low) ∧
      text = '\\' :: 'u' :: (digits ++ rest) := by
  constructor
  · intro h
    unfold lowHalf at h
    split at h
    · contradiction
    · contradiction
    · obtain ⟨⟨low, after⟩, hquad, hnext⟩ := bind_eq_ok.mp h
      obtain ⟨digits, hdigits, rfl⟩ := hexQuad_eq_ok.mp hquad
      simp only at hnext
      split at hnext
      · rename_i hlow
        simp only [Except.ok.injEq, Prod.mk.injEq] at hnext
        obtain ⟨rfl, rfl⟩ := hnext
        exact ⟨low, digits, hdigits, hlow, rfl, rfl⟩
      · contradiction
    · contradiction
  · rintro ⟨low, digits, hdigits, hlow, hc, rfl⟩
    have hquad : hexQuad (digits ++ rest) = .ok (low, rest) :=
      hexQuad_eq_ok.mpr ⟨digits, hdigits, rfl⟩
    rw [lowHalf, hc]
    exact bind_eq_ok.mpr ⟨(low, rest), hquad, if_pos hlow⟩

/-- The two halves of a surrogate pair are those of the code point that it stands for. -/
theorem pairValue_halves {high low : Nat} (hhigh : isHighSurrogate high = true)
    (hlow : isLowSurrogate low = true) :
    0x10000 ≤ pairValue high low ∧ pairValue high low < 0x110000 ∧
      0xD800 + (pairValue high low - 0x10000) / 0x400 = high ∧
      0xDC00 + (pairValue high low - 0x10000) % 0x400 = low := by
  simp only [isHighSurrogate, isLowSurrogate, Bool.and_eq_true, decide_eq_true_eq] at hhigh hlow
  unfold pairValue
  omega

/-- The halves of a code point beyond sixteen bits are a surrogate pair that stands for it. -/
theorem halves_pairValue {n : Nat} (hmin : 0x10000 ≤ n) (hmax : n < 0x110000) :
    isHighSurrogate (0xD800 + (n - 0x10000) / 0x400) = true ∧
      isLowSurrogate (0xDC00 + (n - 0x10000) % 0x400) = true ∧
      pairValue (0xD800 + (n - 0x10000) / 0x400) (0xDC00 + (n - 0x10000) % 0x400) = n := by
  simp only [isHighSurrogate, isLowSurrogate, Bool.and_eq_true, decide_eq_true_eq]
  unfold pairValue
  omega

theorem isLowSurrogate_of_high {n : Nat} (h : isHighSurrogate n = true) :
    isLowSurrogate n = false := by
  simp only [isHighSurrogate, Bool.and_eq_true, decide_eq_true_eq] at h
  simp only [isLowSurrogate, Bool.and_eq_false_iff, decide_eq_false_iff_not]
  omega

/-- Below sixteen bits, characters are what is no surrogate. -/
theorem isValidChar_iff_of_lt {n : Nat} (h : n < 0x10000) :
    n.isValidChar ↔ isLowSurrogate n = false ∧ isHighSurrogate n = false := by
  simp only [isLowSurrogate, isHighSurrogate, Bool.and_eq_false_iff, decide_eq_false_iff_not]
  unfold Nat.isValidChar
  omega

theorem escape_sound {text rest : List Char} {c : Char} (h : escape text = .ok (c, rest)) :
    ∃ spelling, SpellsChar c ('\\' :: spelling) ∧ text = spelling ++ rest := by
  unfold escape at h
  split at h
  · contradiction
  · obtain ⟨⟨n, after⟩, hquad, hnext⟩ := bind_eq_ok.mp h
    obtain ⟨digits, hdigits, rfl⟩ := hexQuad_eq_ok.mp hquad
    simp only at hnext
    split at hnext
    · contradiction
    · rename_i hnotLow
      split at hnext
      · -- a high half is a character only with the low half behind it
        rename_i hhigh
        obtain ⟨low, lowDigits, hlowDigits, hlow, hc, rfl⟩ := lowHalf_eq_ok.mp hnext
        obtain ⟨hmin, hmax, hhighHalf, hlowHalf⟩ := pairValue_halves hhigh hlow
        have hvalid : (pairValue n low).isValidChar := .inr ⟨by omega, hmax⟩
        have hvalue : c.toNat = pairValue n low := by rw [hc, toNat_ofNat_of_valid hvalid]
        refine ⟨'u' :: (digits ++ '\\' :: 'u' :: lowDigits), .pair ?_ ?_ ?_, by simp⟩
        · rw [hvalue]
          exact hmin
        · rw [hvalue, hhighHalf]
          exact hdigits
        · rw [hvalue, hlowHalf]
          exact hlowDigits
      · -- four digits alone are one where they are no half at all
        rename_i hnotHigh
        obtain ⟨rfl, rfl⟩ := Prod.mk.inj (Except.ok.inj hnext)
        have hvalid := (isValidChar_iff_of_lt hdigits.lt).mpr
          ⟨Bool.eq_false_iff.mpr hnotLow, Bool.eq_false_iff.mpr hnotHigh⟩
        refine ⟨'u' :: digits, .unit ?_, rfl⟩
        rw [toNat_ofNat_of_valid hvalid]
        exact hdigits
  · rename_i letter after _
    split at h
    · rename_i d hshort
      obtain ⟨rfl, rfl⟩ := Prod.mk.inj (Except.ok.inj h)
      exact ⟨[letter], .short (shortEscape?_eq_some_iff.mp hshort), rfl⟩
    · contradiction

theorem escape_complete {c : Char} {spelling : List Char} (h : SpellsChar c ('\\' :: spelling))
    (rest : List Char) : escape (spelling ++ rest) = .ok (c, rest) := by
  cases h with
  | self h => exact absurd rfl h.notBackslash
  | @short letter _ h =>
      have hshort := shortEscape?_eq_some_iff.mpr h
      have hu : letter ≠ 'u' := by
        rintro rfl
        contradiction
      rw [List.singleton_append, escape, hshort]
      exact hu
  | @unit _ digits h =>
      have hquad : hexQuad (digits ++ rest) = .ok (c.toNat, rest) :=
        hexQuad_eq_ok.mpr ⟨digits, h, rfl⟩
      obtain ⟨hlow, hhigh⟩ := (isValidChar_iff_of_lt h.lt).mp c.valid
      rw [List.cons_append, escape]
      refine bind_eq_ok.mpr ⟨(c.toNat, rest), hquad, ?_⟩
      simp only [hlow, hhigh, Char.ofNat_toNat]
      rfl
  | @pair _ high low h hhigh hlow =>
      have hmax : c.toNat < 0x110000 := by
        have hvalid : c.toNat < 0xD800 ∨ 0xDFFF < c.toNat ∧ c.toNat < 0x110000 := c.valid
        omega
      obtain ⟨hisHigh, hisLow, hpair⟩ := halves_pairValue h hmax
      have hquad : hexQuad (high ++ '\\' :: 'u' :: low ++ rest) =
          .ok (0xD800 + (c.toNat - 0x10000) / 0x400, '\\' :: 'u' :: (low ++ rest)) :=
        hexQuad_eq_ok.mpr ⟨high, hhigh, by simp⟩
      rw [List.cons_append, escape]
      refine bind_eq_ok.mpr ⟨_, hquad, ?_⟩
      simp only [isLowSurrogate_of_high hisHigh, hisHigh, if_true]
      refine lowHalf_eq_ok.mpr ⟨_, low, hlow, hisLow, ?_, rfl⟩
      rw [hpair, Char.ofNat_toNat]

/-- An escape in a string that is passed over. -/
theorem skipEscape_eq_ok {text rest : List Char} :
    skipEscape text = .ok rest ↔
      (∃ letter c, (letter, c) ∈ shortEscapes ∧ text = letter :: rest) ∨
        ∃ n digits, SpellsUnit n digits ∧ text = 'u' :: (digits ++ rest) := by
  constructor
  · intro h
    unfold skipEscape at h
    split at h
    · contradiction
    · obtain ⟨⟨n, after⟩, hquad, rfl⟩ := map_eq_ok.mp h
      obtain ⟨digits, hdigits, rfl⟩ := hexQuad_eq_ok.mp hquad
      exact .inr ⟨n, digits, hdigits, rfl⟩
    · rename_i letter after _
      split at h
      · rename_i hshort
        obtain ⟨c, hc⟩ := Option.isSome_iff_exists.mp hshort
        obtain rfl := Except.ok.inj h
        exact .inl ⟨letter, c, shortEscape?_eq_some_iff.mp hc, rfl⟩
      · contradiction
  · rintro (⟨letter, c, h, rfl⟩ | ⟨n, digits, h, rfl⟩)
    · have hshort := shortEscape?_eq_some_iff.mpr h
      -- the reader looks for four digits before it looks for a letter
      have hu : letter ≠ 'u' := by
        rintro rfl
        contradiction
      rw [skipEscape, hshort]
      · rfl
      · exact hu
    · have hquad : hexQuad (digits ++ rest) = .ok (n, rest) :=
        hexQuad_eq_ok.mpr ⟨digits, h, rfl⟩
      rw [skipEscape]
      exact map_eq_ok.mpr ⟨_, hquad, rfl⟩

/-! ### Strings -/

theorem standsForItself_iff {c : Char} : StandsForItself c ↔
    ¬c.toNat < 0x20 ∧ c ≠ '"' ∧ c ≠ '\\' :=
  ⟨fun h => ⟨Nat.not_lt.mpr h.notControl, h.notQuote, h.notBackslash⟩,
    fun h => ⟨Nat.not_lt.mp h.1, h.2.1, h.2.2⟩⟩

instance (c : Char) : Decidable (StandsForItself c) :=
  decidable_of_iff _ standsForItself_iff.symm

theorem SpellsChars.of_standsForItself {content : List Char}
    (h : ∀ c ∈ content, StandsForItself c) : SpellsChars content content := by
  induction content with
  | nil => exact .nil
  | cons c content ih =>
      obtain ⟨hc, hcontent⟩ := List.forall_mem_cons.mp h
      exact SpellsChars.cons (.self hc) (ih hcontent)

theorem readString_of_standsForItself {c : Char} (h : StandsForItself c) (text : List Char) :
    readString (c :: text) = (readString text).map fun (cs, rest) => (c :: cs, rest) := by
  obtain ⟨hcontrol, hquote, hbackslash⟩ := standsForItself_iff.mp h
  rw [readString, if_neg hcontrol]
  · exact hquote
  · exact hbackslash

theorem readString_of_escape {c : Char} {text after : List Char}
    (h : escape text = .ok (c, after)) :
    readString ('\\' :: text) = (readString after).map fun (cs, rest) => (c :: cs, rest) := by
  rw [readString]
  split
  · rename_i hfault
    rw [h] at hfault
    contradiction
  · rename_i d rest hok
    rw [h, Except.ok.injEq, Prod.mk.injEq] at hok
    obtain ⟨rfl, rfl⟩ := hok
    rfl

/-- One spelled character is read as it. -/
theorem readString_append {c : Char} {spelling : List Char} (h : SpellsChar c spelling)
    (text : List Char) : readString (spelling ++ text) =
      (readString text).map fun (cs, rest) => (c :: cs, rest) := by
  cases h with
  | self hself => exact readString_of_standsForItself hself text
  | short h => exact readString_of_escape (escape_complete (.short h) text)
  | unit h => exact readString_of_escape (escape_complete (.unit h) text)
  | pair h hhigh hlow => exact readString_of_escape (escape_complete (.pair h hhigh hlow) text)

/-- What is read as a string is what is written as one. -/
theorem readString_eq_ok {text content rest : List Char} :
    readString text = .ok (content, rest) ↔
      ∃ body, SpellsChars content body ∧ text = body ++ '"' :: rest := by
  constructor
  · intro h
    -- along the reader; what an escape comes to is `escape_sound`
    fun_induction readString text generalizing content with
    | case1 => contradiction
    | case2 after =>
        obtain ⟨rfl, rfl⟩ := Prod.mk.inj (Except.ok.inj h)
        exact ⟨[], .nil, rfl⟩
    | case3 => contradiction
    | case4 text c after hescape ih =>
        obtain ⟨⟨content, _⟩, hread, hcontent⟩ := map_eq_ok.mp h
        obtain ⟨rfl, rfl⟩ := Prod.mk.inj hcontent
        obtain ⟨spelling, hspelling, rfl⟩ := escape_sound hescape
        obtain ⟨body, hbody, rfl⟩ := ih hread
        exact ⟨'\\' :: spelling ++ body, .cons hspelling hbody, by simp⟩
    | case5 => contradiction
    | case6 c text hquote hbackslash hcontrol ih =>
        obtain ⟨⟨content, _⟩, hread, hcontent⟩ := map_eq_ok.mp h
        obtain ⟨rfl, rfl⟩ := Prod.mk.inj hcontent
        obtain ⟨body, hbody, rfl⟩ := ih hread
        have hself := standsForItself_iff.mpr ⟨hcontrol, hquote, hbackslash⟩
        exact ⟨c :: body, SpellsChars.cons (.self hself) hbody, rfl⟩
  · rintro ⟨body, hbody, rfl⟩
    induction hbody with
    | nil => rw [List.nil_append, readString]
    | cons head _ ih =>
        rw [List.append_assoc, readString_append head]
        exact map_eq_ok.mpr ⟨_, ih, rfl⟩

/-- No two strings are written alike. -/
theorem SpellsString.unique {a b text : List Char} (ha : SpellsString a text)
    (hb : SpellsString b text) : a = b := by
  obtain @⟨body, ha⟩ := ha
  generalize htext : '"' :: (body ++ ['"']) = text at hb
  obtain ⟨hb⟩ := hb
  obtain rfl := List.append_cancel_right (List.cons.inj htext).2
  have hread : readString (body ++ ['"']) = .ok (a, []) := readString_eq_ok.mpr ⟨body, ha, rfl⟩
  rw [readString_eq_ok.mpr ⟨body, hb, rfl⟩] at hread
  exact (Prod.mk.inj (Except.ok.inj hread)).1.symm

theorem skipString_of_escape {text after : List Char} (h : skipEscape text = .ok after) :
    skipString ('\\' :: text) = skipString after := by
  rw [skipString]
  split
  · rename_i hfault
    rw [h] at hfault
    contradiction
  · rename_i hok
    rw [h] at hok
    rw [Except.ok.inj hok]

/-- What is passed over as a string is any string. -/
theorem skipString_eq_ok {text rest : List Char} :
    skipString text = .ok rest ↔ ∃ body, StringBody body ∧ text = body ++ '"' :: rest := by
  constructor
  · intro h
    -- by the characters that the reader takes off, and back by those of the body
    fun_induction skipString text with
    | case1 => contradiction
    | case2 after =>
        obtain rfl := Except.ok.inj h
        exact ⟨[], .nil, rfl⟩
    | case3 => contradiction
    | case4 text after hescape ih =>
        obtain ⟨body, hbody, rfl⟩ := ih h
        rcases skipEscape_eq_ok.mp hescape with ⟨letter, c, hshort, rfl⟩ | ⟨n, digits, hunit, rfl⟩
        · exact ⟨_, .short hshort hbody, rfl⟩
        · exact ⟨_, .unit hunit hbody, by simp⟩
    | case5 => contradiction
    | case6 c text hquote hbackslash hcontrol ih =>
        obtain ⟨body, hbody, rfl⟩ := ih h
        exact ⟨_, .self (standsForItself_iff.mpr ⟨hcontrol, hquote, hbackslash⟩) hbody, rfl⟩
  · rintro ⟨body, hbody, rfl⟩
    induction hbody with
    | nil => rw [List.nil_append, skipString]
    | self hself _ ih =>
        obtain ⟨hcontrol, hquote, hbackslash⟩ := standsForItself_iff.mp hself
        rw [List.cons_append, skipString, if_neg hcontrol, ih]
        · exact hquote
        · exact hbackslash
    | short hshort _ ih =>
        rw [List.cons_append, List.cons_append,
          skipString_of_escape (skipEscape_eq_ok.mpr (.inl ⟨_, _, hshort, rfl⟩)), ih]
    | unit hunit _ ih =>
        rw [List.cons_append, List.cons_append, List.append_assoc,
          skipString_of_escape (skipEscape_eq_ok.mpr (.inr ⟨_, _, hunit, rfl⟩)), ih]

end PageSync.Json
