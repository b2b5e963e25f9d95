import Mathlib.Data.List.TakeWhile
import PageSync.Json.Scalar
import PageSync.Proofs.Except

/-!
Numbers in JSON text that are passed over. What is passed over is a number (`skipNumber_sound`), and
a number is passed over to its end if nothing after it could continue it (`skipNumber_complete`).
-/

namespace PageSync.Json

/-! ### Numbers -/

structure Digits (text : List Char) : Prop where
  ne_nil : text ≠ []
  digit : ∀ c ∈ text, c.isDigit = true

/-- No digit follows a leading zero. -/
inductive WholePart : List Char → Prop where
  | zero : WholePart ['0']
  | digits {c : Char} {more : List Char} (hc : c.isDigit = true) (hzero : c ≠ '0')
      (hmore : ∀ d ∈ more, d.isDigit = true) : WholePart (c :: more)

inductive FractionPart : List Char → Prop where
  | absent : FractionPart []
  | point {digits : List Char} (h : Digits digits) : FractionPart ('.' :: digits)

inductive PowerPart : List Char → Prop where
  | absent : PowerPart []
  | power {letter : Char} {sign digits : List Char} (hletter : letter ∈ ['e', 'E'])
      (hsign : sign ∈ [[], ['+'], ['-']]) (h : Digits digits) :
      PowerPart (letter :: (sign ++ digits))

inductive UnsignedText : List Char → Prop where
  | parts {whole fraction power : List Char} (hwhole : WholePart whole)
      (hfraction : FractionPart fraction) (hpower : PowerPart power) :
      UnsignedText (whole ++ (fraction ++ power))

inductive NumberText : List Char → Prop where
  | positive {text : List Char} (h : UnsignedText text) : NumberText text
  | negative {text : List Char} (h : UnsignedText text) : NumberText ('-' :: text)

/-- What follows a number and cannot continue it. -/
def EndsNumber (rest : List Char) : Prop :=
  ∀ c ∈ rest.head?, c.isDigit = false ∧ c ∉ ['.', 'e', 'E']

theorem EndsNumber.of_cons {c : Char} (h : c.isDigit = false ∧ c ∉ ['.', 'e', 'E'])
    (rest : List Char) : EndsNumber (c :: rest) := by
  rintro _ ⟨⟩
  exact h

/-! ### Digits -/

theorem startsWithDigit_eq_false {text : List Char} :
    startsWithDigit text = false ↔ ∀ c ∈ text.head?, c.isDigit = false := by
  cases text with
  | nil => simp [startsWithDigit]
  | cons c text => simp [startsWithDigit]

theorem skipDigits_append {digits rest : List Char} (h : ∀ c ∈ digits, c.isDigit = true)
    (hrest : startsWithDigit rest = false) : skipDigits (digits ++ rest) = rest := by
  rw [skipDigits, List.dropWhile_append_of_pos h]
  cases rest with
  | nil => rfl
  | cons c rest =>
      have hc : ¬c.isDigit = true := Bool.eq_false_iff.mp hrest
      exact List.dropWhile_cons_of_neg hc

/-- The digits that are skipped, and where they end. -/
theorem exists_digits (text : List Char) : ∃ digits, (∀ c ∈ digits, c.isDigit = true) ∧
    text = digits ++ skipDigits text ∧ startsWithDigit (skipDigits text) = false := by
  refine ⟨text.takeWhile Char.isDigit, fun _ hc => List.mem_takeWhile_imp hc,
    List.takeWhile_append_dropWhile.symm, startsWithDigit_eq_false.mpr fun c hc => ?_⟩
  have hstop := List.head?_dropWhile_not Char.isDigit text
  rw [skipDigits] at hc
  rwa [hc] at hstop

theorem skipSomeDigits_eq_ok {text rest : List Char} : skipSomeDigits text = .ok rest ↔
    ∃ digits, Digits digits ∧ startsWithDigit rest = false ∧ text = digits ++ rest := by
  constructor
  · intro h
    unfold skipSomeDigits at h
    split at h
    · rename_i hstarts
      obtain rfl := Except.ok.inj h
      obtain ⟨digits, hdigits, htext, hrest⟩ := exists_digits text
      refine ⟨digits, ⟨?_, hdigits⟩, hrest, htext⟩
      rintro rfl
      rw [List.nil_append] at htext
      rw [← htext, hstarts] at hrest
      contradiction
    · contradiction
  · rintro ⟨digits, ⟨hne, hdigit⟩, hrest, rfl⟩
    have hstarts : startsWithDigit (digits ++ rest) = true := by
      cases digits with
      | nil => contradiction
      | cons c digits => exact hdigit c List.mem_cons_self
    rw [skipSomeDigits, if_pos hstarts, skipDigits_append hdigit hrest]

/-! ### The power of ten -/

theorem skipPower_sound {text rest : List Char} (h : skipPower text = .ok rest) :
    ∃ sign digits, sign ∈ [[], ['+'], ['-']] ∧ Digits digits ∧ text = sign ++ digits ++ rest := by
  unfold skipPower at h
  split at h
  · obtain ⟨digits, hdigits, _, rfl⟩ := skipSomeDigits_eq_ok.mp h
    exact ⟨['+'], digits, by simp, hdigits, rfl⟩
  · obtain ⟨digits, hdigits, _, rfl⟩ := skipSomeDigits_eq_ok.mp h
    exact ⟨['-'], digits, by simp, hdigits, rfl⟩
  · obtain ⟨digits, hdigits, _, rfl⟩ := skipSomeDigits_eq_ok.mp h
    exact ⟨[], digits, by simp, hdigits, rfl⟩

theorem skipPower_complete {sign digits rest : List Char} (hsign : sign ∈ [[], ['+'], ['-']])
    (h : Digits digits) (hrest : startsWithDigit rest = false) :
    skipPower (sign ++ digits ++ rest) = .ok rest := by
  have hdigits : skipSomeDigits (digits ++ rest) = .ok rest :=
    skipSomeDigits_eq_ok.mpr ⟨digits, h, hrest, rfl⟩
  simp only [List.mem_cons, List.not_mem_nil, or_false] at hsign
  rcases hsign with rfl | rfl | rfl
  · obtain ⟨hne, hdigit⟩ := h
    match digits with
    | c :: digits =>
        have hc : c.isDigit = true := hdigit c List.mem_cons_self
        unfold skipPower
        split
        · rename_i heq
          obtain ⟨rfl, _⟩ := List.cons.inj heq
          contradiction
        · rename_i heq
          obtain ⟨rfl, _⟩ := List.cons.inj heq
          contradiction
        · exact hdigits
  · exact hdigits
  · exact hdigits

theorem skipPower?_sound {text rest : List Char} (h : skipPower? text = .ok rest) :
    ∃ power, PowerPart power ∧ text = power ++ rest := by
  unfold skipPower? at h
  split at h
  · obtain ⟨sign, digits, hsign, hdigits, rfl⟩ := skipPower_sound h
    exact ⟨_, .power List.mem_cons_self hsign hdigits, rfl⟩
  · obtain ⟨sign, digits, hsign, hdigits, rfl⟩ := skipPower_sound h
    exact ⟨_, .power (List.mem_cons_of_mem _ List.mem_cons_self) hsign hdigits, rfl⟩
  · obtain rfl := Except.ok.inj h
    exact ⟨[], .absent, rfl⟩

theorem skipPower?_complete {power rest : List Char} (h : PowerPart power)
    (hrest : EndsNumber rest) : skipPower? (power ++ rest) = .ok rest := by
  cases h with
  | absent =>
      rw [List.nil_append]
      unfold skipPower?
      split
      · exact absurd (hrest _ rfl).2 (by simp)
      · exact absurd (hrest _ rfl).2 (by simp)
      · rfl
  | power hletter hsign h =>
      have hstop := startsWithDigit_eq_false.mpr fun c hc => (hrest c hc).1
      have hpower := skipPower_complete hsign h hstop
      simp only [List.mem_cons, List.not_mem_nil, or_false] at hletter
      rcases hletter with rfl | rfl
      · exact hpower
      · exact hpower

/-- A power of ten begins with its letter, so it continues neither digits nor a fraction. -/
theorem PowerPart.head_append {power rest : List Char} (h : PowerPart power)
    (hrest : EndsNumber rest) :
    ∀ c ∈ (power ++ rest).head?, c.isDigit = false ∧ c ≠ '.' := by
  cases h with
  | absent =>
      intro c hc
      refine ⟨(hrest c hc).1, ?_⟩
      rintro rfl
      exact (hrest _ hc).2 List.mem_cons_self
  | power hletter hsign h =>
      rintro _ ⟨⟩
      simp only [List.mem_cons, List.not_mem_nil, or_false] at hletter
      rcases hletter with rfl | rfl
      · exact ⟨rfl, by decide⟩
      · exact ⟨rfl, by decide⟩

/-! ### Numbers that are passed over -/

theorem skipNumberTail_sound {text rest : List Char} (h : skipNumberTail text = .ok rest) :
    ∃ fraction power, FractionPart fraction ∧ PowerPart power ∧
      text = fraction ++ power ++ rest := by
  unfold skipNumberTail at h
  split at h
  · obtain ⟨after, hskip, hnext⟩ := bind_eq_ok.mp h
    obtain ⟨digits, hdigits, _, rfl⟩ := skipSomeDigits_eq_ok.mp hskip
    obtain ⟨power, hpower, rfl⟩ := skipPower?_sound hnext
    exact ⟨_, power, .point hdigits, hpower, by simp⟩
  · obtain ⟨power, hpower, rfl⟩ := skipPower?_sound h
    exact ⟨[], power, .absent, hpower, rfl⟩

theorem skipNumberTail_complete {fraction power rest : List Char}
    (hfraction : FractionPart fraction) (hpower : PowerPart power) (hrest : EndsNumber rest) :
    skipNumberTail (fraction ++ power ++ rest) = .ok rest := by
  have hskip := skipPower?_complete hpower hrest
  have hhead := hpower.head_append hrest
  cases hfraction with
  | absent =>
      rw [List.nil_append]
      unfold skipNumberTail
      split
      · rename_i heq
        rw [heq] at hhead
        exact absurd rfl (hhead _ rfl).2
      · exact hskip
  | @point digits h =>
      have hdigits : skipSomeDigits (digits ++ (power ++ rest)) = .ok (power ++ rest) :=
        skipSomeDigits_eq_ok.mpr
          ⟨digits, h, startsWithDigit_eq_false.mpr fun c hc => (hhead c hc).1, rfl⟩
      rw [List.append_assoc]
      exact bind_eq_ok.mpr ⟨_, hdigits, hskip⟩

theorem skipNumber_sound {text rest : List Char} (h : skipNumber text = .ok rest) :
    ∃ number, UnsignedText number ∧ text = number ++ rest := by
  unfold skipNumber at h
  split at h
  · split at h
    · contradiction
    · obtain ⟨fraction, power, hfraction, hpower, rfl⟩ := skipNumberTail_sound h
      exact ⟨_, .parts .zero hfraction hpower, by simp⟩
  · rename_i c after hzero
    split at h
    · rename_i hc
      obtain ⟨digits, hdigits, hafter, _⟩ := exists_digits after
      obtain ⟨fraction, power, hfraction, hpower, htail⟩ := skipNumberTail_sound h
      refine ⟨_, .parts (.digits hc hzero hdigits) hfraction hpower, ?_⟩
      rw [hafter, htail]
      simp
    · contradiction
  · contradiction

theorem skipNumber_complete {number rest : List Char} (h : UnsignedText number)
    (hrest : EndsNumber rest) : skipNumber (number ++ rest) = .ok rest := by
  obtain @⟨whole, fraction, power, hwhole, hfraction, hpower⟩ := h
  have htail := skipNumberTail_complete hfraction hpower hrest
  have hstop : startsWithDigit (fraction ++ power ++ rest) = false := by
    cases hfraction with
    | absent => exact startsWithDigit_eq_false.mpr fun c hc => (hpower.head_append hrest c hc).1
    | point h => rfl
  rw [List.append_assoc]
  cases hwhole with
  | zero => rw [List.singleton_append, skipNumber, if_neg (by rw [hstop]; decide), htail]
  | digits hc hzero hmore =>
      rw [List.cons_append, skipNumber, if_pos hc, skipDigits_append hmore hstop, htail]
      exact hzero

end PageSync.Json
