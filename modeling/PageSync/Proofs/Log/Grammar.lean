import PageSync.Log.Directive
import PageSync.Proofs.Text.Pieces

/-!
The texts that stand for directives. A directive is a level, a target, a target and a level, or a
span in brackets, with a field in braces or not, between a target and a level that may both be left
out.
-/

namespace PageSync.Log

open Text

/-! ### Levels -/

/-- A limit by its name in any case, or by its rank in digits with or without a plus sign. -/
inductive Limit.Spells : Limit → List Char → Prop where
  | name {limit : Limit} {text : List Char} (h : text.map Char.toLower = limit.text.toList) :
      Spells limit text
  | rank {limit : Limit} {sign digits : List Char} (hsign : sign = [] ∨ sign = ['+'])
      (hne : digits ≠ []) (hdigits : ∀ c ∈ digits, c.isDigit = true)
      (hrank : decimalNumeral digits = limit.rank) : Spells limit (sign ++ digits)

theorem readDigits?_eq_some_iff {digits : List Char} {n : Nat} :
    (if Decimal.allDigits digits then some (decimalNumeral digits) else none) = some n ↔
      digits ≠ [] ∧ (∀ c ∈ digits, c.isDigit = true) ∧ decimalNumeral digits = n := by
  simp [Decimal.allDigits, and_assoc]

/-- A natural number is read from digits, with a plus sign before them or not. -/
theorem readNatural?_eq_some_iff {text : List Char} {n : Nat} :
    Decimal.readNatural? text = some n ↔ ∃ sign digits, text = sign ++ digits ∧
      (sign = [] ∨ sign = ['+']) ∧ digits ≠ [] ∧ (∀ c ∈ digits, c.isDigit = true) ∧
      decimalNumeral digits = n := by
  constructor
  · intro h
    simp only [Decimal.readNatural?] at h
    split at h
    · rename_i digits
      exact ⟨['+'], digits, rfl, .inr rfl, readDigits?_eq_some_iff.mp h⟩
    · exact ⟨[], text, rfl, .inl rfl, readDigits?_eq_some_iff.mp h⟩
  · rintro ⟨sign, digits, rfl, rfl | rfl, hdigits⟩
    · simp only [Decimal.readNatural?]
      split
      · rename_i rest heq
        have hplus : '+' ∈ digits := by
          rw [← List.nil_append digits, heq]
          exact List.mem_cons_self
        exact absurd (hdigits.2.1 '+' hplus) (by decide)
      · exact readDigits?_eq_some_iff.mpr hdigits
    · exact readDigits?_eq_some_iff.mpr hdigits

theorem find?_rank_eq_some_iff {n : Nat} {limit : Limit} :
    (Limit.all.find? fun limit => limit.rank == n) = some limit ↔ limit.rank = n := by
  constructor
  · intro h
    simpa using List.find?_some h
  · rintro rfl
    rcases limit with _ | level
    · rfl
    · cases level <;> rfl

theorem find?_text_eq_some_iff {word : String} {limit : Limit} :
    (Limit.all.find? fun limit => limit.text == word) = some limit ↔ limit.text = word := by
  constructor
  · intro h
    simpa using List.find?_some h
  · rintro rfl
    rcases limit with _ | level
    · rfl
    · cases level <;> rfl

theorem Limit.forall_mem_text (limit : Limit) :
    ∀ c ∈ limit.text.toList, c.isDigit = false ∧ c ≠ ',' ∧ isBlank c = false := by
  have hall : (limit.text.toList.all fun c => !c.isDigit && c != ',' && !isBlank c) = true := by
    rcases limit with _ | level
    · rfl
    · cases level <;> rfl
  simpa [and_assoc] using hall

theorem toLower_of_isDigit {c : Char} (h : c.isDigit = true) : c.toLower = c := by
  simp only [Char.isDigit, Bool.and_eq_true, decide_eq_true_eq] at h
  refine dif_neg ?_
  rintro ⟨hletter, _⟩
  exact absurd (UInt32.le_trans hletter h.2) (by decide)

/-- No name of a limit is a number. -/
theorem readNatural?_eq_none_of_name {limit : Limit} {text : List Char}
    (h : text.map Char.toLower = limit.text.toList) : Decimal.readNatural? text = none := by
  by_contra hsome
  obtain ⟨n, hn⟩ := Option.ne_none_iff_exists'.mp hsome
  obtain ⟨sign, digits, rfl, _, hne, hdigits, _⟩ := readNatural?_eq_some_iff.mp hn
  obtain ⟨c, rest, rfl⟩ := List.exists_cons_of_ne_nil hne
  have hc : c.isDigit = true := hdigits c List.mem_cons_self
  have hmem : c ∈ limit.text.toList := by
    rw [← h, List.mem_map]
    exact ⟨c, by simp, toLower_of_isDigit hc⟩
  rw [(limit.forall_mem_text c hmem).1] at hc
  contradiction

theorem Limit.read?_eq_some_iff {text : List Char} {limit : Limit} :
    Limit.read? text = some limit ↔ limit.Spells text := by
  rw [Limit.read?]
  constructor
  · intro h
    split at h
    · rename_i n hn
      obtain ⟨sign, digits, rfl, hsign, hne, hdigits, hvalue⟩ := readNatural?_eq_some_iff.mp hn
      exact .rank hsign hne hdigits (hvalue.trans (find?_rank_eq_some_iff.mp h).symm)
    · rw [find?_text_eq_some_iff] at h
      exact .name (by rw [h, String.toList_ofList])
  · rintro (h | ⟨hsign, hne, hdigits, hrank⟩)
    · rw [readNatural?_eq_none_of_name h]
      refine find?_text_eq_some_iff.mpr ?_
      rw [h, String.ofList_toList]
    · rw [readNatural?_eq_some_iff.mpr ⟨_, _, rfl, hsign, hne, hdigits, rfl⟩]
      exact find?_rank_eq_some_iff.mpr hrank.symm

inductive Limit.SpellsPart : Limit → List Char → Prop where
  | nothing : SpellsPart (.upTo .trace) []
  | limit {limit : Limit} {text : List Char} (h : limit.Spells text) : SpellsPart limit text

theorem Limit.Spells.ne_nil {limit : Limit} {text : List Char} (h : limit.Spells text) :
    text ≠ [] := by
  rintro rfl
  have hread := Limit.read?_eq_some_iff.mpr h
  contradiction

theorem readLimit?_eq_some_iff {text : List Char} {limit : Limit} :
    Directive.readLimit? text = some limit ↔ limit.SpellsPart text := by
  rw [Directive.readLimit?]
  constructor
  · intro h
    split at h
    · rename_i hempty
      obtain rfl := Option.some.inj h
      rw [List.isEmpty_iff.mp hempty]
      exact .nothing
    · exact .limit (Limit.read?_eq_some_iff.mp h)
  · rintro (_ | h)
    · rfl
    · rw [if_neg (by simpa using h.ne_nil)]
      exact Limit.read?_eq_some_iff.mpr h

/-! ### Fields -/

theorem cutAt_of_not_mem {sep : Char} {word : List Char} (hword : sep ∉ word) (rest : List Char)
    (hrest : ∀ c ∈ rest.head?, c = sep) : cutAt sep (word ++ rest) = (word, rest.tail?) := by
  have hne : ∀ x ∈ word, (x == sep) = false := by
    intro x hx
    rw [beq_eq_false_iff_ne]
    rintro rfl
    exact hword hx
  rw [cutAt_append hne]
  cases rest with
  | nil => simp [cutAt]
  | cons c rest =>
      obtain rfl : c = sep := hrest c rfl
      simp [cutAt_cons_self]

section

variable [PatternEngine]

/-- A name alone, or with a value; a second equals sign ends what counts. -/
inductive FieldTest.Spells : FieldTest → List Char → Prop where
  | name {name : List Char} (hname : '=' ∉ name) : Spells ⟨String.ofList name, none⟩ name
  | value {name value rest : List Char} {expected : Expected} (hname : '=' ∉ name)
      (hvalue : '=' ∉ value) (hrest : ∀ c ∈ rest.head?, c = '=')
      (h : Expected.read? value = some expected) :
      Spells ⟨String.ofList name, some expected⟩ (name ++ '=' :: (value ++ rest))

theorem FieldTest.read?_eq_some_iff {text : List Char} {test : FieldTest} :
    FieldTest.read? text = some test ↔ test.Spells text := by
  constructor
  · intro h
    rcases cutAt_cases '=' text with ⟨hname, hcut⟩ | ⟨name, value, rfl, hname, hcut⟩
    · simp only [FieldTest.read?, hcut, Option.some.injEq] at h
      exact h ▸ .name hname
    · simp only [FieldTest.read?, hcut, Option.map_eq_some_iff] at h
      obtain ⟨expected, hexpected, rfl⟩ := h
      -- what follows a second equals sign is cut off and never looked at
      rcases cutAt_cases '=' value with ⟨hvalue, hcut⟩ | ⟨value, more, rfl, hvalue, hcut⟩
      · rw [hcut] at hexpected
        have hspells : Spells ⟨String.ofList name, some expected⟩ (name ++ '=' :: (value ++ [])) :=
          .value hname hvalue nofun hexpected
        rwa [List.append_nil] at hspells
      · rw [hcut] at hexpected
        exact .value hname hvalue (fun c hc => (Option.some.inj hc).symm) hexpected
  · rintro (hname | ⟨hname, hvalue, hrest, h⟩)
    · have hcut := cutAt_of_not_mem hname [] nofun
      rw [List.append_nil] at hcut
      simp only [FieldTest.read?, hcut, List.tail?_nil]
    · rename_i name value rest expected
      have hcut := cutAt_of_not_mem hname ('=' :: (value ++ rest)) fun c hc =>
        (Option.some.inj hc).symm
      simp only [FieldTest.read?, hcut, List.tail?_cons, cutAt_of_not_mem hvalue rest hrest, h,
        Option.map_some]

end

/-! ### Directives -/

/-- A target begins with a letter, a digit or one of three signs, and holds no mark of what may
follow it. -/
structure TargetText (text : List Char) : Prop where
  starts : ∃ c ∈ text.head?, Directive.startsTarget c = true
  plain : ∀ c ∈ text, c ≠ '=' ∧ c ≠ '['

def inTarget (c : Char) : Bool := c != '=' && c != '['

theorem inTarget_iff {c : Char} : inTarget c = true ↔ c ≠ '=' ∧ c ≠ '[' := by simp [inTarget]

instance (text : List Char) : Decidable (TargetText text) :=
  decidable_of_iff (text.head?.any Directive.startsTarget ∧ text.all inTarget) (by
    constructor
    · rintro ⟨hstarts, hplain⟩
      exact ⟨(Option.any_eq_true _ _).mp hstarts,
        fun c hc => inTarget_iff.mp (List.all_eq_true.mp hplain c hc)⟩
    · rintro ⟨hstarts, hplain⟩
      exact ⟨(Option.any_eq_true _ _).mpr hstarts,
        List.all_eq_true.mpr fun c hc => inTarget_iff.mpr (hplain c hc)⟩)

theorem TargetText.inTarget {text : List Char} (h : TargetText text) :
    ∀ c ∈ text, Log.inTarget c = true := fun c hc => inTarget_iff.mpr (h.plain c hc)

theorem TargetText.starts_append {text : List Char} (h : TargetText text) (rest : List Char) :
    ∃ c ∈ (text ++ rest).head?, Directive.startsTarget c = true := by
  obtain ⟨c, hc, hstarts⟩ := h.starts
  refine ⟨c, ?_, hstarts⟩
  rw [List.head?_append, hc]
  rfl

theorem targetText_takeWhile {text : List Char}
    (h : ∃ c ∈ text.head?, Directive.startsTarget c = true) :
    TargetText (text.takeWhile inTarget) := by
  obtain ⟨c, hc, hstarts⟩ := h
  have hgoes : inTarget c = true := by
    rw [inTarget_iff]
    constructor
    all_goals
      rintro rfl
      exact absurd hstarts (by decide)
  refine ⟨⟨c, ?_, hstarts⟩, fun x hx => inTarget_iff.mp (List.mem_takeWhile_imp hx)⟩
  cases text with
  | nil => contradiction
  | cons first rest =>
      obtain rfl := Option.some.inj hc
      rw [List.takeWhile_cons_of_pos hgoes]
      rfl

/-- The name of a span ends at a closing bracket or an opening brace. -/
def SpanText (text : List Char) : Prop := ∀ c ∈ text, c ≠ ']' ∧ c ≠ '\x7b'

instance (text : List Char) : Decidable (SpanText text) :=
  decidable_of_iff (text.all fun c => c != ']' && c != '\x7b') (by simp [SpanText])

structure FieldText (text : List Char) : Prop where
  ne_nil : text ≠ []
  plain : '\x7d' ∉ text

inductive TargetPart : Option String → List Char → Prop where
  | nothing : TargetPart none []
  | target {text : List Char} (h : TargetText text) : TargetPart (some (String.ofList text)) text

inductive LimitPart : Limit → List Char → Prop where
  | nothing : LimitPart (.upTo .trace) []
  | limit {limit : Limit} {text : List Char} (h : limit.SpellsPart text) :
      LimitPart limit ('=' :: text)

namespace Directive

section

variable [PatternEngine]

/-- The texts that stand for a directive. The target of a bare word that is no level has all
levels. -/
inductive Spells : Directive → List Char → Prop where
  | limit {limit : Limit} {text : List Char} (htarget : TargetText text) (h : limit.Spells text) :
      Spells (ofLimit limit) text
  | target {text : List Char} (htarget : TargetText text) (h : ∀ limit, ¬Limit.Spells limit text) :
      Spells ⟨some (String.ofList text), none, none, .upTo .trace⟩ text
  | targetLimit {target level : List Char} {limit : Limit} (htarget : TargetText target)
      (h : limit.SpellsPart level) :
      Spells ⟨some (String.ofList target), none, none, limit⟩ (target ++ '=' :: level)
  | span {target : Option String} {front name rest : List Char} {limit : Limit}
      (htarget : TargetPart target front) (hname : SpanText name) (h : LimitPart limit rest) :
      Spells ⟨target, some (String.ofList name), none, limit⟩
        (front ++ '[' :: (name ++ ']' :: rest))
  | field {target : Option String} {front name field rest : List Char} {test : FieldTest}
      {limit : Limit} (htarget : TargetPart target front) (hname : SpanText name)
      (hfield : FieldText field) (htest : test.Spells field) (h : LimitPart limit rest) :
      Spells ⟨target, if name = [] then none else some (String.ofList name), some test, limit⟩
        (front ++ '[' :: (name ++ '\x7b' :: (field ++ '\x7d' :: ']' :: rest)))

end

end Directive

end PageSync.Log
