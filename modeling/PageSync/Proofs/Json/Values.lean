import PageSync.Proofs.Json.Numbers
import PageSync.Proofs.Json.Strings

/-!
Passing over JSON values. The reader keeps a stack of open brackets instead of calling itself, so a
value is what takes it from any stack back to the same stack. It passes over a value to its end
(`skipValue_complete`), and over nothing else (`skipValue_sound`).
-/

namespace PageSync.Json

/-! ### Values -/

def Bracket.opening : Bracket → Char
  | .list => '['
  | .object => '\x7b'

theorem Bracket.isSpace_closing (bracket : Bracket) : isSpace bracket.closing = false := by
  cases bracket
  all_goals rfl

/-- What stands before a value between brackets: nothing in a list, a key and a colon in an
object. -/
inductive Label : Bracket → List Char → Prop where
  | item : Label .list []
  | key {before body between : List Char} (hbefore : Space before) (hbody : StringBody body)
      (hbetween : Space between) :
      Label .object (before ++ '"' :: (body ++ '"' :: (between ++ [':'])))

inductive ScalarText : List Char → Prop where
  | word {word : List Char} (h : word ∈ ["null".toList, "true".toList, "false".toList]) :
      ScalarText word
  | number {number : List Char} (h : NumberText number) : ScalarText number
  | string {body : List Char} (h : StringBody body) : ScalarText ('"' :: (body ++ ['"']))

inductive Part where
  | value
  /-- what stands between brackets that are not empty -/
  | entries (bracket : Bracket)

/-- What is written as JSON. -/
inductive Written : Part → List Char → Prop where
  | scalar {text : List Char} (h : ScalarText text) : Written .value text
  | empty {bracket : Bracket} {space : List Char} (h : Space space) :
      Written .value (bracket.opening :: (space ++ [bracket.closing]))
  | full {bracket : Bracket} {entries : List Char} (h : Written (.entries bracket) entries) :
      Written .value (bracket.opening :: (entries ++ [bracket.closing]))
  | last {bracket : Bracket} {label before value after : List Char} (hlabel : Label bracket label)
      (hbefore : Space before) (hvalue : Written .value value) (hafter : Space after) :
      Written (.entries bracket) (label ++ (before ++ (value ++ after)))
  | more {bracket : Bracket} {label before value after entries : List Char}
      (hlabel : Label bracket label) (hbefore : Space before) (hvalue : Written .value value)
      (hafter : Space after) (hentries : Written (.entries bracket) entries) :
      Written (.entries bracket) (label ++ (before ++ (value ++ (after ++ ',' :: entries))))

def ValueText (text : List Char) : Prop := Written .value text

/-! ### Values without parts -/

theorem readWord_append (word rest : List Char) : readWord word (word ++ rest) = .ok rest := by
  induction word with
  | nil => rfl
  | cons c word ih => rw [List.cons_append, readWord, if_pos rfl, ih]

theorem skipScalar_sound {text rest : List Char} (h : skipScalar text = .ok (some rest)) :
    ∃ value, ScalarText value ∧ text = value ++ rest := by
  -- the three words are read alike
  have hword : ∀ {first word after}, (readWord word after).map some = .ok (some rest) →
      first :: word ∈ ["null".toList, "true".toList, "false".toList] →
      ∃ value, ScalarText value ∧ first :: after = value ++ rest := by
    intro first word after h hmem
    obtain ⟨_, hread, heq⟩ := map_eq_ok.mp h
    obtain rfl := Option.some.inj heq
    exact ⟨_, .word hmem, by rw [readWord_eq hread]; rfl⟩
  unfold skipScalar at h
  split at h
  · exact hword h (by decide)
  · exact hword h (by decide)
  · exact hword h (by decide)
  · obtain ⟨_, hskip, heq⟩ := map_eq_ok.mp h
    obtain rfl := Option.some.inj heq
    obtain ⟨number, hnumber, rfl⟩ := skipNumber_sound hskip
    exact ⟨_, .number (.negative hnumber), rfl⟩
  · obtain ⟨_, hskip, heq⟩ := map_eq_ok.mp h
    obtain rfl := Option.some.inj heq
    obtain ⟨body, hbody, rfl⟩ := skipString_eq_ok.mp hskip
    exact ⟨_, .string hbody, by simp⟩
  · split at h
    · obtain ⟨_, hskip, heq⟩ := map_eq_ok.mp h
      obtain rfl := Option.some.inj heq
      obtain ⟨number, hnumber, htext⟩ := skipNumber_sound hskip
      exact ⟨_, .number (.positive hnumber), htext⟩
    · cases Except.ok.inj h
  · cases Except.ok.inj h

theorem UnsignedText.eq_cons {text : List Char} (h : UnsignedText text) :
    ∃ c more, text = c :: more ∧ c.isDigit = true := by
  obtain @⟨whole, fraction, power, hwhole, _, _⟩ := h
  cases hwhole with
  | zero => exact ⟨_, _, rfl, rfl⟩
  | digits hc _ _ => exact ⟨_, _, rfl, hc⟩

/-- A digit begins a number and no other value. -/
theorem skipScalar_of_isDigit {c : Char} (h : c.isDigit = true) (text : List Char) :
    skipScalar (c :: text) = (skipNumber (c :: text)).map some := by
  unfold skipScalar
  split
  case h_6 c' rest _ _ _ _ _ heq =>
    obtain ⟨rfl, rfl⟩ := List.cons.inj heq
    exact if_pos h
  case h_7 heq => cases heq
  all_goals
    rename_i heq
    obtain ⟨rfl, rfl⟩ := List.cons.inj heq
    contradiction

theorem skipScalar_string {body : List Char} (h : StringBody body) (rest : List Char) :
    skipScalar ('"' :: (body ++ ['"']) ++ rest) = .ok (some rest) := by
  have hskip : skipString (body ++ ['"'] ++ rest) = .ok rest :=
    skipString_eq_ok.mpr ⟨body, h, by simp⟩
  exact map_eq_ok.mpr ⟨_, hskip, rfl⟩

theorem skipScalar_complete {value rest : List Char} (h : ScalarText value)
    (hrest : EndsNumber rest) : skipScalar (value ++ rest) = .ok (some rest) := by
  cases h with
  | word h =>
      simp only [List.mem_cons, List.not_mem_nil, or_false] at h
      rcases h with rfl | rfl | rfl
      · exact map_eq_ok.mpr ⟨_, readWord_append ['u', 'l', 'l'] rest, rfl⟩
      · exact map_eq_ok.mpr ⟨_, readWord_append ['r', 'u', 'e'] rest, rfl⟩
      · exact map_eq_ok.mpr ⟨_, readWord_append ['a', 'l', 's', 'e'] rest, rfl⟩
  | number h =>
      cases h with
      | positive h =>
          obtain ⟨c, more, rfl, hc⟩ := h.eq_cons
          rw [List.cons_append, skipScalar_of_isDigit hc]
          exact map_eq_ok.mpr ⟨_, skipNumber_complete h hrest, rfl⟩
      | negative h => exact map_eq_ok.mpr ⟨_, skipNumber_complete h hrest, rfl⟩
  | string h => exact skipScalar_string h rest

/-! ### Labels -/

def skipLabel : Bracket → List Char → Except Fault (List Char)
  | .list, text => .ok text
  | .object, text => skipKey text

theorem skipKey_eq_ok {text rest : List Char} :
    skipKey text = .ok rest ↔ ∃ label, Label .object label ∧ text = label ++ rest := by
  constructor
  · intro h
    unfold skipKey at h
    split at h
    · rename_i hquote
      obtain ⟨before, hbefore, rfl⟩ := (skipSpace_eq_cons rfl).mp hquote
      obtain ⟨after, hskip, hnext⟩ := bind_eq_ok.mp h
      obtain ⟨body, hbody, rfl⟩ := skipString_eq_ok.mp hskip
      split at hnext
      · rename_i hcolon
        obtain ⟨between, hbetween, rfl⟩ := (skipSpace_eq_cons rfl).mp hcolon
        obtain rfl := Except.ok.inj hnext
        exact ⟨_, .key hbefore hbody hbetween, by simp⟩
      · contradiction
      · contradiction
    · contradiction
    · contradiction
  · rintro ⟨label, hlabel, rfl⟩
    cases hlabel with
    | @key before body between hbefore hbody hbetween =>
        have hquote : skipSpace (before ++ '"' :: (body ++ '"' :: (between ++ [':'])) ++ rest) =
            '"' :: (body ++ '"' :: (between ++ ':' :: rest)) := by
          rw [List.append_assoc, skipSpace_append hbefore, List.cons_append, skipSpace_cons rfl]
          simp
        have hskip : skipString (body ++ '"' :: (between ++ ':' :: rest)) =
            .ok (between ++ ':' :: rest) := skipString_eq_ok.mpr ⟨body, hbody, rfl⟩
        have hcolon : skipSpace (between ++ ':' :: rest) = ':' :: rest := by
          rw [skipSpace_append hbetween, skipSpace_cons rfl]
        rw [skipKey, hquote]
        refine bind_eq_ok.mpr ⟨_, hskip, ?_⟩
        rw [hcolon]
        rfl

theorem skipLabel_eq_ok {bracket : Bracket} {text rest : List Char} :
    skipLabel bracket text = .ok rest ↔ ∃ label, Label bracket label ∧ text = label ++ rest := by
  cases bracket with
  | object => exact skipKey_eq_ok
  | list =>
      constructor
      · intro h
        obtain rfl := Except.ok.inj h
        exact ⟨[], .item, rfl⟩
      · rintro ⟨label, ⟨⟩, rfl⟩
        rfl

/-! ### Nothing else is passed over -/

inductive Remainder (bracket : Bracket) : List Char → Prop where
  | done {space : List Char} (h : Space space) : Remainder bracket space
  | more {space entries : List Char} (h : Space space)
      (hentries : Written (.entries bracket) entries) :
      Remainder bracket (space ++ ',' :: entries)

/-- The text closes the brackets, the innermost first, and leaves the rest. -/
def Closes : List Bracket → List Char → List Char → Prop
  | [], text, rest => text = rest
  | bracket :: brackets, text, rest => ∃ remainder after, Remainder bracket remainder ∧
      text = remainder ++ bracket.closing :: after ∧ Closes brackets after rest

def ClosesAfterValue (brackets : List Bracket) (text rest : List Char) : Prop :=
  ∃ space value after, Space space ∧ ValueText value ∧ text = space ++ (value ++ after) ∧
    Closes brackets after rest

/-- What a text is that is passed over, by what is awaited at its front. -/
def PassesOver : Awaiting → List Bracket → List Char → List Char → Prop
  | .value, brackets, text, rest => ClosesAfterValue brackets text rest
  | .separator, brackets, text, rest => Closes brackets text rest
  | .firstItem, [], text, rest => text = rest
  | .firstItem, bracket :: brackets, text, rest => ∃ inside after,
      (Space inside ∨ Written (.entries bracket) inside) ∧
      text = inside ++ bracket.closing :: after ∧ Closes brackets after rest

theorem Remainder.entries {bracket : Bracket} {label before value remainder : List Char}
    (h : Remainder bracket remainder) (hlabel : Label bracket label) (hbefore : Space before)
    (hvalue : ValueText value) :
    Written (.entries bracket) (label ++ (before ++ (value ++ remainder))) := by
  cases h with
  | done hafter => exact .last hlabel hbefore hvalue hafter
  | more hafter hentries => exact .more hlabel hbefore hvalue hafter hentries

/-- A label, a value and what closes its brackets give the entries of the innermost. -/
theorem ClosesAfterValue.entries {bracket : Bracket} {brackets : List Bracket}
    {label text rest : List Char} (hlabel : Label bracket label)
    (h : ClosesAfterValue (bracket :: brackets) text rest) :
    ∃ entries after, Written (.entries bracket) entries ∧
      label ++ text = entries ++ bracket.closing :: after ∧ Closes brackets after rest := by
  obtain ⟨space, value, _, hspace, hvalue, rfl, remainder, after, hremainder, rfl, hcloses⟩ := h
  exact ⟨_, after, hremainder.entries hlabel hspace hvalue, by simp, hcloses⟩

theorem ClosesAfterValue.of_opening {bracket : Bracket} {brackets : List Bracket}
    {text after rest : List Char} (hs : skipSpace text = bracket.opening :: after)
    (h : PassesOver .firstItem (bracket :: brackets) after rest) :
    ClosesAfterValue brackets text rest := by
  obtain ⟨space, hspace, htext⟩ := exists_space text
  obtain ⟨inside, behind, hinside, rfl, hcloses⟩ := h
  have hvalue : ValueText (bracket.opening :: (inside ++ [bracket.closing])) := by
    rcases hinside with hempty | hentries
    · exact .empty hempty
    · exact .full hentries
  refine ⟨space, _, behind, hspace, hvalue, ?_, hcloses⟩
  rw [htext, hs]
  simp

theorem ClosesAfterValue.of_scalar {brackets : List Bracket} {text value after rest : List Char}
    (hs : skipSpace text = value ++ after) (hvalue : ScalarText value)
    (h : Closes brackets after rest) : ClosesAfterValue brackets text rest := by
  obtain ⟨space, hspace, htext⟩ := exists_space text
  rw [hs] at htext
  exact ⟨space, value, after, hspace, .scalar hvalue, htext, h⟩

theorem PassesOver.first_of_closing {bracket : Bracket} {brackets : List Bracket}
    {text after rest : List Char} (hs : skipSpace text = bracket.closing :: after)
    (h : Closes brackets after rest) :
    PassesOver .firstItem (bracket :: brackets) text rest := by
  obtain ⟨space, hspace, htext⟩ := (skipSpace_eq_cons bracket.isSpace_closing).mp hs
  exact ⟨space, after, .inl hspace, htext, h⟩

theorem PassesOver.first_of_label {bracket : Bracket} {brackets : List Bracket}
    {label text rest : List Char} (hlabel : Label bracket label)
    (h : ClosesAfterValue (bracket :: brackets) text rest) :
    PassesOver .firstItem (bracket :: brackets) (label ++ text) rest := by
  obtain ⟨entries, after, hentries, htext, hcloses⟩ := h.entries hlabel
  exact ⟨entries, after, .inr hentries, htext, hcloses⟩

theorem Closes.of_closing {bracket : Bracket} {brackets : List Bracket}
    {text after rest : List Char} (hs : skipSpace text = bracket.closing :: after)
    (h : Closes brackets after rest) : Closes (bracket :: brackets) text rest := by
  obtain ⟨space, hspace, htext⟩ := (skipSpace_eq_cons bracket.isSpace_closing).mp hs
  exact ⟨space, after, .done hspace, htext, h⟩

theorem Closes.of_comma {bracket : Bracket} {brackets : List Bracket}
    {text label after rest : List Char} (hs : skipSpace text = ',' :: (label ++ after))
    (hlabel : Label bracket label) (h : ClosesAfterValue (bracket :: brackets) after rest) :
    Closes (bracket :: brackets) text rest := by
  obtain ⟨space, hspace, rfl⟩ := (skipSpace_eq_cons rfl).mp hs
  obtain ⟨entries, behind, hentries, hlabelled, hcloses⟩ := h.entries hlabel
  refine ⟨_, behind, .more hspace hentries, ?_, hcloses⟩
  rw [hlabelled]
  simp

/-- Each step of the reader takes off the text what it stands for. -/
theorem skipRest_sound {awaiting : Awaiting} {brackets : List Bracket} {text rest : List Char}
    (h : skipRest awaiting brackets text = .ok rest) : PassesOver awaiting brackets text rest := by
  fun_induction skipRest awaiting brackets text
  all_goals try contradiction
  -- What has been taken off the text is put before what the rest of the run stands for.
  case case2 hs ih => exact @ClosesAfterValue.of_opening .list _ _ _ _ hs (ih h)
  case case3 hs ih => exact @ClosesAfterValue.of_opening .object _ _ _ _ hs (ih h)
  case case6 hs _ hv ih =>
    obtain ⟨value, hvalue, htext⟩ := skipScalar_sound hv
    exact .of_scalar (hs.trans htext) hvalue (ih h)
  case case7 awaiting _ hvalue =>
    obtain rfl := Except.ok.inj h
    cases awaiting with
    | value => contradiction
    | firstItem => rfl
    | separator => rfl
  case case9 hs ih => exact .first_of_closing hs (ih h)
  case case11 hk _ ih =>
    obtain ⟨label, hlabel, rfl⟩ := skipKey_eq_ok.mp hk
    exact .first_of_label hlabel (ih h)
  case case12 bracket _ _ _ _ _ hlist ih =>
    cases bracket with
    | list => exact .first_of_label .item (ih h)
    | object => contradiction
  case case14 hs ih => exact .of_closing hs (ih h)
  case case16 hk hs _ ih =>
    obtain ⟨label, hlabel, rfl⟩ := skipKey_eq_ok.mp hk
    exact .of_comma hs hlabel (ih h)
  case case17 bracket _ after hlist hs _ ih =>
    cases bracket with
    | list =>
        have hlabel : skipSpace _ = ',' :: ([] ++ after) := hs
        exact .of_comma hlabel .item (ih h)
    | object => contradiction

/-- What is passed over is space and one value. -/
theorem skipValue_sound {text rest : List Char} (h : skipValue text = .ok rest) :
    ∃ space value, Space space ∧ ValueText value ∧ text = space ++ (value ++ rest) := by
  obtain ⟨space, value, _, hspace, hvalue, htext, rfl⟩ := skipRest_sound h
  exact ⟨space, value, hspace, hvalue, htext⟩

/-! ### A value is passed over to its end -/

theorem skipRest_opening {bracket : Bracket} {text rest : List Char}
    (hs : skipSpace text = bracket.opening :: rest) (brackets : List Bracket) :
    skipRest .value brackets text = skipRest .firstItem (bracket :: brackets) rest := by
  cases bracket with
  | list =>
      rw [skipRest]
      split
      all_goals simp_all [Bracket.opening]
  | object =>
      rw [skipRest]
      split
      all_goals simp_all [Bracket.opening]

theorem skipRest_scalar {text value rest : List Char} (hs : skipSpace text = value)
    (hv : skipScalar value = .ok (some rest)) (brackets : List Bracket) :
    skipRest .value brackets text = skipRest .separator brackets rest := by
  subst hs
  rw [skipRest]
  split
  · rename_i heq
    rw [heq] at hv
    cases Except.ok.inj hv
  · rename_i heq
    rw [heq] at hv
    cases Except.ok.inj hv
  · rename_i heq
    rw [heq] at hv
    cases Except.ok.inj hv
  · rename_i heq
    rw [heq] at hv
    split
    · simp_all
    · simp_all
    · simp_all

theorem skipRest_first_closing {bracket : Bracket} {text rest : List Char}
    (hs : skipSpace text = bracket.closing :: rest) (brackets : List Bracket) :
    skipRest .firstItem (bracket :: brackets) text = skipRest .separator brackets rest := by
  rw [skipRest]
  split
  all_goals simp_all

theorem skipRest_first_label {bracket : Bracket} {c : Char} {text more rest : List Char}
    (hs : skipSpace text = c :: more) (hc : c ≠ bracket.closing)
    (hlabel : skipLabel bracket text = .ok rest) (brackets : List Bracket) :
    skipRest .firstItem (bracket :: brackets) text =
      skipRest .value (bracket :: brackets) rest := by
  cases bracket with
  | list =>
      obtain rfl := Except.ok.inj hlabel
      -- only on the left: the right side is another call of the same function
      conv => lhs; rw [skipRest]
      split
      all_goals simp_all
  | object =>
      rw [skipLabel] at hlabel
      conv => lhs; rw [skipRest]
      split
      · simp_all
      · split
        · simp_all
        · rw [if_pos rfl]
          split
          · simp_all
          · simp_all

theorem skipRest_separator_closing {bracket : Bracket} {text rest : List Char}
    (hs : skipSpace text = bracket.closing :: rest) (brackets : List Bracket) :
    skipRest .separator (bracket :: brackets) text = skipRest .separator brackets rest := by
  conv => lhs; rw [skipRest]
  split
  all_goals simp_all

theorem skipRest_separator_comma {bracket : Bracket} {text more rest : List Char}
    (hs : skipSpace text = ',' :: more) (hlabel : skipLabel bracket more = .ok rest)
    (brackets : List Bracket) : skipRest .separator (bracket :: brackets) text =
      skipRest .value (bracket :: brackets) rest := by
  have hcomma : ',' ≠ bracket.closing := by
    cases bracket
    all_goals decide
  conv => lhs; rw [skipRest]
  split
  · simp_all
  · rename_i c after heq
    obtain ⟨rfl, rfl⟩ := List.cons.inj (hs.symm.trans heq)
    rw [if_neg hcomma, if_pos rfl]
    cases bracket with
    | list =>
        obtain rfl := Except.ok.inj hlabel
        rw [if_neg (by decide)]
    | object =>
        rw [skipLabel] at hlabel
        rw [if_pos rfl]
        split
        · simp_all
        · simp_all

/-- After the space that follows a value comes a comma or a closing bracket. -/
theorem endsNumber_append {space : List Char} (h : Space space) {c : Char}
    (hc : c.isDigit = false ∧ c ∉ ['.', 'e', 'E']) (rest : List Char) :
    EndsNumber (space ++ c :: rest) := by
  cases space with
  | nil => exact .of_cons hc rest
  | cons d space =>
      have hd : ∀ d ∈ [' ', '\n', '\t', '\r'], d.isDigit = false ∧ d ∉ ['.', 'e', 'E'] := by decide
      exact .of_cons (hd d (h d List.mem_cons_self)) _

theorem Bracket.closing_ends (bracket : Bracket) :
    bracket.closing.isDigit = false ∧ bracket.closing ∉ ['.', 'e', 'E'] := by
  cases bracket
  all_goals decide

theorem skipSpace_closing {space : List Char} (h : Space space) (bracket : Bracket)
    (rest : List Char) : skipSpace (space ++ bracket.closing :: rest) = bracket.closing :: rest :=
  (skipSpace_eq_cons bracket.isSpace_closing).mpr ⟨space, h, rfl⟩

/-- What a value may begin with: neither space nor a closing bracket. -/
def BeginsValue (c : Char) : Prop := isSpace c = false ∧ c ∉ [']', '\x7d']

instance (c : Char) : Decidable (BeginsValue c) := inferInstanceAs (Decidable (_ ∧ _))

theorem BeginsValue.ne_closing {c : Char} (h : BeginsValue c) (bracket : Bracket) :
    c ≠ bracket.closing := by
  rintro rfl
  apply h.2
  cases bracket
  all_goals decide

theorem BeginsValue.of_isDigit {c : Char} (h : c.isDigit = true) : BeginsValue c := by
  have hnone : ∀ d ∈ [' ', '\n', '\t', '\r', ']', '\x7d'], d.isDigit ≠ true := by decide
  refine ⟨Bool.eq_false_iff.mpr fun hspace => ?_, fun hclosing => ?_⟩
  · exact hnone c (List.mem_append_left [']', '\x7d'] (isSpace_iff.mp hspace)) h
  · exact hnone c (List.mem_append_right [' ', '\n', '\t', '\r'] hclosing) h

theorem ScalarText.eq_cons {text : List Char} (h : ScalarText text) :
    ∃ c more, text = c :: more ∧ BeginsValue c := by
  cases h with
  | word h =>
      simp only [List.mem_cons, List.not_mem_nil, or_false] at h
      rcases h with rfl | rfl | rfl
      · exact ⟨'n', _, rfl, by decide⟩
      · exact ⟨'t', _, rfl, by decide⟩
      · exact ⟨'f', _, rfl, by decide⟩
  | number h =>
      cases h with
      | positive h =>
          obtain ⟨c, more, rfl, hc⟩ := h.eq_cons
          exact ⟨c, more, rfl, .of_isDigit hc⟩
      | negative h => exact ⟨'-', _, rfl, by decide⟩
  | string h => exact ⟨'"', _, rfl, by decide⟩

theorem ValueText.eq_cons {text : List Char} (h : ValueText text) :
    ∃ c more, text = c :: more ∧ BeginsValue c := by
  have hopening : ∀ bracket : Bracket, BeginsValue bracket.opening := by
    intro bracket
    cases bracket
    all_goals decide
  cases h with
  | scalar h => exact h.eq_cons
  | empty h => exact ⟨_, _, rfl, hopening _⟩
  | full h => exact ⟨_, _, rfl, hopening _⟩

theorem ValueText.skipSpace_append {value : List Char} (h : ValueText value) {space : List Char}
    (hspace : Space space) (rest : List Char) :
    skipSpace (space ++ (value ++ rest)) = value ++ rest := by
  obtain ⟨c, more, rfl, hc⟩ := h.eq_cons
  rw [Json.skipSpace_append hspace]
  exact skipSpace_cons hc.1 _

/-- The first entry does not begin with the closing bracket. -/
theorem exists_skipSpace_label {bracket : Bracket} {label before value : List Char}
    (hlabel : Label bracket label) (hbefore : Space before) (hvalue : ValueText value)
    (rest : List Char) : ∃ c more, skipSpace (label ++ (before ++ (value ++ rest))) = c :: more ∧
      c ≠ bracket.closing := by
  cases hlabel with
  | item =>
      obtain ⟨c, more, rfl, hc⟩ := hvalue.eq_cons
      exact ⟨c, _, hvalue.skipSpace_append hbefore rest, hc.ne_closing .list⟩
  | key hspace _ _ =>
      rw [List.append_assoc, skipSpace_append hspace]
      exact ⟨'"', _, skipSpace_cons rfl _, by decide⟩

/-- What passing over a part comes to: a value is taken off the text; entries are taken off up to
the closing bracket, after the label of the first. -/
def Skipped : Part → List Char → Prop
  | .value, value => ∀ brackets space rest, Space space → EndsNumber rest →
      skipRest .value brackets (space ++ (value ++ rest)) = skipRest .separator brackets rest
  | .entries bracket, entries => ∀ brackets rest,
      skipRest .firstItem (bracket :: brackets) (entries ++ bracket.closing :: rest) =
          skipRest .separator brackets rest ∧
        ∃ after, skipLabel bracket (entries ++ bracket.closing :: rest) = .ok after ∧
          skipRest .value (bracket :: brackets) after = skipRest .separator brackets rest

/-- It is enough to look past the label: an entry does not begin with the closing bracket. -/
theorem Skipped.of_label {bracket : Bracket} {label before value more : List Char}
    (hlabel : Label bracket label) (hbefore : Space before) (hvalue : ValueText value)
    (h : ∀ brackets rest, skipRest .value (bracket :: brackets)
      (before ++ (value ++ (more ++ bracket.closing :: rest))) =
        skipRest .separator brackets rest) :
    Skipped (.entries bracket) (label ++ (before ++ (value ++ more))) := by
  intro brackets rest
  have hskip : skipLabel bracket (label ++ (before ++ (value ++ more)) ++ bracket.closing :: rest) =
      .ok (before ++ (value ++ (more ++ bracket.closing :: rest))) :=
    skipLabel_eq_ok.mpr ⟨label, hlabel, by simp⟩
  obtain ⟨c, tail, hc, hne⟩ :=
    exists_skipSpace_label hlabel hbefore hvalue (more ++ bracket.closing :: rest)
  refine ⟨?_, _, hskip, h brackets rest⟩
  rw [skipRest_first_label (by simpa using hc) hne hskip]
  exact h brackets rest

theorem Written.skipped {part : Part} {text : List Char} (h : Written part text) :
    Skipped part text := by
  -- The brackets around a part and what follows it are general, so that parts fit in parts.
  induction h with
  | @scalar text h =>
      intro brackets space rest hspace hrest
      have hvalue : ValueText text := .scalar h
      exact skipRest_scalar (hvalue.skipSpace_append hspace rest) (skipScalar_complete h hrest)
        brackets
  | @empty bracket inside h =>
      intro brackets space rest hspace _
      have hvalue : ValueText (bracket.opening :: (inside ++ [bracket.closing])) := .empty h
      have hclose : skipSpace (inside ++ [bracket.closing] ++ rest) = bracket.closing :: rest := by
        simpa using skipSpace_closing h bracket rest
      rw [skipRest_opening (hvalue.skipSpace_append hspace rest)]
      exact skipRest_first_closing hclose brackets
  | @full bracket entries h ih =>
      intro brackets space rest hspace _
      have hvalue : ValueText (bracket.opening :: (entries ++ [bracket.closing])) := .full h
      obtain ⟨hfirst, _⟩ := ih brackets rest
      rw [skipRest_opening (hvalue.skipSpace_append hspace rest)]
      simpa using hfirst
  | @last bracket label before value after hlabel hbefore hvalue hafter ih =>
      refine .of_label hlabel hbefore hvalue fun brackets rest => ?_
      rw [ih _ _ _ hbefore (endsNumber_append hafter bracket.closing_ends rest),
        skipRest_separator_closing (skipSpace_closing hafter bracket rest)]
  | @more bracket label before value after entries hlabel hbefore hvalue hafter _ ih ihrest =>
      refine .of_label hlabel hbefore hvalue fun brackets rest => ?_
      obtain ⟨_, behind, hskip, hrest⟩ := ihrest brackets rest
      have hcomma : skipSpace (after ++ ',' :: (entries ++ bracket.closing :: rest)) =
          ',' :: (entries ++ bracket.closing :: rest) := by
        rw [skipSpace_append hafter, skipSpace_cons rfl]
      rw [List.append_assoc, List.cons_append,
        ih _ _ _ hbefore (endsNumber_append hafter (c := ',') (by decide) _),
        skipRest_separator_comma hcomma hskip, hrest]

theorem skipRest_done (text : List Char) : skipRest .separator [] text = .ok text := by
  rw [skipRest]
  intro h
  cases h

/-- A value is passed over with the space before it, if nothing after it could continue it. -/
theorem skipValue_complete {space value rest : List Char} (hspace : Space space)
    (hvalue : ValueText value) (hrest : EndsNumber rest) :
    skipValue (space ++ (value ++ rest)) = .ok rest := by
  rw [skipValue, hvalue.skipped [] space rest hspace hrest, skipRest_done]

theorem SpellsString.valueText {content value : List Char} (h : SpellsString content value) :
    ValueText value := by
  obtain ⟨h⟩ := h
  exact .scalar (.string h.stringBody)

/-- A string is passed over whatever follows it. -/
theorem skipValue_string {space content value : List Char} (hspace : Space space)
    (h : SpellsString content value) (rest : List Char) :
    skipValue (space ++ (value ++ rest)) = .ok rest := by
  have hfront := h.valueText.skipSpace_append hspace rest
  obtain ⟨h⟩ := h
  rw [skipValue, skipRest_scalar hfront (skipScalar_string h.stringBody rest), skipRest_done]

end PageSync.Json
