import PageSync.Json.Scalar

/-!
Whole JSON values: passing over one, and reading one. A value is passed over with the stack of the
brackets that are open, so depth has no limit.
-/

namespace PageSync.Json

/-! ### Lengths -/

theorem skipString_length {text rest : List Char} (h : skipString text = .ok rest) :
    rest.length < text.length := by
  fun_induction skipString text with
  | case1 => simp at h
  | case2 => simp only [Except.ok.injEq] at h; simp [← h]
  | case3 => simp at h
  | case4 rest₁ rest₂ he ih =>
    have := skipEscape_length he
    have := ih h
    simp only [List.length_cons]; omega
  | case5 => simp at h
  | case6 c rest₁ _ _ _ ih =>
    have := ih h
    simp only [List.length_cons]; omega

theorem readString_length {text rest cs : List Char} (h : readString text = .ok (cs, rest)) :
    rest.length < text.length := by
  fun_induction readString text generalizing cs with
  | case1 => simp at h
  | case2 => simp only [Except.ok.injEq, Prod.mk.injEq] at h; simp [← h.2]
  | case3 => simp at h
  | case4 rest₁ c rest₂ he ih =>
    have := escape_length he
    cases hr : readString rest₂ with
    | error e => simp [hr, Except.map] at h
    | ok p =>
      simp only [hr, Except.map, Except.ok.injEq, Prod.mk.injEq] at h
      have := ih (by rw [hr, ← h.2])
      simp only [List.length_cons]; omega
  | case5 => simp at h
  | case6 c rest₁ _ _ _ ih =>
    cases hr : readString rest₁ with
    | error e => simp [hr, Except.map] at h
    | ok p =>
      simp only [hr, Except.map, Except.ok.injEq, Prod.mk.injEq] at h
      have := ih (by rw [hr, ← h.2])
      simp only [List.length_cons]; omega

theorem skipSomeDigits_length {text rest : List Char} (h : skipSomeDigits text = .ok rest) :
    rest.length ≤ text.length := by
  unfold skipSomeDigits at h
  split at h
  · simp only [Except.ok.injEq] at h
    exact h ▸ length_skipDigits_le text
  · simp at h

theorem skipPower_length {text rest : List Char} (h : skipPower text = .ok rest) :
    rest.length ≤ text.length := by
  unfold skipPower at h
  split at h
  · have := skipSomeDigits_length h
    simp only [List.length_cons]; omega
  · have := skipSomeDigits_length h
    simp only [List.length_cons]; omega
  · exact skipSomeDigits_length h

theorem skipPower?_length {text rest : List Char} (h : skipPower? text = .ok rest) :
    rest.length ≤ text.length := by
  unfold skipPower? at h
  split at h
  · have := skipPower_length h
    simp only [List.length_cons]; omega
  · have := skipPower_length h
    simp only [List.length_cons]; omega
  · simp only [Except.ok.injEq] at h
    simp [h]

theorem skipNumberTail_length {text rest : List Char} (h : skipNumberTail text = .ok rest) :
    rest.length ≤ text.length := by
  unfold skipNumberTail at h
  split at h
  · rename_i rest₁
    cases hd : skipSomeDigits rest₁ with
    | error e => simp [hd, bind, Except.bind] at h
    | ok rest₂ =>
      simp only [hd, bind, Except.bind] at h
      have := skipSomeDigits_length hd
      have := skipPower?_length h
      simp only [List.length_cons]; omega
  · exact skipPower?_length h

theorem skipNumber_length {text rest : List Char} (h : skipNumber text = .ok rest) :
    rest.length < text.length := by
  unfold skipNumber at h
  split at h
  · split at h
    · simp at h
    · have := skipNumberTail_length h
      simp only [List.length_cons]; omega
  · rename_i rest₁ _
    split at h
    · have := skipNumberTail_length h
      have := length_skipDigits_le rest₁
      simp only [List.length_cons]; omega
    · simp at h
  · simp at h

theorem readWord_length {word text rest : List Char} (h : readWord word text = .ok rest) :
    rest.length ≤ text.length := by
  rw [readWord_eq h]; simp

/-! ### Passing over a value -/

inductive Bracket where
  | list
  | object
deriving Repr, DecidableEq

def Bracket.closing : Bracket → Char
  | .list => ']'
  | .object => '\x7d'

def Bracket.commaOrEnd : Bracket → Fault
  | .list => .expectedListCommaOrEnd
  | .object => .expectedObjectCommaOrEnd

def Bracket.endFault : Bracket → Fault
  | .list => .endOfList
  | .object => .endOfObject

def skipScalar (text : List Char) : Except Fault (Option (List Char)) :=
  match text with
  | 'n' :: rest => (readWord ['u', 'l', 'l'] rest).map some
  | 't' :: rest => (readWord ['r', 'u', 'e'] rest).map some
  | 'f' :: rest => (readWord ['a', 'l', 's', 'e'] rest).map some
  | '-' :: rest => (skipNumber rest).map some
  | '"' :: rest => (skipString rest).map some
  | c :: rest => if c.isDigit then (skipNumber (c :: rest)).map some else .ok none
  | [] => .ok none

def skipKey (text : List Char) : Except Fault (List Char) :=
  match skipSpace text with
  | '"' :: rest => do
    let rest ← skipString rest
    match skipSpace rest with
    | ':' :: rest => .ok rest
    | [] => .error .endOfObject
    | _ => .error .expectedColon
  | [] => .error .endOfObject
  | _ => .error .keyMustBeString

theorem skipScalar_length {text rest : List Char} (h : skipScalar text = .ok (some rest)) :
    rest.length < text.length := by
  unfold skipScalar at h
  split at h
  · rename_i rest₁
    cases hw : readWord ['u', 'l', 'l'] rest₁ <;> simp [hw, Except.map] at h
    have := readWord_length hw
    subst h; simp only [List.length_cons]; omega
  · rename_i rest₁
    cases hw : readWord ['r', 'u', 'e'] rest₁ <;> simp [hw, Except.map] at h
    have := readWord_length hw
    subst h; simp only [List.length_cons]; omega
  · rename_i rest₁
    cases hw : readWord ['a', 'l', 's', 'e'] rest₁ <;> simp [hw, Except.map] at h
    have := readWord_length hw
    subst h; simp only [List.length_cons]; omega
  · rename_i rest₁
    cases hw : skipNumber rest₁ <;> simp [hw, Except.map] at h
    have := skipNumber_length hw
    subst h; simp only [List.length_cons]; omega
  · rename_i rest₁
    cases hw : skipString rest₁ <;> simp [hw, Except.map] at h
    have := skipString_length hw
    subst h; simp only [List.length_cons]; omega
  · rename_i c rest₁ _ _ _ _ _
    split at h
    · cases hw : skipNumber (c :: rest₁) <;> simp [hw, Except.map] at h
      have := skipNumber_length hw
      subst h; exact this
    · simp at h
  · simp at h

theorem skipKey_length {text rest : List Char} (h : skipKey text = .ok rest) :
    rest.length < text.length := by
  unfold skipKey at h
  have h₀ := length_skipSpace_le text
  split at h
  · rename_i rest₁ heq
    cases hs : skipString rest₁ with
    | error e => simp [hs, bind, Except.bind] at h
    | ok rest₂ =>
      have h₁ := skipString_length hs
      have h₂ := length_skipSpace_le rest₂
      simp only [hs, bind, Except.bind] at h
      split at h
      · rename_i rest₃ heq₃
        simp only [Except.ok.injEq] at h
        subst h
        rw [heq] at h₀
        rw [heq₃] at h₂
        simp only [List.length_cons] at *; omega
      · simp at h
      · simp at h
  · simp at h
  · simp at h

/-- What may come next while values are passed over. -/
inductive Awaiting where
  | value
  /-- just after an opening bracket -/
  | firstItem
  /-- after a value inside the innermost bracket -/
  | separator
deriving Repr, DecidableEq

/-- Passes over what is left of a value. The list holds the open brackets, the innermost first. -/
def skipRest (awaiting : Awaiting) (brackets : List Bracket) (text : List Char) :
    Except Fault (List Char) :=
  match awaiting, brackets with
  | .value, brackets =>
    match _hs : skipSpace text with
    | [] => .error .endOfValue
    | '[' :: rest => skipRest .firstItem (.list :: brackets) rest
    | '\x7b' :: rest => skipRest .firstItem (.object :: brackets) rest
    | c :: rest =>
      match _hv : skipScalar (c :: rest) with
      | .error fault => .error fault
      | .ok none => .error .expectedValue
      | .ok (some rest) => skipRest .separator brackets rest
  | _, [] => .ok text
  | .firstItem, bracket :: brackets =>
    match _hs : skipSpace text with
    | [] => .error bracket.endFault
    | c :: rest =>
      if c = bracket.closing then skipRest .separator brackets rest
      else if bracket = .object then
        match _hk : skipKey text with
        | .error fault => .error fault
        | .ok rest => skipRest .value (bracket :: brackets) rest
      else skipRest .value (bracket :: brackets) text
  | .separator, bracket :: brackets =>
    match _hs : skipSpace text with
    | [] => .error bracket.endFault
    | c :: rest =>
      if c = bracket.closing then skipRest .separator brackets rest
      else if c = ',' then
        if bracket = .object then
          match _hk : skipKey rest with
          | .error fault => .error fault
          | .ok rest => skipRest .value (bracket :: brackets) rest
        else skipRest .value (bracket :: brackets) rest
      else .error bracket.commaOrEnd
termination_by (text.length, if awaiting = .firstItem then 1 else 0)
decreasing_by
  all_goals have hle := length_skipSpace_le text
  all_goals try rw [_hs] at hle
  all_goals simp only [List.length_cons] at hle
  · simp only [Prod.lex_def]; omega
  · simp only [Prod.lex_def]; omega
  · have := skipScalar_length _hv
    simp only [List.length_cons, Prod.lex_def] at *; omega
  · simp only [Prod.lex_def]; omega
  · have := skipKey_length _hk
    simp only [Prod.lex_def]; omega
  · simp [Prod.lex_def]
  · simp only [Prod.lex_def]; omega
  · have := skipKey_length _hk
    simp only [Prod.lex_def]; omega
  · simp only [Prod.lex_def]; omega

theorem skipRest_length {awaiting : Awaiting} {brackets : List Bracket} {text rest : List Char}
    (h : skipRest awaiting brackets text = .ok rest) : rest.length ≤ text.length := by
  fun_induction skipRest awaiting brackets text
  all_goals try (simp at h; done)
  case case2 hs ih => exact Nat.le_trans (ih h) (Nat.le_of_lt (length_lt_of_skipSpace hs))
  case case3 hs ih => exact Nat.le_trans (ih h) (Nat.le_of_lt (length_lt_of_skipSpace hs))
  case case6 hs _ hv ih =>
    have h₁ := skipScalar_length hv
    have h₂ := length_lt_of_skipSpace hs
    have h₃ := ih h
    simp only [List.length_cons] at h₁; omega
  case case7 => simp only [Except.ok.injEq] at h; simp [h]
  case case9 hs ih => exact Nat.le_trans (ih h) (Nat.le_of_lt (length_lt_of_skipSpace hs))
  case case11 hk _ ih => exact Nat.le_trans (ih h) (Nat.le_of_lt (skipKey_length hk))
  case case12 ih => exact ih h
  case case14 hs ih => exact Nat.le_trans (ih h) (Nat.le_of_lt (length_lt_of_skipSpace hs))
  case case16 hk hs _ ih =>
    have h₁ := skipKey_length hk
    have h₂ := length_lt_of_skipSpace hs
    have h₃ := ih h
    omega
  case case17 hs _ ih => exact Nat.le_trans (ih h) (Nat.le_of_lt (length_lt_of_skipSpace hs))

def skipValue (text : List Char) : Except Fault (List Char) := skipRest .value [] text

theorem skipValue_length {text rest : List Char} (h : skipValue text = .ok rest) :
    rest.length ≤ text.length :=
  skipRest_length h

end PageSync.Json
