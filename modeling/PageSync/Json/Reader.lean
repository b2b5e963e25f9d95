import PageSync.Json.Basic
import PageSync.Json.Fault
import PageSync.Text.Hex

/-!
Reading JSON text from the front. Every reader takes the text that is left and gives what it read
with the text after it, or the first fault; the text after it is always a proper end of the text
before. A value can be read, or skipped: a skipped string may hold surrogate escapes that pair with
nothing, for nobody looks at it.
-/

namespace PageSync.Json

open Text

def isSpace (c : Char) : Bool := c == ' ' || c == '\n' || c == '\t' || c == '\r'

def skipSpace (text : List Char) : List Char := text.dropWhile isSpace

theorem length_skipSpace_le (text : List Char) : (skipSpace text).length ≤ text.length :=
  (List.dropWhile_sublist _).length_le

theorem length_lt_of_skipSpace {text rest : List Char} {c : Char}
    (h : skipSpace text = c :: rest) : rest.length < text.length := by
  have := length_skipSpace_le text
  simp only [h, List.length_cons] at this; omega

/-! ### Strings -/

/-- Four hexadecimal digits. Anything that is four bytes long and no such number is a wrong escape;
a shorter text has ended inside the string. -/
def hexQuad (text : List Char) : Except Fault (Nat × List Char) :=
  match text with
  | a :: b :: c :: d :: rest =>
    if [a, b, c, d].all isHexDigit then .ok (hexNumeral [a, b, c, d], rest)
    else .error .invalidEscape
  | text => .error (if byteLength text < 4 then .endOfString else .invalidEscape)

def shortEscape? (c : Char) : Option Char :=
  match c with
  | '"' => some '"'
  | '\\' => some '\\'
  | '/' => some '/'
  | 'b' => some '\x08'
  | 'f' => some '\x0c'
  | 'n' => some '\n'
  | 'r' => some '\r'
  | 't' => some '\t'
  | _ => none

def isHighSurrogate (n : Nat) : Bool := 0xD800 ≤ n && n ≤ 0xDBFF

def isLowSurrogate (n : Nat) : Bool := 0xDC00 ≤ n && n ≤ 0xDFFF

def pairValue (high low : Nat) : Nat := (high - 0xD800) * 0x400 + (low - 0xDC00) + 0x10000

def lowHalf (high : Nat) (text : List Char) : Except Fault (Char × List Char) :=
  match text with
  | [] => .error .endOfString
  | '\\' :: [] => .error .endOfString
  | '\\' :: 'u' :: rest => do
    let (low, rest) ← hexQuad rest
    if isLowSurrogate low then .ok (Char.ofNat (pairValue high low), rest)
    else .error .loneSurrogate
  | _ => .error .unexpectedEndOfHexEscape

def escape (text : List Char) : Except Fault (Char × List Char) :=
  match text with
  | [] => .error .endOfString
  | 'u' :: rest => do
    let (n, rest) ← hexQuad rest
    if isLowSurrogate n then .error .loneSurrogate
    else if isHighSurrogate n then lowHalf n rest
    else .ok (Char.ofNat n, rest)
  | c :: rest =>
    match shortEscape? c with
    | some d => .ok (d, rest)
    | none => .error .invalidEscape

def skipEscape (text : List Char) : Except Fault (List Char) :=
  match text with
  | [] => .error .endOfString
  | 'u' :: rest => (hexQuad rest).map (·.2)
  | c :: rest => if (shortEscape? c).isSome then .ok rest else .error .invalidEscape

theorem hexQuad_length {text rest : List Char} {n : Nat} (h : hexQuad text = .ok (n, rest)) :
    rest.length < text.length := by
  unfold hexQuad at h
  split at h
  · split at h
    · simp only [Except.ok.injEq, Prod.mk.injEq] at h
      simp only [← h.2, List.length_cons]; omega
    · simp at h
  · simp at h

theorem lowHalf_length {high : Nat} {text rest : List Char} {c : Char}
    (h : lowHalf high text = .ok (c, rest)) : rest.length < text.length := by
  unfold lowHalf at h
  split at h
  · simp at h
  · simp at h
  · rename_i rest₁
    cases hq : hexQuad rest₁ with
    | error e => simp [hq, bind, Except.bind] at h
    | ok p =>
      have hl : p.2.length < rest₁.length := hexQuad_length (n := p.1) hq
      simp only [hq, bind, Except.bind] at h
      split at h
      · simp only [Except.ok.injEq, Prod.mk.injEq] at h
        simp only [← h.2, List.length_cons]; omega
      · simp at h
  · simp at h

theorem escape_length {text rest : List Char} {c : Char} (h : escape text = .ok (c, rest)) :
    rest.length < text.length := by
  unfold escape at h
  split at h
  · simp at h
  · rename_i rest₁
    cases hq : hexQuad rest₁ with
    | error e => simp [hq, bind, Except.bind] at h
    | ok p =>
      have hl : p.2.length < rest₁.length := hexQuad_length (n := p.1) hq
      simp only [hq, bind, Except.bind] at h
      split at h
      · simp at h
      · split at h
        · have := lowHalf_length h
          simp only [List.length_cons]; omega
        · simp only [Except.ok.injEq, Prod.mk.injEq] at h
          simp only [← h.2, List.length_cons]; omega
  · split at h
    · simp only [Except.ok.injEq, Prod.mk.injEq] at h
      simp [← h.2]
    · simp at h

theorem skipEscape_length {text rest : List Char} (h : skipEscape text = .ok rest) :
    rest.length < text.length := by
  unfold skipEscape at h
  split at h
  · simp at h
  · rename_i rest₁
    cases hq : hexQuad rest₁ with
    | error e => simp [hq, Except.map] at h
    | ok p =>
      have hl : p.2.length < rest₁.length := hexQuad_length (n := p.1) hq
      simp only [hq, Except.map, Except.ok.injEq] at h
      simp only [← h, List.length_cons]; omega
  · split at h
    · simp only [Except.ok.injEq] at h
      simp [← h]
    · simp at h

def readString : List Char → Except Fault (List Char × List Char)
  | [] => .error .endOfString
  | '"' :: rest => .ok ([], rest)
  | '\\' :: rest =>
    match _h : escape rest with
    | .error fault => .error fault
    | .ok (c, rest) => (readString rest).map fun (cs, rest) => (c :: cs, rest)
  | c :: rest =>
    if c.toNat < 0x20 then .error .controlCharacter
    else (readString rest).map fun (cs, rest) => (c :: cs, rest)
termination_by text => text.length
decreasing_by
  · have := escape_length _h
    simp only [List.length_cons]; omega
  · simp

def skipString : List Char → Except Fault (List Char)
  | [] => .error .endOfString
  | '"' :: rest => .ok rest
  | '\\' :: rest =>
    match _h : skipEscape rest with
    | .error fault => .error fault
    | .ok rest => skipString rest
  | c :: rest => if c.toNat < 0x20 then .error .controlCharacter else skipString rest
termination_by text => text.length
decreasing_by
  · have := skipEscape_length _h
    simp only [List.length_cons]; omega
  · simp

end PageSync.Json
