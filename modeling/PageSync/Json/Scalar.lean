import PageSync.Json.Reader
import PageSync.Decimal.Reading

/-!
Words and numbers in JSON text.

A number with a point or a power of ten, or one that does not fit 64 bits, becomes a double: its
significand is the run of leading digits that fits 64 bits, and it is multiplied or divided by one
power of ten.
-/

namespace PageSync.Json

open Text

/-- The rest of `null`, `true` or `false` after its first letter. -/
def readWord (word text : List Char) : Except Fault (List Char) :=
  match word, text with
  | [], text => .ok text
  | _ :: _, [] => .error .endOfValue
  | w :: word, c :: rest => if w = c then readWord word rest else .error .expectedIdent

theorem readWord_eq {word text rest : List Char} (h : readWord word text = .ok rest) :
    text = word ++ rest := by
  induction word generalizing text with
  | nil => simpa [readWord] using h
  | cons w word ih =>
    cases text with
    | nil => simp [readWord] at h
    | cons c text =>
      by_cases hc : w = c
      · simp only [readWord, hc, if_true] at h
        simp [hc, ih h]
      · simp [readWord, hc] at h

def startsWithDigit (text : List Char) : Bool :=
  match text with
  | c :: _ => c.isDigit
  | [] => false

def skipDigits (text : List Char) : List Char := text.dropWhile Char.isDigit

def takeDigits (text : List Char) : List Char := text.takeWhile Char.isDigit

theorem length_skipDigits_le (text : List Char) : (skipDigits text).length ≤ text.length :=
  (List.dropWhile_sublist _).length_le

/-! ### Skipped numbers -/

def skipSomeDigits (text : List Char) : Except Fault (List Char) :=
  if startsWithDigit text then .ok (skipDigits text) else .error .invalidNumber

def skipPower (text : List Char) : Except Fault (List Char) :=
  match text with
  | '+' :: rest => skipSomeDigits rest
  | '-' :: rest => skipSomeDigits rest
  | rest => skipSomeDigits rest

def skipPower? (text : List Char) : Except Fault (List Char) :=
  match text with
  | 'e' :: rest => skipPower rest
  | 'E' :: rest => skipPower rest
  | rest => .ok rest

def skipNumberTail (text : List Char) : Except Fault (List Char) :=
  match text with
  | '.' :: rest => do skipPower? (← skipSomeDigits rest)
  | rest => skipPower? rest

/-- A skipped number without its sign. No digit may follow a leading zero. -/
def skipNumber (text : List Char) : Except Fault (List Char) :=
  match text with
  | '0' :: rest => if startsWithDigit rest then .error .invalidNumber else skipNumberTail rest
  | c :: rest => if c.isDigit then skipNumberTail (skipDigits rest) else .error .invalidNumber
  | [] => .error .invalidNumber

/-! ### Numbers that are read -/

/-- Appends digits to a significand while the result stays below 2 ^ 64. Gives the significand, how
many digits went into it and whether one did not fit. -/
def absorb (significand : Nat) : List Char → Nat × Nat × Bool
  | [] => (significand, 0, false)
  | c :: rest =>
    let next := significand * 10 + (c.toNat - '0'.toNat)
    if next < Nat.pow 2 64 then
      let (s, n, full) := absorb next rest
      (s, n + 1, full)
    else (significand, 0, true)

def powerOfTen (n : Nat) : Float := Float.ofScientific 1 false n

/-- Divides by a power of ten, 308 places at a time. -/
def divideByPower (x : Float) (n : Nat) : Float :=
  if n ≤ 308 then x / powerOfTen n
  else if x == 0.0 then x
  else divideByPower (x / powerOfTen 308) (n - 308)
termination_by n
decreasing_by omega

def scale (significand : Nat) (exponent : Int) : Except Fault Float :=
  let x := (UInt64.ofNat significand).toFloat
  match exponent with
  | .ofNat n =>
    if n ≤ 308 then
      let y := x * powerOfTen n
      if y.isInf then .error .numberOutOfRange else .ok y
    else if significand = 0 then .ok x
    else .error .numberOutOfRange
  | .negSucc n => .ok (divideByPower x (n + 1))

/-- After the `e`: the power of ten, added to `exponent`. A power that does not fit 32 bits is out
of range unless it makes the number zero. -/
def readPower (significand : Nat) (exponent : Int) (text : List Char) :
    Except Fault (Float × List Char) :=
  let (negative, digits) := match text with
    | '+' :: rest => (false, rest)
    | '-' :: rest => (true, rest)
    | text => (false, text)
  match digits with
  | [] => .error .endOfValue
  | c :: _ =>
    if c.isDigit then
      let power := decimalNumeral (takeDigits digits)
      let rest := skipDigits digits
      if Nat.pow 2 31 ≤ power then
        if significand ≠ 0 && !negative then .error .numberOutOfRange else .ok (0.0, rest)
      else do
        let x ← scale significand (if negative then exponent - power else exponent + power)
        .ok (x, rest)
    else .error .invalidNumber

def readPower? (significand : Nat) (exponent : Int) (text : List Char) :
    Except Fault (Float × List Char) :=
  match text with
  | 'e' :: rest => readPower significand exponent rest
  | 'E' :: rest => readPower significand exponent rest
  | rest => do
    let x ← scale significand exponent
    .ok (x, rest)

def readFraction (significand : Nat) (exponent : Int) (text : List Char) :
    Except Fault (Float × List Char) :=
  match text with
  | [] => .error .endOfValue
  | c :: _ =>
    if c.isDigit then
      let (s, n, _) := absorb significand (takeDigits text)
      readPower? s (exponent - n) (skipDigits text)
    else .error .invalidNumber

/-- A whole number of at most 64 bits; minus zero and what lies below the signed range are
doubles. -/
def wholeNumber (negative : Bool) (significand : Nat) : Number :=
  if negative then
    if significand = 0 || Nat.pow 2 63 < significand then
      .float (-(UInt64.ofNat significand).toFloat)
    else .negative significand
  else .natural significand

def readNumberTail (negative : Bool) (digits rest : List Char) :
    Except Fault (Number × List Char) :=
  let (significand, n, full) := absorb 0 digits
  let signed (x : Float) : Number := .float (if negative then -x else x)
  let exponent : Int := (digits.length - n : Nat)
  match rest with
  | '.' :: rest => (readFraction significand exponent rest).map fun (x, rest) => (signed x, rest)
  | 'e' :: rest => (readPower significand exponent rest).map fun (x, rest) => (signed x, rest)
  | 'E' :: rest => (readPower significand exponent rest).map fun (x, rest) => (signed x, rest)
  | rest =>
    if full then (scale significand exponent).map fun x => (signed x, rest)
    else .ok (wholeNumber negative significand, rest)

def readNumber (negative : Bool) (text : List Char) : Except Fault (Number × List Char) :=
  match text with
  | [] => .error .endOfValue
  | '0' :: rest =>
    if startsWithDigit rest then .error .invalidNumber else readNumberTail negative ['0'] rest
  | c :: rest =>
    if c.isDigit then readNumberTail negative (c :: takeDigits rest) (skipDigits rest)
    else .error .invalidNumber

end PageSync.Json
