import PageSync.Text.Hex

/-!
Reading numbers: natural numbers and integers of 64 bits with an optional sign, and doubles in the
usual notation, rounded to the nearest.
-/

namespace PageSync.Decimal

open Text

def allDigits (text : List Char) : Bool := !text.isEmpty && text.all Char.isDigit

def readNatural? (text : List Char) : Option Nat :=
  let digits := match text with
    | '+' :: rest => rest
    | text => text
  if allDigits digits then some (decimalNumeral digits) else none

def readUnsigned? (text : List Char) : Option Nat :=
  (readNatural? text).filter (· < Nat.pow 2 64)

def readSigned? (text : List Char) : Option Int :=
  match text with
  | '-' :: digits =>
    if allDigits digits && decimalNumeral digits ≤ Nat.pow 2 63 then
      some (-(decimalNumeral digits : Int))
    else none
  | text => ((readNatural? text).filter (· < Nat.pow 2 63)).map Int.ofNat

/-- The double nearest to `digits * 10 ^ exponent`. Exponents that leave the range of doubles
whatever the digits are cut first. -/
def nearest (digits : Nat) (exponent : Int) : Float :=
  let place := ((Nat.toDigits 10 digits).length : Int) + exponent
  if digits = 0 || place < -400 then 0.0
  else if 400 < place then 1.0 / 0.0
  else if 0 ≤ exponent then Float.ofScientific digits false exponent.toNat
  else Float.ofScientific digits true (-exponent).toNat

def readExponent? (text : List Char) : Option Int :=
  match text with
  | '-' :: digits => if allDigits digits then some (-(decimalNumeral digits : Int)) else none
  | '+' :: digits => if allDigits digits then some (decimalNumeral digits) else none
  | digits => if allDigits digits then some (decimalNumeral digits) else none

/-- Digits with an optional point among or around them, and an optional power of ten. -/
def readUnsignedFloat? (text : List Char) : Option Float :=
  let whole := text.takeWhile Char.isDigit
  let rest := text.dropWhile Char.isDigit
  let (fraction, rest) := match rest with
    | '.' :: rest => (rest.takeWhile Char.isDigit, rest.dropWhile Char.isDigit)
    | rest => ([], rest)
  if whole.isEmpty && fraction.isEmpty then none
  else
    let value (e : Int) := nearest (decimalNumeral (whole ++ fraction)) (e - fraction.length)
    match rest with
    | [] => some (value 0)
    | 'e' :: rest => (readExponent? rest).map value
    | 'E' :: rest => (readExponent? rest).map value
    | _ => none

def readMagnitude? (text : List Char) : Option Float :=
  match String.ofList (text.map Char.toLower) with
  | "inf" => some (1.0 / 0.0)
  | "infinity" => some (1.0 / 0.0)
  | "nan" => some (0.0 / 0.0)
  | _ => readUnsignedFloat? text

/-- A double with an optional sign, or one of the words `inf`, `infinity`, `nan` in any case. -/
def readFloat? (text : List Char) : Option Float :=
  match text with
  | '-' :: rest => (readMagnitude? rest).map (-·)
  | '+' :: rest => readMagnitude? rest
  | rest => readMagnitude? rest

end PageSync.Decimal
