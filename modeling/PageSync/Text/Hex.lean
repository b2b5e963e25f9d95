import PageSync.Text.Pieces

/-!
Hexadecimal and decimal digits, numbers written with them, and sets of characters written as
hexadecimal intervals.
-/

namespace PageSync.Text

def hexValue? (c : Char) : Option Nat :=
  if '0' ≤ c && c ≤ '9' then some (c.toNat - '0'.toNat)
  else if 'a' ≤ c && c ≤ 'f' then some (c.toNat - 'a'.toNat + 10)
  else if 'A' ≤ c && c ≤ 'F' then some (c.toNat - 'A'.toNat + 10)
  else none

def isHexDigit (c : Char) : Bool := (hexValue? c).isSome

def upperHexDigit (n : Nat) : Char :=
  Char.ofNat (if n < 10 then '0'.toNat + n else 'A'.toNat + (n - 10))

/-- The number that a list of digits writes in `base`, the most significant digit first. -/
def numeral (base : Nat) (digits : List Nat) : Nat :=
  digits.foldl (fun n d => n * base + d) 0

def hexNumeral (text : List Char) : Nat :=
  numeral 16 (text.map fun c => (hexValue? c).getD 0)

def decimalNumeral (text : List Char) : Nat :=
  numeral 10 (text.map fun c => c.toNat - '0'.toNat)

def decimalText (n : Nat) : String := String.ofList (Nat.toDigits 10 n)

def hexText (n : Nat) : String := String.ofList (Nat.toDigits 16 n)

/-- Reads one interval, `first-last`, or a single code point. -/
def readInterval (text : List Char) : Nat × Nat :=
  match cutAt '-' text with
  | (only, none) => (hexNumeral only, hexNumeral only)
  | (first, some last) => (hexNumeral first, hexNumeral last)

def readIntervals (text : String) : List (Nat × Nat) :=
  (words isAsciiBlank text.toList).map readInterval

def within (intervals : List (Nat × Nat)) (c : Char) : Bool :=
  intervals.any fun (first, last) => first ≤ c.toNat && c.toNat ≤ last

end PageSync.Text
