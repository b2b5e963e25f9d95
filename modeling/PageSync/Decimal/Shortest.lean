/-!
The shortest decimal that reads back as a given double. A finite double is
`mantissa * 2 ^ exponent`;
every real in the interval around it rounds to it. For 1, 2, … 17 digits the two neighbours of the
value on that decimal grid are tried; the first grid with a neighbour in the interval wins, and of
two neighbours in it the nearer.
-/

namespace PageSync.Decimal

inductive Decoded where
  | nan
  | infinite (negative : Bool)
  | finite (negative : Bool) (mantissa : Nat) (exponent : Int)
deriving Repr, DecidableEq

def decode (bits : UInt64) : Decoded :=
  let fraction : Nat := bits.toNat % Nat.pow 2 52
  let biased : Nat := bits.toNat / Nat.pow 2 52 % 2048
  let negative := bits.toNat / Nat.pow 2 63 == 1
  if biased = 2047 then (if fraction = 0 then .infinite negative else .nan)
  else if biased = 0 then .finite negative fraction (-1074)
  else .finite negative (Nat.pow 2 52 + fraction) ((biased : Int) - 1075)

/-- `digits * 10 ^ exponent`, with no trailing zero unless `digits` is zero. -/
structure Scientific where
  digits : Nat
  exponent : Int
deriving Repr, DecidableEq

def digitCount (n : Nat) : Nat := (Nat.toDigits 10 n).length

/-- The place of the decimal point: `10 ^ (p - 1) ≤ numerator / denominator < 10 ^ p`. -/
def pointPlace (numerator denominator : Nat) : Int :=
  if denominator ≤ numerator then digitCount (numerator / denominator)
  else
    let j := digitCount denominator - digitCount numerator
    if denominator ≤ numerator * Nat.pow 10 j then 1 - (j : Int) else -(j : Int)

/-- The reals that round to a double, in units of `2 ^ (exponent - 2)`: the value, and its ends. -/
structure Rounding where
  value : Nat
  low : Nat
  high : Nat
  /-- whether the ends themselves round to the double -/
  closed : Bool

/-- Below a power of two the neighbouring double is only half as far away. -/
def rounding (mantissa : Nat) (exponent : Int) : Rounding where
  value := 4 * mantissa
  low := 4 * mantissa - (if mantissa = Nat.pow 2 52 ∧ exponent ≠ -1074 then 1 else 2)
  high := 4 * mantissa + 2
  closed := mantissa % 2 == 0

def Rounding.covers (r : Rounding) (candidate scale : Nat) : Bool :=
  if r.closed then r.low * scale ≤ candidate && candidate ≤ r.high * scale
  else r.low * scale < candidate && candidate < r.high * scale

def dropTrailingZeros (n : Nat) (e : Int) : Scientific :=
  if h : n ≠ 0 ∧ n % 10 = 0 then dropTrailingZeros (n / 10) (e + 1) else ⟨n, e⟩
termination_by n
decreasing_by omega

/-- The nearest covered point of the grid `10 ^ k`, if one of the value's neighbours is covered. -/
def onGrid (r : Rounding) (exponent k : Int) : Option Nat :=
  let step := Nat.pow 10 k.toNat * Nat.pow 2 (2 - exponent).toNat
  let scale := Nat.pow 10 (-k).toNat * Nat.pow 2 (exponent - 2).toNat
  let below := r.value * scale / step
  let offset := r.value * scale - below * step
  let lowHit := r.covers (below * step) scale
  let highHit := r.covers ((below + 1) * step) scale
  if lowHit && highHit then
    if 2 * offset < step then some below
    else if step < 2 * offset then some (below + 1)
    else some (if below % 2 = 0 then below else below + 1)
  else if lowHit then some below
  else if highHit then some (below + 1)
  else none

def shortest (mantissa : Nat) (exponent : Int) : Scientific :=
  if mantissa = 0 then ⟨0, 0⟩
  else
    let place := pointPlace (mantissa * Nat.pow 2 exponent.toNat) (Nat.pow 2 (-exponent).toNat)
    let r := rounding mantissa exponent
    let found := (List.range 17).findSome? fun (n : Nat) =>
      let k := place - n - 1
      (onGrid r exponent k).map fun c => dropTrailingZeros c k
    found.getD ⟨mantissa, 0⟩

end PageSync.Decimal
