import PageSync.Decimal.Shortest
import PageSync.Text.Hex

/-!
Ways to write a double. All write the shortest digits; they differ in where positional notation
ends and in whether a whole number keeps a point.
-/

namespace PageSync.Decimal

structure Style where
  /-- the least place of the decimal point still written positionally; none is no limit -/
  leastPlace : Option Int
  /-- the greatest such place -/
  greatestPlace : Option Int
  /-- whether a whole number ends in `.0` -/
  wholePoint : Bool

/-- Positional at any size, whole numbers without a point. -/
def Style.plain : Style := ⟨none, none, false⟩

/-- Positional from 0.0001 to below 10 ^ 16, whole numbers with `.0`. -/
def Style.debug : Style := ⟨some (-3), some 16, true⟩

/-- Positional from 0.00001 to below 10 ^ 16, whole numbers with `.0`. -/
def Style.json : Style := ⟨some (-4), some 16, true⟩

def Style.isPositional (style : Style) (place : Int) : Bool :=
  style.leastPlace.all (· ≤ place) && style.greatestPlace.all (place ≤ ·)

def zeros (n : Nat) : List Char := List.replicate n '0'

def positional (digits : List Char) (place : Int) (wholePoint : Bool) : List Char :=
  if place ≤ 0 then "0.".toList ++ zeros (-place).toNat ++ digits
  else
    let n := place.toNat
    if digits.length ≤ n then
      digits ++ zeros (n - digits.length) ++ (if wholePoint then ".0".toList else [])
    else digits.take n ++ '.' :: digits.drop n

def exponential (digits : List Char) (place : Int) : List Char :=
  digits.take 1 ++ (if digits.length ≤ 1 then [] else '.' :: digits.drop 1) ++
    'e' :: (toString (place - 1)).toList

def Style.magnitude (style : Style) (s : Scientific) : List Char :=
  let digits := Nat.toDigits 10 s.digits
  let place := (digits.length : Int) + s.exponent
  if s.digits = 0 then positional digits 1 style.wholePoint
  else if style.isPositional place then positional digits place style.wholePoint
  else exponential digits place

def Style.write (style : Style) (x : Float) : String :=
  match decode x.toBits with
  | .nan => "NaN"
  | .infinite negative => if negative then "-inf" else "inf"
  | .finite negative m e =>
    String.ofList ((if negative then ['-'] else []) ++ style.magnitude (shortest m e))

end PageSync.Decimal
