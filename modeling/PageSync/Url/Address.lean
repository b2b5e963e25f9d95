import PageSync.Url.Basic
import PageSync.Text.Pieces

/-!
Numeric hosts: IPv4 addresses in their many spellings, and IPv6 addresses in brackets.
-/

namespace PageSync.Url

open Text

/-! ### IPv4 -/

/-- A number in the spelling of C: `0x` before hexadecimal digits, `0` before octal ones. -/
def ipv4Number? (text : List Char) : Option Nat :=
  let inBase (base : Nat) (digits : List Char) : Option Nat :=
    if digits.all fun c => (hexValue? c).any (· < base) then some (hexValues base digits) else none
  match text with
  | [] => none
  | '0' :: 'x' :: digits => inBase 16 digits
  | '0' :: 'X' :: digits => inBase 16 digits
  | '0' :: d :: digits => inBase 8 (d :: digits)
  | digits => inBase 10 digits
where
  hexValues (base : Nat) (digits : List Char) : Nat :=
    numeral base (digits.map fun c => (hexValue? c).getD 0)

def labels (name : List Char) : List (List Char) :=
  let all := pieces (· == '.') name
  if all.getLast? = some [] then all.dropLast else all

def endsInNumber (name : List Char) : Bool :=
  match (labels name).getLast? with
  | some last => (!last.isEmpty && last.all Char.isDigit) || (ipv4Number? last).isSome
  | none => false

/-- Up to three numbers below 256 and a last one that fills the remaining bytes. -/
def readIpv4 (name : List Char) : Except Error Nat :=
  let parts := labels name
  if 4 < parts.length then .error .invalidIpv4
  else match parts.mapM ipv4Number? with
    | none => .error .invalidIpv4
    | some numbers =>
      let high := numbers.dropLast
      let last := numbers.getLastD 0
      if Nat.pow 256 (4 - high.length) ≤ last || high.any (255 < ·) then .error .invalidIpv4
      else .ok (numeral 256 high * Nat.pow 256 (4 - high.length) + last)

/-! ### IPv6 -/

def group? (text : List Char) : Option Nat :=
  if !text.isEmpty && text.length ≤ 4 && text.all isHexDigit then some (hexNumeral text) else none

def byte? (text : List Char) : Option Nat :=
  if !text.isEmpty && text.all Char.isDigit && (text.length == 1 || text.head? != some '0') &&
      decimalNumeral text ≤ 255 then
    some (decimalNumeral text)
  else none

def dottedGroups? (text : List Char) : Option (List Nat) := do
  match ← (pieces (· == '.') text).mapM byte? with
  | [a, b, c, d] => some [a * 256 + b, c * 256 + d]
  | _ => none

/-- Groups between colons; the last may be written with points if `dotted`. -/
def groups? (dotted : Bool) (text : List Char) : Option (List Nat) :=
  if text.isEmpty then some []
  else do
    let parts := pieces (· == ':') text
    let last := parts.getLastD []
    let high ← parts.dropLast.mapM group?
    let low ← if dotted && last.contains '.' then dottedGroups? last
      else (group? last).map fun g => [g]
    some (high ++ low)

def cutAtGap : List Char → List Char × Option (List Char)
  | ':' :: ':' :: rest => ([], some rest)
  | c :: rest =>
    let (left, right) := cutAtGap rest
    (c :: left, right)
  | [] => ([], none)

/-- Eight groups, or fewer with `::` for the zeros between. -/
def readIpv6 (text : List Char) : Except Error (List Nat) :=
  let result := match cutAtGap text with
    | (all, none) => do
      let groups ← groups? true all
      if groups.length = 8 then some groups else none
    | (left, some right) => do
      let high ← groups? false left
      let low ← groups? true right
      if high.length + low.length ≤ 7 then
        some (high ++ List.replicate (8 - high.length - low.length) 0 ++ low)
      else none
  match result with
  | some groups => .ok groups
  | none => .error .invalidIpv6

end PageSync.Url
