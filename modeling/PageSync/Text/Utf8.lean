/-!
Text as UTF-8 bytes. `encode` is the byte form of a character list. `decodeLossy` reads any byte
list: every longest piece that is the beginning of a character but not a whole one, and every byte
that begins none, becomes one replacement character.
-/

namespace PageSync.Text

def encode (text : List Char) : List UInt8 :=
  text.flatMap String.utf8EncodeChar

def replacement : Char := '\uFFFD'

def isContinuation (b : UInt8) : Bool := 0x80 ≤ b && b ≤ 0xBF

/-- How many bytes follow a leading byte, and what the leading byte itself contributes; `none`
when no character begins so. -/
def leadingByte (a : UInt8) : Option (Nat × Nat) :=
  if a < 0x80 then some (0, a.toNat)
  else if 0xC2 ≤ a && a ≤ 0xDF then some (1, a.toNat % 32)
  else if 0xE0 ≤ a && a ≤ 0xEF then some (2, a.toNat % 16)
  else if 0xF0 ≤ a && a ≤ 0xF4 then some (3, a.toNat % 8)
  else none

/-- Whether `b` may be the second byte after `a`: no overlong form, no surrogate, nothing above
the last code point. -/
def maySecond (a b : UInt8) : Bool :=
  if a = 0xE0 then 0xA0 ≤ b && b ≤ 0xBF
  else if a = 0xED then 0x80 ≤ b && b ≤ 0x9F
  else if a = 0xF0 then 0x90 ≤ b && b ≤ 0xBF
  else if a = 0xF4 then 0x80 ≤ b && b ≤ 0x8F
  else isContinuation b

def continuing (a : UInt8) (count : Nat) (rest : List UInt8) : List UInt8 :=
  match count, rest with
  | n + 1, b :: rest => if maySecond a b then b :: (rest.take n).takeWhile isContinuation else []
  | _, _ => []

/-- The character at the head of a byte list, and how many bytes after the first belong to it. -/
def decodeHead (a : UInt8) (rest : List UInt8) : Char × Nat :=
  match leadingByte a with
  | none => (replacement, 0)
  | some (count, high) =>
    let tail := continuing a count rest
    if tail.length = count then
      (Char.ofNat (tail.foldl (fun n b => n * 64 + b.toNat % 64) high), count)
    else (replacement, tail.length)

def decodeLossy : List UInt8 → List Char
  | [] => []
  | a :: rest => (decodeHead a rest).1 :: decodeLossy (rest.drop (decodeHead a rest).2)
termination_by bytes => bytes.length
decreasing_by simp only [List.length_drop, List.length_cons]; omega

end PageSync.Text
