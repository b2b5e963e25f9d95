import PageSync.Text.Utf8
import PageSync.Text.Hex

/-!
Percent escapes. `percentEncode keep` writes the characters in `keep` as themselves and the UTF-8
bytes of all others as `%XX` with upper-case digits. `percentDecode` gives the bytes of a text in
which every well-formed escape stands for its byte and all else for itself.
-/

namespace PageSync.Text

def escapeByte (b : UInt8) : List Char :=
  ['%', upperHexDigit (b.toNat / 16), upperHexDigit (b.toNat % 16)]

def percentEncodeChar (keep : Char → Bool) (c : Char) : List Char :=
  if keep c then [c] else (String.utf8EncodeChar c).flatMap escapeByte

def percentEncode (keep : Char → Bool) (text : List Char) : List Char :=
  text.flatMap (percentEncodeChar keep)

def escapedByte? (high low : Char) : Option UInt8 := do
  let h ← hexValue? high
  let l ← hexValue? low
  return UInt8.ofNat (h * 16 + l)

def percentDecode : List Char → List UInt8
  | [] => []
  | '%' :: high :: low :: rest =>
    match escapedByte? high low with
    | some b => b :: percentDecode rest
    | none => 0x25 :: percentDecode (high :: low :: rest)
  | c :: rest => String.utf8EncodeChar c ++ percentDecode rest

end PageSync.Text
