import PageSync.Text.Composition
import PageSync.Text.Utf8
import PageSync.Url.Name.Direction
import PageSync.Url.Name.Joining
import PageSync.Url.Name.Mapping
import PageSync.Url.Name.Punycode

/-!
Host names in their ASCII form. The characters of a name are mapped to those that names are made of,
and labels with other characters than ASCII are written in Punycode after the sign `xn--`.
-/

namespace PageSync.Url

def isForbiddenInName (c : Char) : Bool :=
  c.toNat ≤ 0x20 || c.toNat == 0x7F ||
    ['#', '%', '/', ':', '<', '>', '?', '@', '[', '\\', ']', '^', '|'].contains c

def isAscii (text : List Char) : Bool := text.all fun c => c.toNat < 0x80

/-- What marks a label as written in Punycode. -/
def encodedSign : List Char := ['x', 'n', '-', '-']

def isWellFormed (label : List Char) : Bool :=
  !label.head?.any Text.isMark && joinersFit [] label

/-- Reads a label that is written in Punycode. Only what could not be written otherwise, and is made
of the characters of names in composed form, may be written so. -/
def decodeLabel? (encoded : List Char) : Option (List Char) :=
  (Punycode.decode? encoded).filter fun label =>
    !isAscii label && !encodedSign.isPrefixOf label && label.all isKeptInName &&
      Text.compose label == label

def readLabel? (label : List Char) : Option (List Char) :=
  (if encodedSign.isPrefixOf label then decodeLabel? (label.drop encodedSign.length)
    else some label).filter isWellFormed

def writeLabel (label : List Char) : List Char :=
  if isAscii label then label else encodedSign ++ Punycode.encode label

/-- A name with other characters than ASCII, or with labels in Punycode. -/
def composedName? (text : List Char) : Option (List Char) := do
  let mapped ← mapName? text
  let labels ← (Text.pieces (· == '.') (Text.compose mapped)).mapM readLabel?
  if labels.any hasRightToLeft && !labels.all keepsDirection then none
  else some (['.'].intercalate (labels.map writeLabel))

/-- ASCII labels, none of them in Punycode, need only lose their case. -/
def isPlainName (text : List Char) : Bool :=
  isAscii text &&
    (Text.pieces (· == '.') text).all fun label => !encodedSign.isPrefixOf (label.map Char.toLower)

def asciiName? (bytes : List UInt8) : Option (List Char) :=
  let text := Text.decodeLossy bytes
  (if isPlainName text then some (text.map Char.toLower) else composedName? text).filter fun name =>
    !name.any isForbiddenInName

end PageSync.Url
