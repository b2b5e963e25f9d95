import PageSync.Text.Combining

/-!
Writing directions. A name in which some label runs from right to left must consist of labels that
each keep to one direction.
-/

namespace PageSync.Url

open Text

inductive Direction where
  | leftToRight
  | rightToLeft
  /-- digits that are written from left to right in either direction -/
  | number
  /-- digits of Arabic texts -/
  | arabicNumber
  /-- signs that take the direction of what is around them -/
  | neutral
  | mark
  /-- separators, which no label holds -/
  | separator
deriving Repr, DecidableEq

/-- Bidirectional classes R and AL. -/
def rightToLeftIntervals : List (Nat × Nat) := readIntervals "
  5be 5c0 5c3 5c6 5d0-5f4 608 60b 60d 61b-64a 66d-66f 671-6d5 6e5-6e6 6ee-6ef 6fa-710 712-72f
  74d-7a5 7b1 7c0-7ea 7f4-7f5 7fa 7fe-815 81a 824 828 830-858 85e 860-88f 8a0-8c9 fbb2-fbc2 fe73
  10800-1091b 10920-10a00 10a10-10a35 10a40-10ae4 10aeb-10b35 10b40-10cff 10d00-10d23 10d40-10d6d
  10d6f-10d8f 10e80-10ea9 10ead-10eb1 10ec2-10ed8 10f00-10f27 10f30-10f45 10f51-10f59 10f70-10f81
  10f86-10ff6 1e800-1e8cf 1e922-1e943 1e94b-1e95f 1ec71-1ed3d"

/-- Bidirectional class AN. -/
def arabicNumberIntervals : List (Nat × Nat) := readIntervals "
  660-669 66b-66c 10d30-10d39 10e60-10e7e"

/-- Bidirectional class EN. -/
def numberIntervals : List (Nat × Nat) := readIntervals "
  30-39 6f0-6f9 102e1-102fb"

/-- Bidirectional classes ES, CS, ET, ON and BN. -/
def neutralIntervals : List (Nat × Nat) := readIntervals "
  0-8 e-1b 21-2f 3a-60 7b-d7 f7 2b9-2ba 2c2-2cf 2d2-2ed 2ef-2ff 375 3f6 58a-58f 606-607 609-60a
  60c 60e-60f 66a 6de 6e9 7f6-7f9 9f2-9f3 9fb af1 bf3-bfa c78-c7e e3f f3a-f3d 1390-1399 1400
  169b-169c 17db 17f0-180a 1940-1945 19de-19ff 200c-20c1 2104-214d 218a-2335 237b-2394 2396-26ab
  26ad-27ff 2900-2bff 2ce5-2cea 2cf9-2cff 2e00-3004 3008-3020 3030 3037 303d-303f 30a0 30fb
  31c0-31e5 4dc0-4dff a490-a4c6 a60d-a60f a673 a67e-a67f a700-a721 a788 a828-a82b a838-a839
  a874-a877 ab6a-ab6b fbc3-fdff fe45-fe46 10101 10140-1018c 10190-101a0 1091f 10b39-10b3f 10d6e
  11052-11065 11660-1166c 11fd5-11ff1 16fe2 1cc00-1cef0 1d1e9-1d241 1d245 1d300-1d356 1e2ff
  1eef0-1f12f 1f16d-1f16f 1f1ad 1f260-1fbfa"

/-- Bidirectional classes B, S and WS. -/
def separatorIntervals : List (Nat × Nat) := readIntervals "
  9-d 1c-20"

/-- Nonspacing marks that count as letters. -/
def leftToRightMarkIntervals : List (Nat × Nat) := readIntervals "
  cbf cc6 11a07-11a08 11c3f"

def directionOf (c : Char) : Direction :=
  if within rightToLeftIntervals c then .rightToLeft
  else if within arabicNumberIntervals c then .arabicNumber
  else if within numberIntervals c then .number
  else if within neutralIntervals c then .neutral
  else if within separatorIntervals c then .separator
  else if isNonspacing c && !within leftToRightMarkIntervals c then .mark
  else .leftToRight

def lastDirection (directions : List Direction) : Option Direction :=
  (directions.filter (· != .mark)).getLast?

/-- From right to left: no letters of the other direction, an end that is a letter or a digit, and
digits of one kind only. -/
def runsRightToLeft (directions : List Direction) : Bool :=
  !directions.contains .leftToRight && !directions.contains .separator &&
    [some .rightToLeft, some .number, some .arabicNumber].contains (lastDirection directions) &&
    !(directions.contains .number && directions.contains .arabicNumber)

/-- From left to right: no letters or digits of the other direction, and an end that is a letter or
a digit. -/
def runsLeftToRight (directions : List Direction) : Bool :=
  !directions.contains .rightToLeft && !directions.contains .arabicNumber &&
    !directions.contains .separator &&
    [some .leftToRight, some .number].contains (lastDirection directions)

/-- A label keeps to the direction of its first character, which is a letter. -/
def keepsDirection (label : List Char) : Bool :=
  let directions := label.map directionOf
  match directions with
  | [] => true
  | .rightToLeft :: _ => runsRightToLeft directions
  | .leftToRight :: _ => runsLeftToRight directions
  | _ => false

def hasRightToLeft (name : List Char) : Bool :=
  name.any fun c => directionOf c == .rightToLeft || directionOf c == .arabicNumber

end PageSync.Url
