import PageSync.Text.Hex

/-!
Punycode: a text of any characters written in ASCII letters, digits and minus signs. The ASCII
characters come first; then, for each of the others in the order of their codes, how far to step on
before it is put in. A step counts the pairs of a code and a place in the text.
-/

namespace PageSync.Url.Punycode

def digitChar (d : Nat) : Char :=
  Char.ofNat (if d < 26 then 'a'.toNat + d else '0'.toNat + (d - 26))

def digitValue? (c : Char) : Option Nat :=
  if 'a' ≤ c && c ≤ 'z' then some (c.toNat - 'a'.toNat)
  else if '0' ≤ c && c ≤ '9' then some (c.toNat - '0'.toNat + 26)
  else none

/-- The place-dependent bound: a digit below it is the last of a number. -/
def threshold (bias place : Nat) : Nat := min (max (place - bias) 1) 26

def biasOf (step : Nat) : Nat :=
  if 455 < step then biasOf (step / 35) + 36 else 36 * step / (step + 38)
termination_by step
decreasing_by omega

def adapt (first : Bool) (step length : Nat) : Nat :=
  let step := if first then step / 700 else step / 2
  biasOf (step + step / length)

/-! ### Writing -/

def writeStep (bias place step : Nat) : List Char :=
  let t := threshold bias place
  if h : step < t then [digitChar step]
  else digitChar (t + (step - t) % (36 - t)) :: writeStep bias (place + 36) ((step - t) / (36 - t))
termination_by step
decreasing_by
  have h₁ : 1 ≤ t := by show 1 ≤ threshold bias place; unfold threshold; omega
  have h₂ : t ≤ 26 := by show threshold bias place ≤ 26; unfold threshold; omega
  exact Nat.lt_of_le_of_lt (Nat.div_le_self _ _) (by omega)

/-- What is known while a text is written: the steps since the last character, the bias, and how
many characters are in place. -/
structure Progress where
  step : Nat
  bias : Nat
  length : Nat
  first : Bool
  /-- what has been written, backwards -/
  written : List Char

def Progress.pass (progress : Progress) (code : Nat) (c : Char) : Progress :=
  if c.toNat < code then { progress with step := progress.step + 1 }
  else if c.toNat = code then
    { step := 0
      bias := adapt progress.first progress.step (progress.length + 1)
      length := progress.length + 1
      first := false
      written := (writeStep progress.bias 36 progress.step).reverse ++ progress.written }
  else progress

/-- Puts in all characters with some codes, in ascending order; `code` is the one after the last
that was put in. -/
def writeCodes (text : List Char) (code : Nat) (progress : Progress) : List Nat → Progress
  | [] => progress
  | next :: rest =>
    let start :=
      { progress with step := progress.step + (next - code) * (progress.length + 1) }
    let done := text.foldl (fun progress c => progress.pass next c) start
    writeCodes text (next + 1) { done with step := done.step + 1 } rest

def encode (text : List Char) : List Char :=
  let plain := text.filter fun c => c.toNat < 0x80
  let codes := ((text.filter fun c => 0x80 ≤ c.toNat).map Char.toNat).mergeSort.eraseDups
  let start : Progress := ⟨0, 72, plain.length, true, []⟩
  plain ++ (if plain.isEmpty then [] else ['-']) ++
    (writeCodes text 0x80 start codes).written.reverse

/-! ### Reading -/

/-- Reads a step: its value is added to `sum`, each digit with its weight. -/
def readStep (bias place weight sum : Nat) : List Nat → Option (Nat × List Nat)
  | [] => none
  | d :: rest =>
    let t := threshold bias place
    if d < t then some (sum + d * weight, rest)
    else readStep bias (place + 36) (weight * (36 - t)) (sum + d * weight) rest

theorem length_lt_of_readStep {bias place weight sum step : Nat} {digits rest : List Nat}
    (h : readStep bias place weight sum digits = some (step, rest)) :
    rest.length < digits.length := by
  induction digits generalizing place weight sum with
  | nil => simp [readStep] at h
  | cons d tail ih =>
    simp only [readStep] at h
    split at h
    · simp only [Option.some.injEq, Prod.mk.injEq] at h
      simp [← h.2]
    · have := ih h
      simp only [List.length_cons]; omega

/-- Puts in characters as the digits say. `code` and `place` are those of the last one. -/
def readSteps (text : List Char) (code place bias : Nat) (first : Bool) (digits : List Nat) :
    Option (List Char) :=
  if digits.isEmpty then some text
  else
    match _h : readStep bias 36 1 0 digits with
    | none => none
    | some (step, rest) =>
      let length := text.length + 1
      let code := code + (place + step) / length
      let place := (place + step) % length
      if code.isValidChar then
        readSteps (text.take place ++ Char.ofNat code :: text.drop place) code (place + 1)
          (adapt first step length) false rest
      else none
termination_by digits.length
decreasing_by exact length_lt_of_readStep ‹_›

def decode? (text : List Char) : Option (List Char) :=
  let tail := (text.reverse.takeWhile (· != '-')).reverse
  let plain := text.take (text.length - tail.length)
  if plain = ['-'] || text.any (0x80 ≤ ·.toNat) then none
  else (tail.mapM digitValue?).bind (readSteps plain.dropLast 0x80 0 72 true)

end PageSync.Url.Punycode
