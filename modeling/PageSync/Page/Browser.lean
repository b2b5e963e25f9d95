import PageSync.Page.Selector
import PageSync.Text.Hex

/-!
Selectors as they are written: alternatives separated by commas; compounds separated by white space,
or by `>` where the left one is for the parent of what the right one is for; in a compound a tag or
`*`, and tests `#id`, `.class`, `[name]` and `[name=value]`, the latter with the signs `~|^$*`
before the equals sign and `i` behind the value. Values are names or quoted. Nothing is written with
escapes.
-/

namespace PageSync.Selector

def isNameStart (c : Char) : Bool := c.isAlpha || c == '_' || 0x80 ≤ c.toNat

def isNameChar (c : Char) : Bool := isNameStart c || c.isDigit || c == '-'

def isName : List Char → Bool
  | '-' :: c :: _ => c == '-' || isNameStart c
  | c :: _ => isNameStart c
  | [] => false

def readName (text : List Char) : Option (String × List Char) :=
  let name := text.takeWhile isNameChar
  if isName name then some (String.ofList name, text.dropWhile isNameChar) else none

def skipBlanks (text : List Char) : List Char := text.dropWhile Text.isAsciiBlank

def readQuoted (quote : Char) (text : List Char) : Option (String × List Char) :=
  let value := text.takeWhile (· != quote)
  match text.dropWhile (· != quote) with
  | _ :: rest =>
    if value.any fun c => c == '\\' || c == '\n' then none else some (String.ofList value, rest)
  | [] => none

def readValue : List Char → Option (String × List Char)
  | '"' :: rest => readQuoted '"' rest
  | '\'' :: rest => readQuoted '\'' rest
  | text => readName text

def readRelation : List Char → Option (Relation × List Char)
  | '=' :: rest => some (.equals, rest)
  | '~' :: '=' :: rest => some (.includes, rest)
  | '|' :: '=' :: rest => some (.leads, rest)
  | '^' :: '=' :: rest => some (.begins, rest)
  | '$' :: '=' :: rest => some (.ends, rest)
  | '*' :: '=' :: rest => some (.contains, rest)
  | _ => none

def readCase : List Char → Bool × List Char
  | 'i' :: rest => (true, rest)
  | 'I' :: rest => (true, rest)
  | 's' :: rest => (false, rest)
  | 'S' :: rest => (false, rest)
  | text => (false, text)

/-- Names of attributes are lower-case, however they are written in a selector. -/
def lowered (name : String) : String := String.ofList (name.toList.map Char.toLower)

def readAttribute (text : List Char) : Option (Test × List Char) := do
  let (name, rest) ← readName (skipBlanks text)
  match skipBlanks rest with
  | ']' :: rest => some (.hasAttribute (lowered name), rest)
  | rest =>
    let (relation, rest) ← readRelation rest
    let (value, rest) ← readValue (skipBlanks rest)
    let (anyCase, rest) := readCase (skipBlanks rest)
    match skipBlanks rest with
    | ']' :: rest => some (.attributeIs (lowered name) relation value anyCase, rest)
    | _ => none

def readTests (limit : Nat) (text : List Char) : Option (List Test × List Char) :=
  match limit, text with
  | limit + 1, '#' :: rest => do
    let (name, rest) ← readName rest
    let (tests, rest) ← readTests limit rest
    some (.id name :: tests, rest)
  | limit + 1, '.' :: rest => do
    let (name, rest) ← readName rest
    let (tests, rest) ← readTests limit rest
    some (.classIs name :: tests, rest)
  | limit + 1, '[' :: rest => do
    let (test, rest) ← readAttribute rest
    let (tests, rest) ← readTests limit rest
    some (test :: tests, rest)
  | _, text => some ([], text)

def readTag (text : List Char) : Option String × List Char :=
  match text with
  | '*' :: rest => (none, rest)
  | text =>
    match readName text with
    | some (name, rest) => (some name, rest)
    | none => (none, text)

def readCompound (text : List Char) : Option (Compound × List Char) := do
  let (tag, rest) := readTag text
  let (tests, after) ← readTests rest.length rest
  if after.length = text.length then none else some (⟨tag, tests⟩, after)

/-- Reads a chain of at most `limit` compounds from left to right; `around` holds those that were
read, the last one first. -/
def readChain (limit : Nat) (around : List (Combinator × Compound)) (text : List Char) :
    Option (Chain × List Char) :=
  match limit with
  | 0 => none
  | limit + 1 => do
    let (compound, rest) ← readCompound (skipBlanks text)
    match skipBlanks rest with
    | [] => some (⟨compound, around⟩, [])
    | ',' :: more => some (⟨compound, around⟩, ',' :: more)
    | '>' :: more => readChain limit ((.child, compound) :: around) more
    | more =>
      if more.length < rest.length then readChain limit ((.descendant, compound) :: around) more
      else none

def readChains (limit : Nat) (text : List Char) : Option (List Chain) :=
  match limit with
  | 0 => none
  | limit + 1 => do
    let (chain, rest) ← readChain text.length [] text
    match rest with
    | _ :: rest => (readChains limit rest).map (chain :: ·)
    | [] => some [chain]

def read? (text : String) : Option Selector :=
  (readChains (text.toList.length + 1) text.toList).map fun chains => ⟨chains⟩

/-- A browser with nothing around the content of its pages. -/
instance : Browser where
  selector? := read?
  around := []

/-- Blanks around a combinator belong to it; white space alone is one. -/
example : read? "nav>a , .tabs > .tab [href^='/a b' i]" = some
    ⟨[⟨⟨some "a", []⟩, [(.child, ⟨some "nav", []⟩)]⟩,
      ⟨⟨none, [.attributeIs "href" .begins "/a b" true]⟩,
        [(.descendant, ⟨none, [.classIs "tab"]⟩), (.child, ⟨none, [.classIs "tabs"]⟩)]⟩]⟩ := by
  decide

example : read? "a >, b" = none ∧ read? "" = none ∧ read? "#[" = none ∧ read? "> a" = none := by
  decide

end PageSync.Selector
