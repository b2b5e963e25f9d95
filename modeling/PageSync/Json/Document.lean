import PageSync.Json.Value

/-!
Whole JSON documents. `Json.parse` reads one value with nothing but space around it.
-/

namespace PageSync.Json

/-- An open list or object, with what has been read of it, the latest first. -/
inductive Frame where
  | list (items : List Json)
  | object (members : List (String × Json)) (key : String)

def Frame.bracket : Frame → Bracket
  | .list _ => .list
  | .object _ _ => .object

def Frame.close (value : Json) : Frame → Json
  | .list items => .array (value :: items).reverse
  | .object members key => .object ((key, value) :: members).reverse

def Bracket.empty : Bracket → Json
  | .list => .array []
  | .object => .object []

def readScalar (text : List Char) : Except Fault (Option (Json × List Char)) :=
  match text with
  | 'n' :: rest => (readWord ['u', 'l', 'l'] rest).map fun rest => some (.null, rest)
  | 't' :: rest => (readWord ['r', 'u', 'e'] rest).map fun rest => some (.bool true, rest)
  | 'f' :: rest => (readWord ['a', 'l', 's', 'e'] rest).map fun rest => some (.bool false, rest)
  | '-' :: rest => (readNumber true rest).map fun (n, rest) => some (.number n, rest)
  | '"' :: rest => (readString rest).map fun (s, rest) => some (.string (String.ofList s), rest)
  | c :: rest =>
    if c.isDigit then (readNumber false (c :: rest)).map fun (n, rest) => some (.number n, rest)
    else .ok none
  | [] => .ok none

def readKey (text : List Char) : Except Fault (String × List Char) :=
  match skipSpace text with
  | '"' :: rest => do
    let (key, rest) ← readString rest
    match skipSpace rest with
    | ':' :: rest => .ok (String.ofList key, rest)
    | [] => .error .endOfObject
    | _ => .error .expectedColon
  | [] => .error .endOfObject
  | _ => .error .keyMustBeString

inductive Reading where
  | value
  /-- just after an opening bracket -/
  | opened (bracket : Bracket)
  /-- after a value, read to its end -/
  | complete (value : Json)

/-- Reads what is left of a value, at most one token for each unit of `budget`. The list holds the
open brackets, the innermost first. -/
def readRest (budget : Nat) (reading : Reading) (frames : List Frame) (text : List Char) :
    Except Fault (Json × List Char) :=
  match budget with
  | 0 => .error .endOfValue
  | budget + 1 =>
    match reading, frames with
    | .value, frames =>
      match skipSpace text with
      | [] => .error .endOfValue
      | '[' :: rest => readRest budget (.opened .list) frames rest
      | '\x7b' :: rest => readRest budget (.opened .object) frames rest
      | rest =>
        match readScalar rest with
        | .error fault => .error fault
        | .ok none => .error .expectedValue
        | .ok (some (value, rest)) => readRest budget (.complete value) frames rest
    | .opened bracket, frames =>
      match skipSpace text with
      | [] => .error bracket.endFault
      | c :: rest =>
        if c = bracket.closing then readRest budget (.complete bracket.empty) frames rest
        else match bracket with
          | .list => readRest budget .value (.list [] :: frames) text
          | .object =>
            match readKey text with
            | .error fault => .error fault
            | .ok (key, rest) => readRest budget .value (.object [] key :: frames) rest
    | .complete value, [] => .ok (value, text)
    | .complete value, frame :: frames =>
      match skipSpace text with
      | [] => .error frame.bracket.endFault
      | c :: rest =>
        if c = frame.bracket.closing then
          readRest budget (.complete (frame.close value)) frames rest
        else if c = ',' then
          match frame with
          | .list items => readRest budget .value (.list (value :: items) :: frames) rest
          | .object members key =>
            match readKey rest with
            | .error fault => .error fault
            | .ok (next, rest) =>
              readRest budget .value (.object ((key, value) :: members) next :: frames) rest
        else .error frame.bracket.commaOrEnd

/-- Reads one value, with the space before it. Every two tokens take at least one character. -/
def readValue (text : List Char) : Except Fault (Json × List Char) :=
  readRest (2 * text.length + 2) .value [] text

def parse (text : String) : Except Fault Json := do
  let (value, rest) ← readValue text.toList
  if (skipSpace rest).isEmpty then .ok value else .error .trailingCharacters

end PageSync.Json
