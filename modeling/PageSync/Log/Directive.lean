import PageSync.Log.Level
import PageSync.Decimal.Style
import PageSync.Text.Alphanumeric
import PageSync.Text.Pieces

/-!
Directives of a log filter, written `TARGET[SPAN{FIELD=VALUE}]=LEVEL` with most parts optional, or
as a bare level.
-/

namespace PageSync.Log

/-- What knows the syntax of patterns and searches with them. -/
class PatternEngine where
  compiles (pattern : String) : Bool
  /-- whether the match that a search finds ends where the text ends -/
  matchesText (pattern text : String) : Bool

structure Pattern where
  text : String
deriving Repr, DecidableEq

inductive Expected where
  | bool (b : Bool)
  | natural (n : Nat)
  | integer (n : Int)
  | float (x : Float)
  | nan
  | pattern (p : Pattern)

structure FieldTest where
  name : String
  /-- none asks only that the field exists -/
  value : Option Expected

structure Directive where
  target : Option String
  span : Option String
  field : Option FieldTest
  limit : Limit

def Directive.ofLimit (limit : Limit) : Directive := ⟨none, none, none, limit⟩

/-- Dynamic directives are about the spans around a record; static ones are about the record. -/
def Directive.isDynamic (directive : Directive) : Bool :=
  directive.span.isSome || directive.field.isSome

def Directive.hasValue (directive : Directive) : Bool :=
  directive.field.any fun field => field.value.isSome

section

variable [PatternEngine]

def Pattern.read? (text : List Char) : Option Pattern :=
  let pattern := String.ofList text
  if PatternEngine.compiles pattern then some ⟨pattern⟩ else none

def Pattern.matchesText (pattern : Pattern) (text : String) : Bool :=
  PatternEngine.matchesText pattern.text text

end

namespace Expected

def read? [PatternEngine] (text : List Char) : Option Expected :=
  if text = "true".toList then some (.bool true)
  else if text = "false".toList then some (.bool false)
  else
    ((Decimal.readUnsigned? text).map natural).or <|
    ((Decimal.readSigned? text).map integer).or <|
    ((Decimal.readFloat? text).map fun x => if x.isNaN then nan else float x).or <|
    (Pattern.read? text).map pattern

def text : Expected → String
  | .bool b => if b then "true" else "false"
  | .natural n => Text.decimalText n
  | .integer n => if n < 0 then "-" ++ Text.decimalText n.natAbs else Text.decimalText n.natAbs
  | .float x => Decimal.Style.plain.write x
  | .nan => "NaN"
  | .pattern p => p.text

end Expected

namespace FieldTest

/-- Reads `NAME` or `NAME=VALUE`. What follows a second `=` does not count. -/
def read? [PatternEngine] (text : List Char) : Option FieldTest :=
  let (name, value) := Text.cutAt '=' text
  match value with
  | none => some ⟨String.ofList name, none⟩
  | some value =>
    (Expected.read? (Text.cutAt '=' value).1).map fun expected =>
      ⟨String.ofList name, some expected⟩

def text (test : FieldTest) : String :=
  match test.value with
  | none => test.name
  | some expected => test.name ++ "=" ++ expected.text

end FieldTest

namespace Directive

/-! ### Reading

The form of a directive is found with the white space around it left out, but its parts are cut out
of the whole text at the byte offsets found. So white space in front shifts the parts, and white
space at the end belongs to the last one. A cut that would fall inside a character is none: the
reader breaks off there, in the midst of its scan. -/

inductive Fault where
  /-- no directive has this form -/
  | refused
  /-- the reader did not come to an end -/
  | brokeOff
deriving Repr, DecidableEq

def cut (first last : Nat) (text : List Char) : Except Fault (List Char) :=
  if Text.isBoundary first text && Text.isBoundary last text then
    .ok (Text.dropBytes first (Text.takeBytes last text))
  else .error .brokeOff

def cutFrom (first : Nat) (text : List Char) : Except Fault (List Char) :=
  if Text.isBoundary first text then .ok (Text.dropBytes first text) else .error .brokeOff

def orRefused {α : Type} : Option α → Except Fault α
  | some a => .ok a
  | none => .error .refused

def readLimit? (text : List Char) : Option Limit :=
  if text.isEmpty then some (.upTo .trace) else Limit.read? text

def startsTarget (c : Char) : Bool := c == '-' || c == ':' || c == '_' || Text.isAlphanumeric c

/-- Reads what follows a closing bracket; `rest` is the form of it, from byte `start` of `text`
on. -/
def readAfterSpan (text : List Char) (target span : Option String) (field : Option FieldTest)
    (start : Nat) (rest : List Char) : Except Fault Directive :=
  match rest with
  | [] => .ok ⟨target, span, field, .upTo .trace⟩
  | '=' :: _ => do
    let level ← cutFrom (start + 1) text
    let limit ← orRefused (readLimit? level)
    .ok ⟨target, span, field, limit⟩
  | _ => .error .refused

def readAfterField (text : List Char) (target span : Option String) (test : FieldTest)
    (start : Nat) (rest : List Char) : Except Fault Directive :=
  match rest with
  | ']' :: rest => readAfterSpan text target span (some test) (start + 1) rest
  | _ => .error .refused

/-- What a word stands for that is a target by its form. -/
def ofWord (text : List Char) : Directive :=
  match Limit.read? text with
  | some limit => ofLimit limit
  | none => ⟨some (String.ofList text), none, none, .upTo .trace⟩

variable [PatternEngine]

def readField (text : List Char) (target span : Option String) (start : Nat) (rest : List Char) :
    Except Fault Directive :=
  let stop := start + Text.byteLength (rest.takeWhile (· != '\x7d'))
  match rest.dropWhile (· != '\x7d') with
  | [] => .error .refused
  | _ :: rest => do
    let field ← cut start stop text
    let test ← orRefused (if field.isEmpty then none else FieldTest.read? field)
    readAfterField text target span test (stop + 1) rest

/-- Reads what follows an opening bracket. Only a span without a field may have an empty name. -/
def readSpan (text : List Char) (target : Option String) (start : Nat) (rest : List Char) :
    Except Fault Directive :=
  let stop := start + Text.byteLength (rest.takeWhile fun c => c != ']' && c != '\x7b')
  match rest.dropWhile fun c => c != ']' && c != '\x7b' with
  | [] => .error .refused
  | ']' :: rest => do
    let name ← cut start stop text
    readAfterSpan text target (some (String.ofList name)) none (stop + 1) rest
  | _ :: rest => do
    let name ← cut start stop text
    readField text target (if name.isEmpty then none else some (String.ofList name)) (stop + 1) rest

def read (text : List Char) : Except Fault Directive :=
  match Text.trim Text.isBlank text with
  | [] => .error .refused
  | '[' :: rest => readSpan text none 1 rest
  | c :: form =>
    if !startsTarget c then .error .refused
    else
      let stop := Text.byteLength ((c :: form).takeWhile fun c => c != '=' && c != '[')
      match (c :: form).dropWhile fun c => c != '=' && c != '[' with
      | [] => .ok (ofWord text)
      | '=' :: _ => do
        let target ← cut 0 stop text
        let level ← cutFrom (stop + 1) text
        let limit ← orRefused (readLimit? level)
        .ok ⟨some (String.ofList target), none, none, limit⟩
      | _ :: rest => do
        let target ← cut 0 stop text
        readSpan text (some (String.ofList target)) (stop + 1) rest

def read? (text : List Char) : Option Directive := (read text).toOption

omit [PatternEngine]

/-! ### Writing -/

def spanText (directive : Directive) : String :=
  if directive.isDynamic then
    let field := match directive.field with
      | some field => "\x7b" ++ field.text ++ "\x7d"
      | none => ""
    "[" ++ directive.span.getD "" ++ field ++ "]"
  else ""

def scopeText (directive : Directive) : String := directive.target.getD "" ++ directive.spanText

def text (directive : Directive) : String :=
  (if directive.target.isSome || directive.isDynamic then directive.scopeText ++ "=" else "") ++
    directive.limit.text

end Directive

end PageSync.Log
