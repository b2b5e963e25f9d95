import PageSync.Log.Level
import PageSync.Decimal.Style
import PageSync.Text.Printable

/-!
Events and spans with the fields that they carry, and the line that an event is written as:
`LEVEL TARGET - MESSAGE FIELD=VALUE …`, with the name of the span around it in brackets after the
target.
-/

namespace PageSync.Log

inductive Value where
  | signed (n : Int)
  | unsigned (n : Nat)
  /-- an integer of more than 64 bits -/
  | wide (n : Int)
  | bool (b : Bool)
  | float (x : Float)
  | text (s : String)
  /-- a text that is written as it is -/
  | display (s : String)
  /-- a text that is written quoted and escaped -/
  | debug (s : String)
  /-- an error, by its text -/
  | failure (s : String)
  /-- no value: the field exists and nothing is written -/
  | empty

structure Field where
  name : String
  value : Value

def integerText (n : Int) : String :=
  if n < 0 then "-" ++ Text.decimalText n.natAbs else Text.decimalText n.natAbs

structure Event where
  level : Level
  target : String
  fields : List Field

structure Span where
  name : String
  level : Level
  target : String
  fields : List Field

structure Line where
  level : Level
  text : String
deriving Repr, DecidableEq

structure Collector where
  message : String := ""
  fields : List String := []

namespace Collector

def push (collector : Collector) (name value : String) : Collector :=
  { collector with fields := collector.fields ++ [name ++ "=" ++ value] }

def setMessage (collector : Collector) (message : String) : Collector :=
  { collector with message := message }

def recordSigned (collector : Collector) (name : String) (n : Int) : Collector :=
  collector.push name (integerText n)

def recordUnsigned (collector : Collector) (name : String) (n : Nat) : Collector :=
  collector.push name (Text.decimalText n)

def recordBool (collector : Collector) (name : String) (b : Bool) : Collector :=
  collector.push name (if b then "true" else "false")

def recordText (collector : Collector) (name s : String) : Collector :=
  if name = "message" then collector.setMessage s else collector.push name ("\"" ++ s ++ "\"")

def recordFailure (collector : Collector) (name s : String) : Collector :=
  collector.push name ("\"" ++ s ++ "\"")

def recordFormatted (collector : Collector) (name s : String) : Collector :=
  if name = "message" then collector.setMessage s else collector.push name s

def record (collector : Collector) (field : Field) : Collector :=
  match field.value with
  | .signed n => collector.recordSigned field.name n
  | .unsigned n => collector.recordUnsigned field.name n
  | .wide n => collector.recordFormatted field.name (integerText n)
  | .bool b => collector.recordBool field.name b
  | .float x => collector.recordFormatted field.name (Decimal.Style.debug.write x)
  | .text s => collector.recordText field.name s
  | .display s => collector.recordFormatted field.name s
  | .debug s => collector.recordFormatted field.name (Text.quoted s)
  | .failure s => collector.recordFailure field.name s
  | .empty => collector

def collect (fields : List Field) : Collector := fields.foldl record {}

end Collector

def Event.line (event : Event) (span : Option String) : Line where
  level := event.level
  text :=
    let around := match span with
      | some name => " [" ++ name ++ "]"
      | none => ""
    let collector := Collector.collect event.fields
    let line :=
      event.level.name ++ " " ++ event.target ++ around ++ " - " ++ collector.message
    if collector.fields.isEmpty then line
    else
      (if collector.message.isEmpty then line else line ++ " ") ++
        " ".intercalate collector.fields

end PageSync.Log
