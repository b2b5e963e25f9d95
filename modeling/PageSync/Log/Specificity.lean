import PageSync.Log.Directive

/-!
The order of directives by how specific they are: a longer target first, then a span, then a field,
and among equally specific ones by their texts. Directives with equal scopes are equal in it.
-/

namespace PageSync.Log

def compareOption {α : Type} (compareValue : α → α → Ordering) : Option α → Option α → Ordering
  | none, none => .eq
  | none, some _ => .lt
  | some _, none => .gt
  | some a, some b => compareValue a b

def compareText (a b : String) : Ordering := compareOfLessAndEq a b

namespace Expected

def kind : Expected → Nat
  | .bool _ => 0
  | .float _ => 1
  | .nan => 2
  | .natural _ => 3
  | .integer _ => 4
  | .pattern _ => 5

def compareFloat (a b : Float) : Ordering := if a < b then .lt else if b < a then .gt else .eq

def specificity : Expected → Expected → Ordering
  | .bool a, .bool b => compare a b
  | .float a, .float b => compareFloat a b
  | .natural a, .natural b => compare a b
  | .integer a, .integer b => compare a b
  | .pattern a, .pattern b => compareText a.text b.text
  | a, b => compare a.kind b.kind

end Expected

/-- A test of a value is more specific than one of existence. -/
def FieldTest.specificity (a b : FieldTest) : Ordering :=
  (compare a.value.isSome b.value.isSome).then <|
  (compareText a.name b.name).then <|
  compareOption Expected.specificity a.value b.value

def compareTargets (a b : Option String) : Ordering :=
  compareOption (fun a b => compare a.utf8ByteSize b.utf8ByteSize) a b

def Directive.specificity (a b : Directive) : Ordering :=
  (compareTargets a.target b.target).then <|
  (compare a.span.isSome b.span.isSome).then <|
  (compare a.field.isSome b.field.isSome).then <|
  (compareOption compareText a.target b.target).then <|
  (compareOption compareText a.span b.span).then <|
  compareOption FieldTest.specificity a.field b.field

/-- Puts an entry before the first one that is less specific, or in the place of an equal one. -/
def insertBy {α : Type} (specificity : α → α → Ordering) (entry : α) : List α → List α
  | [] => [entry]
  | other :: rest =>
    match specificity entry other with
    | .gt => entry :: other :: rest
    | .eq => entry :: rest
    | .lt => other :: insertBy specificity entry rest

/-- The entries from the most specific on; of equal ones the last stays. -/
def sortBy {α : Type} (specificity : α → α → Ordering) (entries : List α) : List α :=
  entries.foldl (fun sorted entry => insertBy specificity entry sorted) []

end PageSync.Log
