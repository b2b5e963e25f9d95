import PageSync.Text.Pieces

/-!
Elements of a page: a tag, attributes, and for input fields the current value and the digit filters
that listen to it. The class attribute is a list of words, of which one can be set or cleared.
-/

namespace PageSync

namespace Digits

def only (value : String) : String := String.ofList (value.toList.filter Char.isDigit)

def correction? (value : String) : Option String :=
  if value.toList.all Char.isDigit then none else some (only value)

end Digits

structure Element where
  tag : String
  attributes : List (String × String)
  /-- the current value of an input field -/
  value : String
  /-- how many digit filters listen to input events -/
  filters : Nat
deriving Repr, DecidableEq

namespace Element

def attribute? (element : Element) (name : String) : Option String :=
  element.attributes.lookup name

def hasAttribute (element : Element) (name : String) : Bool := (element.attribute? name).isSome

/-- An attribute list with a value put in the place of the old one, or at the end. -/
def putAttribute (name value : String) : List (String × String) → List (String × String)
  | [] => [(name, value)]
  | (other, old) :: rest =>
    if other = name then (name, value) :: rest else (other, old) :: putAttribute name value rest

def setAttribute (element : Element) (name value : String) : Element :=
  { element with attributes := putAttribute name value element.attributes }

def removeAttribute (element : Element) (name : String) : Element :=
  { element with attributes := element.attributes.filter fun (other, _) => other != name }

/-- An element as it is written in a page; an input field starts with the value written there. -/
def ofMarkup (tag : String) (attributes : List (String × String)) : Element where
  tag := tag.toLower
  attributes := attributes
  value := (attributes.lookup "value").getD ""
  filters := 0

def hasTag (element : Element) (tag : String) : Bool := element.tag.toLower == tag.toLower

def isInput (element : Element) : Bool := element.hasTag "input"

/-! ### Classes -/

def wordsOf (text : String) : List String :=
  (Text.words Text.isAsciiBlank text.toList).map String.ofList

def classes (element : Element) : List String := wordsOf ((element.attribute? "class").getD "")

def hasClass (element : Element) (word : String) : Bool := element.classes.contains word

/-- Sets or clears a class. The attribute is written anew, each class once, only if that changes
which classes there are. -/
def markClass (element : Element) (word : String) (on : Bool) : Element :=
  if element.hasClass word == on then element
  else
    let distinct := element.classes.eraseDups
    let words := if on then distinct ++ [word] else distinct.filter (· != word)
    element.setAttribute "class" (" ".intercalate words)

inductive ClassFault where
  | empty
  | blank
deriving Repr, DecidableEq

def classFault? (word : String) : Option ClassFault :=
  if word = "" then some .empty else if word.toList.any Text.isAsciiBlank then some .blank else none

/-! ### Values -/

def filtered (element : Element) : Element :=
  match Digits.correction? element.value with
  | some value => { element with value }
  | none => element

def typed (element : Element) (value : String) (listening : Nat) : Element :=
  Nat.repeat filtered listening { element with value }

theorem attribute?_setAttribute_self (element : Element) (name value : String) :
    (element.setAttribute name value).attribute? name = some value := by
  simp only [attribute?, setAttribute]
  induction element.attributes with
  | nil => simp [putAttribute]
  | cons head tail ih =>
    obtain ⟨other, old⟩ := head
    by_cases h : other = name
    · simp [putAttribute, h]
    · have hb : (name == other) = false := beq_false_of_ne (Ne.symm h)
      simp [putAttribute, h, List.lookup_cons, hb, ih]

end Element

end PageSync
