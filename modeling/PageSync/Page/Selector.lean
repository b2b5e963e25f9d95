import PageSync.Page.Element

/-!
Selectors: alternatives, each a chain of compounds. The subject of a chain is for the element
itself, the other compounds are for its parent or for any of its ancestors, as the combinators
between them say. A compound is a tag and tests of the id, of classes and of attributes.

How selectors are written is for the browser to say, as is what it puts around the content of a
page.
-/

namespace PageSync

namespace Selector

inductive Relation where
  | equals
  /-- it is one of the words -/
  | includes
  /-- it is all, or all before a minus sign -/
  | leads
  | begins
  | ends
  | contains
deriving Repr, DecidableEq

inductive Test where
  | id (value : String)
  | classIs (word : String)
  | hasAttribute (name : String)
  | attributeIs (name : String) (relation : Relation) (value : String) (anyCase : Bool)
deriving Repr, DecidableEq

structure Compound where
  /-- none is any tag -/
  tag : Option String
  tests : List Test
deriving Repr, DecidableEq

inductive Combinator where
  | descendant
  | child
deriving Repr, DecidableEq

structure Chain where
  subject : Compound
  /-- the other compounds, the innermost first, each with the combinator to its right -/
  around : List (Combinator × Compound)
deriving Repr, DecidableEq

end Selector

structure Selector where
  chains : List Selector.Chain
deriving Repr, DecidableEq

class Browser where
  /-- reads a selector; none if the text is none -/
  selector? : String → Option Selector
  /-- the elements around the content of a page, the innermost first -/
  around : List Element

namespace Selector

/-- An empty text is not taken to be part of anything. -/
def Relation.holds (relation : Relation) (asked text : String) : Bool :=
  match relation with
  | .equals => text == asked
  | .includes => (Element.wordsOf text).contains asked
  | .leads => text == asked || (asked ++ "-").toList.isPrefixOf text.toList
  | .begins => asked != "" && asked.toList.isPrefixOf text.toList
  | .ends => asked != "" && asked.toList.isSuffixOf text.toList
  | .contains => asked != "" && Text.contains asked.toList text.toList

def Test.accepts (element : Element) : Test → Bool
  | .id value => element.attribute? "id" == some value
  | .classIs word => element.hasClass word
  | .hasAttribute name => element.hasAttribute name
  | .attributeIs name relation value anyCase =>
    (element.attribute? name).any fun text =>
      if anyCase then relation.holds value.toLower text.toLower else relation.holds value text

def Compound.accepts (compound : Compound) (element : Element) : Bool :=
  compound.tag.all element.hasTag && compound.tests.all (Test.accepts element)

/-- Whether the ancestors, listed from the innermost on, match the compounds in this order. A
compound for any ancestor may match further out than where it matches first. -/
def acceptsAround : List (Combinator × Compound) → List Element → Bool
  | [], _ => true
  | _ :: _, [] => false
  | (.child, compound) :: rest, element :: ancestors =>
    compound.accepts element && acceptsAround rest ancestors
  | (.descendant, compound) :: rest, element :: ancestors =>
    (compound.accepts element && acceptsAround rest ancestors) ||
      acceptsAround ((.descendant, compound) :: rest) ancestors

def Chain.accepts (chain : Chain) (ancestors : List Element) (element : Element) : Bool :=
  chain.subject.accepts element && acceptsAround chain.around ancestors

def accepts (selector : Selector) (ancestors : List Element) (element : Element) : Bool :=
  selector.chains.any fun chain => chain.accepts ancestors element

end Selector

end PageSync
