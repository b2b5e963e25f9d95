import PageSync.Page.Scene

/-!
Edits of a page from outside: nodes are appended, an element is removed, an attribute is set, a
field is typed into. Each concerns the first element that a selector accepts; there is no page to
answer with when there is none. A field may also be told by its number, since a user can type into
fields that no selector tells apart.
-/

namespace PageSync.Page

def edit (page : Page) (f : Forest (Nat × Element) → Forest (Nat × Element)) : Page :=
  ⟨(f page.scene.attached).unnumber⟩

def node? (page : Page) (id : Nat) : Option Scene.Node :=
  (page.scene.attached.locate? id []).map Prod.snd

/-- The page with a value typed into one of its elements. The digit filters of the element hear of
it when it is an input event; the answer holds how many there were. -/
def typed (page : Page) (node : Scene.Node) (value event : String) : Page × Nat :=
  let listening := if event = "input" then node.element.filters else 0
  (page.edit (·.change node.id (·.typed value listening)), listening)

def typeAt? (page : Page) (id : Nat) (value event : String) : Option (Page × Nat) :=
  (page.node? id).map fun node => page.typed node value event

variable [Browser]

def first? (page : Page) (selector : String) : Option Scene.Node :=
  (Browser.selector? selector).bind fun selector => (page.scene.select selector).head?

def append (page : Page) (nodes : Forest Element) : Page := ⟨page.content.append nodes⟩

/-- Appends nodes to what the element contains. Numbers of the new nodes do not last. -/
def appendTo? (page : Page) (selector : String) (nodes : Forest Element) : Option Page :=
  (page.first? selector).map fun node =>
    page.edit (·.changeContent node.id fun content =>
      content.append (nodes.number page.content.size))

def remove? (page : Page) (selector : String) : Option Page :=
  (page.first? selector).map fun node => page.edit (·.remove node.id)

/-- Sets an attribute, or removes it when there is no value. -/
def setAttribute? (page : Page) (selector name : String) (value : Option String) : Option Page :=
  (page.first? selector).map fun node =>
    page.edit (·.change node.id fun element =>
      match value with
      | some value => element.setAttribute name value
      | none => element.removeAttribute name)

def type? (page : Page) (selector value event : String) : Option (Page × Nat) :=
  (page.first? selector).map fun node => page.typed node value event

end PageSync.Page
