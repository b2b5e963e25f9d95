import PageSync.Page.Forest
import PageSync.Page.Selector

/-!
Pages, and the scene of a page: the page with its elements numbered, so that an element found once
can be found again after the page has changed. What a write cuts off stays in the scene, out of
reach of searches in the page but not of those within an element.
-/

namespace PageSync

/-- The nodes of a document, or of the part of it that its browser puts elements around. -/
structure Page where
  content : Forest Element
deriving Repr, DecidableEq

structure Scene where
  attached : Forest (Nat × Element)
  /-- what was cut off, each tree a root of its own -/
  detached : Forest (Nat × Element)
deriving Repr, DecidableEq

structure Scene.Node where
  id : Nat
  element : Element
  content : Forest (Nat × Element)
deriving Repr, DecidableEq

namespace Forest

open Scene (Node)

/-- The elements that a selector accepts, in document order; `ancestors` are those around the
forest, the innermost first. -/
def select (selector : Selector) (ancestors : List Element) : Forest (Nat × Element) → List Node
  | .nil => []
  | .text _ rest => rest.select selector ancestors
  | .element (id, item) children rest =>
    (if selector.accepts ancestors item then [⟨id, item, children⟩] else []) ++
      (children.select selector (item :: ancestors) ++ rest.select selector ancestors)

def locate? (id : Nat) (ancestors : List Element) :
    Forest (Nat × Element) → Option (List Element × Node)
  | .nil => none
  | .text _ rest => rest.locate? id ancestors
  | .element (other, item) children rest =>
    if other = id then some (ancestors, ⟨id, item, children⟩)
    else (children.locate? id (item :: ancestors)).or (rest.locate? id ancestors)

def change (id : Nat) (f : Element → Element) (forest : Forest (Nat × Element)) :
    Forest (Nat × Element) :=
  forest.map fun (other, item) => (other, if other = id then f item else item)

def changeContent (id : Nat) (f : Forest (Nat × Element) → Forest (Nat × Element)) :
    Forest (Nat × Element) → Forest (Nat × Element)
  | .nil => .nil
  | .text content rest => .text content (rest.changeContent id f)
  | .element (other, item) children rest =>
    .element (other, item) (if other = id then f children else children.changeContent id f)
      (rest.changeContent id f)

def remove (id : Nat) : Forest (Nat × Element) → Forest (Nat × Element)
  | .nil => .nil
  | .text content rest => .text content (rest.remove id)
  | .element (other, item) children rest =>
    if other = id then rest.remove id
    else .element (other, item) (children.remove id) (rest.remove id)

end Forest

def Page.scene (page : Page) : Scene := ⟨page.content.number 0, .nil⟩

namespace Scene

variable [Browser]

def page (scene : Scene) : Page := ⟨scene.attached.unnumber⟩

/-- The elements of the page that a selector accepts. -/
def select (scene : Scene) (selector : Selector) : List Node :=
  scene.attached.select selector Browser.around

def locate? (scene : Scene) (id : Nat) : Option (List Element × Node) :=
  (scene.attached.locate? id Browser.around).or (scene.detached.locate? id [])

/-- The elements within the one with a number that a selector accepts. Ancestors of that element
count. -/
def selectIn (scene : Scene) (id : Nat) (selector : Selector) : List Node :=
  match scene.locate? id with
  | some (ancestors, node) => node.content.select selector (node.element :: ancestors)
  | none => []

def change (scene : Scene) (id : Nat) (f : Element → Element) : Scene :=
  ⟨scene.attached.change id f, scene.detached.change id f⟩

def write (scene : Scene) (id : Nat) (content : String) : Scene :=
  match scene.attached.locate? id Browser.around with
  | some (_, node) =>
    ⟨scene.attached.changeContent id fun _ => .ofText content, node.content.append scene.detached⟩
  | none => scene

/-- Sets or clears a class of some elements, one after the other, until one fails. -/
def markAll (scene : Scene) (word : String) :
    List (Nat × Bool) → Scene × Option Element.ClassFault
  | [] => (scene, none)
  | (id, on) :: rest =>
    match Element.classFault? word with
    | some fault => (scene, some fault)
    | none => (scene.change id (·.markClass word on)).markAll word rest

end Scene

@[simp] theorem Page.page_scene (page : Page) : page.scene.page = page := by
  simp [Page.scene, Scene.page]

end PageSync
