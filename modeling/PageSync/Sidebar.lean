import PageSync.Url.Resolve

/-!
Which link of a sidebar leads to the current page. A link whose path is the current path wins, the
first of them; if there is none, the first link whose path, not the root, begins the current path.
-/

namespace PageSync.Sidebar

/-- Without slashes at the end; the root stays one slash. -/
def trimmedPath (path : List Char) : List Char :=
  match Text.trimEnd (· == '/') path with
  | [] => ['/']
  | path => path

/-- The normalized path that a link leads to, if its reference is a URL at all. -/
def linkPath? (base : Url) (href : String) : Option (List Char) :=
  (base.join? href).map fun url => trimmedPath url.path.text

def leadsAbove (current link : List Char) : Bool := link != ['/'] && link.isPrefixOf current

/-- Looks through the links from place `i` on. The first that leads to the current path ends the
search; `above` is the first so far that leads above it. -/
def search (current : List Char) (base : Url) (i : Nat) (above : Option Nat) :
    List String → Option Nat
  | [] => above
  | href :: hrefs =>
    match linkPath? base href with
    | none => search current base (i + 1) above hrefs
    | some link =>
      if link = current then some i
      else
        let above := if above.isNone && leadsAbove current link then some i else above
        search current base (i + 1) above hrefs

def active? (path : String) (hrefs : List String) (base : Url) : Option Nat :=
  search (trimmedPath path.toList) base 0 none hrefs

def isLinkTag (tag : String) : Bool := tag == "a" || tag == "A"

end PageSync.Sidebar
