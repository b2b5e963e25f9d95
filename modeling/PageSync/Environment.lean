import PageSync.Error
import PageSync.Url.Resolve

/-!
What surrounds a page: whether there is a window with a document, how far it has loaded, its
location, and the settings it holds. Reading a part of it may throw a value.
-/

namespace PageSync

/-- The parts of a location, each a text or the value that reading it throws. -/
structure Location where
  origin : Except Json String
  href : Except Json String
  pathname : Except Json String
  search : Except Json String

inductive PageSettings where
  | absent
  | throws (value : Json)
  | given (value : Json)

structure Environment where
  window : Bool
  document : Bool
  readyState : String
  location : Location
  settings : PageSettings

structure Visit where
  path : String
  /-- the query, with the question mark in front -/
  search : String
  /-- what links are resolved against -/
  base : Url

namespace Environment

/-- The settings that are in force: the defaults where the page holds none. -/
def readSettings (environment : Environment) : Except Error Settings :=
  if !environment.window then .error .noWindow
  else match environment.settings with
    | .absent => .ok {}
    | .throws value => .error (.settingsThrew value)
    | .given .null => .ok {}
    | .given value => (Settings.ofJson value).mapError .badSettings

def checkDocument (environment : Environment) : Except Error Unit :=
  if !environment.window then .error .noWindow
  else if !environment.document then .error .noDocument
  else .ok ()

def visit (environment : Environment) : Except Error Visit := do
  environment.checkDocument
  let location := environment.location
  let origin ← location.origin.mapError .locationThrew
  let href ← location.href.mapError .locationThrew
  match Url.baseFor? origin href with
  | none => .error (.noBase href)
  | some base =>
    let path ← location.pathname.mapError .locationThrew
    let search ← location.search.mapError .locationThrew
    .ok { path, search, base }

end Environment

end PageSync
