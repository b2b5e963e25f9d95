import PageSync.Page.Element
import PageSync.Settings.Decode

/-!
What can go wrong between the settings and the page. Parts of the environment can throw a value when
they are read.
-/

namespace PageSync

inductive Error where
  | noWindow
  | noDocument
  /-- neither the origin nor the address of the page is a URL -/
  | noBase (href : String)
  | locationThrew (value : Json)
  | badSelector (text : String)
  | badSettings (cause : Settings.DecodeError)
  | badClass (fault : Element.ClassFault)
  | settingsThrew (value : Json)

def thrownText : Json → String
  | .string s => s
  | value => "JsValue(" ++ value.sorted.text ++ ")"

def Element.ClassFault.text : Element.ClassFault → String
  | .empty => "JsValue(SyntaxError)"
  | .blank => "JsValue(InvalidCharacterError)"

def Error.message : Error → String
  | .noWindow => "no global window"
  | .noDocument => "window has no document"
  | .noBase href => "location error: no usable base for " ++ href
  | .locationThrew value => "location error: " ++ thrownText value
  | .badSelector text => "invalid selector `" ++ text ++ "`: JsValue(SyntaxError)"
  | .badSettings cause => "config error: Error: " ++ cause.message
  | .badClass fault => "DOM error: " ++ fault.text
  | .settingsThrew value => "DOM error: " ++ thrownText value

end PageSync
