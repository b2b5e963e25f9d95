import PageSync.Query
import PageSync.Url.Resolve
import PageSync.Text.Pieces

/-!
Which tab of a group is active, and what its indicator says. The value wanted is the group's
parameter in the query, else the group's default, else the first tab's own value; an empty text is
as good as none. The first tab with that value is active.
-/

namespace PageSync

structure TabGroup where
  /-- query parameter that names the active tab -/
  param : String
  defaultTab : Option String
  /-- selector of the element that shows the active label -/
  indicator : Option String
deriving Repr, DecidableEq

structure Tab where
  value : Option String
  href : Option String
  label : String
deriving Repr, DecidableEq

structure Indicator where
  selector : String
  text : String
deriving Repr, DecidableEq

structure TabGroup.Activation where
  /-- the place of the active tab; none when no tab has the value -/
  active : Option Nat
  value : String
  indicator : Option Indicator
deriving Repr, DecidableEq

namespace TabGroup

def nonEmpty (text : Option String) : Option String := text.filter (· != "")

def ofMarkup (defaultParam : String) (attribute? : String → Option String) : TabGroup where
  param := (nonEmpty (attribute? "data-tab-param")).getD defaultParam
  defaultTab := nonEmpty (attribute? "data-default-tab")
  indicator := nonEmpty (attribute? "data-indicator")

def linkValue? (url : Url) (name : String) : Option String := Query.value? (url.query.getD []) name

/-- The value of a tab: its own, else the parameter in the link that it is. A tab without a link
refers to the page. -/
def tabValue? (tab : Tab) (param : String) (base : Url) : Option String :=
  (nonEmpty tab.value).or
    (nonEmpty ((base.join? (tab.href.getD "")).bind fun url => linkValue? url param))

/-- The label without white space around it; the placeholder if nothing is left. -/
def indicatorText (placeholder : String) (label : Option String) : String :=
  (nonEmpty (label.map Text.strip)).getD placeholder

def activation? (group : TabGroup) (search : String) (tabs : List Tab) (base : Url)
    (placeholder : String) : Option Activation :=
  match tabs with
  | [] => none
  | first :: _ =>
    let value := ((nonEmpty (Query.searchValue? search group.param)).or group.defaultTab).getD
      ((tabValue? first group.param base).getD "")
    let active := tabs.findIdx? fun tab => (tabValue? tab group.param base).getD "" == value
    let label := active.bind fun i => tabs[i]?.map Tab.label
    some {
      active
      value
      indicator := group.indicator.map fun selector => ⟨selector, indicatorText placeholder label⟩ }

def Activation.marks (activation : Activation) (i : Nat) : Bool := activation.active == some i

end TabGroup

end PageSync
