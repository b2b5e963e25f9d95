/-!
The settings of a page: nine texts, each with a default. They are addressed by name in the settings
of a page and by position in a list of values.
-/

namespace PageSync

structure Settings where
  navSelector : String := ".sidebar__nav .nav__item"
  tabGroupSelector : String := ".tabs"
  tabSelector : String := ".tab"
  numericSelector : String := "input[data-numeric=\"true\"]"
  activeClass : String := "is-active"
  defaultTabParam : String := "tab"
  /-- descendant of an indicator that receives the text -/
  indicatorEmphasis : String := "strong"
  /-- text shown when there is no label -/
  indicatorPlaceholder : String := "-"
  logFilter : String := "warn"
deriving Repr, DecidableEq

namespace Settings

inductive Key where
  | navSelector
  | tabGroupSelector
  | tabSelector
  | numericSelector
  | activeClass
  | defaultTabParam
  | indicatorEmphasis
  | indicatorPlaceholder
  | logFilter
deriving Repr, DecidableEq

/-- All keys, in the order of a positional list. -/
def Key.all : List Key :=
  [.navSelector, .tabGroupSelector, .tabSelector, .numericSelector, .activeClass,
    .defaultTabParam, .indicatorEmphasis, .indicatorPlaceholder, .logFilter]

def Key.name : Key → String
  | .navSelector => "navSelector"
  | .tabGroupSelector => "tabGroupSelector"
  | .tabSelector => "tabSelector"
  | .numericSelector => "numericSelector"
  | .activeClass => "activeClass"
  | .defaultTabParam => "defaultTabParam"
  | .indicatorEmphasis => "indicatorEmphasis"
  | .indicatorPlaceholder => "indicatorPlaceholder"
  | .logFilter => "logFilter"

def Key.ofName? (name : String) : Option Key := Key.all.find? fun key => key.name == name

@[simp] theorem Key.ofName?_name (key : Key) : Key.ofName? key.name = some key := by
  cases key <;> decide

def get (settings : Settings) : Key → String
  | .navSelector => settings.navSelector
  | .tabGroupSelector => settings.tabGroupSelector
  | .tabSelector => settings.tabSelector
  | .numericSelector => settings.numericSelector
  | .activeClass => settings.activeClass
  | .defaultTabParam => settings.defaultTabParam
  | .indicatorEmphasis => settings.indicatorEmphasis
  | .indicatorPlaceholder => settings.indicatorPlaceholder
  | .logFilter => settings.logFilter

def set (settings : Settings) (key : Key) (value : String) : Settings :=
  match key with
  | .navSelector => { settings with navSelector := value }
  | .tabGroupSelector => { settings with tabGroupSelector := value }
  | .tabSelector => { settings with tabSelector := value }
  | .numericSelector => { settings with numericSelector := value }
  | .activeClass => { settings with activeClass := value }
  | .defaultTabParam => { settings with defaultTabParam := value }
  | .indicatorEmphasis => { settings with indicatorEmphasis := value }
  | .indicatorPlaceholder => { settings with indicatorPlaceholder := value }
  | .logFilter => { settings with logFilter := value }

@[simp] theorem get_set_self (settings : Settings) (key : Key) (value : String) :
    (settings.set key value).get key = value := by cases key <;> rfl

theorem get_set_of_ne (settings : Settings) {key other : Key} (h : other ≠ key) (value : String) :
    (settings.set key value).get other = settings.get other := by
  cases key <;> cases other
  any_goals rfl
  all_goals exact absurd rfl h

theorem ext_get {a b : Settings} (h : ∀ key, a.get key = b.get key) : a = b := by
  cases a; cases b
  have h₁ := h .navSelector
  have h₂ := h .tabGroupSelector
  have h₃ := h .tabSelector
  have h₄ := h .numericSelector
  have h₅ := h .activeClass
  have h₆ := h .defaultTabParam
  have h₇ := h .indicatorEmphasis
  have h₈ := h .indicatorPlaceholder
  have h₉ := h .logFilter
  simp only [get] at *
  simp [*]

def ofValues (values : List (Key × String)) : Settings :=
  values.foldl (fun settings (key, value) => settings.set key value) {}

end Settings

end PageSync
