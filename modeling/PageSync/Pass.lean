import PageSync.Environment
import PageSync.Page.Scene
import PageSync.Log.Event
import PageSync.Sidebar
import PageSync.TabGroup

/-!
The passes over a page. The sidebar pass marks the link that leads to the current page, the tab pass
marks the active tab of each group and tells of it in the indicator of the group, the numeric pass
gives each input field that the settings select a digit filter, once. A pass that is stopped keeps
the changes it has made.
-/

namespace PageSync.Pass

/-- The page that a pass leaves, what it reports, and its result or what stopped it. -/
structure Outcome (σ α : Type) where
  state : σ
  events : List Log.Event
  result : Except Error α

def report (level : Log.Level) (target message : String) (fields : List Log.Field) : Log.Event :=
  ⟨level, target, ⟨"message", .display message⟩ :: fields⟩

def complaint (level : Log.Level) (target message : String) (error : Error) : Log.Event :=
  report level target message [⟨"error", .display error.message⟩]

def Outcome.reported {σ α : Type} (outcome : Outcome σ α) (target message : String) :
    List Log.Event :=
  outcome.events ++
    match outcome.result with
    | .ok _ => []
    | .error error => [complaint .warn target message error]

variable [Browser]

/-! ### Sidebar

Of the links that the settings select, the one that leads to the current page is marked and the
marks of the others are cleared. If none leads there, nothing changes. -/

def sidebarTarget : String := "admin_ui_sync::nav"

def sidebarLinks (scene : Scene) (selector : Selector) : List Scene.Node :=
  (scene.select selector).filter fun node => Sidebar.isLinkTag node.element.tag

def sidebarHrefs (links : List Scene.Node) : List String :=
  links.map fun link => (link.element.attribute? "href").getD ""

def sidebarMarks (links : List Scene.Node) (active : Nat) : List (Nat × Bool) :=
  links.zipIdx.map fun (link, i) => (link.id, i == active)

def highlightSidebar (visit : Visit) (settings : Settings) (page : Page) : Outcome Page Unit :=
  match Browser.selector? settings.navSelector with
  | none => ⟨page, [], .error (.badSelector settings.navSelector)⟩
  | some selector =>
    let links := sidebarLinks page.scene selector
    let path : Log.Field := ⟨"path", .display visit.path⟩
    if links.isEmpty then ⟨page, [], .ok ()⟩
    else match Sidebar.active? visit.path (sidebarHrefs links) visit.base with
      | none =>
        let event := report .debug sidebarTarget "no sidebar match"
          [path, ⟨"links", .unsigned links.length⟩]
        ⟨page, [event], .ok ()⟩
      | some active =>
        match page.scene.markAll settings.activeClass (sidebarMarks links active) with
        | (scene, some fault) => ⟨scene.page, [], .error (.badClass fault)⟩
        | (scene, none) =>
          let event := report .debug sidebarTarget "sidebar highlighted"
            [path, ⟨"active", .unsigned active⟩]
          ⟨scene.page, [event], .ok ()⟩

/-! ### Tabs

The groups are those of the page at the start; each is looked at as the page is when its turn comes.
A group that fails is reported and does not keep the others from their turn. -/

def tabsTarget : String := "admin_ui_sync::tabs"

def tabOf (node : Scene.Node) : Tab where
  value := node.element.attribute? "data-tab"
  href := node.element.attribute? "href"
  label := node.content.textContent

def tabMarks (tabs : List Scene.Node) (activation : TabGroup.Activation) : List (Nat × Bool) :=
  tabs.zipIdx.map fun (tab, i) => (tab.id, activation.marks i)

def activeText : Option Nat → String
  | some i => "Some(" ++ Text.decimalText i ++ ")"
  | none => "None"

/-- The element that the text of an indicator is written into: the first emphasis within the first
element that the indicator selects, or that element. -/
def indicatorSlot (settings : Settings) (scene : Scene) (indicator : String) :
    Except Error (Option Nat) :=
  match Browser.selector? indicator with
  | none => .error (.badSelector indicator)
  | some selector =>
    match (scene.select selector).head? with
    | none => .ok none
    | some node =>
      match Browser.selector? settings.indicatorEmphasis with
      | none => .error (.badSelector settings.indicatorEmphasis)
      | some emphasis =>
        .ok (((scene.selectIn node.id emphasis).head?.getD node).id)

def fillIndicator (settings : Settings) (scene : Scene) (indicator : Indicator) :
    Except Error Scene :=
  (indicatorSlot settings scene indicator.selector).map fun slot =>
    match slot with
    | some id => scene.write id indicator.text
    | none => scene

def applyActivation (settings : Settings) (scene : Scene) (param : String)
    (tabs : List Scene.Node) (activation : TabGroup.Activation) : Outcome Scene Unit :=
  match scene.markAll settings.activeClass (tabMarks tabs activation) with
  | (scene, some fault) => ⟨scene, [], .error (.badClass fault)⟩
  | (scene, none) =>
    let event := report .debug tabsTarget "tab group synced"
      [⟨"param", .display param⟩, ⟨"value", .display activation.value⟩,
        ⟨"active", .display (activeText activation.active)⟩]
    match activation.indicator with
    | none => ⟨scene, [event], .ok ()⟩
    | some indicator =>
      match fillIndicator settings scene indicator with
      | .ok scene => ⟨scene, [event], .ok ()⟩
      | .error error => ⟨scene, [event], .error error⟩

def activateGroup (visit : Visit) (settings : Settings) (scene : Scene) (id : Nat) :
    Outcome Scene Unit :=
  match scene.locate? id with
  | none => ⟨scene, [], .ok ()⟩
  | some (_, node) =>
    let group := TabGroup.ofMarkup settings.defaultTabParam node.element.attribute?
    match Browser.selector? settings.tabSelector with
    | none => ⟨scene, [], .error (.badSelector settings.tabSelector)⟩
    | some selector =>
      let tabs := scene.selectIn id selector
      match group.activation? visit.search (tabs.map tabOf) visit.base
          settings.indicatorPlaceholder with
      | none => ⟨scene, [], .ok ()⟩
      | some activation => applyActivation settings scene group.param tabs activation

def activateGroups (visit : Visit) (settings : Settings) (scene : Scene) :
    List Nat → Scene × List Log.Event
  | [] => (scene, [])
  | id :: rest =>
    let outcome := activateGroup visit settings scene id
    let (last, events) := activateGroups visit settings outcome.state rest
    (last, outcome.reported tabsTarget "tab group skipped" ++ events)

def activateTabs (visit : Visit) (settings : Settings) (page : Page) : Outcome Page Unit :=
  match Browser.selector? settings.tabGroupSelector with
  | none => ⟨page, [], .error (.badSelector settings.tabGroupSelector)⟩
  | some selector =>
    let groups := (page.scene.select selector).map Scene.Node.id
    let (scene, events) := activateGroups visit settings page.scene groups
    ⟨scene.page, events, .ok ()⟩

/-! ### Input fields -/

def numericTarget : String := "admin_ui_sync::numeric"

def boundAttribute : String := "data-numeric-bound"

def isUnbound (element : Element) : Bool := element.isInput && !element.hasAttribute boundAttribute

def wired (element : Element) : Element :=
  { element.setAttribute boundAttribute "" with filters := element.filters + 1 }

def wireAll (scene : Scene) (ids : List Nat) : Scene :=
  ids.foldl (fun scene id => scene.change id wired) scene

/-- The result is the number of fields that got a filter. -/
def wireNumeric (settings : Settings) (page : Page) : Outcome Page Nat :=
  match Browser.selector? settings.numericSelector with
  | none => ⟨page, [], .error (.badSelector settings.numericSelector)⟩
  | some selector =>
    let fields := (page.scene.select selector).filter fun node => isUnbound node.element
    let count := fields.length
    let events :=
      if count = 0 then []
      else [report .debug numericTarget "numeric inputs wired" [⟨"bound", .unsigned count⟩]]
    ⟨(wireAll page.scene (fields.map Scene.Node.id)).page, events, .ok count⟩

/-! ### All three

A pass that is stopped is reported and does not keep the others from running; only without a
location none of them runs. -/

def syncTarget : String := "admin_ui_sync"

def visited (visit : Visit) (settings : Settings) (page : Page) : Page × List Log.Event :=
  let sidebar := highlightSidebar visit settings page
  let tabs := activateTabs visit settings sidebar.state
  let numeric := wireNumeric settings tabs.state
  (numeric.state,
    sidebar.reported syncTarget "sidebar highlight skipped" ++
      (tabs.reported syncTarget "tab sync skipped" ++
        numeric.reported syncTarget "numeric inputs skipped"))

def all (environment : Environment) (settings : Settings) (page : Page) : Outcome Page Unit :=
  match environment.visit with
  | .error error => ⟨page, [], .error error⟩
  | .ok visit =>
    let (page, events) := visited visit settings page
    ⟨page, events, .ok ()⟩

end PageSync.Pass
