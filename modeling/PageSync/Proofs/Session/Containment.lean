import PageSync.Page.Browser
import PageSync.Proofs.Except
import PageSync.Proofs.Pass.Turns
import PageSync.Session.Basic

/-!
A run fails as a whole only where there is no location to run at, and then it has touched nothing.
Else it is the three passes one after the other, and a pass that fails does so before its first
change: the page is what the passes that did not fail have made of it.
-/

namespace PageSync

/-! ### Passes that fail -/

namespace Pass

/-- What a pass makes of a page if it does not fail. -/
def effect {α : Type} (pass : Page → Outcome Page α) (page : Page) : Page :=
  match (pass page).result with
  | .ok _ => (pass page).state
  | .error _ => page

/-- The pass fails on the pages told, and leaves those as they are. -/
structure FailsCleanly {α : Type} (pass : Page → Outcome Page α) (fails : Page → Prop) : Prop where
  fails_iff : ∀ page, (∃ error, (pass page).result = .error error) ↔ fails page
  state_eq : ∀ page error, (pass page).result = .error error → (pass page).state = page

theorem failsCleanly_of_cases {α : Type} {pass : Page → Outcome Page α} {fails : Page → Prop}
    (h : ∀ page,
      (∃ error, (pass page).result = .error error) ∧ fails page ∧ (pass page).state = page ∨
        (∃ value, (pass page).result = .ok value) ∧ ¬fails page) :
    FailsCleanly pass fails := by
  constructor
  · intro page
    rcases h page with ⟨herror, hfails, -⟩ | ⟨⟨value, hvalue⟩, hnot⟩
    · exact ⟨fun _ => hfails, fun _ => herror⟩
    · constructor
      · rintro ⟨error, herror⟩
        rw [hvalue] at herror
        contradiction
      · intro hfails
        exact absurd hfails hnot
  · intro page error herror
    rcases h page with ⟨-, -, hstate⟩ | ⟨⟨value, hvalue⟩, -⟩
    · exact hstate
    · rw [hvalue] at herror
      contradiction

theorem FailsCleanly.effect_eq {α : Type} {pass : Page → Outcome Page α} {fails : Page → Prop}
    (h : FailsCleanly pass fails) (page : Page) : effect pass page = (pass page).state := by
  rw [effect]
  cases hresult : (pass page).result with
  | ok value => rfl
  | error error => exact (h.state_eq page error hresult).symm

theorem active?_nil (path : String) (base : Url) : Sidebar.active? path [] base = none := rfl

section

variable [Browser]

def activeLink? (visit : Visit) (selector : Selector) (page : Page) : Option Nat :=
  Sidebar.active? visit.path (sidebarHrefs (sidebarLinks page.scene selector)) visit.base

/-- The sidebar pass fails if it cannot read its selector, or cannot set its class on the link that
it has found. -/
def SidebarFails (visit : Visit) (settings : Settings) (page : Page) : Prop :=
  match Browser.selector? settings.navSelector with
  | none => True
  | some selector =>
    Element.classFault? settings.activeClass ≠ none ∧ activeLink? visit selector page ≠ none

theorem highlightSidebar_failsCleanly (visit : Visit) (settings : Settings) :
    FailsCleanly (highlightSidebar visit settings) (SidebarFails visit settings) := by
  apply failsCleanly_of_cases
  intro page
  rw [highlightSidebar, SidebarFails]
  cases Browser.selector? settings.navSelector with
  | none => exact .inl ⟨⟨_, rfl⟩, trivial, rfl⟩
  | some selector =>
      simp only [activeLink?]
      cases hlinks : sidebarLinks page.scene selector with
      | nil => exact .inr ⟨⟨(), rfl⟩, fun h => h.2 (active?_nil visit.path visit.base)⟩
      | cons link links =>
          simp only [List.isEmpty_cons, Bool.false_eq_true, if_false]
          cases Sidebar.active? visit.path (sidebarHrefs (link :: links)) visit.base with
          | none => exact .inr ⟨⟨(), rfl⟩, fun h => h.2 rfl⟩
          | some active =>
              have hmarks : sidebarMarks (link :: links) active ≠ [] := by
                simp [sidebarMarks]
              cases hword : Element.classFault? settings.activeClass with
              | none =>
                  simp only [markAll_eq_moves hword]
                  exact .inr ⟨⟨(), trivial⟩, fun h => h.1 rfl⟩
              | some fault =>
                  -- the first mark fails, so the scene is still that of the page
                  simp only [markAll_of_fault hword _ hmarks]
                  exact .inl ⟨⟨_, rfl⟩, ⟨Option.some_ne_none _, Option.some_ne_none _⟩,
                    page.page_scene⟩

theorem activateTabs_failsCleanly (visit : Visit) (settings : Settings) :
    FailsCleanly (activateTabs visit settings) fun _ =>
      Browser.selector? settings.tabGroupSelector = none := by
  apply failsCleanly_of_cases
  intro page
  rw [activateTabs]
  cases Browser.selector? settings.tabGroupSelector with
  | none => exact .inl ⟨⟨_, rfl⟩, rfl, rfl⟩
  | some selector => exact .inr ⟨⟨_, rfl⟩, Option.some_ne_none selector⟩

theorem wireNumeric_failsCleanly (settings : Settings) :
    FailsCleanly (wireNumeric settings) fun _ =>
      Browser.selector? settings.numericSelector = none := by
  apply failsCleanly_of_cases
  intro page
  rw [wireNumeric]
  cases Browser.selector? settings.numericSelector with
  | none => exact .inl ⟨⟨_, rfl⟩, rfl, rfl⟩
  | some selector => exact .inr ⟨⟨_, rfl⟩, Option.some_ne_none selector⟩

end

end Pass

/-! ### Locations -/

def Location.Throws (location : Location) : Prop :=
  ∃ value, location.origin = .error value ∨ location.href = .error value ∨
    location.pathname = .error value ∨ location.search = .error value

/-- Neither the origin nor the address is a URL. -/
def Location.Baseless (location : Location) : Prop :=
  ∃ origin href, location.origin = .ok origin ∧ location.href = .ok href ∧
    (Url.absolute origin).toOption = none ∧ (Url.absolute href).toOption = none

theorem Url.baseFor?_eq_none_iff (origin href : String) :
    Url.baseFor? origin href = none ↔
      (Url.absolute origin).toOption = none ∧ (Url.absolute href).toOption = none := by
  rw [Url.baseFor?]
  cases Url.absolute origin with
  | ok url => simp [Except.toOption]
  | error error => simp [Except.toOption]

theorem Location.exists_of_not_throws {location : Location} (h : ¬location.Throws) :
    ∃ origin href pathname search,
      location = ⟨.ok origin, .ok href, .ok pathname, .ok search⟩ := by
  obtain ⟨origin, href, pathname, search⟩ := location
  cases origin with
  | error value => exact absurd ⟨value, .inl rfl⟩ h
  | ok origin =>
      cases href with
      | error value => exact absurd ⟨value, .inr (.inl rfl)⟩ h
      | ok href =>
          cases pathname with
          | error value => exact absurd ⟨value, .inr (.inr (.inl rfl))⟩ h
          | ok pathname =>
              cases search with
              | error value => exact absurd ⟨value, .inr (.inr (.inr rfl))⟩ h
              | ok search => exact ⟨origin, href, pathname, search, rfl⟩

namespace Environment

theorem checkDocument_eq_ok {environment : Environment} :
    environment.checkDocument = .ok () ↔
      environment.window = true ∧ environment.document = true := by
  rw [checkDocument]
  cases environment.window with
  | false => simp
  | true =>
      cases environment.document with
      | false => simp
      | true => simp

/-- All that a visit needs. -/
theorem visit_eq_ok {environment : Environment} {visit : Visit} :
    environment.visit = .ok visit ↔
      environment.window = true ∧ environment.document = true ∧ ∃ origin href,
        environment.location = ⟨.ok origin, .ok href, .ok visit.path, .ok visit.search⟩ ∧
          Url.baseFor? origin href = some visit.base := by
  constructor
  · intro h
    obtain ⟨⟨⟩, hchecked, h⟩ := bind_eq_ok.mp h
    obtain ⟨hwindow, hdocument⟩ := checkDocument_eq_ok.mp hchecked
    obtain ⟨origin, horigin, h⟩ := bind_eq_ok.mp h
    obtain ⟨href, hhref, h⟩ := bind_eq_ok.mp h
    cases hbase : Url.baseFor? origin href with
    | none =>
        rw [hbase] at h
        contradiction
    | some base =>
        rw [hbase] at h
        obtain ⟨path, hpath, h⟩ := bind_eq_ok.mp h
        obtain ⟨search, hsearch, h⟩ := bind_eq_ok.mp h
        rw [mapError_eq_ok] at horigin hhref hpath hsearch
        injection h with h
        subst h
        refine ⟨hwindow, hdocument, origin, href, ?_, hbase⟩
        rw [← horigin, ← hhref, ← hpath, ← hsearch]
  · rintro ⟨hwindow, hdocument, origin, href, hlocation, hbase⟩
    have hchecked := checkDocument_eq_ok.mpr ⟨hwindow, hdocument⟩
    refine bind_eq_ok.mpr ⟨(), hchecked, ?_⟩
    simp only [hlocation]
    refine bind_eq_ok.mpr ⟨origin, rfl, bind_eq_ok.mpr ⟨href, rfl, ?_⟩⟩
    simp only [hbase]
    rfl

/-- Without a window, a document, or a location that can be read and has a base there is nothing to
visit. -/
theorem visit_fails_iff (environment : Environment) :
    (∃ error, environment.visit = .error error) ↔
      environment.window = false ∨ environment.document = false ∨ environment.location.Throws ∨
        environment.location.Baseless := by
  constructor
  · rintro ⟨error, herror⟩
    -- with nothing in the way there would be a visit
    by_contra hnot
    simp only [not_or, Bool.not_eq_false] at hnot
    obtain ⟨hwindow, hdocument, hthrows, hbaseless⟩ := hnot
    obtain ⟨origin, href, pathname, search, hlocation⟩ := Location.exists_of_not_throws hthrows
    cases hbase : Url.baseFor? origin href with
    | none =>
        rw [Url.baseFor?_eq_none_iff] at hbase
        exact hbaseless ⟨origin, href, by rw [hlocation], by rw [hlocation], hbase⟩
    | some base =>
        have hvisit : environment.visit = .ok ⟨pathname, search, base⟩ :=
          visit_eq_ok.mpr ⟨hwindow, hdocument, origin, href, hlocation, hbase⟩
        rw [hvisit] at herror
        contradiction
  · intro h
    cases hvisit : environment.visit with
    | error error => exact ⟨error, rfl⟩
    | ok visit =>
        obtain ⟨hwindow, hdocument, origin, href, hlocation, hbase⟩ := visit_eq_ok.mp hvisit
        rcases h with h | h | ⟨value, h⟩ | ⟨other, address, horigin, hhref, hnone⟩
        · rw [hwindow] at h
          contradiction
        · rw [hdocument] at h
          contradiction
        · rw [hlocation] at h
          simp at h
        · rw [hlocation] at horigin hhref
          injection horigin with horigin
          injection hhref with hhref
          subst horigin hhref
          rw [(Url.baseFor?_eq_none_iff origin href).mpr hnone] at hbase
          contradiction

end Environment

namespace Session

open Pass

section

variable [Browser]

/-- Errors of a run are contained. It fails exactly without a place to run at, and then all is as
before; else its effect is that of the passes that do not fail, in their order. -/
theorem run_contained (session : Session) (settings : Settings) :
    ((∃ error, (session.run settings).answer = .error error) ↔
      session.environment.window = false ∨ session.environment.document = false ∨
        session.environment.location.Throws ∨ session.environment.location.Baseless) ∧
    (∀ error, (session.run settings).answer = .error error →
      session.environment.visit = .error error ∧ (session.run settings).session = session) ∧
    ∀ visit, session.environment.visit = .ok visit →
      (session.run settings).answer = .ok () ∧
      (session.run settings).session =
        { session with
          page := effect (wireNumeric settings) (effect (activateTabs visit settings)
            (effect (highlightSidebar visit settings) session.page)) } ∧
      FailsCleanly (highlightSidebar visit settings) (SidebarFails visit settings) ∧
      FailsCleanly (activateTabs visit settings)
        (fun _ => Browser.selector? settings.tabGroupSelector = none) ∧
      FailsCleanly (wireNumeric settings)
        fun _ => Browser.selector? settings.numericSelector = none := by
  -- the three parts are read off what a run is with a visit and without one
  have hfails : ∀ error, session.environment.visit = .error error →
      session.run settings = ⟨session, .error error, []⟩ := by
    intro error herror
    rw [run, all, herror]
    rfl
  have hruns : ∀ visit, session.environment.visit = .ok visit →
      (session.run settings).answer = .ok () ∧ (session.run settings).session =
        { session with page := (visited visit settings session.page).1 } := by
    intro visit hvisit
    rw [run, all, hvisit]
    exact ⟨rfl, rfl⟩
  refine ⟨?_, ?_, ?_⟩
  · rw [← Environment.visit_fails_iff]
    cases hvisit : session.environment.visit with
    | error error => exact iff_of_true ⟨error, by rw [hfails error hvisit]⟩ ⟨error, rfl⟩
    | ok visit =>
        rw [(hruns visit hvisit).1]
        constructor
        · rintro ⟨error, herror⟩
          contradiction
        · rintro ⟨error, herror⟩
          contradiction
  · intro error herror
    cases hvisit : session.environment.visit with
    | error other =>
        rw [hfails other hvisit] at herror ⊢
        injection herror with heq
        exact ⟨by rw [heq], rfl⟩
    | ok visit =>
        rw [(hruns visit hvisit).1] at herror
        contradiction
  · intro visit hvisit
    have hsidebar := highlightSidebar_failsCleanly visit settings
    have htabs := activateTabs_failsCleanly visit settings
    have hnumeric := wireNumeric_failsCleanly settings
    refine ⟨(hruns visit hvisit).1, ?_, hsidebar, htabs, hnumeric⟩
    -- the state that a pass leaves is its effect, whether it fails or not
    rw [(hruns visit hvisit).2, hsidebar.effect_eq, htabs.effect_eq, hnumeric.effect_eq]
    rfl

end

/-- A page whose link leads to it, in a window or without one. -/
def linkedPage (window : Bool) : Session where
  page :=
    { content :=
        .element (.ofMarkup "nav" [("class", "sidebar__nav")])
          (.element (.ofMarkup "a" [("class", "nav__item"), ("href", "/home")]) (.ofText "Home")
            .nil)
          .nil }
  environment :=
    { window := window
      document := true
      readyState := "complete"
      location := ⟨.ok "https://a.b", .ok "https://a.b/home", .ok "/home", .ok ""⟩
      settings := .absent }

def linkedVisit : Visit where
  path := "/home"
  search := ""
  base := ⟨"https".toList, some { host := some (.name "a.b".toList) }, .segments [[]], none, none⟩

theorem run_linkedPage :
    (linkedPage true).environment.visit = .ok linkedVisit ∧
    ((linkedPage true).run { activeClass := "is active" }).answer = .ok () ∧
    ((linkedPage false).run {}).answer = .error .noWindow ∧
    ((linkedPage false).run {}).session = linkedPage false := by
  have hvisit : (linkedPage true).environment.visit = .ok linkedVisit :=
    Environment.visit_eq_ok.mpr ⟨rfl, rfl, _, _, rfl, by decide +kernel⟩
  have herror : ((linkedPage false).run {}).answer = .error .noWindow := rfl
  exact ⟨hvisit, ((run_contained (linkedPage true) { activeClass := "is active" }).2.2 _ hvisit).1,
    herror, ((run_contained (linkedPage false) {}).2.1 _ herror).2⟩

end Session

end PageSync
