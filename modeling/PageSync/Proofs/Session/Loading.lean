import PageSync.Proofs.Log.Reading
import PageSync.Proofs.Session.Containment
import PageSync.Session.Action

/-!
A start while the page loads and a start when it has loaded. The one leaves the page as it is and
has the passes wait; when the page has loaded they make of it what the other makes at once, with the
settings that were in force at the start. So it is exactly where the filter that the settings name
is built (`start_late_eq_early`): on a text at which its reader breaks off neither start comes to an
end.
-/

namespace PageSync

/-! ### What a run sees of its environment -/

structure Environment.SamePlace (a b : Environment) : Prop where
  window : a.window = b.window
  document : a.document = b.document
  location : a.location = b.location

theorem Environment.SamePlace.visit_eq {a b : Environment} (h : a.SamePlace b) :
    a.visit = b.visit := by
  rw [visit, visit, checkDocument, checkDocument, h.window, h.document, h.location]

section

variable [Browser]

theorem Pass.all_congr {a b : Environment} (h : a.SamePlace b) (settings : Settings) (page : Page) :
    all a settings page = all b settings page := by
  rw [all, all, h.visit_eq]

theorem Pass.all_of_error {environment : Environment} {error : Error}
    (h : environment.visit = .error error) (settings : Settings) (page : Page) :
    all environment settings page = ⟨page, [], .error error⟩ := by
  rw [all, h]

theorem Pass.result_all_of_ok {environment : Environment} {visit : Visit}
    (h : environment.visit = .ok visit) (settings : Settings) (page : Page) :
    (all environment settings page).result = .ok () := by
  rw [all, h]

end

namespace Session

/-! ### Runs that wait -/

/-- What is reported of a result that nobody waits for. -/
def unheard : Except Error Unit → List Log.Event
  | .ok () => []
  | .error error => [Pass.complaint .error Pass.syncTarget "admin ui sync failed" error]

section

variable [Browser]

theorem runWaiting_eq (session : Session) (settings : Settings) :
    session.runWaiting settings =
      ((session.run settings).session, (session.run settings).lines ++
        session.record (unheard (session.run settings).answer)) := by
  rw [runWaiting]
  cases hanswer : (session.run settings).answer with
  | ok => exact congrArg (Prod.mk _) (List.append_nil _).symm
  | error error => rfl

/-- The one that waits runs when the page has loaded. -/
theorem windowEvent_of_waiting {session : Session} {settings : Settings}
    (h : session.waiting = [settings]) :
    session.windowEvent "DOMContentLoaded" =
      ⟨(session.run settings).session, 1, (session.run settings).lines ++
        session.record (unheard (session.run settings).answer)⟩ := by
  rw [windowEvent, if_pos rfl, loaded, h]
  simp only [runAllWaiting, runWaiting_eq, List.append_nil, List.length_singleton]

end

/-! ### Starts -/

def startSettings (environment : Environment) : Settings := (settingsOrDefault environment).1

section

variable [Log.PatternEngine]

/-- The filter that the settings of a start name, if it is built. -/
def startFilter? (environment : Environment) : Option Log.Filter :=
  Log.Filter.ofText? (startSettings environment).logFilter

/-- What a start does to the recorder before all else. -/
def installation? (session : Session) : Option (Log.Recorder × Log.Recorder.Outcome) :=
  session.recorder.install? appName (startSettings session.environment).logFilter

theorem isSome_installation? (session : Session) :
    session.installation?.isSome = (startFilter? session.environment).isSome :=
  Option.isSome_map

/-- The lines that a start writes before it looks whether the page has loaded. -/
def openingLines (session : Session) (recorder : Log.Recorder) (outcome : Log.Recorder.Outcome) :
    List Log.Line :=
  outcome.lines ++
    ({ session with recorder } : Session).record (settingsOrDefault session.environment).2

variable [Browser]

theorem start?_eq_none {session : Session} (h : session.installation? = none) :
    session.start? = none := by
  rw [installation?] at h
  show Option.map _ (Option.map _ (session.recorder.install? appName
    (startSettings session.environment).logFilter)) = none
  rw [h]
  rfl

/-- A start that breaks off leaves the session as it is. -/
theorem perform_start_of_none {session : Session} (h : session.installation? = none) :
    session.perform .start = ⟨session, .brokeOff, []⟩ := by
  rw [perform, start?_eq_none h]
  rfl

section

variable {session : Session} {recorder : Log.Recorder} {outcome : Log.Recorder.Outcome}
  (h : session.installation? = some (recorder, outcome))

include h

theorem start?_eq_some :
    session.start? =
      let reply := ({ session with recorder } : Session).runWhenLoaded
        (startSettings session.environment)
      some ⟨reply.session, reply.answer, session.openingLines recorder outcome ++ reply.lines⟩ := by
  rw [installation?] at h
  show Option.map _ (Option.map _ (session.recorder.install? appName
    (startSettings session.environment).logFilter)) = _
  rw [h]
  simp only [openingLines, List.append_assoc]
  rfl

theorem perform_start_of_some :
    session.perform .start =
      let reply := ({ session with recorder } : Session).runWhenLoaded
        (startSettings session.environment)
      ⟨reply.session, .ofCall reply.answer,
        session.openingLines recorder outcome ++ reply.lines⟩ := by
  rw [perform, start?_eq_some h]
  rfl

variable (hwindow : session.environment.window = true)
  (hdocument : session.environment.document = true)

include hwindow hdocument

theorem start?_of_loading (hloading : session.environment.readyState = "loading") :
    session.start? =
      some ⟨{ session with
          recorder, waiting := session.waiting ++ [startSettings session.environment] },
        .ok (), session.openingLines recorder outcome⟩ := by
  have hdone : session.environment.checkDocument = .ok () :=
    Environment.checkDocument_eq_ok.mpr ⟨hwindow, hdocument⟩
  simp only [start?_eq_some h, runWhenLoaded, hdone, if_pos hloading, List.append_nil]

theorem start?_of_loaded (hloaded : session.environment.readyState ≠ "loading") :
    session.start? =
      let made := Pass.all session.environment (startSettings session.environment) session.page
      some ⟨{ session with recorder, page := made.state }, made.result,
        session.openingLines recorder outcome ++
          ({ session with recorder } : Session).record made.events⟩ := by
  have hdone : session.environment.checkDocument = .ok () :=
    Environment.checkDocument_eq_ok.mpr ⟨hwindow, hdocument⟩
  simp only [start?_eq_some h, runWhenLoaded, hdone, if_neg hloaded]
  rfl

end

/-- The replies to a start at once, to a start while the page loads, and to the event that it has
loaded. A start while the page loads leaves the page as it is, and the event makes of it what a
start at once makes, with the same lines in all. Only an error, which leaves the page as it is in
both, is returned by the one and reported by the other. -/
structure SameInTheEnd (page : Page) (environment : Environment)
    (early late : Reply (Except Error Unit)) (event : Reply Nat) : Prop where
  waits : late.answer = .ok ()
  untouched : late.session.page = page
  ran : event.answer = 1
  same : event.session.page = early.session.page
  done : ∀ visit, environment.visit = .ok visit →
    early.answer = .ok () ∧ late.lines ++ event.lines = early.lines
  failed : ∀ error, environment.visit = .error error →
    early.answer = .error error ∧ early.session.page = page ∧ late.lines = early.lines ∧
      event.lines =
        late.session.record [Pass.complaint .error Pass.syncTarget "admin ui sync failed" error]

/-- Both starts come to an end, and to the same, whatever becomes of the settings before the page
has loaded. -/
def LateAsEarly (page : Page) (recorder : Log.Recorder) (environment later : Environment) : Prop :=
  ∃ early late : Reply (Except Error Unit),
    (Session.mk page environment recorder []).start? = some early ∧
    (Session.mk page { environment with readyState := "loading" } recorder []).start? =
      some late ∧
    SameInTheEnd page environment early late
      (({ late.session with environment := later } : Session).windowEvent "DOMContentLoaded")

theorem lateAsEarly_of_installed {page : Page} {recorder next : Log.Recorder}
    {outcome : Log.Recorder.Outcome} {environment later : Environment}
    (hinstalled : (Session.mk page environment recorder []).installation? = some (next, outcome))
    (hwindow : environment.window = true) (hdocument : environment.document = true)
    (hstate : environment.readyState ≠ "loading") (hlater : later.SamePlace environment) :
    LateAsEarly page recorder environment later := by
  let session := Session.mk page environment recorder []
  let settings := startSettings environment
  let made := Pass.all environment settings page
  let opened : Session := { session with recorder := next }
  have hearly : (Session.mk page environment recorder []).start? =
      some ⟨{ opened with page := made.state }, made.result,
        session.openingLines next outcome ++ opened.record made.events⟩ :=
    start?_of_loaded hinstalled hwindow hdocument hstate
  -- what is installed, and what is written before, does not look at the state of the page
  have hlate : (Session.mk page { environment with readyState := "loading" } recorder []).start? =
      some ⟨{ opened with
          environment := { environment with readyState := "loading" }, waiting := [settings] },
        .ok (), session.openingLines next outcome⟩ :=
    start?_of_loading hinstalled hwindow hdocument rfl
  refine ⟨_, _, hearly, hlate, ?_⟩
  let waiting : Session := { opened with environment := later, waiting := [settings] }
  have hrun : waiting.run settings =
      ⟨{ waiting with page := made.state }, made.result, opened.record made.events⟩ := by
    rw [run, Pass.all_congr hlater]
    rfl
  have hevent : waiting.windowEvent "DOMContentLoaded" =
      ⟨{ waiting with page := made.state }, 1,
        opened.record made.events ++ opened.record (unheard made.result)⟩ := by
    rw [windowEvent_of_waiting rfl, hrun]
    rfl
  show SameInTheEnd page environment _ _ (waiting.windowEvent "DOMContentLoaded")
  rw [hevent]
  refine ⟨rfl, rfl, rfl, rfl, ?_, ?_⟩
  · intro visit hvisit
    have hresult : made.result = .ok () := Pass.result_all_of_ok hvisit settings page
    rw [hresult]
    exact ⟨rfl, congrArg (session.openingLines next outcome ++ ·) (List.append_nil _)⟩
  · intro error herror
    have hmade : made = ⟨page, [], .error error⟩ := Pass.all_of_error herror settings page
    rw [hmade]
    exact ⟨rfl, rfl, (List.append_nil _).symm, rfl⟩

/-- Whether a start at once and one while the page loads come to the same is a matter of the log
filter alone: it has to be built. Where it is not, every start breaks off, whatever the page and its
state, and leaves the session as it was. -/
theorem start_late_eq_early (page : Page) (recorder : Log.Recorder)
    {environment later : Environment} (hwindow : environment.window = true)
    (hdocument : environment.document = true) (hstate : environment.readyState ≠ "loading")
    (hlater : later.SamePlace environment) :
    (LateAsEarly page recorder environment later ↔
      ∃ filter, startFilter? environment = some filter) ∧
    (startFilter? environment = none → ∀ state,
      let session := Session.mk page { environment with readyState := state } recorder []
      session.perform .start = ⟨session, .brokeOff, []⟩) := by
  -- whether the filter is built does not depend on the state of the page
  have hbroken : startFilter? environment = none → ∀ state,
      (Session.mk page { environment with readyState := state } recorder []).installation? =
        none := by
    intro hnone state
    rw [← Option.isNone_iff_eq_none, ← Option.not_isSome, isSome_installation?]
    show (!(startFilter? environment).isSome) = true
    rw [hnone]
    rfl
  refine ⟨⟨?_, ?_⟩, ?_⟩
  · rintro ⟨early, -, hearly, -⟩
    cases hfilter : startFilter? environment with
    | none =>
        have hstopped := start?_eq_none (hbroken hfilter environment.readyState)
        rw [hearly] at hstopped
        contradiction
    | some filter => exact ⟨filter, rfl⟩
  · rintro ⟨filter, hfilter⟩
    have hsome := isSome_installation? (Session.mk page environment recorder [])
    rw [hfilter] at hsome
    obtain ⟨⟨next, outcome⟩, hinstalled⟩ := Option.isSome_iff_exists.mp hsome
    exact lateAsEarly_of_installed hinstalled hwindow hdocument hstate hlater
  · intro hnone state
    exact perform_start_of_none (hbroken hnone state)

end

def themedEnvironment : Environment :=
  { (linkedPage true).environment with
    settings := .given (.object [("activeClass", .string "here")]) }

theorem start_late_eq_early_linkedPage :
    let page := (linkedPage true).page
    let later := { themedEnvironment with settings := .absent, readyState := "interactive" }
    later.SamePlace themedEnvironment ∧ LateAsEarly page {} themedEnvironment later ∧
      ((Session.mk page themedEnvironment {} []).perform .start).session.page.content.toList.map
        (·.attribute? "class") = [some "sidebar__nav", some "nav__item here"] := by
  intro page later
  have hlater : later.SamePlace themedEnvironment := ⟨rfl, rfl, rfl⟩
  have hstate : themedEnvironment.readyState ≠ "loading" := by decide
  obtain ⟨hagree, -⟩ := start_late_eq_early page {} rfl rfl hstate hlater
  have hfilter : ∃ filter, startFilter? themedEnvironment = some filter := by
    rw [← Option.isSome_iff_exists]
    decide +kernel
  exact ⟨hlater, hagree.mpr hfilter, by decide +kernel⟩

/-- An environment whose settings name a filter with a blank before a target that is no ASCII. -/
def blankEnvironment : Environment :=
  { (linkedPage true).environment with
    settings := .given (.object [("logFilter", .string " \u00e9=info")]) }

/-- There neither start comes to an end, so that the passes are never run. -/
theorem not_lateAsEarly_blankEnvironment :
    let session := Session.mk (linkedPage true).page blankEnvironment {} []
    blankEnvironment.visit = .ok linkedVisit ∧ blankEnvironment.readyState = "complete" ∧
      ¬LateAsEarly session.page {} blankEnvironment blankEnvironment ∧ session.start? = none := by
  intro session
  have hvisit : blankEnvironment.visit = .ok linkedVisit :=
    Environment.visit_eq_ok.mpr ⟨rfl, rfl, _, _, rfl, by decide +kernel⟩
  have hbroken : session.start? = none := by decide +kernel
  refine ⟨hvisit, rfl, ?_, hbroken⟩
  rintro ⟨early, -, hearly, -⟩
  rw [hbroken] at hearly
  contradiction

end Session

end PageSync
