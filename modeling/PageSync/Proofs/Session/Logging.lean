import PageSync.Proofs.Log.Installation
import PageSync.Proofs.Session.Fallback

/-!
What a session reports and what of it is written. What an action reports is told without looking at
what the filter lets through. All that is written are the events that pass the filter of the first
start, which no later action replaces; only if that filter is not built is there still none. In a
process that enters spans too the later calls are not without effect, as they make the process look
further (`first_filter_stays`).
-/

namespace PageSync

open Log (Event Line Recorder)

/-- The lines of the events that a filter lets through where no span is entered. -/
def Log.Filter.passed (filter : Filter) (events : List Event) : List Line :=
  (events.filter (filter.allowsEvent [])).map fun event => event.line none

namespace Session

/-- A start or a call for a filter. -/
def Action.installs : Action → Bool
  | .start | .install _ _ => true
  | _ => false

/-- The news of an installation. -/
def news (session : Session) (app directive : String) : List Event :=
  if session.recorder.filter.isNone then [Recorder.installation app directive] else []

/-! ### The lines of events -/

section

variable (session : Session)

theorem record_append (front back : List Event) :
    session.record (front ++ back) = session.record front ++ session.record back :=
  List.flatMap_append

theorem record_congr {a b : Session} (h : a.recorder = b.recorder) (events : List Event) :
    a.record events = b.record events := by
  rw [record, record, h]

theorem lines_typed (page : Option (Page × Nat)) : (session.typed page).lines = [] := by
  cases page with
  | none => rfl
  | some page => rfl

theorem recorder_typed (page : Option (Page × Nat)) :
    (session.typed page).session.recorder = session.recorder := by
  cases page with
  | none => rfl
  | some page => rfl

theorem lines_edited (page : Option Page) : (session.edited page).lines = [] := by
  cases page with
  | none => rfl
  | some page => rfl

theorem recorder_edited (page : Option Page) :
    (session.edited page).session.recorder = session.recorder := by
  cases page with
  | none => rfl
  | some page => rfl

end

/-- Without a filter nothing is written. -/
theorem record_of_no_filter {session : Session} (h : session.recorder = {}) (events : List Event) :
    session.record events = [] := by
  rw [record, h, List.flatMap_eq_nil_iff]
  exact fun _ _ => rfl

theorem record_of_filter {session : Session} {filter : Log.Filter}
    (hfilter : session.recorder.filter = some filter) (hspans : session.recorder.spans = [])
    (events : List Event) : session.record events = filter.passed events := by
  rw [record, Log.Filter.passed]
  induction events with
  | nil => rfl
  | cons event events ih =>
      rw [List.flatMap_cons, ih, Recorder.lines_of_filter hfilter hspans]
      by_cases hallowed : filter.allowsEvent [] event = true
      · rw [if_pos hallowed, List.filter_cons_of_pos hallowed]
        rfl
      · rw [if_neg hallowed, List.filter_cons_of_neg hallowed]
        rfl

theorem lines_install [Log.PatternEngine] {session : Session} {app directive : String}
    {recorder : Recorder} {outcome : Recorder.Outcome}
    (h : session.recorder.install? app directive = some (recorder, outcome)) :
    outcome.lines = ({ session with recorder } : Session).record (session.news app directive) := by
  obtain ⟨filter, -, heq⟩ := Option.map_eq_some_iff.mp h
  rw [news]
  cases hfilter : session.recorder.filter with
  | some other =>
      rw [hfilter] at heq
      cases heq
      rfl
  | none =>
      rw [hfilter] at heq
      cases heq
      exact (List.append_nil _).symm

def passEvents {α : Type} (session : Session) (pass : Visit → Page → Pass.Outcome Page α) :
    List Event :=
  match session.environment.visit with
  | .error _ => []
  | .ok visit => (pass visit session.page).events

section

variable (session : Session)

theorem lines_runPass {α : Type} (pass : Visit → Page → Pass.Outcome Page α) :
    (session.runPass pass).lines =
      (session.runPass pass).session.record (session.passEvents pass) := by
  rw [runPass, passEvents]
  cases session.environment.visit with
  | error error => rfl
  | ok visit => rfl

theorem recorder_runPass {α : Type} (pass : Visit → Page → Pass.Outcome Page α) :
    (session.runPass pass).session.recorder = session.recorder := by
  rw [runPass]
  cases session.environment.visit with
  | error error => rfl
  | ok visit => rfl

end

/-! ### What an action reports -/

section

variable [Browser]

def runEvents (session : Session) (settings : Settings) : List Event :=
  (Pass.all session.environment settings session.page).events

/-- A run that waits for the page to have loaded reports nothing yet. -/
def runWhenLoadedEvents (session : Session) (settings : Settings) : List Event :=
  match session.environment.checkDocument with
  | .error _ => []
  | .ok () => if session.environment.readyState = "loading" then [] else session.runEvents settings

/-- Runs that waited, each at the page that the one before has left. -/
def waitingEvents (session : Session) : List Settings → List Event
  | [] => []
  | settings :: rest =>
    let reply := session.run settings
    session.runEvents settings ++ (unheard reply.answer ++ reply.session.waitingEvents rest)

theorem lines_runWhenLoaded (session : Session) (settings : Settings) :
    (session.runWhenLoaded settings).lines =
      session.record (session.runWhenLoadedEvents settings) := by
  rw [runWhenLoaded, runWhenLoadedEvents]
  cases session.environment.checkDocument with
  | error error => rfl
  | ok =>
      simp only
      split
      · rfl
      · rfl

theorem recorder_runAllWaiting (session : Session) (waiting : List Settings) :
    (session.runAllWaiting waiting).1.recorder = session.recorder := by
  induction waiting generalizing session with
  | nil => rfl
  | cons settings rest ih =>
      simp only [runAllWaiting, ih, runWaiting_eq]
      rfl

theorem lines_runAllWaiting (session : Session) (waiting : List Settings) :
    (session.runAllWaiting waiting).2 = session.record (session.waitingEvents waiting) := by
  induction waiting generalizing session with
  | nil => rfl
  | cons settings rest ih =>
      have hrun : (session.run settings).lines = session.record (session.runEvents settings) := rfl
      have hrest : (session.run settings).session.record = session.record := rfl
      simp only [runAllWaiting, runWaiting_eq, ih, waitingEvents, record_append, hrun, hrest,
        List.append_assoc]

variable [Log.PatternEngine]

/-- The events that an action reports, in order, before any filter decides on them. A call for a
filter that breaks off reports nothing. -/
def reported (session : Session) : Action → List Event
  | .start =>
    let (settings, warnings) := settingsOrDefault session.environment
    if session.installation?.isSome then
      session.news appName settings.logFilter ++
        (warnings ++ session.runWhenLoadedEvents settings)
    else []
  | .refresh =>
    let (settings, warnings) := settingsOrDefault session.environment
    warnings ++ session.runEvents settings
  | .run settings => session.runEvents settings
  | .highlightSidebar settings =>
    session.passEvents fun visit => Pass.highlightSidebar visit settings
  | .activateTabs settings => session.passEvents fun visit => Pass.activateTabs visit settings
  | .wireNumeric settings => session.passEvents fun _ => Pass.wireNumeric settings
  | .install app directive =>
    if (session.recorder.install? app directive).isSome then session.news app directive else []
  | .windowEvent name =>
    if name = "DOMContentLoaded" then session.waitingEvents session.waiting else []
  | _ => []

def reports (session : Session) : List Action → List (List Event)
  | [] => []
  | action :: rest => session.reported action :: (session.perform action).session.reports rest

/-! ### One action -/

theorem recorder_perform_of_not_installs (session : Session) {action : Action}
    (h : action.installs = false) :
    (session.perform action).session.recorder = session.recorder := by
  cases action with
  | start => contradiction
  | install app directive => contradiction
  | refresh => rfl
  | run settings => rfl
  | highlightSidebar settings => exact recorder_runPass session _
  | activateTabs settings => exact recorder_runPass session _
  | wireNumeric settings => exact recorder_runPass session _
  | readSettings => rfl
  | readVisit => rfl
  | changeEnvironment change => rfl
  | windowEvent name =>
      rw [perform, windowEvent]
      split
      · exact recorder_runAllWaiting session session.waiting
      · rfl
  | type selector value event => exact recorder_typed session _
  | typeAt id value event => exact recorder_typed session _
  | append selector nodes =>
      cases selector with
      | none => rfl
      | some selector => exact recorder_edited session _
  | remove selector => exact recorder_edited session _
  | setAttribute selector name value => exact recorder_edited session _

/-- Where there is a filter an action changes at most how far the process looks. -/
theorem recorder_perform_of_filter {session : Session} {filter : Log.Filter}
    (h : session.recorder.filter = some filter) (action : Action) :
    ∃ raised, (session.perform action).session.recorder = { session.recorder with raised } := by
  -- a refused call changes no more than how far the process looks
  have hinstalled : ∀ {app directive recorder outcome},
      session.recorder.install? app directive = some (recorder, outcome) →
        ∃ raised, recorder = { session.recorder with raised } := by
    intro app directive recorder outcome hinstall
    rw [Recorder.install?_of_filter h, Option.map_eq_some_iff] at hinstall
    obtain ⟨other, -, heq⟩ := hinstall
    cases heq
    exact ⟨other.limit, rfl⟩
  by_cases hnot : action.installs = false
  · exact ⟨session.recorder.raised, recorder_perform_of_not_installs session hnot⟩
  · cases action with
    | start =>
        cases hinstallation : session.installation? with
        | none => exact ⟨session.recorder.raised, by rw [perform_start_of_none hinstallation]⟩
        | some installed =>
            obtain ⟨recorder, outcome⟩ := installed
            obtain ⟨raised, hraised⟩ := hinstalled hinstallation
            rw [perform_start_of_some hinstallation]
            exact ⟨raised, ((kept_runWhenLoaded { session with recorder } _).2).trans hraised⟩
    | install app directive =>
        rw [perform, install?]
        cases hinstall : session.recorder.install? app directive with
        | none => exact ⟨session.recorder.raised, rfl⟩
        | some installed => exact hinstalled hinstall
    | _ => exact absurd rfl hnot

/-- An action writes what the recorder that it leaves lets through of the events reported. -/
theorem lines_perform (session : Session) (action : Action) :
    (session.perform action).lines =
      (session.perform action).session.record (session.reported action) := by
  cases action with
  | start =>
      rw [reported]
      cases hinstallation : session.installation? with
      | none =>
          rw [perform_start_of_none hinstallation]
          rfl
      | some installed =>
          obtain ⟨recorder, outcome⟩ := installed
          let opened : Session := { session with recorder }
          let settings := startSettings session.environment
          have hnews : outcome.lines = opened.record (session.news appName settings.logFilter) :=
            lines_install hinstallation
          have hrun : (opened.runWhenLoaded settings).lines =
              opened.record (session.runWhenLoadedEvents settings) :=
            lines_runWhenLoaded opened settings
          have hkept : (opened.runWhenLoaded settings).session.recorder = opened.recorder :=
            (kept_runWhenLoaded opened settings).2
          rw [perform_start_of_some hinstallation]
          show session.openingLines recorder outcome ++ (opened.runWhenLoaded settings).lines =
            (opened.runWhenLoaded settings).session.record
              (session.news appName settings.logFilter ++
                ((settingsOrDefault session.environment).2 ++
                  session.runWhenLoadedEvents settings))
          -- the filter is there before the warnings, so one recorder decides on all three
          rw [record_congr hkept, record_append, record_append, openingLines, hnews, hrun,
            List.append_assoc]
  | refresh => exact (record_append session _ _).symm
  | run settings => rfl
  | highlightSidebar settings => exact lines_runPass session _
  | activateTabs settings => exact lines_runPass session _
  | wireNumeric settings => exact lines_runPass session _
  | readSettings => rfl
  | readVisit => rfl
  | install app directive =>
      rw [perform, reported, install?]
      cases hinstall : session.recorder.install? app directive with
      | none => rfl
      | some installed => exact lines_install hinstall
  | changeEnvironment change => rfl
  | windowEvent name =>
      rw [perform, windowEvent, reported]
      split
      · exact (lines_runAllWaiting session _).trans
          (record_congr (recorder_runAllWaiting session _).symm _)
      · rfl
  | type selector value event => exact lines_typed session _
  | typeAt id value event => exact lines_typed session _
  | append selector nodes =>
      cases selector with
      | none => rfl
      | some selector => exact lines_edited session _
  | remove selector => exact lines_edited session _
  | setAttribute selector name value => exact lines_edited session _

/-! ### Whole sessions -/

def performed (session : Session) : List Action → Session
  | [] => session
  | action :: rest => (session.perform action).session.performed rest

theorem replies_append (session : Session) (front back : List Action) :
    session.replies (front ++ back) =
      session.replies front ++ (session.performed front).replies back := by
  induction front generalizing session with
  | nil => rfl
  | cons action front ih =>
      rw [List.cons_append, replies, ih]
      rfl

/-- As long as nothing calls for a filter there is none. -/
theorem silent_of_not_installs {session : Session} (h : session.recorder = {})
    {actions : List Action} (hactions : ∀ action ∈ actions, action.installs = false) :
    (session.performed actions).recorder = {} ∧
      ∀ reply ∈ session.replies actions, reply.lines = [] := by
  induction actions generalizing session with
  | nil => exact ⟨h, fun _ hreply => absurd hreply List.not_mem_nil⟩
  | cons action rest ih =>
      rw [List.forall_mem_cons] at hactions
      have hkept : (session.perform action).session.recorder = {} :=
        (recorder_perform_of_not_installs session hactions.1).trans h
      obtain ⟨hlast, hrest⟩ := ih hkept hactions.2
      refine ⟨hlast, ?_⟩
      rw [replies, List.forall_mem_cons]
      exact ⟨(lines_perform session action).trans (record_of_no_filter hkept _), hrest⟩

/-- A filter that is installed stays, and decides on all that is reported. -/
theorem passed_of_filter {session : Session} {filter : Log.Filter}
    (hfilter : session.recorder.filter = some filter) (hspans : session.recorder.spans = [])
    (actions : List Action) :
    (∀ reply ∈ session.replies actions, reply.session.recorder.filter = some filter) ∧
      (session.replies actions).map Reply.lines =
        (session.reports actions).map filter.passed := by
  induction actions generalizing session with
  | nil => exact ⟨fun _ hreply => absurd hreply List.not_mem_nil, rfl⟩
  | cons action rest ih =>
      obtain ⟨raised, hraised⟩ := recorder_perform_of_filter hfilter action
      have hkept : (session.perform action).session.recorder.filter = some filter := by
        rw [hraised, hfilter]
      have hnone : (session.perform action).session.recorder.spans = [] := by
        rw [hraised, hspans]
      obtain ⟨hrecorder, hlines⟩ := ih hkept hnone
      rw [replies, reports, List.forall_mem_cons, List.map_cons, List.map_cons, hlines,
        lines_perform, record_of_filter hkept hnone]
      exact ⟨⟨hkept, hrecorder⟩, rfl⟩

theorem recorder_start {session : Session} (h : session.recorder = {}) {filter : Log.Filter}
    (hfilter : startFilter? session.environment = some filter) :
    (session.perform .start).session.recorder = { filter := some filter } := by
  have hinstalled : session.installation? = some ({ filter := some filter },
      ⟨true, ({ filter := some filter } : Recorder).lines
        (Recorder.installation appName (startSettings session.environment).logFilter)
          .current⟩) := by
    rw [installation?, h, Recorder.install?]
    rw [startFilter?] at hfilter
    rw [hfilter]
    rfl
  rw [perform_start_of_some hinstalled]
  exact (kept_runWhenLoaded { session with recorder := { filter := some filter } } _).2

theorem perform_start_of_unbuilt {session : Session}
    (h : startFilter? session.environment = none) :
    session.perform .start = ⟨session, .brokeOff, []⟩ := by
  apply perform_start_of_none
  rw [← Option.isNone_iff_eq_none, ← Option.not_isSome, isSome_installation?, h]
  rfl

/-- How far the first call for a filter decides for good. In a process of calls and steps the later
calls are without effect exactly if the filters of all calls are built and the first filter is shown
no spans for the sake of the later ones that it makes something of. What is written is the news of
the installation, if the filter lets it through, and a line for each event that is let through. In a
session nothing is written before the first start; if its filter is built, it is the filter from
then on, and what is written are the events reported that pass it; and if it is not, this start
breaks off and all is as before. -/
theorem first_filter_stays :
    (∀ app directive later,
      (∀ steps, Recorder.transcript ((app, directive) :: later) steps =
        Recorder.transcriptOfFirst app directive later steps) ↔
      ∃ filter, Log.Filter.ofText? directive = some filter ∧
        (∀ call ∈ later, (Log.Filter.ofText? call.2).isSome) ∧
        Recorder.Unmoved filter (Recorder.raisedBy .off later)) ∧
    (∀ app directive filter later steps, Log.Filter.ofText? directive = some filter →
      (Recorder.transcript ((app, directive) :: later) steps).text =
        Log.textOfLines
          (Recorder.written filter (Recorder.raisedBy .off later) app directive steps) ∧
      ((Recorder.installation app directive).line none).text =
        "DEBUG console_logger - console logger initialized for " ++ app ++ " filter=\"" ++
          directive ++ "\"") ∧
    ∀ (session : Session) (before : List Action), session.recorder = {} →
      (∀ action ∈ before, action.installs = false) →
      let first := session.performed before
      (∀ reply ∈ session.replies before, reply.lines = []) ∧
      (∀ filter, startFilter? first.environment = some filter → ∀ after,
        let replies := first.replies (.start :: after)
        session.replies (before ++ .start :: after) = session.replies before ++ replies ∧
        (∀ reply ∈ replies, reply.session.recorder.filter = some filter) ∧
        replies.map Reply.lines =
          (first.reports (.start :: after)).map filter.passed) ∧
      (startFilter? first.environment = none →
        first.perform .start = ⟨first, .brokeOff, []⟩) := by
  refine ⟨Recorder.transcript_eq_iff, ?_, ?_⟩
  · intro app directive filter later steps hfilter
    rw [Recorder.transcript_cons hfilter]
    exact ⟨rfl, Recorder.text_installation app directive⟩
  · intro session before hnone hbefore first
    obtain ⟨hfirst, hsilent⟩ := silent_of_not_installs hnone hbefore
    refine ⟨hsilent, ?_, perform_start_of_unbuilt⟩
    intro filter hfilter after
    refine ⟨replies_append session before _, ?_⟩
    -- the first start finds no filter; what follows it is a session that has one
    have hstart : (first.perform .start).session.recorder = { filter := some filter } :=
      recorder_start hfirst hfilter
    have hkept : (first.perform .start).session.recorder.filter = some filter := by rw [hstart]
    have hspans : (first.perform .start).session.recorder.spans = [] := by rw [hstart]
    obtain ⟨hrecorder, hlines⟩ := passed_of_filter hkept hspans after
    rw [replies, reports, List.forall_mem_cons, List.map_cons, List.map_cons, hlines, lines_perform,
      record_of_filter hkept hspans]
    exact ⟨⟨hkept, hrecorder⟩, rfl⟩

end

/-- A page that names a filter, later another one. -/
def chattyPage : Session :=
  { linkedPage true with
    environment := { (linkedPage true).environment with
      settings := .given (.object [("logFilter", .string "console_logger=debug,warn")]) } }

def quietened : Environment.Change :=
  { window := none, document := none, readyState := none,
    settings := some (.given (.object [("logFilter", .string "off"), ("navSelector", .bool true)])),
    origin := none, href := none, pathname := none, search := none }

theorem first_filter_stays_chattyPage :
    let steps := [.event ⟨.info, "app", [⟨"message", .display "ready"⟩]⟩ .current,
      .event ⟨.trace, "app", []⟩ .root]
    let replies := (chattyPage.performed [.refresh]).replies
      [.start, .changeEnvironment quietened, .start, .refresh]
    Recorder.transcript [("app", "debug"), ("late", "off"), ("page", "[[")] steps =
        Recorder.transcriptOfFirst "app" "debug" [("late", "off"), ("page", "[[")] steps ∧
      (Recorder.transcript [("app", "debug")] steps).text =
        "DEBUG console_logger - console logger initialized for app filter=\"debug\"\n" ++
          "INFO app - ready\n" ∧
      chattyPage.recorder = {} ∧ Action.refresh.installs = false ∧
      (∀ reply ∈ chattyPage.replies [.refresh], reply.lines = []) ∧
      (∃ filter, Log.Filter.ofText? "console_logger=debug,warn" = some filter ∧
        ∀ reply ∈ replies, reply.session.recorder.filter = some filter) ∧
      (replies.map Reply.lines).map (·.map Log.Line.level) = [[.debug], [], [.warn], [.warn]] := by
  intro steps replies
  have hcalls := (first_filter_stays.1 "app" "debug" [("late", "off"), ("page", "[[")]).mpr
  have hbefore : ∀ action ∈ [Action.refresh], action.installs = false := by
    simp [Action.installs]
  obtain ⟨hsilent, hlater, -⟩ := first_filter_stays.2.2 chattyPage [.refresh] rfl hbefore
  obtain ⟨filter, hfilter⟩ : ∃ filter,
      Log.Filter.ofText? "console_logger=debug,warn" = some filter := by
    rw [← Option.isSome_iff_exists]
    decide +kernel
  obtain ⟨-, hrecorder, -⟩ :=
    hlater filter hfilter [.changeEnvironment quietened, .start, .refresh]
  obtain ⟨debug, hdebug, hdynamics⟩ : ∃ filter,
      Log.Filter.ofText? "debug" = some filter ∧ filter.dynamics.isEmpty = true :=
    (Option.any_eq_true _ _).mp (by decide +kernel)
  have hcalls := hcalls ⟨debug, hdebug, by decide +kernel, .inl (List.isEmpty_iff.mp hdynamics)⟩
  exact ⟨hcalls steps, by decide +kernel, rfl, rfl, hsilent, ⟨filter, hfilter, hrecorder⟩,
    by decide +kernel⟩

/-- A process that enters a span and reports an event in it. -/
def spanSteps : List Log.Step :=
  [.enter ⟨"s", .debug, "app", []⟩, .event ⟨.info, "app", [⟨"message", .display "in s"⟩]⟩ .current]

/-- The call that is refused makes the process look at the span, and so at the event in it. -/
theorem transcript_spanSteps_ne :
    let calls := [("first", "[s]=info"), ("later", "trace")]
    (Recorder.transcript calls spanSteps).took = [true, true] ∧
      (Recorder.transcript calls spanSteps).text = "INFO app [s] - in s\n" ∧
      Recorder.transcript calls spanSteps ≠
        Recorder.transcriptOfFirst "first" "[s]=info" [("later", "trace")] spanSteps := by
  decide +kernel

end Session

end PageSync
