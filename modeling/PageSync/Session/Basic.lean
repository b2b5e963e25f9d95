import PageSync.Log.Recorder
import PageSync.Page.Edit
import PageSync.Pass

/-!
A session: a page in its environment, the recorder of what the passes report, and the passes that
wait for the page to have loaded.
-/

namespace PageSync

structure Session where
  page : Page
  environment : Environment
  recorder : Log.Recorder := {}
  /-- the settings of the passes that wait, the oldest first -/
  waiting : List Settings := []

structure Session.Reply (α : Type) where
  session : Session
  answer : α
  lines : List Log.Line

namespace Session

def appName : String := "admin-ui-sync"

variable [Browser] [Log.PatternEngine]

def record (session : Session) (events : List Log.Event) : List Log.Line :=
  events.flatMap fun event => session.recorder.lines event .current

def after {α : Type} (session : Session) (outcome : Pass.Outcome Page α) :
    Reply (Except Error α) :=
  ⟨{ session with page := outcome.state }, outcome.result, session.record outcome.events⟩

def run (session : Session) (settings : Settings) : Reply (Except Error Unit) :=
  session.after (Pass.all session.environment settings session.page)

/-- One pass alone, at the location that the page has now. -/
def runPass {α : Type} (session : Session) (pass : Visit → Page → Pass.Outcome Page α) :
    Reply (Except Error α) :=
  match session.environment.visit with
  | .error error => ⟨session, .error error, []⟩
  | .ok visit => session.after (pass visit session.page)

/-- The settings of the page, and the defaults with a warning where they cannot be had. -/
def settingsOrDefault (environment : Environment) : Settings × List Log.Event :=
  match environment.readSettings with
  | .ok settings => (settings, [])
  | .error error =>
    ({}, [Pass.complaint .warn Pass.syncTarget "ignoring page config, using defaults" error])

def install? (session : Session) (app directive : String) : Option (Reply Bool) :=
  (session.recorder.install? app directive).map fun (recorder, outcome) =>
    ⟨{ session with recorder }, outcome.took, outcome.lines⟩

def runWhenLoaded (session : Session) (settings : Settings) : Reply (Except Error Unit) :=
  match session.environment.checkDocument with
  | .error error => ⟨session, .error error, []⟩
  | .ok () =>
    if session.environment.readyState = "loading" then
      ⟨{ session with waiting := session.waiting ++ [settings] }, .ok (), []⟩
    else session.run settings

/-- Reads the settings, installs the log filter they name, and runs the passes, unless the call for
the filter breaks off. -/
def start? (session : Session) : Option (Reply (Except Error Unit)) :=
  let (settings, warnings) := settingsOrDefault session.environment
  (session.install? appName settings.logFilter).map fun installed =>
    let reply := installed.session.runWhenLoaded settings
    { reply with lines := installed.lines ++ (installed.session.record warnings ++ reply.lines) }

def refresh (session : Session) : Reply (Except Error Unit) :=
  let (settings, warnings) := settingsOrDefault session.environment
  let reply := session.run settings
  { reply with lines := session.record warnings ++ reply.lines }

/-- A pass that waited. Nobody waits for its result, so an error is only reported. -/
def runWaiting (session : Session) (settings : Settings) : Session × List Log.Line :=
  let reply := session.run settings
  match reply.answer with
  | .ok () => (reply.session, reply.lines)
  | .error error =>
    (reply.session, reply.lines ++
      reply.session.record [Pass.complaint .error Pass.syncTarget "admin ui sync failed" error])

def runAllWaiting (session : Session) : List Settings → Session × List Log.Line
  | [] => (session, [])
  | settings :: rest =>
    let (session, lines) := session.runWaiting settings
    let (last, more) := session.runAllWaiting rest
    (last, lines ++ more)

/-- The page has loaded: all that wait run, and keep waiting for the next time. -/
def loaded (session : Session) : Reply Nat :=
  let (last, lines) := session.runAllWaiting session.waiting
  ⟨last, session.waiting.length, lines⟩

/-- An event of the window. Only the one that the page has loaded is listened to. -/
def windowEvent (session : Session) (name : String) : Reply Nat :=
  if name = "DOMContentLoaded" then session.loaded else ⟨session, 0, []⟩

end Session

end PageSync
