import PageSync.Session.Basic

/-!
The actions of a session: what a page calls, what its user does to it, and changes of what
surrounds it.
-/

namespace PageSync

/-- A change of the environment; what is not given stays. -/
structure Environment.Change where
  window : Option Bool
  document : Option Bool
  readyState : Option String
  settings : Option PageSettings
  origin : Option (Except Json String)
  href : Option (Except Json String)
  pathname : Option (Except Json String)
  search : Option (Except Json String)

def Environment.changed (environment : Environment) (change : Environment.Change) :
    Environment where
  window := change.window.getD environment.window
  document := change.document.getD environment.document
  readyState := change.readyState.getD environment.readyState
  settings := change.settings.getD environment.settings
  location :=
    { origin := change.origin.getD environment.location.origin
      href := change.href.getD environment.location.href
      pathname := change.pathname.getD environment.location.pathname
      search := change.search.getD environment.location.search }

namespace Session

inductive Action where
  | start
  | refresh
  | run (settings : Settings)
  | highlightSidebar (settings : Settings)
  | activateTabs (settings : Settings)
  | wireNumeric (settings : Settings)
  | readSettings
  | readVisit
  | install (app directive : String)
  | changeEnvironment (change : Environment.Change)
  | windowEvent (name : String)
  | type (selector value event : String)
  | typeAt (id : Nat) (value event : String)
  /-- behind all nodes when there is no selector -/
  | append (selector : Option String) (nodes : Forest Element)
  | remove (selector : String)
  | setAttribute (selector name : String) (value : Option String)

inductive Answer where
  | done
  /-- the action broke off, which leaves everything as it was -/
  | brokeOff
  /-- an error as the page sees it: a thrown text -/
  | thrown (error : Error)
  | failed (error : Error)
  | flag (b : Bool)
  | count (n : Nat)
  | noMatch
  | settings (settings : Settings)
  | visit (visit : Visit)

def Answer.ofResult {α : Type} (answer : α → Answer) : Except Error α → Answer
  | .ok a => answer a
  | .error error => .failed error

def Answer.ofCall : Except Error Unit → Answer
  | .ok () => .done
  | .error error => .thrown error

def Reply.map {α β : Type} (reply : Reply α) (f : α → β) : Reply β :=
  ⟨reply.session, f reply.answer, reply.lines⟩

def orBrokeOff (session : Session) (reply : Option (Reply Answer)) : Reply Answer :=
  reply.getD ⟨session, .brokeOff, []⟩

def edited (session : Session) (page : Option Page) : Reply Answer :=
  match page with
  | some page => ⟨{ session with page }, .flag true, []⟩
  | none => ⟨session, .flag false, []⟩

def typed (session : Session) (page : Option (Page × Nat)) : Reply Answer :=
  match page with
  | some (page, listening) => ⟨{ session with page }, .count listening, []⟩
  | none => ⟨session, .noMatch, []⟩

variable [Browser] [Log.PatternEngine]

def perform (session : Session) : Action → Reply Answer
  | .start => session.orBrokeOff (session.start?.map (·.map .ofCall))
  | .refresh => session.refresh.map .ofCall
  | .run settings => (session.run settings).map (.ofResult fun _ => .done)
  | .highlightSidebar settings =>
    (session.runPass fun visit => Pass.highlightSidebar visit settings).map
      (.ofResult fun _ => .done)
  | .activateTabs settings =>
    (session.runPass fun visit => Pass.activateTabs visit settings).map (.ofResult fun _ => .done)
  | .wireNumeric settings =>
    (session.runPass fun _ => Pass.wireNumeric settings).map (.ofResult .count)
  | .readSettings =>
    ⟨session, .ofResult .settings session.environment.readSettings, []⟩
  | .readVisit => ⟨session, .ofResult .visit session.environment.visit, []⟩
  | .install app directive =>
    session.orBrokeOff ((session.install? app directive).map (·.map .flag))
  | .changeEnvironment change =>
    ⟨{ session with environment := session.environment.changed change }, .done, []⟩
  | .windowEvent name => (session.windowEvent name).map .count
  | .type selector value event => session.typed (session.page.type? selector value event)
  | .typeAt id value event => session.typed (session.page.typeAt? id value event)
  | .append none nodes => session.edited (some (session.page.append nodes))
  | .append (some selector) nodes => session.edited (session.page.appendTo? selector nodes)
  | .remove selector => session.edited (session.page.remove? selector)
  | .setAttribute selector name value =>
    session.edited (session.page.setAttribute? selector name value)

end Session

end PageSync
