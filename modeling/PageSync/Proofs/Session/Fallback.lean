import Mathlib.Data.List.Forall2
import PageSync.Proofs.Session.Loading
import PageSync.Proofs.Settings.Members

/-!
Settings that cannot be had. A page that holds such settings goes through any actions as one that
holds none: step by step the answers and the pages are the same, and so are the lines but for the
warnings (`replies_of_unusable`). What carries this is that nothing but a start and a refresh reads
the settings of the page, and that both then go on with the defaults alone.
-/

namespace PageSync

/-- Settings that cannot be had: reading them throws, or what they hold is not decoded. -/
def PageSettings.Unusable : PageSettings → Prop
  | .absent => False
  | .throws _ => True
  | .given value => ∃ error, Settings.ofJson value = .error error

/-- Of an object, the values that count for the nine keys have to be texts, all of them. -/
theorem PageSettings.unusable_object_iff {members : List (String × Json)} :
    (PageSettings.given (.object members)).Unusable ↔
      ∃ key value, Json.member? members (Settings.Key.name key) = some value ∧
        ∀ text, value ≠ .string text := by
  have hrefused : (PageSettings.given (.object members)).Unusable ↔
      ¬∃ settings, Settings.ofJson (.object members) = .ok settings := by
    show (∃ error, _) ↔ _
    cases Settings.ofJson (.object members) with
    | error error => simp
    | ok settings => simp
  rw [hrefused, Settings.ofJson_object_isOk_iff]
  simp only [not_forall, not_exists, exists_prop, ne_eq]

def Environment.withoutSettings (environment : Environment) : Environment :=
  { environment with settings := .absent }

namespace Session

/-- The same session at a page that holds no settings. -/
def withoutSettings (session : Session) : Session :=
  { session with environment := session.environment.withoutSettings }

def Reply.withoutSettings {α : Type} (reply : Reply α) : Reply α :=
  { reply with session := reply.session.withoutSettings }

/-! ### What does not read the settings -/

section

variable (session : Session)

theorem edited_withoutSettings (page : Option Page) :
    session.withoutSettings.edited page = (session.edited page).withoutSettings := by
  cases page with
  | none => rfl
  | some page => rfl

theorem typed_withoutSettings (page : Option (Page × Nat)) :
    session.withoutSettings.typed page = (session.typed page).withoutSettings := by
  cases page with
  | none => rfl
  | some page => rfl

theorem runPass_withoutSettings {α : Type} (pass : Visit → Page → Pass.Outcome Page α) :
    session.withoutSettings.runPass pass = (session.runPass pass).withoutSettings := by
  have hvisit : session.withoutSettings.environment.visit = session.environment.visit := rfl
  rw [runPass, runPass, hvisit]
  cases session.environment.visit with
  | error error => rfl
  | ok visit => rfl

variable [Browser]

theorem runWhenLoaded_withoutSettings (settings : Settings) :
    session.withoutSettings.runWhenLoaded settings =
      (session.runWhenLoaded settings).withoutSettings := by
  have hdone : session.withoutSettings.environment.checkDocument =
      session.environment.checkDocument := rfl
  rw [runWhenLoaded, runWhenLoaded, hdone]
  cases session.environment.checkDocument with
  | error error => rfl
  | ok =>
      by_cases hloading : session.environment.readyState = "loading"
      · have hsame : session.withoutSettings.environment.readyState = "loading" := hloading
        simp only [if_pos hloading, if_pos hsame]
        rfl
      · have hsame : session.withoutSettings.environment.readyState ≠ "loading" := hloading
        simp only [if_neg hloading, if_neg hsame]
        rfl

theorem runWaiting_withoutSettings (settings : Settings) :
    session.withoutSettings.runWaiting settings =
      ((session.runWaiting settings).1.withoutSettings, (session.runWaiting settings).2) := by
  rw [runWaiting_eq, runWaiting_eq]
  rfl

theorem runAllWaiting_withoutSettings (waiting : List Settings) :
    session.withoutSettings.runAllWaiting waiting =
      ((session.runAllWaiting waiting).1.withoutSettings, (session.runAllWaiting waiting).2) := by
  induction waiting generalizing session with
  | nil => rfl
  | cons settings rest ih =>
      simp only [runAllWaiting, runWaiting_withoutSettings, ih]

theorem windowEvent_withoutSettings (name : String) :
    session.withoutSettings.windowEvent name = (session.windowEvent name).withoutSettings := by
  rw [windowEvent, windowEvent]
  split
  · have hwaiting : session.withoutSettings.waiting = session.waiting := rfl
    rw [loaded, loaded, hwaiting, runAllWaiting_withoutSettings]
    rfl
  · rfl

end

/-- Actions that read the settings of the page or may change them. -/
def Action.ConcernsSettings : Action → Prop
  | .start | .refresh | .readSettings | .changeEnvironment _ => True
  | _ => False

section

variable [Browser] [Log.PatternEngine]

theorem perform_withoutSettings (session : Session) {action : Action}
    (h : ¬action.ConcernsSettings) :
    session.withoutSettings.perform action = (session.perform action).withoutSettings := by
  cases action with
  | start => exact absurd trivial h
  | refresh => exact absurd trivial h
  | readSettings => exact absurd trivial h
  | changeEnvironment change => exact absurd trivial h
  -- the other actions never look at what settings the page holds
  | run settings => rfl
  | highlightSidebar settings =>
      rw [perform, perform, runPass_withoutSettings]
      rfl
  | activateTabs settings =>
      rw [perform, perform, runPass_withoutSettings]
      rfl
  | wireNumeric settings =>
      rw [perform, perform, runPass_withoutSettings]
      rfl
  | readVisit => rfl
  | install app directive =>
      have hrecorder : session.withoutSettings.recorder = session.recorder := rfl
      rw [perform, perform, install?, install?, hrecorder]
      cases session.recorder.install? app directive with
      | none => rfl
      | some installed => rfl
  | windowEvent name =>
      rw [perform, perform, windowEvent_withoutSettings]
      rfl
  | type selector value event => exact typed_withoutSettings session _
  | typeAt id value event => exact typed_withoutSettings session _
  | append selector nodes =>
      cases selector with
      | none => rfl
      | some selector => exact edited_withoutSettings session _
  | remove selector => exact edited_withoutSettings session _
  | setAttribute selector name value => exact edited_withoutSettings session _

end

/-! ### What keeps the environment -/

section

variable (session : Session)

theorem environment_edited (page : Option Page) :
    (session.edited page).session.environment = session.environment := by
  cases page with
  | none => rfl
  | some page => rfl

theorem environment_typed (page : Option (Page × Nat)) :
    (session.typed page).session.environment = session.environment := by
  cases page with
  | none => rfl
  | some page => rfl

theorem environment_runPass {α : Type} (pass : Visit → Page → Pass.Outcome Page α) :
    (session.runPass pass).session.environment = session.environment := by
  rw [runPass]
  cases session.environment.visit with
  | error error => rfl
  | ok visit => rfl

variable [Browser]

theorem environment_runAllWaiting (waiting : List Settings) :
    (session.runAllWaiting waiting).1.environment = session.environment := by
  induction waiting generalizing session with
  | nil => rfl
  | cons settings rest ih =>
      simp only [runAllWaiting, ih, runWaiting_eq]
      rfl

theorem kept_runWhenLoaded (settings : Settings) :
    (session.runWhenLoaded settings).session.environment = session.environment ∧
      (session.runWhenLoaded settings).session.recorder = session.recorder := by
  rw [runWhenLoaded]
  cases session.environment.checkDocument with
  | error error => exact ⟨rfl, rfl⟩
  | ok =>
      simp only
      split
      · exact ⟨rfl, rfl⟩
      · exact ⟨rfl, rfl⟩

variable [Log.PatternEngine]

/-- Only a change of the environment changes it. -/
theorem environment_perform {action : Action}
    (h : ∀ change, action ≠ .changeEnvironment change) :
    (session.perform action).session.environment = session.environment := by
  cases action with
  | start =>
      cases hinstalled : session.installation? with
      | none => rw [perform_start_of_none hinstalled]
      | some installed =>
          rw [perform_start_of_some hinstalled]
          exact (kept_runWhenLoaded { session with recorder := installed.1 } _).1
  | refresh => rfl
  | run settings => rfl
  | highlightSidebar settings => exact environment_runPass session _
  | activateTabs settings => exact environment_runPass session _
  | wireNumeric settings => exact environment_runPass session _
  | readSettings => rfl
  | readVisit => rfl
  | install app directive =>
      rw [perform, install?]
      cases session.recorder.install? app directive with
      | none => rfl
      | some installed => rfl
  | changeEnvironment change => exact absurd rfl (h change)
  | windowEvent name =>
      rw [perform, windowEvent]
      split
      · exact environment_runAllWaiting session session.waiting
      · rfl
  | type selector value event => exact environment_typed session _
  | typeAt id value event => exact environment_typed session _
  | append selector nodes =>
      cases selector with
      | none => rfl
      | some selector => exact environment_edited session _
  | remove selector => exact environment_edited session _
  | setAttribute selector name value => exact environment_edited session _

end

/-! ### Falling back to the defaults -/

def ignored (error : Error) : Log.Event :=
  Pass.complaint .warn Pass.syncTarget "ignoring page config, using defaults" error

theorem readSettings_of_unusable {environment : Environment} (h : environment.settings.Unusable)
    {settings : Settings} (hread : environment.readSettings = .ok settings) : settings = {} := by
  unfold Environment.readSettings at hread
  split at hread
  · contradiction
  · split at hread
    · exact (Except.ok.inj hread).symm
    · contradiction
    · exact (Except.ok.inj hread).symm
    · rename_i value _ hvalue
      rw [hvalue] at h
      obtain ⟨error, herror⟩ := h
      rw [mapError_eq_ok, herror] at hread
      contradiction

/-- Where the settings cannot be had, the defaults are used as where there are none, with one
warning more or none. -/
theorem settingsOrDefault_of_unusable {environment : Environment}
    (h : environment.settings.Unusable) :
    ∃ warned warnings, settingsOrDefault environment = ({}, warned) ∧
      settingsOrDefault environment.withoutSettings = ({}, warnings) ∧
      (warned = warnings ∨ warnings = [] ∧ ∃ error, warned = [ignored error]) := by
  cases hwindow : environment.window with
  | false =>
      -- without a window the settings are not looked at, whatever the page holds
      refine ⟨[ignored .noWindow], [ignored .noWindow], ?_, ?_, .inl rfl⟩
      · simp only [settingsOrDefault, Environment.readSettings, hwindow]
        rfl
      · simp only [settingsOrDefault, Environment.readSettings, Environment.withoutSettings,
          hwindow]
        rfl
  | true =>
      have hnone : settingsOrDefault environment.withoutSettings = ({}, []) := by
        simp only [settingsOrDefault, Environment.readSettings, Environment.withoutSettings,
          hwindow]
        rfl
      cases hread : environment.readSettings with
      | ok settings =>
          obtain rfl := readSettings_of_unusable h hread
          exact ⟨[], [], by rw [settingsOrDefault, hread], hnone, .inl rfl⟩
      | error error =>
          exact ⟨[ignored error], [], by rw [settingsOrDefault, hread]; rfl, hnone,
            .inr ⟨rfl, error, rfl⟩⟩

/-- The same lines, but for a warning among them that the settings cannot be had. -/
def Warned (recorder : Log.Recorder) (warned lines : List Log.Line) : Prop :=
  warned = lines ∨ ∃ before after error, lines = before ++ after ∧
    warned = before ++ (recorder.lines (ignored error) .current ++ after)

structure Reply.SameButWarned {α : Type} (a b : Reply α) : Prop where
  answer : a.answer = b.answer
  page : a.session.page = b.session.page
  lines : Warned a.session.recorder a.lines b.lines

theorem Reply.sameButWarned_withoutSettings {α : Type} (reply : Reply α) :
    reply.SameButWarned reply.withoutSettings := ⟨rfl, rfl, .inl rfl⟩

theorem Reply.SameButWarned.map {α β : Type} {a b : Reply α} (h : a.SameButWarned b) (f : α → β) :
    (a.map f).SameButWarned (b.map f) := ⟨congrArg f h.answer, h.page, h.lines⟩

theorem warned_record (session : Session) {warned warnings : List Log.Event}
    (h : warned = warnings ∨ warnings = [] ∧ ∃ error, warned = [ignored error])
    (before after : List Log.Line) :
    Warned session.recorder (before ++ (session.record warned ++ after))
      (before ++ (session.record warnings ++ after)) := by
  rcases h with rfl | ⟨rfl, error, rfl⟩
  · exact .inl rfl
  · exact .inr ⟨before, after, error, rfl, by simp [record]⟩

section

variable [Browser] {session : Session} (h : session.environment.settings.Unusable)

include h

theorem refresh_withoutSettings :
    session.refresh.SameButWarned session.withoutSettings.refresh ∧
      session.withoutSettings.refresh.session = session.refresh.session.withoutSettings := by
  obtain ⟨warned, warnings, hwarned, hwarnings, hcases⟩ := settingsOrDefault_of_unusable h
  let reply := session.run {}
  have hrefresh : session.refresh =
      ⟨reply.session, reply.answer, session.record warned ++ reply.lines⟩ := by
    rw [refresh, hwarned]
  have hother : session.withoutSettings.refresh =
      ⟨reply.session.withoutSettings, reply.answer, session.record warnings ++ reply.lines⟩ := by
    have hsettings : settingsOrDefault session.withoutSettings.environment = ({}, warnings) :=
      hwarnings
    rw [refresh, hsettings]
    rfl
  rw [hrefresh, hother]
  exact ⟨⟨rfl, rfl, warned_record session hcases [] reply.lines⟩, rfl⟩

variable [Log.PatternEngine]

theorem start_withoutSettings :
    (session.perform .start).SameButWarned (session.withoutSettings.perform .start) ∧
      (session.withoutSettings.perform .start).session =
        (session.perform .start).session.withoutSettings := by
  obtain ⟨warned, warnings, hwarned, hwarnings, hcases⟩ := settingsOrDefault_of_unusable h
  have hsettings : startSettings session.environment = {} := congrArg Prod.fst hwarned
  have hother : startSettings session.withoutSettings.environment = {} :=
    congrArg Prod.fst hwarnings
  -- with the defaults in both, the same filter is installed, or in neither is one
  have hinstallation : session.withoutSettings.installation? = session.installation? := by
    rw [installation?, hother, installation?, hsettings]
    rfl
  cases hinstalled : session.installation? with
  | none =>
      rw [perform_start_of_none hinstalled,
        perform_start_of_none (hinstallation.trans hinstalled)]
      exact ⟨⟨rfl, rfl, .inl rfl⟩, rfl⟩
  | some installed =>
      obtain ⟨recorder, outcome⟩ := installed
      let opened : Session := { session with recorder }
      let reply := opened.runWhenLoaded {}
      have hstart : session.perform .start = ⟨reply.session, .ofCall reply.answer,
          session.openingLines recorder outcome ++ reply.lines⟩ := by
        rw [perform_start_of_some hinstalled, hsettings]
      have hwithout : session.withoutSettings.perform .start =
          ⟨reply.session.withoutSettings, .ofCall reply.answer,
            session.withoutSettings.openingLines recorder outcome ++ reply.lines⟩ := by
        have hreply : opened.withoutSettings.runWhenLoaded {} = reply.withoutSettings :=
          runWhenLoaded_withoutSettings opened {}
        rw [perform_start_of_some (hinstallation.trans hinstalled), hother]
        show Reply.mk (opened.withoutSettings.runWhenLoaded {}).session
          (Answer.ofCall (opened.withoutSettings.runWhenLoaded {}).answer)
          (_ ++ (opened.withoutSettings.runWhenLoaded {}).lines) = _
        rw [hreply]
        rfl
      have hlines : Warned recorder (session.openingLines recorder outcome ++ reply.lines)
          (session.withoutSettings.openingLines recorder outcome ++ reply.lines) := by
        have hnone : settingsOrDefault session.withoutSettings.environment = ({}, warnings) :=
          hwarnings
        rw [openingLines, openingLines, hwarned, hnone, List.append_assoc, List.append_assoc]
        exact warned_record opened hcases outcome.lines reply.lines
      have hrecorder : reply.session.recorder = recorder := (kept_runWhenLoaded opened {}).2
      rw [hstart, hwithout]
      exact ⟨⟨rfl, rfl, hrecorder.symm ▸ hlines⟩, rfl⟩

end

/-! ### Whole sessions -/

/-- The other session is the same, or it is the same at a page that holds no settings where those
that the page holds cannot be had. -/
inductive Forgets : Session → Session → Prop where
  | same (session : Session) : Forgets session session
  | forgotten {session : Session} (h : session.environment.settings.Unusable) :
      Forgets session session.withoutSettings

theorem changed_withoutSettings (environment : Environment) (change : Environment.Change) :
    environment.withoutSettings.changed change = environment.changed change ∨
      change.settings = none ∧
        environment.withoutSettings.changed change =
          (environment.changed change).withoutSettings := by
  cases hsettings : change.settings with
  | some settings =>
      left
      simp only [Environment.changed, hsettings]
      rfl
  | none =>
      right
      refine ⟨rfl, ?_⟩
      simp only [Environment.changed, hsettings]
      rfl

section

variable [Browser] [Log.PatternEngine]

/-- One action, at a page whose settings cannot be had and at one that holds none. -/
theorem Forgets.perform {a b : Session} (h : a.Forgets b) {action : Action}
    (haction : action ≠ .readSettings) :
    (a.perform action).SameButWarned (b.perform action) ∧
      (a.perform action).session.Forgets (b.perform action).session := by
  cases h with
  | same => exact ⟨⟨rfl, rfl, .inl rfl⟩, .same _⟩
  | forgotten h =>
      -- what changes no settings leaves them as they are, so there is still something to forget
      have hforgets : (∀ change, action ≠ .changeEnvironment change) →
          (a.perform action).session.Forgets (a.perform action).session.withoutSettings := by
        intro hchange
        refine .forgotten ?_
        rw [environment_perform a hchange]
        exact h
      by_cases hconcerns : action.ConcernsSettings
      · cases action with
        | start =>
            obtain ⟨hreply, hsession⟩ := start_withoutSettings h
            refine ⟨hreply, ?_⟩
            rw [hsession]
            exact hforgets (by simp)
        | refresh =>
            obtain ⟨hreply, hsession⟩ := refresh_withoutSettings h
            refine ⟨hreply.map _, ?_⟩
            show Forgets _ (a.withoutSettings.refresh.session)
            rw [hsession]
            exact hforgets (by simp)
        | readSettings => exact absurd rfl haction
        | changeEnvironment change =>
            refine ⟨⟨rfl, rfl, .inl rfl⟩, ?_⟩
            let changed : Session := { a with environment := a.environment.changed change }
            show changed.Forgets
              { a with environment := a.environment.withoutSettings.changed change }
            rcases changed_withoutSettings a.environment change with hsame | ⟨hnone, hforgotten⟩
            · rw [hsame]
              exact .same changed
            · rw [hforgotten]
              have hkept : changed.environment.settings = a.environment.settings := by
                simp only [changed, Environment.changed, hnone, Option.getD_none]
              exact .forgotten (hkept ▸ h)
        | _ => exact absurd hconcerns id
      · rw [perform_withoutSettings a hconcerns]
        refine ⟨Reply.sameButWarned_withoutSettings _, hforgets ?_⟩
        rintro change rfl
        exact hconcerns trivial

def replies (session : Session) : List Action → List (Reply Answer)
  | [] => []
  | action :: rest => session.perform action :: (session.perform action).session.replies rest

theorem Forgets.replies {a b : Session} (h : a.Forgets b) {actions : List Action}
    (hactions : ∀ action ∈ actions, action ≠ .readSettings) :
    List.Forall₂ Reply.SameButWarned (a.replies actions) (b.replies actions) := by
  induction actions generalizing a b with
  | nil => exact .nil
  | cons action rest ih =>
      obtain ⟨hreply, hsession⟩ := h.perform (hactions action List.mem_cons_self)
      exact .cons hreply (ih hsession fun other hother =>
        hactions other (List.mem_cons_of_mem action hother))

/-- Settings that cannot be had, be it for one member among others that could, have no effect but
warnings: every answer and every page, to the last of any actions, are those of a page that holds no
settings. -/
theorem replies_of_unusable :
    (∀ members, (PageSettings.given (.object members)).Unusable ↔
      ∃ key value, Json.member? members (Settings.Key.name key) = some value ∧
        ∀ text, value ≠ .string text) ∧
    ∀ (session : Session) (actions : List Action), session.environment.settings.Unusable →
      (∀ action ∈ actions, action ≠ .readSettings) →
      List.Forall₂ Reply.SameButWarned (session.replies actions)
        (session.withoutSettings.replies actions) :=
  ⟨fun _ => PageSettings.unusable_object_iff,
    fun _ _ hunusable hactions => (Forgets.forgotten hunusable).replies hactions⟩

end

/-- A page that could choose its class and its filter, but names a selector by a truth value. -/
def mistypedPage : Session :=
  { linkedPage true with
    environment := { (linkedPage true).environment with
      settings := .given (.object [("activeClass", .string "here"), ("navSelector", .bool true),
        ("logFilter", .string "trace")]) } }

theorem replies_of_unusable_mistypedPage :
    let actions := [.start, .windowEvent "DOMContentLoaded", .refresh, .type "input" "1" "input"]
    mistypedPage.environment.settings.Unusable ∧
      List.Forall₂ Reply.SameButWarned (mistypedPage.replies actions)
        (mistypedPage.withoutSettings.replies actions) ∧
      (mistypedPage.replies actions).map (fun reply =>
          reply.session.page.content.toList.map (·.attribute? "class")) =
        List.replicate 4 [some "sidebar__nav", some "nav__item is-active"] := by
  intro actions
  have hunusable : mistypedPage.environment.settings.Unusable :=
    (replies_of_unusable.1 _).mpr ⟨.navSelector, .bool true, rfl, fun _ => nofun⟩
  have hactions : ∀ action ∈ actions, action ≠ .readSettings := by simp [actions]
  exact ⟨hunusable, replies_of_unusable.2 mistypedPage actions hunusable hactions,
    by decide +kernel⟩

end Session

end PageSync
