import PageSync.Log.Process
import PageSync.Proofs.Log.Formatting
import PageSync.Proofs.Log.Limits

/-!
Calls for a filter. Only the first one installs a filter. A later one is refused, but if its filter
was built the process looks as far as that filter asks (`raisedBy`). This decides on no event
(`Recorder.allowsEvent_eq`), but on spans: a span beyond the limit of the installed filter is let
through if dynamic directives are about it and the process looks that far. So the answers and the
text are those of the first call alone exactly if no later call makes the process look further, or
the first filter has no dynamic directives (`transcript_eq_iff`).
-/

namespace PageSync.Log

theorem Limit.max_eq_left {a b : Limit} (h : b.rank ≤ a.rank) : a.max b = a :=
  if_neg (Nat.not_lt.mpr h)

/-- A filter lets no span through that is beyond its limit, unless dynamic directives are about
it. -/
theorem Filter.allows_limit_of_allowsSpan {filter : Filter} {scope : List Limit} {span : Span}
    (h : filter.allowsSpan scope span) (habout : filter.about span = []) :
    filter.limit.allows span.level := by
  simp only [allowsSpan, habout, List.isEmpty_nil, Bool.not_true, Bool.false_or,
    Bool.or_eq_true] at h
  rcases h with h | h
  · exact allows_limit (.inl ((Bool.and_eq_true _ _).mp h).1)
  · exact allows_limit (.inr ((Bool.and_eq_true _ _).mp h).1)

/-- There are spans of any level that a dynamic directive is about. -/
theorem Filter.exists_about {filter : Filter} (h : filter.dynamics ≠ []) (level : Level) :
    ∃ span : Span, span.level = level ∧ filter.about span ≠ [] := by
  obtain ⟨directive, hmem⟩ := List.exists_mem_of_ne_nil _ h
  refine ⟨⟨directive.span.getD "", level, directive.target.getD "",
    directive.field.toList.map fun test => ⟨test.name, .bool true⟩⟩, rfl, ?_⟩
  refine List.ne_nil_of_mem (List.mem_filter.mpr ⟨hmem, ?_⟩)
  obtain ⟨target, span, field, _⟩ := directive
  cases target <;> cases span <;> cases field <;>
    simp [Directive.coversSpan, Directive.coversTarget, Directive.coversFields]

namespace Recorder

/-! ### The line about an installation -/

/-- Where no span is entered the filter alone decides on an event. -/
theorem lines_of_filter {recorder : Recorder} {filter : Filter}
    (hfilter : recorder.filter = some filter) (hspans : recorder.spans = []) (event : Event) :
    recorder.lines event .current =
      if filter.allowsEvent [] event then [event.line none] else [] := by
  rw [lines, allowsEvent_eq, hfilter, Option.any_some, scope, parentName, hspans]
  rfl

theorem text_installation (app directive : String) :
    ((installation app directive).line none).text =
      "DEBUG console_logger - console logger initialized for " ++ app ++ " filter=\"" ++
        directive ++ "\"" := by
  have hne : "console logger initialized for " ++ app ≠ "" := by
    intro hempty
    simpa using congrArg String.toList hempty
  have hcollect : Collector.collect (installation app directive).fields =
      { message := "console logger initialized for " ++ app
        fields := ["filter=" ++ ("\"" ++ directive ++ "\"")] } := rfl
  simp only [Event.line, hcollect]
  rw [separated_eq, if_neg hne, ← String.toList_inj]
  simp [installation, Level.name]

section

variable [PatternEngine]

/-! ### Calls for a filter -/

/-- How far refused calls make the process look: as the last of them asks whose filter is built. -/
def raisedBy (raised : Limit) : List (String × String) → Limit
  | [] => raised
  | (_, directive) :: rest =>
    raisedBy (((Filter.ofText? directive).map Filter.limit).getD raised) rest

def refused (calls : List (String × String)) : List (Option Outcome) :=
  calls.map fun call => (Filter.ofText? call.2).map fun _ => ⟨false, []⟩

theorem took_refused (calls : List (String × String)) :
    (refused calls).map (fun outcome => outcome.map Outcome.took) =
      calls.map fun call => (Filter.ofText? call.2).map fun _ => false := by
  rw [refused, List.map_map]
  simp only [Function.comp_def, Option.map_map]

theorem lines_refused (calls : List (String × String)) :
    ((refused calls).filterMap id).flatMap Outcome.lines = [] := by
  rw [List.flatMap_eq_nil_iff]
  intro outcome houtcome
  obtain ⟨answer, hanswer, houtcome⟩ := List.mem_filterMap.mp houtcome
  obtain ⟨call, _, rfl⟩ := List.mem_map.mp hanswer
  obtain ⟨_, _, rfl⟩ := Option.map_eq_some_iff.mp houtcome
  rfl

theorem install?_of_filter {recorder : Recorder} {filter : Filter}
    (h : recorder.filter = some filter) (app directive : String) :
    recorder.install? app directive = (Filter.ofText? directive).map fun other =>
      ({ recorder with raised := other.limit }, ⟨false, []⟩) := by
  rw [install?, h]

theorem installAll_of_filter {recorder : Recorder} {filter : Filter}
    (h : recorder.filter = some filter) (calls : List (String × String)) :
    recorder.installAll calls =
      ({ recorder with raised := raisedBy recorder.raised calls }, refused calls) := by
  induction calls generalizing recorder with
  | nil => rfl
  | cons call calls ih =>
      obtain ⟨app, directive⟩ := call
      rw [installAll, install?_of_filter h, refused, List.map_cons, raisedBy]
      cases Filter.ofText? directive with
      | none => simp only [Option.map_none, Option.getD_none, ih h, refused]
      | some other =>
          have hnext : ({ recorder with raised := other.limit } : Recorder).filter = some filter :=
            h
          simp only [Option.map_some, Option.getD_some, ih hnext, refused]

/-- The first call installs its filter and tells of it, the others are refused. -/
theorem installAll_cons {directive : String} {filter : Filter}
    (hfilter : Filter.ofText? directive = some filter) (app : String)
    (later : List (String × String)) :
    let installed : Recorder := { filter := some filter }
    ({} : Recorder).installAll ((app, directive) :: later) =
      ({ installed with raised := raisedBy .off later },
        some ⟨true, installed.lines (installation app directive) .current⟩ :: refused later) := by
  intro installed
  have hfirst : ({} : Recorder).install? app directive =
      some (installed, ⟨true, installed.lines (installation app directive) .current⟩) := by
    rw [install?, hfilter]
    rfl
  have hinstalled : installed.filter = some filter := rfl
  simp only [installAll, hfirst, installAll_of_filter hinstalled]
  rfl

/-! ### Steps -/

/-- The events among the steps that the filter lets through, in order, each with the name of the
span that it belongs to. -/
def heard (recorder : Recorder) : List Step → List (Event × Option String)
  | [] => []
  | .event event parent :: rest =>
    if recorder.allowsEvent event then (event, recorder.parentName parent) :: recorder.heard rest
    else recorder.heard rest
  | step :: rest => (recorder.step step).1.heard rest

/-- A step that is no event writes nothing, and an event that is let through writes its line. -/
theorem lines_run (recorder : Recorder) (steps : List Step) :
    (recorder.run steps).2.flatMap Outcome.lines =
      (recorder.heard steps).map fun (event, span) => event.line span := by
  induction steps generalizing recorder with
  | nil => rfl
  | cons step rest ih =>
      rw [run_cons, List.flatMap_cons, ih]
      cases step with
      | enter span => rfl
      | exit => rfl
      | record fields => rfl
      | event event parent =>
          by_cases hallowed : recorder.allowsEvent event = true
          · simp only [step, lines, heard, if_pos hallowed]
            rfl
          · simp only [step, lines, heard, if_neg hallowed]
            rfl

/-! ### How far the process looks -/

/-- A recorder in a process that looks as far as the filter asks. -/
def lowered (recorder : Recorder) : Recorder := { recorder with raised := .off }

/-- The process shows the filter nothing beyond its limit, or the filter makes nothing of it. -/
def Unmoved (filter : Filter) (raised : Limit) : Prop :=
  filter.dynamics = [] ∨ raised.rank ≤ filter.limit.rank

omit [PatternEngine] in
theorem allowsEvent_lowered (recorder : Recorder) (event : Event) :
    recorder.lowered.allowsEvent event = recorder.allowsEvent event := by
  rw [allowsEvent_eq, allowsEvent_eq]
  rfl

omit [PatternEngine] in
theorem allowsSpan_lowered {recorder : Recorder} {filter : Filter}
    (h : Unmoved filter recorder.raised) (span : Span) :
    recorder.lowered.allowsSpan filter span = recorder.allowsSpan filter span := by
  have hscope : recorder.lowered.scope = recorder.scope := rfl
  have hoff : recorder.lowered.ceiling filter = filter.limit := Limit.max_eq_left (Nat.zero_le _)
  rw [allowsSpan, allowsSpan, hscope, hoff]
  rcases h with hnone | hrank
  · have habout : filter.about span = [] := by rw [Filter.about, hnone, List.filter_nil]
    cases hspan : filter.allowsSpan recorder.scope span with
    | false => rw [Bool.and_false, Bool.and_false]
    | true =>
        have hlimit := Filter.allows_limit_of_allowsSpan hspan habout
        rw [ceiling, Limit.allows_max, hlimit, Bool.true_or]
  · rw [ceiling, Limit.max_eq_left hrank]

theorem entered_lowered {recorder : Recorder} {filter : Filter}
    (hfilter : recorder.filter = some filter) (h : Unmoved filter recorder.raised)
    (span : Span) : recorder.lowered.entered span = recorder.entered span := by
  have hlowered : recorder.lowered.filter = some filter := hfilter
  rw [entered, entered, hfilter, hlowered, Option.bind_some, Option.bind_some,
    allowsSpan_lowered h]

theorem step_lowered {recorder : Recorder} {filter : Filter}
    (hfilter : recorder.filter = some filter) (h : Unmoved filter recorder.raised)
    (step : Step) : recorder.lowered.step step =
      ((recorder.step step).1.lowered, (recorder.step step).2) := by
  cases step with
  | enter span =>
      rw [step, step, enter, enter, entered_lowered hfilter h]
      rfl
  | exit => rfl
  | record fields => rfl
  | event event parent =>
      rw [step, step, lines, lines, allowsEvent_lowered]
      rfl

theorem run_lowered {recorder : Recorder} {filter : Filter}
    (hfilter : recorder.filter = some filter) (h : Unmoved filter recorder.raised)
    (steps : List Step) : recorder.lowered.run steps =
      ((recorder.run steps).1.lowered, (recorder.run steps).2) := by
  induction steps generalizing recorder with
  | nil => rfl
  | cons step rest ih =>
      have hnext := ih ((filter_step recorder step).trans hfilter)
        (by rwa [raised_step])
      rw [run_cons, run_cons, step_lowered hfilter h, hnext]

/-- Otherwise some span is let through only for the sake of the later calls. -/
theorem exists_took_lowered {recorder : Recorder} {filter : Filter}
    (hfilter : recorder.filter = some filter) (h : ¬Unmoved filter recorder.raised) :
    ∃ span, (recorder.step (.enter span)).2.took = true ∧
      (recorder.lowered.step (.enter span)).2.took = false := by
  rw [Unmoved, not_or, Nat.not_le] at h
  obtain ⟨hdynamics, hrank⟩ := h
  cases hraised : recorder.raised with
  | off =>
      rw [hraised] at hrank
      exact absurd hrank (Nat.not_lt_zero _)
  | upTo level =>
      rw [hraised] at hrank
      -- a span at the level to which the calls have raised the process, and which a directive is
      -- about
      obtain ⟨span, hlevel, habout⟩ := filter.exists_about hdynamics level
      have hallows : (recorder.ceiling filter).allows span.level = true := by
        rw [ceiling, hraised, Limit.allows_max, hlevel, Bool.or_eq_true]
        exact .inr (decide_eq_true (Nat.le_refl _))
      have hbeyond : (recorder.lowered.ceiling filter).allows span.level = false := by
        have hoff : recorder.lowered.ceiling filter = filter.limit :=
          Limit.max_eq_left (Nat.zero_le _)
        rw [hoff, hlevel]
        exact decide_eq_false (Nat.not_le.mpr hrank)
      have hspan : filter.allowsSpan recorder.scope span = true := by
        rw [Filter.allowsSpan, List.isEmpty_eq_false_iff.mpr habout]
        rfl
      have hlowered : recorder.lowered.filter = some filter := hfilter
      refine ⟨span, ?_, ?_⟩
      · simp only [step, entered, hfilter, Option.bind_some, allowsSpan, hallows, hspan,
          Bool.and_self, if_true, Option.isSome_some]
      · simp only [step, entered, hlowered, Option.bind_some, allowsSpan, hbeyond,
          Bool.false_and, Bool.false_eq_true, if_false, Option.isSome_none]

/-! ### Whole processes -/

/-- What a process writes whose first call for a filter is this one: the line about the installation
if the new filter lets it through, and a line for each event that is let through. -/
def written (filter : Filter) (raised : Limit) (app directive : String) (steps : List Step) :
    List Line :=
  let opening := installation app directive
  (if filter.allowsEvent [] opening then [opening.line none] else []) ++
    (({ filter := some filter, raised := raised } : Recorder).heard steps).map
      fun (event, span) => event.line span

theorem transcript_cons {directive : String} {filter : Filter}
    (hfilter : Filter.ofText? directive = some filter) (app : String)
    (later : List (String × String)) (steps : List Step) :
    transcript ((app, directive) :: later) steps =
      { installed :=
          some true :: later.map fun call => (Filter.ofText? call.2).map fun _ => false
        took := (({ filter := some filter, raised := raisedBy .off later } : Recorder).run
          steps).2.map Outcome.took
        text := textOfLines (written filter (raisedBy .off later) app directive steps) } := by
  have hinstalled : ({ filter := some filter } : Recorder).filter = some filter := rfl
  have hopening := lines_of_filter hinstalled rfl (installation app directive)
  rw [transcript, installAll_cons hfilter, hopening]
  dsimp only
  rw [List.filterMap_cons_some (f := id) rfl, List.cons_append, List.flatMap_cons,
    List.flatMap_append, lines_refused, List.nil_append, lines_run, List.map_cons, took_refused]
  rfl

/-- The transcript that the first call alone would lead to, with refusals for the later calls. -/
def transcriptOfFirst (app directive : String) (later : List (String × String))
    (steps : List Step) : Transcript :=
  { transcript [(app, directive)] steps with
    installed := some true :: later.map fun _ => some false }

/-- The later calls are refused without further effect exactly if the filters of all calls are
built and the first is shown nothing more that it makes something of. -/
theorem transcript_eq_iff (app directive : String) (later : List (String × String)) :
    (∀ steps, transcript ((app, directive) :: later) steps =
        transcriptOfFirst app directive later steps) ↔
      ∃ filter, Filter.ofText? directive = some filter ∧
        (∀ call ∈ later, (Filter.ofText? call.2).isSome) ∧
        Unmoved filter (raisedBy .off later) := by
  constructor
  · intro hsame
    -- what the steps do not tell, the answers to the calls do
    cases hfilter : Filter.ofText? directive with
    | none =>
        have hinstalled := congrArg Transcript.installed (hsame [])
        have hfirst : ({} : Recorder).install? app directive = none := by
          rw [install?, hfilter]
          rfl
        simp only [transcript, installAll, hfirst, List.map_cons, Option.map_none,
          transcriptOfFirst] at hinstalled
        exact absurd (List.cons.inj hinstalled).1 nofun
    | some filter =>
        refine ⟨filter, rfl, ?_, ?_⟩
        · have hinstalled := congrArg Transcript.installed (hsame [])
          rw [transcript_cons hfilter, transcriptOfFirst, List.cons.injEq, List.map_inj_left]
            at hinstalled
          intro call hcall
          obtain ⟨other, hother, _⟩ := Option.map_eq_some_iff.mp (hinstalled.2 call hcall)
          rw [hother]
          rfl
        · -- one span tells the recorders apart
          by_contra hfurther
          let recorder : Recorder := { filter := some filter, raised := raisedBy .off later }
          obtain ⟨span, htook, hrefused⟩ :=
            exists_took_lowered (show recorder.filter = some filter from rfl) hfurther
          have hanswers := congrArg Transcript.took (hsame [.enter span])
          rw [transcript_cons hfilter, transcriptOfFirst, transcript_cons hfilter] at hanswers
          have hanswer : (recorder.step (.enter span)).2.took =
              (recorder.lowered.step (.enter span)).2.took := (List.cons.inj hanswers).1
          rw [htook, hrefused] at hanswer
          contradiction
  · rintro ⟨filter, hfilter, hlater, hno⟩ steps
    let recorder : Recorder := { filter := some filter, raised := raisedBy .off later }
    have hrun := run_lowered (show recorder.filter = some filter from rfl) hno steps
    have houtcomes : (recorder.lowered.run steps).2 = (recorder.run steps).2 := by rw [hrun]
    have hanswers : (later.map fun call => (Filter.ofText? call.2).map fun _ => false) =
        later.map fun _ => some false := by
      refine List.map_congr_left fun call hcall => ?_
      obtain ⟨other, hother⟩ := Option.isSome_iff_exists.mp (hlater call hcall)
      rw [hother]
      rfl
    have hheard : (recorder.heard steps).map (fun (event, span) => event.line span) =
        (recorder.lowered.heard steps).map fun (event, span) => event.line span := by
      rw [← lines_run, ← lines_run, houtcomes]
    have hwritten : written filter (raisedBy .off later) app directive steps =
        written filter (raisedBy .off []) app directive steps :=
      congrArg (fun lines => _ ++ lines) hheard
    rw [transcriptOfFirst, transcript_cons hfilter, transcript_cons hfilter, hanswers, hwritten,
      ← houtcomes]
    rfl

end

end Recorder

end PageSync.Log
