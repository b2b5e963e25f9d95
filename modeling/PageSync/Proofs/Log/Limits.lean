import PageSync.Proofs.Log.Reading
import PageSync.Proofs.Log.Spans

/-!
The limits of a whole filter. They are checked before the directives are looked at and bound what
any of these lets through, also what an entered span lets through, whatever values it was entered
with; so they never decide on an event (`Filter.allowsEvent_ofDirectives`). Nor does the level up to
which a process looks at records at all (`Recorder.allowsEvent_eq`), which further calls for a
filter may raise.
-/

namespace PageSync.Log

namespace Limit

theorem allows_of_rank_le {limit : Limit} {level other : Level} (h : limit.allows level = true)
    (hrank : other.rank ≤ level.rank) : limit.allows other = true := by
  simp only [allows, decide_eq_true_eq] at h ⊢
  exact Nat.le_trans hrank h

end Limit

/-! ### What a filter lets through -/

namespace Filter

variable {directives : List Directive} {directive : Directive} {level : Level}

theorem allows_staticLimit (hmem : directive ∈ (ofDirectives directives).statics)
    (h : directive.limit.allows level) : (ofDirectives directives).staticLimit.allows level := by
  simp only [ofDirectives] at hmem ⊢
  rw [Limit.allows_maximum, List.any_map, List.any_eq_true]
  exact ⟨directive, mem_of_mem_sortBy hmem, h⟩

theorem allows_dynamicLimit (hmem : directive ∈ (ofDirectives directives).dynamics)
    (h : directive.limit.allows level) : (ofDirectives directives).dynamicLimit.allows level := by
  simp only [ofDirectives] at hmem ⊢
  rw [Limit.allows_maximum, List.any_map, List.any_eq_true]
  exact ⟨directive, mem_of_mem_sortBy hmem, h⟩

/-- What an entered span lets through is bounded, whatever values it was entered with. -/
theorem allows_dynamicLimit_of_contribution [PatternEngine] {span : Span}
    (h : ((ofDirectives directives).contribution span).allows level) :
    (ofDirectives directives).dynamicLimit.allows level := by
  rw [contribution, Limit.allows_maximum, List.any_map, List.any_eq_true] at h
  obtain ⟨directive, hholds, h⟩ := h
  have habout := (List.mem_filter.mp hholds).1
  exact allows_dynamicLimit (List.mem_filter.mp habout).1 h

theorem allows_limit {filter : Filter}
    (h : filter.staticLimit.allows level ∨ filter.dynamicLimit.allows level) :
    filter.limit.allows level := by
  rw [limit]
  split
  · exact Limit.allows_trace level
  · rwa [Limit.allows_max, Bool.or_eq_true]

/-- A filter lets no event through that is beyond its limit. -/
theorem allows_limit_of_allowsEvent {filter : Filter} {scope : List Limit} {event : Event}
    (h : filter.allowsEvent scope event) : filter.limit.allows event.level := by
  rw [allowsEvent, Bool.or_eq_true] at h
  rcases h with h | h
  · exact allows_limit (.inl ((Bool.and_eq_true _ _).mp h).1)
  · exact allows_limit (.inr ((Bool.and_eq_true _ _).mp h).1)

/-- The limit of the static directives does not decide on an event. -/
theorem allowsByTarget_ofDirectives (event : Event) :
    (ofDirectives directives).allowsByTarget event =
      ((ofDirectives directives).statics.find? (·.coversEvent event)).any
        (·.limit.allows event.level) := by
  rw [allowsByTarget, Bool.eq_iff_iff, Bool.and_eq_true, and_iff_right_iff_imp]
  intro h
  obtain ⟨directive, hfind, hallows⟩ := (Option.any_eq_true _ _).mp h
  exact allows_staticLimit (List.mem_of_find?_eq_some hfind) hallows

/-- The limits of the two tables do not decide on an event. -/
theorem allowsEvent_ofDirectives [PatternEngine] {scope : List Limit} {event : Event}
    (hscope : ∀ limit ∈ scope, ∃ span, limit = (ofDirectives directives).contribution span) :
    (ofDirectives directives).allowsEvent scope event =
      (((ofDirectives directives).statics.find? (·.coversEvent event)).any
          (·.limit.allows event.level) || scope.any (·.allows event.level)) := by
  have hbyScope : (ofDirectives directives).allowsByScope scope event.level =
      scope.any (·.allows event.level) := by
    rw [allowsByScope, Bool.eq_iff_iff, Bool.and_eq_true, and_iff_right_iff_imp]
    intro h
    obtain ⟨limit, hmem, hallows⟩ := List.any_eq_true.mp h
    obtain ⟨span, rfl⟩ := hscope limit hmem
    exact allows_dynamicLimit_of_contribution hallows
  rw [allowsEvent, allowsByTarget_ofDirectives, hbyScope]

theorem exists_ofText_eq [PatternEngine] (text : String) :
    ∃ directives, ofText text = ofDirectives directives := by
  rw [ofText_eq, toOption_read]
  cases (Text.words (· == ',') text.toList).mapM Directive.read? with
  | none => exact ⟨[.ofLimit (.upTo .warn)], rfl⟩
  | some directives => exact ⟨directives, rfl⟩

end Filter

/-! ### Events in a run -/

namespace Recorder

/-- How far the process looks does not decide on an event: it looks as far as the filter asks. -/
theorem allowsEvent_eq (recorder : Recorder) (event : Event) : recorder.allowsEvent event =
    recorder.filter.any fun filter => filter.allowsEvent recorder.scope event := by
  rw [allowsEvent]
  congr 1
  funext filter
  rw [Bool.and_eq_right_iff_imp]
  intro h
  rw [ceiling, Limit.allows_max, Filter.allows_limit_of_allowsEvent h, Bool.true_or]

section

variable [PatternEngine]

/-- The limits in scope are those of the spans that count. -/
theorem mem_scope_iff {text : String} {before : List Step} {limit : Limit} :
    limit ∈ ((ofText text).run before).1.scope ↔
      ∃ front span, (ofText text).Holds before front span ∧
        limit = (Filter.ofText text).contribution span := by
  rw [scope, spans_run_ofText, List.filterMap_map, List.mem_filterMap]
  constructor
  · rintro ⟨⟨front, span⟩, hmem, hlimit⟩
    obtain ⟨entry, hentry, rfl⟩ := Option.map_eq_some_iff.mp hlimit
    refine ⟨front, span, holds_iff.mpr ⟨hmem, hentry ▸ rfl⟩, ?_⟩
    rw [entryOf_ofText_eq hentry]
  · rintro ⟨front, span, hholds, rfl⟩
    obtain ⟨hmem, htook⟩ := holds_iff.mp hholds
    obtain ⟨entry, hentry⟩ := Option.isSome_iff_exists.mp htook
    refine ⟨(front, span), hmem, Option.map_eq_some_iff.mpr ⟨entry, hentry, ?_⟩⟩
    rw [entryOf_ofText_eq hentry]

theorem step_event_took {text : String} {before : List Step} {event : Event} {parent : Parent} :
    ((((ofText text).run before).1.step (.event event parent)).2.took = true) ↔
      ((Filter.ofText text).statics.find? (·.coversEvent event)).any
          (·.limit.allows event.level) = true ∨
        ∃ front span, (ofText text).Holds before front span ∧
          ((Filter.ofText text).contribution span).allows event.level = true := by
  have hfilter : ((ofText text).run before).1.filter = some (Filter.ofText text) := filter_run _ _
  have htook : (((ofText text).run before).1.step (.event event parent)).2.took =
      (Filter.ofText text).allowsEvent ((ofText text).run before).1.scope event := by
    rw [step, allowsEvent_eq, hfilter, Option.any_some]
  obtain ⟨directives, heq⟩ := Filter.exists_ofText_eq text
  -- what is in scope was contributed by spans, so no level of it is beyond the limit of the dynamic
  -- directives
  have hscope : ∀ limit ∈ ((ofText text).run before).1.scope,
      ∃ span, limit = (Filter.ofDirectives directives).contribution span := by
    intro limit hmem
    obtain ⟨_, span, _, hlimit⟩ := mem_scope_iff.mp hmem
    exact ⟨span, heq ▸ hlimit⟩
  rw [htook, heq, Filter.allowsEvent_ofDirectives hscope, Bool.or_eq_true, ← heq, List.any_eq_true]
  simp only [mem_scope_iff]
  refine or_congr_right ⟨?_, ?_⟩
  · rintro ⟨_, ⟨front, span, hholds, rfl⟩, hallows⟩
    exact ⟨front, span, hholds, hallows⟩
  · rintro ⟨front, span, hholds, hallows⟩
    exact ⟨_, ⟨front, span, hholds, rfl⟩, hallows⟩

/-- An event is let through by the first static directive about it, or by a span that is entered.
So it is let through too if it is less verbose. -/
theorem took_event_iff (text : String) (before : List Step) (event : Event) (parent : Parent) :
    let filter := Filter.ofText text
    let recorder := ((ofText text).run before).1
    ((recorder.step (.event event parent)).2.took = true ↔
      (filter.statics.find? (·.coversEvent event)).any (·.limit.allows event.level) = true ∨
        ∃ front span, (ofText text).Holds before front span ∧
          (filter.contribution span).allows event.level = true) ∧
    ∀ level : Level, level.rank ≤ event.level.rank →
      (recorder.step (.event event parent)).2.took = true →
        (recorder.step (.event { event with level := level } parent)).2.took = true := by
  intro filter recorder
  refine ⟨step_event_took, fun level hrank htook => ?_⟩
  rcases step_event_took.mp htook with hstatic | ⟨front, span, hholds, hallows⟩
  · obtain ⟨directive, hfind, hallows⟩ := (Option.any_eq_true _ _).mp hstatic
    refine step_event_took.mpr (.inl ((Option.any_eq_true _ _).mpr ⟨directive, hfind, ?_⟩))
    exact Limit.allows_of_rank_le hallows hrank
  · exact step_event_took.mpr
      (.inr ⟨front, span, hholds, Limit.allows_of_rank_le hallows hrank⟩)

end

def request : Span := ⟨"request", .info, "app", [⟨"id", .unsigned 7⟩]⟩

def valued : String := "app=warn,[request\x7bid=7\x7d]=debug"

/-- A span with the value asked for lets an event through that the static directive refuses. -/
theorem took_event_iff_valued :
    let recorder := ((ofText valued).run [.enter request]).1
    (recorder.step (.event ⟨.debug, "app", []⟩ .root)).2.took = true ∧
      (∃ front span, (ofText valued).Holds [.enter request] front span ∧
        ((Filter.ofText valued).contribution span).allows .debug = true) ∧
      Level.info.rank ≤ Level.debug.rank ∧
      (recorder.step (.event ⟨.info, "app", []⟩ .root)).2.took = true := by
  intro recorder
  obtain ⟨hiff, hless⟩ := took_event_iff valued [.enter request] ⟨.debug, "app", []⟩ .root
  have htook : (recorder.step (.event ⟨.debug, "app", []⟩ .root)).2.took = true := by
    decide +kernel
  have hstatic : ¬((Filter.ofText valued).statics.find? (·.coversEvent ⟨.debug, "app", []⟩)).any
      (·.limit.allows .debug) = true := by
    decide +kernel
  exact ⟨htook, (hiff.mp htook).resolve_left hstatic, by decide, hless .info (by decide) htook⟩

end Recorder

end PageSync.Log
