import PageSync.Proofs.Log.Order

/-!
Filters of levels and of targets with levels. On an event the longest target decides that its own
target begins with, and of repeats of that one the last (`Decides`); a level alone stands for the
empty target, which everything begins with. The filter keeps the longest target in bytes first, and
compares equally long ones by their texts; among targets that begin one text, the longer one has
more bytes, and no two are equally long.
-/

namespace PageSync.Log

open Text

/-! ### Levels -/

namespace Directive

theorem startsTarget_of_isAlphanum {c : Char} (h : c.isAlphanum = true) :
    startsTarget c = true := by
  have hascii : c.toNat < 0x80 := by
    have hranges := toNat_of_isAlphanum h
    omega
  simp [startsTarget, isAlphanumeric_of_isAlphanum h hascii]

theorem isBlank_of_startsTarget {c : Char} (h : startsTarget c = true) : isBlank c = false := by
  simp only [startsTarget, Bool.or_eq_true, beq_iff_eq] at h
  rcases h with ((rfl | rfl) | rfl) | h
  · rfl
  · rfl
  · rfl
  · exact isBlank_of_isAlphanumeric h

end Directive

namespace Limit

theorem isAlphanum_of_mem_text (limit : Limit) :
    ∀ c ∈ limit.text.toList, c.isAlphanum = true := by
  have hall : limit.text.toList.all Char.isAlphanum = true := by
    rcases limit with _ | level
    · rfl
    · cases level <;> rfl
  exact List.all_eq_true.mp hall

namespace Spells

variable {limit : Limit} {text : List Char} (h : limit.Spells text)

include h

/-- Levels are written in letters and digits, but for the sign. -/
theorem isAlphanum : ∀ c ∈ text, c = '+' ∨ c.isAlphanum = true := by
  intro c hc
  cases h with
  | name hname =>
      right
      -- a letter of a name in any case is one of the lower-case name, or its capital
      have hlower : c.toLower ∈ limit.text.toList := hname ▸ List.mem_map_of_mem hc
      by_cases hupper : c.isUpper = true
      · have hletter : (c.isUpper || c.isLower || c.isDigit) = true := by
          rw [hupper]
          rfl
        exact hletter
      · have hself : c.toLower = c := dif_neg fun hrange =>
          hupper (decide_eq_true hrange)
        exact limit.isAlphanum_of_mem_text c (hself ▸ hlower)
  | rank hsign _ hdigits _ =>
      rcases List.mem_append.mp hc with hmem | hmem
      · left
        rcases hsign with rfl | rfl
        · contradiction
        · exact List.mem_singleton.mp hmem
      · right
        simp [Char.isAlphanum, hdigits c hmem]

theorem isBlank_eq_false : ∀ c ∈ text, isBlank c = false := by
  intro c hc
  rcases h.isAlphanum c hc with rfl | halphanum
  · rfl
  · exact Directive.isBlank_of_startsTarget (Directive.startsTarget_of_isAlphanum halphanum)

theorem comma_notMem : ',' ∉ text := by
  intro hmem
  rcases h.isAlphanum ',' hmem with heq | halphanum
  · exact absurd heq (by decide)
  · exact absurd halphanum (by decide)

theorem targetText (hsign : '+' ∉ text) : TargetText text := by
  have hall : ∀ c ∈ text, c.isAlphanum = true := fun c hc =>
    (h.isAlphanum c hc).resolve_left fun heq => hsign (heq ▸ hc)
  refine ⟨?_, fun c hc => ?_⟩
  · obtain ⟨c, rest, rfl⟩ := List.exists_cons_of_ne_nil h.ne_nil
    exact ⟨c, rfl, Directive.startsTarget_of_isAlphanum (hall c List.mem_cons_self)⟩
  · constructor
    all_goals
      rintro rfl
      exact absurd (hall _ hc) (by decide)

end Spells

end Limit

/-! ### Pieces -/

namespace Directive

/-- A level alone, or a target and a level. A level alone begins as a target does, so without a
sign. -/
inductive SpellsPlainly : Directive → List Char → Prop where
  | level {limit : Limit} {text : List Char} (hsign : '+' ∉ text) (h : limit.Spells text) :
      SpellsPlainly (ofLimit limit) text
  | target {target level : List Char} {limit : Limit} (htarget : TargetText target)
      (hcomma : ',' ∉ target) (h : limit.Spells level) :
      SpellsPlainly ⟨some (String.ofList target), none, none, limit⟩ (target ++ '=' :: level)

namespace SpellsPlainly

variable {directive : Directive} {piece : List Char} (h : directive.SpellsPlainly piece)

include h

theorem spells [PatternEngine] : directive.Spells piece := by
  cases h with
  | level hsign h => exact .limit (h.targetText hsign) h
  | target htarget _ h => exact .targetLimit htarget (.limit h)

theorem starts : ∃ c ∈ piece.head?, startsTarget c = true := by
  cases h with
  | level hsign h => exact (h.targetText hsign).starts
  | target htarget _ _ => exact htarget.starts_append _

theorem ne_nil : piece ≠ [] := by
  rintro rfl
  obtain ⟨c, hc, _⟩ := h.starts
  contradiction

theorem comma_notMem : ',' ∉ piece := by
  cases h with
  | level _ h => exact h.comma_notMem
  | target _ hcomma h => simp [hcomma, h.comma_notMem]

theorem unpadded : Unpadded piece := by
  refine ⟨fun c hc => ?_, fun c hc => ?_⟩
  · obtain ⟨first, hfirst, hstarts⟩ := h.starts
    obtain rfl := Option.mem_unique hfirst hc
    exact isBlank_of_startsTarget hstarts
  · cases h with
    | level _ h => exact h.isBlank_eq_false c (List.mem_of_mem_getLast? hc)
    | target _ _ h =>
        rw [List.getLast?_append_of_ne_nil _ (List.cons_ne_nil _ _),
          List.getLast?_cons_of_ne_nil h.ne_nil] at hc
        exact h.isBlank_eq_false c (List.mem_of_mem_getLast? hc)

theorem read? [PatternEngine] : Directive.read? piece = some directive :=
  (read?_eq_some_iff h.unpadded.trim_eq_self).mpr h.spells

end SpellsPlainly

/-! ### Targets -/

/-- A longer text that begins with a shorter one has more bytes. -/
theorem utf8ByteSize_lt_of_begins {text more : String} (h : text.toList <+: more.toList)
    (hlength : text.toList.length < more.toList.length) :
    text.utf8ByteSize < more.utf8ByteSize := by
  obtain ⟨rest, hrest⟩ := h
  have hmore : more = text ++ String.ofList rest := by
    rw [← String.toList_inj, String.toList_append, String.toList_ofList, hrest]
  have hne : String.ofList rest ≠ "" := by
    intro hempty
    rw [hmore, hempty, String.append_empty] at hlength
    exact absurd hlength (Nat.lt_irrefl _)
  have hbytes : (String.ofList rest).utf8ByteSize ≠ 0 := fun hzero =>
    hne (String.utf8ByteSize_eq_zero_iff.mp hzero)
  rw [hmore, String.utf8ByteSize_append]
  omega

structure Plain (directive : Directive) : Prop where
  span : directive.span = none
  field : directive.field = none
  target : directive.target ≠ some ""

theorem SpellsPlainly.plain {directive : Directive} {piece : List Char}
    (h : directive.SpellsPlainly piece) : directive.Plain := by
  cases h with
  | level => exact ⟨rfl, rfl, nofun⟩
  | target htarget =>
      refine ⟨rfl, rfl, fun hempty => ?_⟩
      rw [Option.some.injEq, ofList_eq_empty] at hempty
      obtain ⟨c, hc, _⟩ := htarget.starts
      rw [hempty] at hc
      contradiction

/-- What the targets begin with that a directive is about. -/
def beginning (directive : Directive) : List Char := (directive.target.getD "").toList

theorem coversTarget_iff {directive : Directive} {target : String} :
    directive.coversTarget target = true ↔ directive.beginning <+: target.toList := by
  rw [coversTarget, beginning]
  cases directive.target with
  | none => simp
  | some start => simp

namespace Plain

variable {a b : Directive}

theorem isDynamic_eq_false (h : a.Plain) : a.isDynamic = false := by
  rw [isDynamic, h.span, h.field]
  rfl

theorem isExact (h : a.Plain) : a.isExact = true := by
  rw [Directive.isExact, h.field]
  rfl

theorem coversEvent_iff (h : a.Plain) {event : Event} :
    a.coversEvent event = true ↔ a.beginning <+: event.target.toList := by
  rw [coversEvent, coversFields, h.field, Option.all_none, Bool.and_true, coversTarget_iff]

theorem exactly_eq (ha : a.Plain) (hb : b.Plain) : a.exactly b =
    (compareTargets a.target b.target).then (compareOption compareText a.target b.target) := by
  obtain ⟨target, span, field, _⟩ := a
  obtain ⟨target', span', field', _⟩ := b
  obtain rfl : span = none := ha.span
  obtain rfl : field = none := ha.field
  obtain rfl : span' = none := hb.span
  obtain rfl : field' = none := hb.field
  simp [exactly, exact, specificity, compareOption]

theorem exactly_eq_eq_iff (ha : a.Plain) (hb : b.Plain) :
    a.exactly b = .eq ↔ a.target = b.target := by
  constructor
  · exact fun h => (scope_of_exactly h).1
  · intro h
    rw [ha.exactly_eq hb, ← h, ← ha.exactly_eq ha]
    exact Std.ReflCmp.compare_self

theorem target_eq_of_beginning (ha : a.Plain) (hb : b.Plain) (h : a.beginning = b.beginning) :
    a.target = b.target := by
  have hempty := ha.target
  have hempty' := hb.target
  rw [beginning, beginning, String.toList_inj] at h
  generalize a.target = target at *
  generalize b.target = target' at *
  cases target <;> cases target'
  all_goals simp_all

theorem exactly_eq_lt_of_begins (ha : a.Plain) (hb : b.Plain)
    (hbegins : a.beginning <+: b.beginning)
    (hlength : a.beginning.length < b.beginning.length) : a.exactly b = .lt := by
  have htargets : compareTargets a.target b.target = .lt := by
    rw [beginning, beginning] at hbegins hlength
    generalize a.target = target at *
    generalize b.target = target' at *
    cases target <;> cases target'
    case none.some => rfl
    case some.some => exact Nat.compare_eq_lt.mpr (utf8ByteSize_lt_of_begins hbegins hlength)
    all_goals simp at hlength
  rw [ha.exactly_eq hb, htargets]
  rfl

/-- Directives about one target are compared by how much of it they ask for. -/
theorem exactly_eq_lt_iff (ha : a.Plain) (hb : b.Plain) {target : List Char}
    (hcovers : a.beginning <+: target) (hcovers' : b.beginning <+: target) :
    a.exactly b = .lt ↔ a.beginning.length < b.beginning.length := by
  constructor
  · intro hlt
    by_contra hlength
    have hbegins := List.prefix_of_prefix_length_le hcovers' hcovers (Nat.not_lt.mp hlength)
    rcases Nat.lt_or_eq_of_le (Nat.not_lt.mp hlength) with hless | hsame
    · have hgt := hb.exactly_eq_lt_of_begins ha hbegins hless
      rw [← Std.OrientedCmp.gt_iff_lt, hlt] at hgt
      contradiction
    · have htarget := hb.target_eq_of_beginning ha (hbegins.eq_of_length hsame)
      rw [(ha.exactly_eq_eq_iff hb).mpr htarget.symm] at hlt
      contradiction
  · intro hlength
    exact ha.exactly_eq_lt_of_begins hb
      (List.prefix_of_prefix_length_le hcovers hcovers' (Nat.le_of_lt hlength)) hlength

end Plain

end Directive

/-! ### Which directive decides -/

/-- The longest target that a target begins with, and of repeats of it the last. -/
structure Decides (directives : List Directive) (target : String) (directive : Directive) :
    Prop where
  covers : directive.beginning <+: target.toList
  longest : ∀ other ∈ directives, other.beginning <+: target.toList →
    other.beginning.length ≤ directive.beginning.length
  last : ∃ before after, directives = before ++ directive :: after ∧
    ∀ other ∈ after, other.target ≠ directive.target

namespace Filter

section

variable {directives : List Directive} (h : ∀ directive ∈ directives, directive.Plain)

include h

theorem filter_isDynamic_of_plain : directives.filter Directive.isDynamic = [] := by
  rw [List.filter_eq_nil_iff]
  intro directive hmem
  rw [(h directive hmem).isDynamic_eq_false]
  decide

theorem statics_of_plain :
    (ofDirectives directives).statics = sortBy Directive.exactly directives := by
  have hstatic : (directives.filter fun directive => !directive.isDynamic) = directives := by
    rw [List.filter_eq_self]
    intro directive hmem
    rw [(h directive hmem).isDynamic_eq_false]
    rfl
  rw [statics_eq_sortBy_exactly fun directive hmem => (h directive hmem).isExact, hstatic,
    filter_isDynamic_of_plain h, List.filter_nil, List.append_nil]

/-- The first static directive about an event is the one that decides. -/
theorem find?_statics_iff {event : Event} {directive : Directive} :
    (ofDirectives directives).statics.find? (·.coversEvent event) = some directive ↔
      Decides directives event.target directive := by
  rw [statics_of_plain h, (ranked_sortBy _).find?_eq_some_iff]
  constructor
  · rintro ⟨hmem, hcovers, habove⟩
    have hplain := h directive (mem_of_mem_sortBy hmem)
    have hbeginning := hplain.coversEvent_iff.mp hcovers
    refine ⟨hbeginning, fun other hother hbegins => ?_, ?_⟩
    · -- a repeat that was replaced has the target of the one in its place
      obtain ⟨same, hsame, heq⟩ :
          ∃ same ∈ sortBy Directive.exactly directives, same.exactly other = .eq :=
        exists_mem_sortBy hother
      have hplain' := h same (mem_of_mem_sortBy hsame)
      have hother' : other.beginning = same.beginning := by
        rw [Directive.beginning, Directive.beginning, (Directive.scope_of_exactly heq).1]
      rw [hother'] at hbegins ⊢
      refine Nat.not_lt.mp fun hlength => ?_
      exact habove same hsame (hplain'.coversEvent_iff.mpr hbegins)
        ((hplain.exactly_eq_lt_iff hplain' hbeginning hbegins).mpr hlength)
    · obtain ⟨before, after, hsplit, hafter⟩ := mem_sortBy_iff.mp hmem
      refine ⟨before, after, hsplit, fun other hother htarget => hafter other hother ?_⟩
      have hplain' : other.Plain := h other (by simp [hsplit, hother])
      exact (hplain'.exactly_eq_eq_iff hplain).mpr htarget
  · rintro ⟨hbeginning, hlongest, before, after, hsplit, hafter⟩
    have hplain : directive.Plain := h directive (by simp [hsplit])
    refine ⟨mem_sortBy_iff.mpr ⟨before, after, hsplit, fun other hother heq => ?_⟩,
      hplain.coversEvent_iff.mpr hbeginning, fun other hother hcovers hlt => ?_⟩
    · exact hafter other hother (Directive.scope_of_exactly heq).1
    · have hmem := mem_of_mem_sortBy hother
      have hbegins := (h other hmem).coversEvent_iff.mp hcovers
      have hlength := (hplain.exactly_eq_lt_iff (h other hmem) hbeginning hbegins).mp hlt
      exact absurd (hlongest other hmem hbegins) (Nat.not_le.mpr hlength)

/-- At most one directive decides. -/
theorem unique_of_decides {target : String} {a b : Directive} (ha : Decides directives target a)
    (hb : Decides directives target b) : a = b := by
  let event : Event := ⟨.error, target, []⟩
  have hfirst : (ofDirectives directives).statics.find? (·.coversEvent event) = some a :=
    (find?_statics_iff h).mpr ha
  rw [(find?_statics_iff h).mpr hb] at hfirst
  exact (Option.some.inj hfirst).symm

/-- No span lets anything through. -/
theorem allowsByScope_of_plain (scope : List Limit) (level : Level) :
    (ofDirectives directives).allowsByScope scope level = false := by
  rw [allowsByScope, dynamicLimit_ofDirectives, filter_isDynamic_of_plain h]
  have hoff : Limit.maximum (([] : List Directive).map Directive.limit) = .off := rfl
  rw [hoff, Limit.allows_off, Bool.false_and]

theorem allowsEvent_of_plain (scope : List Limit) (event : Event) :
    (ofDirectives directives).allowsEvent scope event = true ↔
      ∃ directive, Decides directives event.target directive ∧
        directive.limit.allows event.level = true := by
  rw [allowsEvent, allowsByScope_of_plain h, Bool.or_false, allowsByTarget_ofDirectives,
    Option.any_eq_true]
  exact exists_congr fun directive => and_congr_left' (find?_statics_iff h)

end

theorem sameOrder_of_target {directives others : List Directive}
    (hsame : ∀ target : Option String,
      directives.filter (·.target == target) = others.filter (·.target == target)) :
    SameOrder directives others := by
  intro directive
  have hfilter : ∀ list : List Directive, list.filter (·.exactly directive == .eq) =
      (list.filter (·.target == directive.target)).filter (·.exactly directive == .eq) := by
    intro list
    rw [List.filter_filter]
    refine List.filter_congr fun other _ => ?_
    rw [Bool.eq_iff_iff, Bool.and_eq_true, beq_iff_eq, beq_iff_eq, iff_self_and]
    exact fun heq => (Directive.scope_of_exactly heq).1
  rw [hfilter, hsame, ← hfilter]

/-- A filter of levels and of targets with levels is made of just these. -/
theorem ofText?_of_spellsPlainly [PatternEngine] {directives : List Directive}
    {pieces : List (List Char)} {text : String}
    (hpieces : List.Forall₂ Directive.SpellsPlainly directives pieces)
    (htext : text.toList = [','].intercalate pieces) :
    ofText? text = some (ofDirectives directives) := by
  have hread : pieces.mapM Directive.read? = some directives :=
    mapM_eq_some_iff.mpr (hpieces.imp fun _ _ h => h.read?)
  have hplain : ∀ piece ∈ pieces, ∃ directive : Directive, directive.SpellsPlainly piece := by
    intro piece hmem
    obtain ⟨directive, _, h⟩ := exists_mem_of_forall₂ hpieces hmem
    exact ⟨directive, h⟩
  have hwords : ∀ piece ∈ pieces, piece ≠ [] ∧ ',' ∉ piece := by
    intro piece hmem
    obtain ⟨directive, h⟩ := hplain piece hmem
    exact ⟨h.ne_nil, h.comma_notMem⟩
  -- no piece begins with white space, so the reader does not break off
  have hheads : ∀ piece ∈ words (· == ',') text.toList, ∀ c ∈ piece.head?, isBlank c = false := by
    rw [words_of_intercalate htext hwords]
    intro piece hmem
    obtain ⟨directive, h⟩ := hplain piece hmem
    exact h.unpadded.head
  rw [ofText?_of_heads hheads, ofText_eq, toOption_read_of_intercalate htext hwords, hread]
  rfl

end Filter

namespace Recorder

/-- The longest target decides on an event, and of repeats of it the last, whatever spans are
entered and however far the process looks; no two directives decide on one event. So the order of
the pieces matters only among those with one target. -/
theorem step_event_took_of_plain [PatternEngine] {directives : List Directive}
    {pieces : List (List Char)} {text : String}
    (hpieces : List.Forall₂ Directive.SpellsPlainly directives pieces)
    (htext : text.toList = [','].intercalate pieces) :
    ∃ filter, Filter.ofText? text = some filter ∧
      (∀ (raised : Limit) (spans : List (Option Entered)) (event : Event) (parent : Parent),
        let recorder : Recorder := { filter := some filter, raised := raised, spans := spans }
        (recorder.step (.event event parent)).2.took = true ↔
          ∃ directive, Decides directives event.target directive ∧
            event.level.rank ≤ directive.limit.rank) ∧
      (∀ target a b, Decides directives target a → Decides directives target b → a = b) ∧
      ∀ (others : List Directive) (pieces' : List (List Char)) (other : String),
        List.Forall₂ Directive.SpellsPlainly others pieces' →
        other.toList = [','].intercalate pieces' →
        (∀ target : Option String,
          directives.filter (·.target == target) = others.filter (·.target == target)) →
        Filter.ofText? other = some filter := by
  have hplain : ∀ directive ∈ directives, directive.Plain := by
    intro directive hmem
    obtain ⟨piece, _, h⟩ := exists_mem_of_forall₂ hpieces.flip hmem
    exact h.plain
  refine ⟨.ofDirectives directives, Filter.ofText?_of_spellsPlainly hpieces htext, ?_,
    fun target a b => Filter.unique_of_decides hplain, ?_⟩
  · intro raised spans event parent recorder
    have htook : (recorder.step (.event event parent)).2.took =
        (Filter.ofDirectives directives).allowsEvent recorder.scope event := by
      rw [step, allowsEvent_eq, Option.any_some]
    rw [htook, Filter.allowsEvent_of_plain hplain]
    simp only [Limit.allows, decide_eq_true_eq]
  · -- the same order at each target is all that the tables depend on
    intro others pieces' other hpieces' hother hsame
    rw [Filter.ofText?_of_spellsPlainly hpieces' hother]
    exact congrArg some (Filter.ofDirectives_eq (Filter.sameOrder_of_target hsame)
      fun directive hmem => (hplain directive hmem).isExact).symm

/-- A target that is written twice, one that begins with it, and a level for the others. -/
def prefixed : List Directive :=
  [.ofLimit (.upTo .warn), ⟨some "api", none, none, .upTo .info⟩,
    ⟨some "api::db", none, none, .off⟩, ⟨some "api", none, none, .upTo .debug⟩]

/-- The same with the repeated target in front and behind. -/
def prefixedAround : List Directive :=
  [⟨some "api", none, none, .upTo .info⟩, ⟨some "api::db", none, none, .off⟩,
    .ofLimit (.upTo .warn), ⟨some "api", none, none, .upTo .debug⟩]

theorem step_event_took_of_plain_prefixed :
    let pieces := ["WARN".toList, "api=info".toList, "api::db=off".toList, "api=+4".toList]
    List.Forall₂ Directive.SpellsPlainly prefixed pieces ∧
      "WARN,api=info,api::db=off,api=+4".toList = [','].intercalate pieces ∧
      Decides prefixed "api::http" ⟨some "api", none, none, .upTo .debug⟩ ∧
      ∃ filter, Filter.ofText? "WARN,api=info,api::db=off,api=+4" = some filter ∧
        Filter.ofText? "api=info,api::db=off,WARN,api=+4" = some filter ∧
        let recorder : Recorder :=
          { filter := some filter, spans := [some ⟨"request", .upTo .trace⟩] }
        (recorder.step (.event ⟨.debug, "api::http", []⟩ .root)).2.took = true ∧
          (recorder.step (.event ⟨.error, "api::db", []⟩ .root)).2.took = false := by
  intro pieces
  have hwarn : Directive.SpellsPlainly (.ofLimit (.upTo .warn)) "WARN".toList :=
    .level (by decide) (.name rfl)
  have hinfo : Directive.SpellsPlainly ⟨some "api", none, none, .upTo .info⟩ "api=info".toList :=
    @Directive.SpellsPlainly.target "api".toList _ _ (by decide) (by decide) (.name rfl)
  have hoff : Directive.SpellsPlainly ⟨some "api::db", none, none, .off⟩ "api::db=off".toList :=
    @Directive.SpellsPlainly.target "api::db".toList _ _ (by decide) (by decide) (.name rfl)
  have hrank : Limit.Spells (.upTo .debug) "+4".toList :=
    @Limit.Spells.rank _ ['+'] ['4'] (.inr rfl) (by decide) (by simp) rfl
  have hdebug : Directive.SpellsPlainly ⟨some "api", none, none, .upTo .debug⟩ "api=+4".toList :=
    @Directive.SpellsPlainly.target "api".toList _ _ (by decide) (by decide) hrank
  have hpieces : List.Forall₂ Directive.SpellsPlainly prefixed pieces :=
    .cons hwarn (.cons hinfo (.cons hoff (.cons hdebug .nil)))
  have hpieces' : List.Forall₂ Directive.SpellsPlainly prefixedAround
      ["api=info".toList, "api::db=off".toList, "WARN".toList, "api=+4".toList] :=
    .cons hinfo (.cons hoff (.cons hwarn (.cons hdebug .nil)))
  have htext : "WARN,api=info,api::db=off,api=+4".toList = [','].intercalate pieces := by decide
  have hdecides : Decides prefixed "api::http" ⟨some "api", none, none, .upTo .debug⟩ :=
    ⟨by decide, by decide, prefixed.take 3, [], rfl, nofun⟩
  have hsame : ∀ target : Option String,
      prefixed.filter (·.target == target) = prefixedAround.filter (·.target == target) := by
    intro target
    by_cases hnone : target = none
    · rw [hnone]
      rfl
    · by_cases hdb : target = some "api::db"
      · rw [hdb]
        rfl
      · have hnone' : (none == target) = false := by simpa using Ne.symm hnone
        have hdb' : (some "api::db" == target) = false := by simpa using Ne.symm hdb
        simp only [prefixed, prefixedAround, Directive.ofLimit, List.filter_cons, hnone', hdb',
          Bool.false_eq_true, if_false]
  have hoffDecides : Decides prefixed "api::db" ⟨some "api::db", none, none, .off⟩ :=
    ⟨by decide, by decide, prefixed.take 2, prefixed.drop 3, rfl, by decide⟩
  obtain ⟨filter, hfilter, htook, hunique, horder⟩ := step_event_took_of_plain hpieces htext
  refine ⟨hpieces, htext, hdecides, filter, hfilter, horder _ _ _ hpieces' (by decide) hsame, ?_⟩
  refine ⟨(htook _ _ _ _).mpr ⟨_, hdecides, by decide⟩, ?_⟩
  refine Bool.eq_false_iff.mpr fun hfalse => ?_
  obtain ⟨directive, hother, hallows⟩ := (htook _ _ _ _).mp hfalse
  rw [hunique _ _ _ hother hoffDecides] at hallows
  exact absurd hallows (by decide)

end Recorder

end PageSync.Log
