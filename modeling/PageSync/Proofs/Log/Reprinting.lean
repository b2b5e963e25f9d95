import PageSync.Proofs.Log.Reading

/-!
Filters that are written and read again. A directive without a value comes from its piece with parts
that cannot be taken for anything else (`Directive.Printable`), so that its own text stands for it.
A filter writes its static directives and then its dynamic ones, some of them twice; these are
sorted into the same lists again since each list is fixed by its members.
-/

namespace PageSync.Log

open Text

/-! ### Writing and reading one directive -/

structure PrintableTarget (text : List Char) : Prop extends TargetText text where
  head : ∀ c ∈ text.head?, isBlank c = false
  comma : ',' ∉ text

structure PrintableField (text : List Char) : Prop extends FieldText text where
  name : '=' ∉ text
  comma : ',' ∉ text

namespace Directive

/-- Each part can be read back from between the marks that are written around it. An empty name of a
span is written as none is, which matters only where there is a field. -/
structure Printable (directive : Directive) : Prop where
  target : ∀ target ∈ directive.target, PrintableTarget target.toList
  span : ∀ span ∈ directive.span, SpanText span.toList ∧ ',' ∉ span.toList
  field : ∀ test ∈ directive.field, test.value = none ∧ PrintableField test.name.toList ∧
    directive.span ≠ some ""

theorem printable_of_target {target : Option String} {limit : Limit}
    (h : ∀ text ∈ target, PrintableTarget text.toList) :
    Printable ⟨target, none, none, limit⟩ := ⟨h, nofun, nofun⟩

theorem printable_ofLimit (limit : Limit) : (ofLimit limit).Printable := printable_of_target nofun

theorem Printable.isExact {directive : Directive} (h : directive.Printable) :
    directive.isExact := by
  rw [Directive.isExact, Option.all_eq_true]
  intro test htest
  rw [(h.field test htest).1]
  rfl

theorem targetText_limit (limit : Limit) : TargetText limit.text.toList := by
  rcases limit with _ | level
  · decide
  · cases level <;> decide

theorem spells_limit (limit : Limit) : limit.Spells limit.text.toList := by
  refine .name ?_
  rcases limit with _ | level
  · rfl
  · cases level <;> rfl

theorem Printable.targetPart {directive : Directive} (h : directive.Printable) :
    TargetPart directive.target (directive.target.getD "").toList := by
  cases htarget : directive.target with
  | none => exact .nothing
  | some target =>
      have hpart : TargetPart (some (String.ofList target.toList)) target.toList :=
        .target (h.target target htarget).toTargetText
      rwa [String.ofList_toList] at hpart

theorem text_ne_nil (directive : Directive) : directive.text.toList ≠ [] := by
  rw [text, String.toList_append]
  exact List.append_ne_nil_of_right_ne_nil _ (spells_limit directive.limit).ne_nil

theorem Printable.comma_notMem {directive : Directive} (h : directive.Printable) :
    ',' ∉ directive.text.toList := by
  have htarget : ',' ∉ (directive.target.getD "").toList := by
    cases htarget : directive.target with
    | none => exact List.not_mem_nil
    | some target => exact (h.target target htarget).comma
  have hspan : ',' ∉ (directive.span.getD "").toList := by
    cases hspan : directive.span with
    | none => exact List.not_mem_nil
    | some span => exact (h.span span hspan).2
  have hlimit : ',' ∉ directive.limit.text.toList := fun hmem =>
    (directive.limit.forall_mem_text _ hmem).2.1 rfl
  have hscope : ',' ∉ directive.scopeText.toList := by
    rw [scopeText, spanText]
    split
    · cases hfield : directive.field with
      | none => simp [htarget, hspan]
      | some test =>
          obtain ⟨hvalue, hfield, _⟩ := h.field test hfield
          simp [FieldTest.text, htarget, hspan, hvalue, hfield.comma]
    · simp [htarget]
  rw [text]
  split
  · simp [hscope, hlimit]
  · simpa using hlimit

theorem Printable.unpadded {directive : Directive} (h : directive.Printable) :
    Unpadded directive.text.toList := by
  have hne : directive.limit.text.toList ≠ [] := (spells_limit directive.limit).ne_nil
  have hlimit : ∀ c ∈ directive.limit.text.toList, isBlank c = false := fun c hc =>
    (directive.limit.forall_mem_text c hc).2.2
  constructor
  · intro c hc
    -- the text begins with the target, a bracket or the level
    cases htarget : directive.target with
    | some target =>
        obtain ⟨first, hfirst, _⟩ := (h.target target htarget).starts
        refine (h.target target htarget).head c ?_
        simpa [text, scopeText, htarget, Option.mem_def.mp hfirst] using hc
    | none =>
        by_cases hdynamic : directive.isDynamic
        · have hbracket : c = '[' := by
            simpa [text, scopeText, spanText, htarget, hdynamic, eq_comm] using hc
          rw [hbracket]
          decide
        · refine hlimit c (List.mem_of_mem_head? ?_)
          simpa [text, htarget, hdynamic] using hc
  · intro c hc
    rw [text, String.toList_append, List.getLast?_append_of_ne_nil _ hne] at hc
    exact hlimit c (List.mem_of_mem_getLast? hc)

theorem printableTarget_of_append {target rest : List Char} (htarget : TargetText target)
    (hhead : ∀ c ∈ (target ++ rest).head?, isBlank c = false) (hcomma : ',' ∉ target ++ rest) :
    PrintableTarget target := by
  refine ⟨htarget, fun c hc => hhead c ?_, fun hmem => hcomma (List.mem_append_left rest hmem)⟩
  rw [List.head?_append, hc]
  rfl

theorem printable_of_targetPart {target : Option String} {front rest : List Char}
    (h : TargetPart target front) (hhead : ∀ c ∈ (front ++ rest).head?, isBlank c = false)
    (hcomma : ',' ∉ front ++ rest) : ∀ text ∈ target, PrintableTarget text.toList := by
  intro text htext
  cases h with
  | nothing => contradiction
  | target h =>
      obtain rfl := Option.some.inj htext
      rw [String.toList_ofList]
      exact printableTarget_of_append h hhead hcomma

theorem isStatic_eq_of_exactly {a b : Directive} (h : a.exactly b = .eq) :
    a.isStatic = b.isStatic := by
  obtain ⟨hspan, _, hvalue⟩ := isSome_eq_of_exactly h
  rw [isStatic, isStatic, ← Option.not_isSome, ← Option.not_isSome, hspan, hvalue]

section

variable [PatternEngine]

/-- The text of a directive stands for it. -/
theorem Printable.spells {directive : Directive} (h : directive.Printable) :
    directive.Spells directive.text.toList := by
  obtain ⟨target, span, field, limit⟩ := directive
  have hlimit : LimitPart limit ('=' :: limit.text.toList) := .limit (.limit (spells_limit limit))
  have hpart := h.targetPart
  rcases field with _ | ⟨name, value⟩
  · rcases span with _ | span
    · rcases target with _ | target
      · exact .limit (targetText_limit limit) (spells_limit limit)
      · have hspells : Spells ⟨some (String.ofList target.toList), none, none, limit⟩
            (target.toList ++ '=' :: limit.text.toList) :=
          .targetLimit (h.target target rfl).toTargetText (.limit (spells_limit limit))
        rw [String.ofList_toList] at hspells
        simpa [text, scopeText, spanText, isDynamic] using hspells
    · have hspells : Spells ⟨target, some (String.ofList span.toList), none, limit⟩ _ :=
        .span hpart (h.span span rfl).1 hlimit
      rw [String.ofList_toList] at hspells
      simpa [text, scopeText, spanText, isDynamic] using hspells
  · obtain ⟨hvalue, hfield, hspan⟩ := h.field ⟨name, value⟩ rfl
    obtain rfl : value = none := hvalue
    have htest : FieldTest.Spells ⟨String.ofList name.toList, none⟩ name.toList := .name hfield.name
    rw [String.ofList_toList] at htest
    have hname : SpanText (span.getD "").toList := by
      rcases span with _ | span
      · decide
      · exact (h.span span rfl).1
    -- no name is written as an empty one, and read back as none
    have hback : (if (span.getD "").toList = [] then none
        else some (String.ofList (span.getD "").toList)) = span := by
      rcases span with _ | span
      · rfl
      · rw [Option.getD_some, if_neg, String.ofList_toList]
        rw [String.toList_eq_nil_iff]
        rintro rfl
        exact hspan rfl
    have hspells := Spells.field hpart hname hfield.toFieldText htest hlimit
    rw [hback] at hspells
    simpa [text, scopeText, spanText, isDynamic, FieldTest.text] using hspells

/-- What is read is printable, but for values. The piece may have white space behind it. -/
theorem printable_of_read? {piece : List Char} {directive : Directive}
    (hhead : ∀ c ∈ piece.head?, isBlank c = false) (hcomma : ',' ∉ piece)
    (hread : read? piece = some directive) (hvalue : directive.hasValue = false) :
    directive.Printable := by
  -- the form is what was scanned; the white space behind it may have become part of a target
  obtain ⟨form, behind, rfl, hbehind, htrim⟩ := exists_trim_eq hhead
  rcases (read_eq_ok_iff_of_trim htrim).mp (toOption_eq_some.mp hread) with ⟨htarget, rfl⟩ |
    ⟨target, level, limit, rfl, htarget, _, rfl⟩ | ⟨target, front, rest, rfl, hpart, h⟩
  · rw [ofWord]
    split
    · exact printable_ofLimit _
    · -- a bare word is a target to the end of the piece
      have hplain : ∀ c ∈ form ++ behind, c ≠ '=' ∧ c ≠ '[' := by
        intro c hc
        rcases List.mem_append.mp hc with hc | hc
        · exact htarget.plain c hc
        · refine ⟨?_, ?_⟩
          all_goals
            rintro rfl
            exact absurd (hbehind _ hc) (by decide)
      refine printable_of_target fun text htext => ?_
      obtain rfl := Option.some.inj htext
      rw [String.toList_ofList]
      exact ⟨⟨htarget.starts_append behind, hplain⟩, hhead, hcomma⟩
  · rw [List.append_assoc] at hhead hcomma
    exact printable_of_target (printable_of_targetPart (.target htarget) hhead hcomma)
  · have htarget : ∀ text ∈ target, PrintableTarget text.toList := by
      rw [List.append_assoc] at hhead hcomma
      exact printable_of_targetPart hpart hhead hcomma
    have htext : front ++ '[' :: rest ++ behind = (front ++ ['[']) ++ (rest ++ behind) := by simp
    rcases (readSpan_eq_ok_iff htext (byteLength_opening front).symm).mp h with
      ⟨name, more, rfl, hname, h⟩ | ⟨name, field, more, test, rfl, hname, hfield, htest, h⟩
    · obtain ⟨htargetEq, hspanEq, hfieldEq⟩ := scope_of_readAfterSpan h
      refine ⟨htargetEq ▸ htarget, ?_, ?_⟩
      · rw [hspanEq]
        intro span hspan
        obtain rfl := Option.some.inj hspan
        rw [String.toList_ofList]
        exact ⟨hname, fun hmem => hcomma (by simp [hmem])⟩
      · rw [hfieldEq]
        exact fun test htest => absurd htest (Option.not_mem_none test)
    · obtain ⟨htargetEq, hspanEq, hfieldEq⟩ := scope_of_readAfterSpan h
      cases htest with
      | value => simp [hasValue, hfieldEq] at hvalue
      | name hnameText =>
          refine ⟨htargetEq ▸ htarget, ?_, ?_⟩
          · rw [hspanEq]
            intro span hspan
            obtain ⟨_, rfl⟩ : name ≠ [] ∧ String.ofList name = span := by simpa using hspan
            rw [String.toList_ofList]
            exact ⟨hname, fun hmem => hcomma (by simp [hmem])⟩
          · rw [hfieldEq]
            intro test htest
            obtain rfl := Option.some.inj htest
            rw [String.toList_ofList]
            refine ⟨rfl, ⟨hfield, hnameText, fun hmem => hcomma (by simp [hmem])⟩, ?_⟩
            rw [hspanEq]
            simp

theorem Printable.read?_text {directive : Directive} (h : directive.Printable) :
    read? directive.text.toList = some directive :=
  (read?_eq_some_iff h.unpadded.trim_eq_self).mpr h.spells

end

end Directive

/-! ### Writing and reading filters -/

namespace Filter

section

variable {directives : List Directive} (h : ∀ directive ∈ directives, directive.isExact)

include h

theorem statics_eq_sortBy_exactly : (ofDirectives directives).statics =
    sortBy Directive.exactly ((directives.filter fun directive => !directive.isDynamic) ++
      (directives.filter Directive.isDynamic).filter Directive.isStatic) := by
  rw [statics_ofDirectives]
  refine sortBy_congr fun a ha b hb => Directive.specificity_eq_exactly (h a ?_) (h b ?_)
  all_goals grind

theorem dynamics_eq_sortBy_exactly : (ofDirectives directives).dynamics =
    sortBy Directive.exactly (directives.filter Directive.isDynamic) := by
  rw [dynamics_ofDirectives]
  refine sortBy_congr fun a ha b hb => Directive.specificity_eq_exactly (h a ?_) (h b ?_)
  all_goals grind

/-- Of the dynamic directives those that are static too are in both lists. -/
theorem mem_statics_iff {directive : Directive} (hdynamic : directive.isDynamic) :
    directive ∈ (ofDirectives directives).statics ↔
      directive ∈ (ofDirectives directives).dynamics ∧ directive.isStatic := by
  have hplain : directive ∉
      sortBy Directive.exactly (directives.filter fun directive => !directive.isDynamic) := by
    intro hmem
    simpa [hdynamic] using (List.mem_filter.mp (mem_of_mem_sortBy hmem)).2
  have hsame : ∀ a b : Directive, a.exactly b = .eq → a.isStatic = b.isStatic :=
    fun _ _ => Directive.isStatic_eq_of_exactly
  rw [statics_eq_sortBy_exactly h, dynamics_eq_sortBy_exactly h, mem_sortBy_append,
    mem_sortBy_filter hsame]
  exact or_iff_left fun hmem => hplain hmem.1

/-- A filter is made again of its own directives. -/
theorem ofDirectives_statics_append_dynamics :
    let filter := ofDirectives directives
    (ofDirectives (filter.statics ++ filter.dynamics)).statics = filter.statics ∧
      (ofDirectives (filter.statics ++ filter.dynamics)).dynamics = filter.dynamics := by
  intro filter
  have hexact : ∀ directive ∈ filter.statics ++ filter.dynamics, directive.isExact := by
    intro directive hmem
    rcases List.mem_append.mp hmem with hmem | hmem
    · exact h directive (mem_of_mem_statics hmem).1
    · exact h directive (mem_of_mem_dynamics hmem).1
  have hstatic : ∀ directive ∈ filter.statics, directive.isStatic := fun _ hmem =>
    (mem_of_mem_statics hmem).2
  have hdynamic : ∀ directive ∈ filter.dynamics, directive.isDynamic := fun _ hmem =>
    (mem_of_mem_dynamics hmem).2
  have hboth : ∀ directive : Directive, directive.isDynamic →
      (directive ∈ filter.statics ↔ directive ∈ filter.dynamics ∧ directive.isStatic) :=
    fun directive => mem_statics_iff h
  have hstatics : Ranked Directive.exactly filter.statics := by
    rw [statics_eq_sortBy_exactly h]
    exact ranked_sortBy _
  have hdynamics : Ranked Directive.exactly filter.dynamics := by
    rw [dynamics_eq_sortBy_exactly h]
    exact ranked_sortBy _
  -- both lists are in strictly descending order, so that only their members have to be compared
  constructor
  · rw [statics_eq_sortBy_exactly hexact]
    refine hstatics.sortBy_eq fun directive => ?_
    simp only [List.mem_append, List.mem_filter, Bool.not_eq_true']
    grind
  · rw [dynamics_eq_sortBy_exactly hexact]
    refine hdynamics.sortBy_eq fun directive => ?_
    simp only [List.mem_append, List.mem_filter]
    grind

end

section

variable [PatternEngine]

/-- A text of printable directives is read as these. -/
theorem ofText?_intercalate {directives : List Directive}
    (h : ∀ directive ∈ directives, directive.Printable) :
    ofText? (",".intercalate (directives.map Directive.text)) =
      some (ofDirectives directives) := by
  have htext : (",".intercalate (directives.map Directive.text)).toList =
      [','].intercalate (directives.map fun directive => directive.text.toList) := by
    rw [String.toList_intercalate, List.map_map]
    rfl
  have hpieces : ∀ piece ∈ directives.map fun directive => directive.text.toList,
      piece ≠ [] ∧ ',' ∉ piece := by
    rw [List.forall_mem_map]
    exact fun directive hmem => ⟨directive.text_ne_nil, (h directive hmem).comma_notMem⟩
  have hread : (directives.map fun directive => directive.text.toList).mapM Directive.read? =
      some directives := by
    rw [mapM_eq_some_iff, List.forall₂_map_right_iff, List.forall₂_same]
    exact fun directive hmem => (h directive hmem).read?_text
  have hheads : ∀ piece ∈ words (· == ',') (",".intercalate (directives.map Directive.text)).toList,
      ∀ c ∈ piece.head?, isBlank c = false := by
    rw [words_of_intercalate htext hpieces, List.forall_mem_map]
    exact fun directive hmem => (h directive hmem).unpadded.head
  rw [ofText?_of_heads hheads, ofText_eq, toOption_read_of_intercalate htext hpieces, hread]
  rfl

theorem exists_printable_of_ofText {text : String}
    (hhead : ∀ piece ∈ words (· == ',') text.toList, ∀ c ∈ piece.head?, isBlank c = false)
    (hvalue : ∀ piece ∈ words (· == ',') text.toList, ∀ directive,
      Directive.read? piece = some directive → directive.hasValue = false) :
    ∃ directives, ofText text = ofDirectives directives ∧
      ∀ directive ∈ directives, directive.Printable := by
  -- the fallback is the filter of a directive too
  cases hread : (words (· == ',') text.toList).mapM Directive.read? with
  | none =>
      refine ⟨[.ofLimit (.upTo .warn)], ?_, ?_⟩
      · rw [ofText_eq, toOption_read, hread]
        rfl
      · rw [List.forall_mem_singleton]
        exact Directive.printable_ofLimit _
  | some directives =>
      refine ⟨directives, ?_, fun directive hmem => ?_⟩
      · rw [ofText_eq, toOption_read, hread]
        rfl
      · obtain ⟨piece, hpiece, hread⟩ :=
          exists_mem_of_forall₂ (mapM_eq_some_iff.mp hread).flip hmem
        have hcomma : ',' ∉ piece := fun hmem =>
          absurd (sep_eq_false_of_mem_pieces (List.mem_of_mem_filter hpiece) hmem) (by decide)
        exact Directive.printable_of_read? (hhead piece hpiece) hcomma hread
          (hvalue piece hpiece directive hread)

/-- A filter is read again from its own text. White space may stand behind the pieces, not in front;
no piece may ask for a value. -/
theorem ofText_text_ofText (text : String)
    (hhead : ∀ piece ∈ words (· == ',') text.toList, ∀ c ∈ piece.head?, isBlank c = false)
    (hvalue : ∀ piece ∈ words (· == ',') text.toList, ∀ directive,
      Directive.read? piece = some directive → directive.hasValue = false) :
    ∃ filter again, ofText? text = some filter ∧ ofText? filter.text = some again ∧
      again.statics = filter.statics ∧ again.dynamics = filter.dynamics ∧
      again.text = filter.text := by
  obtain ⟨directives, heq, hprintable⟩ := exists_printable_of_ofText hhead hvalue
  have hmem : ∀ directive ∈ (ofDirectives directives).statics ++ (ofDirectives directives).dynamics,
      directive.Printable := by
    intro directive hmem
    rcases List.mem_append.mp hmem with hmem | hmem
    · exact hprintable directive (mem_of_mem_statics hmem).1
    · exact hprintable directive (mem_of_mem_dynamics hmem).1
  obtain ⟨hstatics, hdynamics⟩ := ofDirectives_statics_append_dynamics fun directive hmem =>
    (hprintable directive hmem).isExact
  refine ⟨ofDirectives directives, _, ?_, ofText?_intercalate hmem, hstatics, hdynamics, ?_⟩
  · rw [ofText?_of_heads hhead, heq]
  · rw [Filter.text, hstatics, hdynamics, ← Filter.text]

end

/-- White space behind a target, a directive on a field that is written twice, a span with no name,
and a target asked for twice. -/
def reprinted : String := "web =info,[\x7bid\x7d],api=warn,ns[],api=debug"

theorem ofText_text_ofText_reprinted :
    (∀ piece ∈ words (· == ',') reprinted.toList, ∀ c ∈ piece.head?, isBlank c = false) ∧
    (∀ piece ∈ words (· == ',') reprinted.toList, ∀ directive,
      Directive.read? piece = some directive → directive.hasValue = false) ∧
    ∃ filter again, ofText? reprinted = some filter ∧
      filter.text = "web =info,api=debug,[\x7bid\x7d]=trace,ns[]=trace,[\x7bid\x7d]=trace" ∧
      ofText? filter.text = some again ∧ again.text = filter.text := by
  have hwords : words (· == ',') reprinted.toList = ["web =info".toList, "[\x7bid\x7d]".toList,
      "api=warn".toList, "ns[]".toList, "api=debug".toList] := by decide
  have hhead : ∀ piece ∈ words (· == ',') reprinted.toList,
      ∀ c ∈ piece.head?, isBlank c = false := by
    have hall : ∀ piece ∈ words (· == ',') reprinted.toList, piece.head?.all (!isBlank ·) := by
      rw [hwords]
      decide
    simpa only [Option.all_eq_true, Option.mem_def, Bool.not_eq_true'] using hall
  have hvalue : ∀ piece ∈ words (· == ',') reprinted.toList, ∀ directive,
      Directive.read? piece = some directive → directive.hasValue = false := by
    have hall : ∀ piece ∈ words (· == ',') reprinted.toList,
        (Directive.read? piece).all fun directive => !directive.hasValue := by
      rw [hwords]
      decide
    intro piece hpiece directive hread
    simpa [hread] using hall piece hpiece
  obtain ⟨filter, again, hfilter, hagain, _, _, htext⟩ := ofText_text_ofText reprinted hhead hvalue
  have hwritten : (ofText reprinted).text =
      "web =info,api=debug,[\x7bid\x7d]=trace,ns[]=trace,[\x7bid\x7d]=trace" := rfl
  rw [ofText, hfilter, Option.getD_some] at hwritten
  exact ⟨hhead, hvalue, filter, again, hfilter, hwritten, hagain, htext⟩

end Filter

end PageSync.Log
