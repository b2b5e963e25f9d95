import PageSync.Log.Regex
import PageSync.Proofs.Except
import PageSync.Proofs.Log.Grammar
import PageSync.Proofs.Log.Tables

/-!
How directives and filters are read. The reader cuts the parts of a directive out of its text at
byte offsets that a scan has found; each lemma here speaks of a text as what stands before the
offset followed by the rest. Without white space in front no cut falls inside a character
(`Directive.returns_read`).

A piece of a filter without white space at its ends is read exactly if it stands for a directive,
and then as that one (`Directive.read?_eq_some_iff`). A filter takes all of its pieces or none
(`Filter.ofText_of_pieces`).
-/

namespace PageSync.Log

open Text

namespace Directive

/-! ### Cuts -/

/-- A part of a text lies between the offsets at which it begins and ends. -/
theorem cut_append (front part rest : List Char) :
    cut (byteLength front) (byteLength front + byteLength part) (front ++ (part ++ rest)) =
      .ok part := by
  have hlast :
      isBoundary (byteLength front + byteLength part) (front ++ (part ++ rest)) = true := by
    rw [← byteLength_append, ← List.append_assoc]
    exact isBoundary_byteLength _ _
  rw [cut, isBoundary_byteLength, hlast, ← byteLength_append, ← List.append_assoc,
    takeBytes_byteLength, dropBytes_byteLength]
  rfl

theorem cut_front (front rest : List Char) :
    cut 0 (byteLength front) (front ++ rest) = .ok front := by
  have hcut := cut_append [] front rest
  rwa [byteLength, Nat.zero_add] at hcut

theorem cutFrom_append (front rest : List Char) :
    cutFrom (byteLength front) (front ++ rest) = .ok rest := by
  rw [cutFrom, isBoundary_byteLength, dropBytes_byteLength]
  rfl

/-- What stands behind a mark of one byte. -/
theorem cutFrom_mark (front : List Char) {c : Char} (hc : c.utf8Size = 1) (rest : List Char) :
    cutFrom (byteLength front + 1) (front ++ c :: rest) = .ok rest := by
  have hrest := cutFrom_append (front ++ [c]) rest
  rwa [byteLength_append, byteLength, byteLength, hc, List.append_assoc,
    List.singleton_append] at hrest

theorem orRefused_eq_ok {α : Type} {a : Option α} {b : α} : orRefused a = .ok b ↔ a = some b := by
  cases a <;> simp [orRefused]

/-- The reader comes to an end, well or not. -/
def Returns {α : Type} (result : Except Fault α) : Prop := result ≠ .error .brokeOff

theorem returns_orRefused {α : Type} (a : Option α) : Returns (orRefused a) := by
  cases a <;> nofun

theorem returns_bind {α β : Type} {first : Except Fault α} {next : α → Except Fault β}
    (hfirst : Returns first) (hnext : ∀ a, Returns (next a)) : Returns (first >>= next) := by
  intro h
  rcases bind_eq_error.mp h with h | ⟨a, _, h⟩
  · exact hfirst h
  · exact hnext a h

theorem readAfterSpan_eq_ok_iff {text front rest : List Char} {target span : Option String}
    {field : Option FieldTest} {start : Nat} (htext : text = front ++ rest)
    (hstart : start = byteLength front) {directive : Directive} :
    readAfterSpan text target span field start rest = .ok directive ↔
      ∃ limit, LimitPart limit rest ∧ directive = ⟨target, span, field, limit⟩ := by
  subst htext
  constructor
  · intro h
    rw [readAfterSpan.eq_def] at h
    split at h
    · exact ⟨_, .nothing, (Except.ok.inj h).symm⟩
    · rw [hstart, cutFrom_mark front rfl, ok_bind] at h
      obtain ⟨limit, hlimit, h⟩ := bind_eq_ok.mp h
      obtain rfl := Except.ok.inj h
      exact ⟨limit, .limit (readLimit?_eq_some_iff.mp (orRefused_eq_ok.mp hlimit)), rfl⟩
    · contradiction
  · rintro ⟨limit, _ | h, rfl⟩
    · rfl
    · rw [readAfterSpan, hstart, cutFrom_mark front rfl, ok_bind]
      exact bind_eq_ok.mpr ⟨limit, orRefused_eq_ok.mpr (readLimit?_eq_some_iff.mpr h), rfl⟩

theorem returns_readAfterSpan {text front rest behind : List Char} {target span : Option String}
    {field : Option FieldTest} {start : Nat} (htext : text = front ++ (rest ++ behind))
    (hstart : start = byteLength front) :
    Returns (readAfterSpan text target span field start rest) := by
  subst htext
  rw [readAfterSpan.eq_def]
  split
  · nofun
  · rw [hstart, List.cons_append, cutFrom_mark front rfl, ok_bind]
    exact returns_bind (returns_orRefused _) nofun
  · nofun

theorem scope_of_readAfterSpan {text rest : List Char} {target span : Option String}
    {field : Option FieldTest} {start : Nat} {directive : Directive}
    (h : readAfterSpan text target span field start rest = .ok directive) :
    directive.target = target ∧ directive.span = span ∧ directive.field = field := by
  rw [readAfterSpan.eq_def] at h
  split at h
  · obtain rfl := Except.ok.inj h
    exact ⟨rfl, rfl, rfl⟩
  · obtain ⟨_, _, h⟩ := bind_eq_ok.mp h
    obtain ⟨limit, _, h⟩ := bind_eq_ok.mp h
    obtain rfl := Except.ok.inj h
    exact ⟨rfl, rfl, rfl⟩
  · contradiction

theorem ofList_eq_empty {text : List Char} : String.ofList text = "" ↔ text = [] := by
  rw [← String.toList_inj, String.toList_ofList, String.toList_empty]

/-! ### Scans -/

/-- The name of a span goes on up to a closing bracket or an opening brace, if there is one. -/
theorem spanText_cases (form : List Char) :
    (form.dropWhile fun c => c != ']' && c != '\x7b') = [] ∨
      (∃ name rest, form = name ++ ']' :: rest ∧ SpanText name) ∨
      ∃ name rest, form = name ++ '\x7b' :: rest ∧ SpanText name := by
  have hspan : SpanText (form.takeWhile fun c => c != ']' && c != '\x7b') := by
    intro c hc
    simpa using List.mem_takeWhile_imp hc
  cases hdrop : form.dropWhile fun c => c != ']' && c != '\x7b' with
  | nil => exact .inl rfl
  | cons c rest =>
      obtain ⟨hform, _, hstop⟩ := stretch_of_dropWhile hdrop
      have hmark : c = ']' ∨ c = '\x7b' := by
        simpa [or_iff_not_imp_left] using hstop
      rcases hmark with rfl | rfl
      · exact .inr (.inl ⟨_, rest, hform, hspan⟩)
      · exact .inr (.inr ⟨_, rest, hform, hspan⟩)

theorem fieldText_cases (form : List Char) :
    form.dropWhile (· != '\x7d') = [] ∨
      ∃ field rest, form = field ++ '\x7d' :: rest ∧ '\x7d' ∉ field := by
  cases hdrop : form.dropWhile (· != '\x7d') with
  | nil => exact .inl rfl
  | cons c rest =>
      obtain ⟨hform, hplain, hstop⟩ := stretch_of_dropWhile hdrop
      obtain rfl : c = '\x7d' := by simpa using hstop
      exact .inr ⟨_, rest, hform, fun hmem => by simpa using hplain _ hmem⟩

/-- A form is a target, or one with an equals sign or a bracket behind it, or begins with a bracket;
any other is refused. -/
theorem targetText_cases (form : List Char) :
    TargetText form ∨
      (∃ target level, form = target ++ '=' :: level ∧ TargetText target) ∨
      (∃ target front rest, form = front ++ '[' :: rest ∧ TargetPart target front) ∨
      ∀ c ∈ form.head?, startsTarget c = false ∧ c ≠ '[' := by
  by_cases hform : ∃ c ∈ form.head?, startsTarget c = true
  · -- the first sign behind the target, if there is one, tells the form
    have htarget := targetText_takeWhile hform
    cases hdrop : form.dropWhile inTarget with
    | nil =>
        rw [List.takeWhile_eq_self_iff.mpr (List.dropWhile_eq_nil_iff.mp hdrop)] at htarget
        exact .inl htarget
    | cons c rest =>
        obtain ⟨htext, _, hstop⟩ := stretch_of_dropWhile hdrop
        have hmark : c = '=' ∨ c = '[' := by
          simpa [inTarget, or_iff_not_imp_left] using hstop
        rcases hmark with rfl | rfl
        · exact .inr (.inl ⟨_, rest, htext, htarget⟩)
        · exact .inr (.inr (.inl ⟨_, _, rest, htext, .target htarget⟩))
  · cases form with
    | nil => exact .inr (.inr (.inr fun c hc => absurd hc (Option.not_mem_none c)))
    | cons c rest =>
        have hstarts : startsTarget c = false := by simpa using hform
        by_cases hbracket : c = '['
        · subst hbracket
          exact .inr (.inr (.inl ⟨none, [], rest, rfl, .nothing⟩))
        · refine .inr (.inr (.inr fun d hd => ?_))
          obtain rfl := Option.some.inj hd
          exact ⟨hstarts, hbracket⟩

theorem byteLength_opening (front : List Char) :
    byteLength (front ++ ['[']) = byteLength front + 1 := by
  rw [byteLength_append]
  rfl

theorem byteLength_bracketed (front name : List Char) :
    byteLength (front ++ '[' :: (name ++ [']'])) = byteLength front + 1 + byteLength name + 1 := by
  have hopening : '['.utf8Size = 1 := rfl
  have hclosing : ']'.utf8Size = 1 := rfl
  simp only [byteLength_append, byteLength, hopening, hclosing]
  omega

theorem byteLength_braced (front name field : List Char) :
    byteLength (front ++ '[' :: (name ++ '\x7b' :: (field ++ ['\x7d', ']']))) =
      byteLength front + 1 + byteLength name + 1 + byteLength field + 2 := by
  have hopening : '['.utf8Size = 1 := rfl
  have hclosing : ']'.utf8Size = 1 := rfl
  have hopeningBrace : '\x7b'.utf8Size = 1 := rfl
  have hclosingBrace : '\x7d'.utf8Size = 1 := rfl
  simp only [byteLength_append, byteLength, hopening, hclosing, hopeningBrace, hclosingBrace]
  omega

variable [PatternEngine]

/-! ### Spans and fields -/

section

variable {front name field rest behind : List Char} {target span : Option String} {start : Nat}
  (hstart : start = byteLength front)

include hstart

theorem readSpan_bracket (hname : SpanText name) :
    readSpan (front ++ (name ++ ']' :: rest ++ behind)) target start (name ++ ']' :: rest) =
      readAfterSpan (front ++ (name ++ ']' :: rest ++ behind)) target
        (some (String.ofList name)) none (start + byteLength name + 1) rest := by
  have hgoes : ∀ c ∈ name, (c != ']' && c != '\x7b') = true := by simpa [SpanText] using hname
  have hstop : (']' != ']' && ']' != '\x7b') = false := rfl
  rw [readSpan]
  simp only [takeWhile_stretch hgoes hstop, dropWhile_stretch hgoes hstop, hstart,
    List.append_assoc, cut_append, ok_bind]

theorem readSpan_brace (hname : SpanText name) :
    readSpan (front ++ (name ++ '\x7b' :: rest ++ behind)) target start (name ++ '\x7b' :: rest) =
      readField (front ++ (name ++ '\x7b' :: rest ++ behind)) target
        (if name = [] then none else some (String.ofList name)) (start + byteLength name + 1)
        rest := by
  have hgoes : ∀ c ∈ name, (c != ']' && c != '\x7b') = true := by simpa [SpanText] using hname
  have hstop : ('\x7b' != ']' && '\x7b' != '\x7b') = false := rfl
  rw [readSpan, dropWhile_stretch hgoes hstop, takeWhile_stretch hgoes hstop]
  simp only [hstart, List.append_assoc, cut_append, ok_bind, List.isEmpty_iff]
  rfl

theorem readField_brace (hfield : '\x7d' ∉ field) :
    readField (front ++ (field ++ '\x7d' :: rest ++ behind)) target span start
        (field ++ '\x7d' :: rest) =
      orRefused (if field = [] then none else FieldTest.read? field) >>= fun test =>
        readAfterField (front ++ (field ++ '\x7d' :: rest ++ behind)) target span test
          (start + byteLength field + 1) rest := by
  have hgoes : ∀ c ∈ field, (c != '\x7d') = true := by
    intro c hc
    rw [bne_iff_ne]
    rintro rfl
    exact hfield hc
  have hstop : ('\x7d' != '\x7d') = false := rfl
  rw [readField, dropWhile_stretch hgoes hstop, takeWhile_stretch hgoes hstop]
  simp only [hstart, List.append_assoc, cut_append, ok_bind, List.isEmpty_iff]

end

theorem readField_eq_ok_iff {text front form behind : List Char} {target span : Option String}
    {start : Nat} (htext : text = front ++ (form ++ behind)) (hstart : start = byteLength front)
    {directive : Directive} :
    readField text target span start form = .ok directive ↔
      ∃ field rest test, form = field ++ '\x7d' :: ']' :: rest ∧ FieldText field ∧
        test.Spells field ∧
        readAfterSpan text target span (some test) (start + byteLength field + 2) rest =
          .ok directive := by
  subst htext
  constructor
  · intro h
    rcases fieldText_cases form with hnone | ⟨field, rest, rfl, hfield⟩
    · rw [readField, hnone] at h
      contradiction
    · rw [readField_brace hstart hfield] at h
      obtain ⟨test, htest, h⟩ := bind_eq_ok.mp h
      rw [orRefused_eq_ok] at htest
      split at htest
      · contradiction
      · rename_i hne
        unfold readAfterField at h
        split at h
        · exact ⟨field, _, test, rfl, ⟨hne, hfield⟩, FieldTest.read?_eq_some_iff.mp htest, h⟩
        · contradiction
  · rintro ⟨field, rest, test, rfl, hfield, htest, h⟩
    rw [readField_brace hstart hfield.plain, if_neg hfield.ne_nil,
      FieldTest.read?_eq_some_iff.mpr htest]
    exact h

theorem returns_readField {text front form behind : List Char} {target span : Option String}
    {start : Nat} (htext : text = front ++ (form ++ behind)) (hstart : start = byteLength front) :
    Returns (readField text target span start form) := by
  subst htext
  rcases fieldText_cases form with hnone | ⟨field, rest, rfl, hfield⟩
  · rw [readField, hnone]
    nofun
  · rw [readField_brace hstart hfield]
    refine returns_bind (returns_orRefused _) fun test => ?_
    unfold readAfterField
    split
    · rename_i rest
      have htext : front ++ (field ++ '\x7d' :: ']' :: rest ++ behind) =
          (front ++ (field ++ ['\x7d', ']'])) ++ (rest ++ behind) := by simp
      refine returns_readAfterSpan htext ?_
      rw [byteLength_append, byteLength_append, hstart, Nat.add_assoc]
      rfl
    · nofun

theorem readSpan_eq_ok_iff {text front form behind : List Char} {target : Option String}
    {start : Nat} (htext : text = front ++ (form ++ behind)) (hstart : start = byteLength front)
    {directive : Directive} :
    readSpan text target start form = .ok directive ↔
      (∃ name rest, form = name ++ ']' :: rest ∧ SpanText name ∧
        readAfterSpan text target (some (String.ofList name)) none (start + byteLength name + 1)
          rest = .ok directive) ∨
      ∃ name field rest test, form = name ++ '\x7b' :: (field ++ '\x7d' :: ']' :: rest) ∧
        SpanText name ∧ FieldText field ∧ test.Spells field ∧
        readAfterSpan text target (if name = [] then none else some (String.ofList name))
          (some test) (start + byteLength name + 1 + byteLength field + 2) rest =
            .ok directive := by
  have hbrace : ∀ {name rest : List Char}, form = name ++ '\x7b' :: rest →
      text = (front ++ (name ++ ['\x7b'])) ++ (rest ++ behind) ∧
        start + byteLength name + 1 = byteLength (front ++ (name ++ ['\x7b'])) := by
    rintro name rest rfl
    refine ⟨by simp [htext], ?_⟩
    rw [byteLength_append, byteLength_append, hstart, Nat.add_assoc]
    rfl
  -- the scan of a name stops at a bracket or a brace, whichever comes first
  constructor
  · intro h
    rcases spanText_cases form with hnone | ⟨name, rest, rfl, hname⟩ | ⟨name, rest, heq, hname⟩
    · rw [readSpan, hnone] at h
      contradiction
    · rw [htext, readSpan_bracket hstart hname, ← htext] at h
      exact .inl ⟨name, rest, rfl, hname, h⟩
    · obtain ⟨htext', hstart'⟩ := hbrace heq
      subst heq
      rw [htext, readSpan_brace hstart hname, ← htext, readField_eq_ok_iff htext' hstart'] at h
      obtain ⟨field, rest, test, rfl, hfield, htest, h⟩ := h
      exact .inr ⟨name, field, rest, test, rfl, hname, hfield, htest, h⟩
  · rintro (⟨name, rest, rfl, hname, h⟩ | ⟨name, field, rest, test, heq, hname, hfield, htest, h⟩)
    · rw [htext, readSpan_bracket hstart hname, ← htext, h]
    · obtain ⟨htext', hstart'⟩ := hbrace heq
      subst heq
      rw [htext, readSpan_brace hstart hname, ← htext, readField_eq_ok_iff htext' hstart']
      exact ⟨field, rest, test, rfl, hfield, htest, h⟩

theorem returns_readSpan {text front form behind : List Char} {target : Option String}
    {start : Nat} (htext : text = front ++ (form ++ behind)) (hstart : start = byteLength front) :
    Returns (readSpan text target start form) := by
  subst htext
  rcases spanText_cases form with hnone | ⟨name, rest, rfl, hname⟩ | ⟨name, rest, rfl, hname⟩
  · rw [readSpan, hnone]
    nofun
  · rw [readSpan_bracket hstart hname]
    have htext : front ++ (name ++ ']' :: rest ++ behind) =
        (front ++ (name ++ [']'])) ++ (rest ++ behind) := by simp
    refine returns_readAfterSpan htext ?_
    rw [byteLength_append, byteLength_append, hstart, Nat.add_assoc]
    rfl
  · rw [readSpan_brace hstart hname]
    have htext : front ++ (name ++ '\x7b' :: rest ++ behind) =
        (front ++ (name ++ ['\x7b'])) ++ (rest ++ behind) := by simp
    refine returns_readField htext ?_
    rw [byteLength_append, byteLength_append, hstart, Nat.add_assoc]
    rfl

/-! ### Whole directives -/

theorem spells_ofWord {text : List Char} (htarget : TargetText text) :
    (ofWord text).Spells text := by
  rw [ofWord]
  split
  · rename_i limit hlimit
    exact .limit htarget (Limit.read?_eq_some_iff.mp hlimit)
  · rename_i hnone
    refine .target htarget fun limit hlimit => ?_
    rw [Limit.read?_eq_some_iff.mpr hlimit] at hnone
    contradiction

section

variable {form behind : List Char} (htrim : trim isBlank (form ++ behind) = form)

include htrim

/-- What is read from a text that begins as a target does. -/
theorem read_of_startsTarget (hform : ∃ c ∈ form.head?, startsTarget c = true) :
    read (form ++ behind) =
      match form.dropWhile inTarget with
      | [] => .ok (ofWord (form ++ behind))
      | '=' :: _ => do
        let target ← cut 0 (byteLength (form.takeWhile inTarget)) (form ++ behind)
        let level ← cutFrom (byteLength (form.takeWhile inTarget) + 1) (form ++ behind)
        let limit ← orRefused (readLimit? level)
        .ok ⟨some (String.ofList target), none, none, limit⟩
      | _ :: rest =>
        cut 0 (byteLength (form.takeWhile inTarget)) (form ++ behind) >>= fun target =>
          readSpan (form ++ behind) (some (String.ofList target))
            (byteLength (form.takeWhile inTarget) + 1) rest := by
  obtain ⟨c, hc, hstarts⟩ := hform
  rw [read, htrim]
  split
  · contradiction
  · obtain rfl := Option.some.inj hc
    exact absurd hstarts (by decide)
  · obtain rfl := Option.some.inj hc
    rw [hstarts]
    rfl

theorem read_of_targetText (htarget : TargetText form) :
    read (form ++ behind) = .ok (ofWord (form ++ behind)) := by
  rw [read_of_startsTarget htrim htarget.starts, List.dropWhile_eq_nil_iff.mpr htarget.inTarget]

theorem read_of_level {target level : List Char} (hform : form = target ++ '=' :: level)
    (htarget : TargetText target) :
    read (form ++ behind) = orRefused (readLimit? (level ++ behind)) >>= fun limit =>
      .ok ⟨some (String.ofList target), none, none, limit⟩ := by
  subst hform
  rw [read_of_startsTarget htrim (htarget.starts_append _),
    dropWhile_stretch htarget.inTarget rfl, takeWhile_stretch htarget.inTarget rfl,
    List.append_assoc, List.cons_append]
  have hlevel : cutFrom (byteLength target + 1) (target ++ '=' :: (level ++ behind)) =
      .ok (level ++ behind) := cutFrom_mark target rfl _
  simp only [cut_front, hlevel, ok_bind]

theorem read_of_bracket {target : Option String} {front rest : List Char}
    (hform : form = front ++ '[' :: rest) (htarget : TargetPart target front) :
    read (form ++ behind) = readSpan (form ++ behind) target (byteLength front + 1) rest := by
  subst hform
  cases htarget with
  | nothing =>
      rw [read, htrim]
      rfl
  | target htarget =>
      rw [read_of_startsTarget htrim (htarget.starts_append _),
        dropWhile_stretch htarget.inTarget rfl, takeWhile_stretch htarget.inTarget rfl,
        List.append_assoc]
      simp only [cut_front, ok_bind]
      rfl

theorem read_of_other (hform : ∀ c ∈ form.head?, startsTarget c = false ∧ c ≠ '[') :
    read (form ++ behind) = .error .refused := by
  rw [read, htrim]
  cases form with
  | nil => rfl
  | cons c rest =>
      obtain ⟨hstarts, hbracket⟩ := hform c rfl
      split
      · rfl
      · rename_i heq
        exact absurd (List.cons.inj heq).1 hbracket
      · rename_i heq
        obtain ⟨rfl, rfl⟩ := List.cons.inj heq
        rw [hstarts]
        rfl

/-- The forms of what is read, with white space behind the form or without. -/
theorem read_eq_ok_iff_of_trim {directive : Directive} :
    read (form ++ behind) = .ok directive ↔
      (TargetText form ∧ directive = ofWord (form ++ behind)) ∨
      (∃ target level limit, form = target ++ '=' :: level ∧ TargetText target ∧
        readLimit? (level ++ behind) = some limit ∧
        directive = ⟨some (String.ofList target), none, none, limit⟩) ∨
      ∃ target front rest, form = front ++ '[' :: rest ∧ TargetPart target front ∧
        readSpan (form ++ behind) target (byteLength front + 1) rest = .ok directive := by
  constructor
  · intro h
    -- the reader's way is settled by what ends the target
    rcases targetText_cases form with htarget | ⟨target, level, hform, htarget⟩ |
      ⟨target, front, rest, hform, htarget⟩ | hform
    · rw [read_of_targetText htrim htarget] at h
      exact .inl ⟨htarget, (Except.ok.inj h).symm⟩
    · rw [read_of_level htrim hform htarget] at h
      obtain ⟨limit, hlimit, h⟩ := bind_eq_ok.mp h
      exact .inr (.inl ⟨target, level, limit, hform, htarget, orRefused_eq_ok.mp hlimit,
        (Except.ok.inj h).symm⟩)
    · rw [read_of_bracket htrim hform htarget] at h
      exact .inr (.inr ⟨target, front, rest, hform, htarget, h⟩)
    · rw [read_of_other htrim hform] at h
      contradiction
  · rintro (⟨htarget, rfl⟩ | ⟨target, level, limit, hform, htarget, hlimit, rfl⟩ |
      ⟨target, front, rest, hform, htarget, h⟩)
    · exact read_of_targetText htrim htarget
    · rw [read_of_level htrim hform htarget, hlimit]
      rfl
    · rw [read_of_bracket htrim hform htarget, h]

/-- Only white space in front makes a cut fall inside a character. -/
theorem returns_read : Returns (read (form ++ behind)) := by
  rcases targetText_cases form with htarget | ⟨target, level, hform, htarget⟩ |
    ⟨target, front, rest, hform, htarget⟩ | hform
  · rw [read_of_targetText htrim htarget]
    nofun
  · rw [read_of_level htrim hform htarget]
    exact returns_bind (returns_orRefused _) nofun
  · rw [read_of_bracket htrim hform htarget]
    have htext : form ++ behind = (front ++ ['[']) ++ (rest ++ behind) := by simp [hform]
    refine returns_readSpan htext ?_
    rw [byteLength_append]
    rfl
  · rw [read_of_other htrim hform]
    nofun

end

/-- What is read from behind an opening bracket on, with nothing behind the form. -/
theorem readSpan_form_iff {front form : List Char} {target : Option String}
    {directive : Directive} :
    readSpan (front ++ '[' :: form) target (byteLength front + 1) form = .ok directive ↔
      (∃ name rest limit, form = name ++ ']' :: rest ∧ SpanText name ∧ LimitPart limit rest ∧
        directive = ⟨target, some (String.ofList name), none, limit⟩) ∨
      ∃ name field rest test limit, form = name ++ '\x7b' :: (field ++ '\x7d' :: ']' :: rest) ∧
        SpanText name ∧ FieldText field ∧ test.Spells field ∧ LimitPart limit rest ∧
        directive =
          ⟨target, if name = [] then none else some (String.ofList name), some test, limit⟩ := by
  have htext : front ++ '[' :: form = (front ++ ['[']) ++ (form ++ []) := by simp
  rw [readSpan_eq_ok_iff htext (byteLength_opening front).symm]
  constructor
  · rintro (⟨name, rest, rfl, hname, h⟩ | ⟨name, field, rest, test, rfl, hname, hfield, htest, h⟩)
    · rw [readAfterSpan_eq_ok_iff (by simp) (byteLength_bracketed front name).symm] at h
      obtain ⟨limit, hlimit, rfl⟩ := h
      exact .inl ⟨name, rest, limit, rfl, hname, hlimit, rfl⟩
    · rw [readAfterSpan_eq_ok_iff (by simp) (byteLength_braced front name field).symm] at h
      obtain ⟨limit, hlimit, rfl⟩ := h
      exact .inr ⟨name, field, rest, test, limit, rfl, hname, hfield, htest, hlimit, rfl⟩
  · rintro (⟨name, rest, limit, rfl, hname, hlimit, rfl⟩ |
      ⟨name, field, rest, test, limit, rfl, hname, hfield, htest, hlimit, rfl⟩)
    · refine .inl ⟨name, rest, rfl, hname, ?_⟩
      rw [readAfterSpan_eq_ok_iff (by simp) (byteLength_bracketed front name).symm]
      exact ⟨limit, hlimit, rfl⟩
    · refine .inr ⟨name, field, rest, test, rfl, hname, hfield, htest, ?_⟩
      rw [readAfterSpan_eq_ok_iff (by simp) (byteLength_braced front name field).symm]
      exact ⟨limit, hlimit, rfl⟩

/-- A text without white space at its ends is read exactly if it stands for a directive, and as that
one. -/
theorem read?_eq_some_iff {text : List Char} (htrim : trim isBlank text = text)
    {directive : Directive} : read? text = some directive ↔ directive.Spells text := by
  have htrim' : trim isBlank (text ++ []) = text := by rwa [List.append_nil]
  have hforms : read (text ++ []) = .ok directive ↔ _ := read_eq_ok_iff_of_trim htrim'
  simp only [List.append_nil] at hforms
  rw [read?, toOption_eq_some, hforms]
  constructor
  · rintro (⟨htarget, rfl⟩ | ⟨target, level, limit, rfl, htarget, hlevel, rfl⟩ |
      ⟨target, front, form, rfl, htarget, h⟩)
    · exact spells_ofWord htarget
    · exact .targetLimit htarget (readLimit?_eq_some_iff.mp hlevel)
    · rcases readSpan_form_iff.mp h with ⟨name, rest, limit, rfl, hname, hlimit, rfl⟩ |
        ⟨name, field, rest, test, limit, rfl, hname, hfield, htest, hlimit, rfl⟩
      · exact .span htarget hname hlimit
      · exact .field htarget hname hfield htest hlimit
  · intro h
    cases h with
    | limit htarget h =>
        refine .inl ⟨htarget, ?_⟩
        rw [ofWord, Limit.read?_eq_some_iff.mpr h]
    | target htarget h =>
        refine .inl ⟨htarget, ?_⟩
        have hnone : Limit.read? text = none := by
          refine Option.eq_none_iff_forall_ne_some.mpr fun limit hlimit => ?_
          exact h limit (Limit.read?_eq_some_iff.mp hlimit)
        rw [ofWord, hnone]
    | targetLimit htarget h =>
        exact .inr (.inl ⟨_, _, _, rfl, htarget, readLimit?_eq_some_iff.mpr h, rfl⟩)
    | span htarget hname h =>
        exact .inr (.inr ⟨_, _, _, rfl, htarget,
          readSpan_form_iff.mpr (.inl ⟨_, _, _, rfl, hname, h, rfl⟩)⟩)
    | field htarget hname hfield htest h =>
        exact .inr (.inr ⟨_, _, _, rfl, htarget,
          readSpan_form_iff.mpr (.inr ⟨_, _, _, _, _, rfl, hname, hfield, htest, h, rfl⟩)⟩)

end Directive

/-! ### Filters -/

structure Unpadded (text : List Char) : Prop where
  head : ∀ c ∈ text.head?, isBlank c = false
  last : ∀ c ∈ text.getLast?, isBlank c = false

instance (text : List Char) : Decidable (Unpadded text) :=
  decidable_of_iff (text.head?.all (!isBlank ·) ∧ text.getLast?.all (!isBlank ·)) (by
    simp only [Option.all_eq_true, Bool.not_eq_true']
    exact ⟨fun h => ⟨h.1, h.2⟩, fun h => ⟨h.head, h.last⟩⟩)

theorem dropWhile_eq_self_of_head {goes : Char → Bool} {text : List Char}
    (h : ∀ c ∈ text.head?, goes c = false) : text.dropWhile goes = text := by
  cases text with
  | nil => rfl
  | cons c rest => exact List.dropWhile_cons_of_neg (by simp [h c rfl])

/-- White space that is left out of a text that does not begin with it stands behind. -/
theorem exists_trim_eq {text : List Char} (h : ∀ c ∈ text.head?, isBlank c = false) :
    ∃ form behind, text = form ++ behind ∧ (∀ c ∈ behind, isBlank c = true) ∧
      trim isBlank (form ++ behind) = form := by
  have htext : text = trimEnd isBlank text ++ (text.reverse.takeWhile isBlank).reverse := by
    rw [trimEnd, ← List.reverse_append, List.takeWhile_append_dropWhile, List.reverse_reverse]
  refine ⟨_, _, htext, fun c hc => List.mem_takeWhile_imp (List.mem_reverse.mp hc), ?_⟩
  rw [← htext, trim, trimStart, dropWhile_eq_self_of_head h]

theorem Unpadded.trim_eq_self {text : List Char} (h : Unpadded text) :
    trim isBlank text = text := by
  have hlast : ∀ c ∈ text.reverse.head?, isBlank c = false := by
    rw [List.head?_reverse]
    exact h.last
  rw [trim, trimStart, dropWhile_eq_self_of_head h.head, trimEnd,
    dropWhile_eq_self_of_head hlast, List.reverse_reverse]

theorem exists_mem_of_forall₂ {α β : Type} {R : α → β → Prop} {as : List α} {bs : List β} {b : β}
    (h : List.Forall₂ R as bs) (hb : b ∈ bs) : ∃ a ∈ as, R a b := by
  induction h with
  | nil => contradiction
  | cons hab _ ih =>
      rcases List.mem_cons.mp hb with rfl | hb
      · exact ⟨_, List.mem_cons_self, hab⟩
      · obtain ⟨a, ha, h⟩ := ih hb
        exact ⟨a, List.mem_cons_of_mem _ ha, h⟩

theorem mapM_eq_some_iff {α β : Type} {f : α → Option β} {list : List α} {results : List β} :
    list.mapM f = some results ↔ List.Forall₂ (fun b a => f a = some b) results list := by
  induction list generalizing results with
  | nil => simp [eq_comm]
  | cons a list ih =>
      rw [List.mapM_cons]
      simp only [Option.bind_eq_bind, Option.bind_eq_some_iff, ih, Option.pure_def,
        Option.some.injEq]
      constructor
      · rintro ⟨b, hb, rest, hrest, rfl⟩
        exact .cons hb hrest
      · rintro (_ | ⟨hb, hrest⟩)
        exact ⟨_, hb, _, hrest, rfl⟩

theorem mapM_eq_none_iff {α β : Type} {f : α → Option β} {list : List α} :
    list.mapM f = none ↔ ∃ a ∈ list, f a = none := by
  induction list with
  | nil => simp
  | cons a list ih =>
      rw [List.mapM_cons, List.exists_mem_cons_iff, ← ih]
      cases f a <;> cases list.mapM f <;> simp

theorem mapM_eq_some_filterMap {α β : Type} {f : α → Option β} {list : List α}
    (h : ∀ a ∈ list, f a ≠ none) : list.mapM f = some (list.filterMap f) := by
  induction list with
  | nil => rfl
  | cons a list ih =>
      obtain ⟨ha, hlist⟩ := List.forall_mem_cons.mp h
      obtain ⟨b, hb⟩ := Option.ne_none_iff_exists'.mp ha
      rw [List.mapM_cons, ih hlist, hb, List.filterMap_cons_some hb]
      rfl

theorem words_of_intercalate {text : String} {pieces : List (List Char)}
    (htext : text.toList = [','].intercalate pieces)
    (hpieces : ∀ piece ∈ pieces, piece ≠ [] ∧ ',' ∉ piece) :
    words (· == ',') text.toList = pieces := by
  rw [htext]
  refine words_intercalate rfl pieces fun piece hpiece => ⟨(hpieces piece hpiece).1, ?_⟩
  intro c hc
  rw [beq_eq_false_iff_ne]
  rintro rfl
  exact (hpieces piece hpiece).2 hc

section

variable [PatternEngine]

theorem forall₂_spells_iff {pieces : List (List Char)} (hpieces : ∀ piece ∈ pieces, Unpadded piece)
    {directives : List Directive} :
    List.Forall₂ (fun directive piece => Directive.read? piece = some directive) directives pieces ↔
      List.Forall₂ Directive.Spells directives pieces := by
  induction pieces generalizing directives with
  | nil => rw [List.forall₂_nil_right_iff, List.forall₂_nil_right_iff]
  | cons piece pieces ih =>
      obtain ⟨hpiece, hrest⟩ := List.forall_mem_cons.mp hpieces
      rw [List.forall₂_cons_right_iff, List.forall₂_cons_right_iff]
      simp only [Directive.read?_eq_some_iff hpiece.trim_eq_self, ih hrest]

/-- As a partial function a filter reads all its pieces or none. -/
theorem Filter.toOption_read (text : String) : (read text).toOption =
    ((words (· == ',') text.toList).mapM Directive.read?).map ofDirectives := by
  have hpieces := toOption_mapM (f := Directive.read) (words (· == ',') text.toList)
  have hread : (fun piece => (Directive.read piece).toOption) = Directive.read? := rfl
  rw [hread] at hpieces
  rw [← hpieces, read]
  cases (words (· == ',') text.toList).mapM Directive.read with
  | error fault => rfl
  | ok directives => rfl

theorem Filter.ofText_eq (text : String) : ofText text = (read text).toOption.getD fallback := by
  rw [ofText, ofText?]
  cases read text with
  | error fault => cases fault <;> rfl
  | ok filter => rfl

/-- Pieces between commas are read as they are. -/
theorem Filter.toOption_read_of_intercalate {text : String} {pieces : List (List Char)}
    (htext : text.toList = [','].intercalate pieces)
    (hpieces : ∀ piece ∈ pieces, piece ≠ [] ∧ ',' ∉ piece) :
    (read text).toOption = (pieces.mapM Directive.read?).map ofDirectives := by
  rw [toOption_read, words_of_intercalate htext hpieces]

/-- No filter is built where the first fault among the pieces is that the reader breaks off. -/
theorem Filter.ofText?_eq_none_iff {text : String} : ofText? text = none ↔
    ∃ front piece back, words (· == ',') text.toList = front ++ piece :: back ∧
      (∀ other ∈ front, ∃ directive, Directive.read other = .ok directive) ∧
      Directive.read piece = .error .brokeOff := by
  rw [← mapM_eq_error, ofText?, read]
  cases (words (· == ',') text.toList).mapM Directive.read with
  | ok directives => simp [Except.map]
  | error fault => cases fault <;> simp [Except.map]

/-- A filter is built if the reader comes to an end on each piece. -/
theorem Filter.ofText?_of_pieces {text : String}
    (h : ∀ piece ∈ words (· == ',') text.toList, Directive.Returns (Directive.read piece)) :
    ofText? text = some (ofText text) := by
  cases hbuilt : ofText? text with
  | some filter => rw [ofText, hbuilt, Option.getD_some]
  | none =>
      obtain ⟨front, piece, back, hwords, _, hpiece⟩ := ofText?_eq_none_iff.mp hbuilt
      exact absurd hpiece (h piece (by simp [hwords]))

/-- Only white space in front of a piece makes the reader break off. -/
theorem Filter.ofText?_of_heads {text : String}
    (hheads : ∀ piece ∈ words (· == ',') text.toList, ∀ c ∈ piece.head?, isBlank c = false) :
    ofText? text = some (ofText text) := by
  refine ofText?_of_pieces fun piece hpiece => ?_
  obtain ⟨form, behind, rfl, _, htrim⟩ := exists_trim_eq (hheads piece hpiece)
  exact Directive.returns_read htrim

/-- A filter is made of all the pieces between the commas, if each that is not empty stands for a
directive; if one does not, it lets warnings and errors through, whatever the others are. -/
theorem Filter.ofText_of_pieces (text : String)
    (hpieces : ∀ piece ∈ words (· == ',') text.toList, Unpadded piece) :
    ((∀ piece ∈ words (· == ',') text.toList, ∃ directive : Directive, directive.Spells piece) →
      ∃ directives filter, List.Forall₂ Directive.Spells directives (words (· == ',') text.toList) ∧
        (∀ others, List.Forall₂ Directive.Spells others (words (· == ',') text.toList) →
          others = directives) ∧
        Filter.ofText? text = some filter ∧ filter.MadeOf directives ∧
        filter = .ofDirectives directives) ∧
    ((∃ piece ∈ words (· == ',') text.toList, ∀ directive : Directive, ¬directive.Spells piece) →
      Filter.ofText? text = some ⟨[⟨none, none, none, .upTo .warn⟩], [], .upTo .warn, .off⟩ ∧
        Filter.ofText? text = Filter.ofText? "warn") := by
  rw [ofText?_of_heads fun piece hpiece => (hpieces piece hpiece).head]
  constructor
  · intro hspelled
    -- a list that is not read has a piece that is not
    have hread : (words (· == ',') text.toList).mapM Directive.read? ≠ none := by
      rw [Ne, mapM_eq_none_iff]
      rintro ⟨piece, hpiece, hnone⟩
      obtain ⟨directive, hdirective⟩ := hspelled piece hpiece
      rw [(Directive.read?_eq_some_iff (hpieces piece hpiece).trim_eq_self).mpr hdirective] at hnone
      contradiction
    obtain ⟨directives, hdirectives⟩ := Option.ne_none_iff_exists'.mp hread
    refine ⟨directives, .ofDirectives directives, ?_, fun others hothers => ?_, ?_,
      madeOf_ofDirectives directives, rfl⟩
    · exact (forall₂_spells_iff hpieces).mp (mapM_eq_some_iff.mp hdirectives)
    · have hsame := mapM_eq_some_iff.mpr ((forall₂_spells_iff hpieces).mpr hothers)
      exact Option.some.inj (hsame.symm.trans hdirectives)
    · rw [ofText_eq, toOption_read, hdirectives]
      rfl
  · rintro ⟨piece, hpiece, hnone⟩
    have hread : Directive.read? piece = none := by
      refine Option.eq_none_iff_forall_ne_some.mpr fun directive hdirective => ?_
      exact hnone directive
        ((Directive.read?_eq_some_iff (hpieces piece hpiece).trim_eq_self).mp hdirective)
    have hall := mapM_eq_none_iff.mpr ⟨piece, hpiece, hread⟩
    have hwarn : ofText? "warn" = some fallback := rfl
    rw [ofText_eq, toOption_read, hall, hwarn]
    exact ⟨rfl, rfl⟩

end

/-- An empty piece, a target with a level by name, a span with a field and a rank, a span without a
name, and a level alone. -/
def mixedFilter : String := "-x=Warn,,net[conn\x7bid\x7d]=+3,[],off"

def mixedDirectives : List Directive :=
  [⟨some "-x", none, none, .upTo .warn⟩,
    ⟨some "net", some "conn", some ⟨"id", none⟩, .upTo .info⟩,
    ⟨none, some "", none, .upTo .trace⟩,
    .ofLimit .off]

theorem words_mixedFilter : words (· == ',') mixedFilter.toList =
    ["-x=Warn".toList, "net[conn\x7bid\x7d]=+3".toList, "[]".toList, "off".toList] := by
  decide

theorem spells_mixedFilter :
    List.Forall₂ Directive.Spells mixedDirectives (words (· == ',') mixedFilter.toList) := by
  have htarget : TargetText "-x".toList := by decide
  have hlevel : Limit.SpellsPart (.upTo .warn) "Warn".toList := .limit (.name rfl)
  have hfront : TargetPart (some "net") "net".toList := .target (by decide)
  have hname : SpanText "conn".toList := by decide
  have hfield : FieldText "id".toList := ⟨by decide, by decide⟩
  have htest : FieldTest.Spells ⟨"id", none⟩ "id".toList := .name (by decide)
  have hrank : Limit.Spells (.upTo .info) "+3".toList :=
    @Limit.Spells.rank _ ['+'] ['3'] (.inr rfl) (by decide) (by simp) rfl
  have hnothing : SpanText [] := by decide
  have hoff : TargetText "off".toList := by decide
  rw [words_mixedFilter]
  refine .cons (.targetLimit htarget hlevel)
    (.cons (.field hfront hname hfield htest (.limit (.limit hrank)))
      (.cons (.span .nothing hnothing .nothing) (.cons (.limit hoff (.name rfl)) .nil)))

/-- A second equals sign makes a piece stand for nothing. -/
theorem Filter.ofText_of_pieces_mixedFilter :
    (∀ piece ∈ words (· == ',') mixedFilter.toList, Unpadded piece) ∧
    (∀ piece ∈ words (· == ',') mixedFilter.toList, ∃ directive : Directive,
      directive.Spells piece) ∧
    (∃ filter, Filter.ofText? mixedFilter = some filter ∧ filter.MadeOf mixedDirectives ∧
      filter.statics.map Directive.text = ["-x=warn", "off"] ∧
      filter.dynamics.map Directive.text = ["net[conn\x7bid\x7d]=info", "[]=trace"]) ∧
    (∀ piece ∈ words (· == ',') "info,a==b".toList, Unpadded piece) ∧
    (∃ piece ∈ words (· == ',') "info,a==b".toList, ∀ directive : Directive,
      ¬directive.Spells piece) ∧
    Filter.ofText? "info,a==b" =
      some ⟨[⟨none, none, none, .upTo .warn⟩], [], .upTo .warn, .off⟩ := by
  have hpieces : ∀ piece ∈ words (· == ',') mixedFilter.toList, Unpadded piece := by
    rw [words_mixedFilter]
    decide
  have hspelled : ∀ piece ∈ words (· == ',') mixedFilter.toList, ∃ directive : Directive,
      directive.Spells piece := by
    intro piece hpiece
    obtain ⟨directive, _, hdirective⟩ := exists_mem_of_forall₂ spells_mixedFilter hpiece
    exact ⟨directive, hdirective⟩
  have hwords : words (· == ',') "info,a==b".toList = ["info".toList, "a==b".toList] := by decide
  have hpieces' : ∀ piece ∈ words (· == ',') "info,a==b".toList, Unpadded piece := by
    rw [hwords]
    decide
  have hbad : ∃ piece ∈ words (· == ',') "info,a==b".toList, ∀ directive : Directive,
      ¬directive.Spells piece := by
    refine ⟨"a==b".toList, by decide, fun directive hdirective => ?_⟩
    have hread : Directive.read? "a==b".toList = none := rfl
    rw [(Directive.read?_eq_some_iff (by decide)).mpr hdirective] at hread
    contradiction
  obtain ⟨directives, filter, _, hunique, heq, hmade, hfilter⟩ :=
    (Filter.ofText_of_pieces mixedFilter hpieces).1 hspelled
  obtain rfl := hunique _ spells_mixedFilter
  refine ⟨hpieces, hspelled, ⟨filter, heq, hmade, ?_, ?_⟩, hpieces', hbad,
    ((Filter.ofText_of_pieces "info,a==b" hpieces').2 hbad).1⟩
  all_goals
    rw [hfilter]
    decide

end PageSync.Log
