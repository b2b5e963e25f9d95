import PageSync.Proofs.Log.Limits
import PageSync.Proofs.Log.Reprinting

/-!
The order of the pieces of a filter. It matters only among directives that are compared as equal: a
filter is fixed by the lists of those that are equal to each other (`Filter.ofDirectives_eq`). So
where no two directives ask for the same, the pieces may come in any order, provided that the reader
breaks off on none of them (`Filter.buildAlike_iff`). Where it breaks off on one and refuses
another, the order decides whether there is a filter at all.
-/

namespace PageSync.Log

open Text

/-! ### Limits -/

namespace Limit

theorem rank_le_of_allows {a b : Limit}
    (h : ∀ level, a.allows level = true → b.allows level = true) : a.rank ≤ b.rank := by
  cases a with
  | off => exact Nat.zero_le _
  | upTo level =>
      have hself : (upTo level).allows level = true := decide_eq_true (Nat.le_refl _)
      exact of_decide_eq_true (h level hself)

/-- The most verbose of some limits does not depend on their order. -/
theorem maximum_congr {limits others : List Limit}
    (h : ∀ limit, limit ∈ limits ↔ limit ∈ others) : maximum limits = maximum others := by
  have hallows : ∀ level, (maximum limits).allows level = true ↔
      (maximum others).allows level = true := by
    intro level
    simp only [allows_maximum, List.any_eq_true, h]
  exact rank_injective (Nat.le_antisymm
    (rank_le_of_allows fun level => (hallows level).mp)
    (rank_le_of_allows fun level => (hallows level).mpr))

end Limit

/-! ### Directives that ask for the same -/

/-- Values that are equal in the order are the same. Patterns are compared by their texts. -/
theorem Expected.eq_of_exactly {a b : Expected} (ha : a.isExact) (hb : b.isExact)
    (h : a.exactly b = .eq) : a = b := by
  cases a <;> cases b
  case pattern.pattern p q =>
    have hcompare : compareText p.text q.text = .eq := h
    have hsame : p.text = q.text := Std.LawfulEqCmp.eq_of_compare hcompare
    exact congrArg pattern (congrArg Pattern.mk hsame)
  case bool.bool b b' =>
    have hcompare : compare b b' = .eq := h
    rw [Std.LawfulEqCmp.eq_of_compare hcompare]
  case natural.natural n n' =>
    have hcompare : compare n n' = .eq := h
    rw [Std.LawfulEqCmp.eq_of_compare hcompare]
  case integer.integer n n' =>
    have hcompare : compare n n' = .eq := h
    rw [Std.LawfulEqCmp.eq_of_compare hcompare]
  case nan.nan => rfl
  all_goals contradiction

theorem FieldTest.eq_of_exactly {a b : FieldTest} (ha : ∀ e ∈ a.value, e.isExact)
    (hb : ∀ e ∈ b.value, e.isExact) (h : a.exactly b = .eq) : a = b := by
  obtain ⟨name, value⟩ := a
  obtain ⟨name', value'⟩ := b
  simp only [exactly, specificity, Ordering.then_eq_eq] at h
  obtain ⟨-, hname, hvalue⟩ := h
  obtain rfl : name = name' := Std.LawfulEqCmp.eq_of_compare hname
  cases value <;> cases value'
  case some.some e e' =>
    have heq : e = e' := Expected.eq_of_exactly (ha e rfl) (hb e' rfl) hvalue
    rw [heq]
  case none.none => rfl
  all_goals contradiction

namespace Directive

structure SameScope (a b : Directive) : Prop where
  target : a.target = b.target
  span : a.span = b.span
  field : a.field = b.field

/-- Directives that are equal in the order ask for the same. -/
theorem sameScope_of_exactly {a b : Directive} (ha : a.isExact) (hb : b.isExact)
    (h : a.exactly b = .eq) : a.SameScope b := by
  obtain ⟨htarget, hspan, hfield⟩ := scope_of_exactly h
  refine ⟨htarget, hspan, ?_⟩
  rw [isExact, Option.all_eq_true] at ha hb
  generalize a.field = field at *
  generalize b.field = field' at *
  cases field <;> cases field'
  case some.some test test' =>
    have hexact := ha test rfl
    have hexact' := hb test' rfl
    rw [Option.all_eq_true] at hexact hexact'
    exact congrArg some (FieldTest.eq_of_exactly hexact hexact' hfield)
  case none.none => rfl
  all_goals contradiction

end Directive

/-! ### Filters -/

namespace Filter

/-- Of those equal to any one directive, both lists hold the same in the same order. -/
def SameOrder (directives others : List Directive) : Prop :=
  ∀ directive, directives.filter (·.exactly directive == .eq) =
    others.filter (·.exactly directive == .eq)

variable {directives others : List Directive}

theorem SameOrder.mem_iff (h : SameOrder directives others) {directive : Directive} :
    directive ∈ directives ↔ directive ∈ others := by
  have hself : directive.exactly directive = .eq := Std.ReflCmp.compare_self
  have hmem : ∀ list : List Directive,
      directive ∈ list ↔ directive ∈ list.filter (·.exactly directive == .eq) := by
    intro list
    simp [hself]
  rw [hmem directives, h directive, ← hmem others]

theorem SameOrder.filter (h : SameOrder directives others) (keep : Directive → Bool) :
    SameOrder (directives.filter keep) (others.filter keep) := by
  intro directive
  rw [List.filter_comm, h directive, List.filter_comm]

theorem SameOrder.append {more rest : List Directive} (h : SameOrder directives others)
    (h' : SameOrder more rest) : SameOrder (directives ++ more) (others ++ rest) := by
  intro directive
  rw [List.filter_append, List.filter_append, h directive, h' directive]

theorem SameOrder.maximum_eq (h : SameOrder directives others) :
    Limit.maximum (directives.map Directive.limit) =
      Limit.maximum (others.map Directive.limit) := by
  refine Limit.maximum_congr fun limit => ?_
  simp only [List.mem_map, h.mem_iff]

/-- A filter is fixed by the lists of the directives that are equal to each other. -/
theorem ofDirectives_eq (h : SameOrder directives others)
    (hexact : ∀ directive ∈ directives, directive.isExact) :
    ofDirectives directives = ofDirectives others := by
  have hexact' : ∀ directive ∈ others, directive.isExact := fun directive hmem =>
    hexact directive (h.mem_iff.mpr hmem)
  have hdynamics := h.filter Directive.isDynamic
  have hstatics := (h.filter fun directive => !directive.isDynamic).append
    (hdynamics.filter Directive.isStatic)
  have hext : ∀ {a b : Filter}, a.statics = b.statics → a.dynamics = b.dynamics →
      a.staticLimit = b.staticLimit → a.dynamicLimit = b.dynamicLimit → a = b := by
    rintro ⟨⟩ ⟨⟩ rfl rfl rfl rfl
    rfl
  apply hext
  · rw [statics_eq_sortBy_exactly hexact, statics_eq_sortBy_exactly hexact']
    exact sortBy_eq_of_filter_eq hstatics
  · rw [dynamics_eq_sortBy_exactly hexact, dynamics_eq_sortBy_exactly hexact']
    exact sortBy_eq_of_filter_eq hdynamics
  · rw [staticLimit_ofDirectives, staticLimit_ofDirectives, hstatics.maximum_eq]
  · rw [dynamicLimit_ofDirectives, dynamicLimit_ofDirectives, hdynamics.maximum_eq]

theorem sameOrder_of_perm (h : directives.Perm others)
    (hunlike : directives.Pairwise fun a b => a.exactly b ≠ .eq) : SameOrder directives others := by
  intro directive
  -- no two of the directives are equal to the same one, so each of the two lists has at most one
  have hnone : (directives.filter (·.exactly directive == .eq)).Pairwise fun _ _ => False := by
    refine List.pairwise_filter.mpr (hunlike.imp fun {a b} hne ha hb => hne ?_)
    rw [beq_iff_eq] at ha hb
    rw [Std.TransCmp.congr_left ha, Std.OrientedCmp.eq_comm]
    exact hb
  have hperm := h.filter (·.exactly directive == .eq)
  have hnone' := (hperm.pairwise_iff fun {a b} h => h).mp hnone
  exact hperm.eq_of_pairwise (fun _ _ _ _ habsurd => habsurd.elim) hnone hnone'

/-- Directives that ask for different things are unequal in the order. -/
theorem unlike_of_pairwise (hexact : ∀ directive ∈ directives, directive.isExact)
    (hunlike : directives.Pairwise fun a b => ¬a.SameScope b) :
    directives.Pairwise fun a b => a.exactly b ≠ .eq :=
  hunlike.imp_of_mem fun {a b} ha hb hne heq =>
    hne (Directive.sameScope_of_exactly (hexact a ha) (hexact b hb) heq)

section

variable [PatternEngine]

/-- Filters are built of both texts, and they cannot be told apart. -/
def BuildAlike (text other : String) : Prop :=
  ∃ filter filter', ofText? text = some filter ∧ ofText? other = some filter' ∧
    filter.statics = filter'.statics ∧ filter.dynamics = filter'.dynamics ∧
    filter.text = filter'.text ∧ filter.limit = filter'.limit ∧
    ∀ steps, (({ filter := some filter } : Recorder).run steps).2 =
      (({ filter := some filter' } : Recorder).run steps).2

variable {pieces others : List (List Char)} {text other : String}

/-- A piece that is refused makes the filter the fallback, wherever it stands. -/
theorem ofText_eq_of_perm (hperm : pieces.Perm others)
    (hpieces : ∀ piece ∈ pieces, piece ≠ [] ∧ ',' ∉ piece)
    (hexact : ∀ piece ∈ pieces, ∀ directive,
      Directive.read? piece = some directive → directive.isExact)
    (hunlike : (pieces.filterMap Directive.read?).Pairwise fun a b => ¬a.SameScope b)
    (htext : text.toList = [','].intercalate pieces)
    (hother : other.toList = [','].intercalate others) : ofText text = ofText other := by
  have hothers : ∀ piece ∈ others, piece ≠ [] ∧ ',' ∉ piece := fun piece hmem =>
    hpieces piece (hperm.mem_iff.mpr hmem)
  rw [ofText_eq, ofText_eq, toOption_read_of_intercalate htext hpieces,
    toOption_read_of_intercalate hother hothers]
  -- a piece that is refused gives the fallback wherever it stands
  by_cases hread : ∃ piece ∈ pieces, Directive.read? piece = none
  · obtain ⟨piece, hmem, hnone⟩ := hread
    rw [mapM_eq_none_iff.mpr ⟨piece, hmem, hnone⟩,
      mapM_eq_none_iff.mpr ⟨piece, hperm.mem_iff.mp hmem, hnone⟩]
  · have hleft : ∀ piece ∈ pieces, Directive.read? piece ≠ none := fun piece hmem hnone =>
      hread ⟨piece, hmem, hnone⟩
    have hright : ∀ piece ∈ others, Directive.read? piece ≠ none := fun piece hmem =>
      hleft piece (hperm.mem_iff.mpr hmem)
    have hall : ∀ directive ∈ pieces.filterMap Directive.read?, directive.isExact := by
      intro directive hmem
      obtain ⟨piece, hpiece, hdirective⟩ := List.mem_filterMap.mp hmem
      exact hexact piece hpiece directive hdirective
    have hsame := sameOrder_of_perm (hperm.filterMap Directive.read?)
      (unlike_of_pairwise hall hunlike)
    rw [mapM_eq_some_filterMap hleft, mapM_eq_some_filterMap hright, Option.map_some,
      Option.map_some, ofDirectives_eq hsame hall]

theorem ofText?_of_intercalate (htext : text.toList = [','].intercalate pieces)
    (hpieces : ∀ piece ∈ pieces, piece ≠ [] ∧ ',' ∉ piece)
    (hreturns : ∀ piece ∈ pieces, Directive.read piece ≠ .error .brokeOff) :
    ofText? text = some (ofText text) := by
  refine ofText?_of_pieces ?_
  rwa [words_of_intercalate htext hpieces]

/-- The reader comes to a piece that it breaks off on if that piece is the first. -/
theorem ofText?_of_front {piece : List Char}
    (htext : text.toList = [','].intercalate (piece :: pieces))
    (hpieces : ∀ other ∈ piece :: pieces, other ≠ [] ∧ ',' ∉ other)
    (hpiece : Directive.read piece = .error .brokeOff) : ofText? text = none := by
  refine ofText?_eq_none_iff.mpr ⟨[], piece, pieces, ?_, nofun, hpiece⟩
  exact words_of_intercalate htext hpieces

/-- The order of pieces that ask for different things does not matter exactly if the reader comes
to an end on each of them. -/
theorem buildAlike_iff (hpieces : ∀ piece ∈ pieces, piece ≠ [] ∧ ',' ∉ piece)
    (hexact : ∀ piece ∈ pieces, ∀ directive,
      Directive.read? piece = some directive → directive.isExact)
    (hunlike : (pieces.filterMap Directive.read?).Pairwise fun a b => ¬a.SameScope b) :
    (∀ others text other, pieces.Perm others → text.toList = [','].intercalate pieces →
      other.toList = [','].intercalate others → BuildAlike text other) ↔
      ∀ piece ∈ pieces, Directive.read piece ≠ .error .brokeOff := by
  constructor
  · -- in front of all others a piece on which the reader breaks off leaves no filter
    intro halike piece hmem hpiece
    have hperm : pieces.Perm (piece :: pieces.erase piece) := List.perm_cons_erase hmem
    obtain ⟨_, _, _, hbuilt, _⟩ := halike (piece :: pieces.erase piece)
      (String.ofList ([','].intercalate pieces))
      (String.ofList ([','].intercalate (piece :: pieces.erase piece))) hperm
      String.toList_ofList String.toList_ofList
    rw [ofText?_of_front String.toList_ofList
      (fun other hother => hpieces other (hperm.mem_iff.mpr hother)) hpiece] at hbuilt
    contradiction
  · intro hreturns others text other hperm htext hother
    have hsame := ofText_eq_of_perm hperm hpieces hexact hunlike htext hother
    have hbuilt := ofText?_of_intercalate htext hpieces hreturns
    have hbuilt' := ofText?_of_intercalate hother
      (fun piece hmem => hpieces piece (hperm.mem_iff.mpr hmem))
      (fun piece hmem => hreturns piece (hperm.mem_iff.mpr hmem))
    rw [← hsame] at hbuilt'
    exact ⟨_, _, hbuilt, hbuilt', rfl, rfl, rfl, rfl, fun _ => rfl⟩

end

/-- A level alone, a target, a field that is asked for in both lists, and a value. -/
def unlikePieces : List (List Char) :=
  ["info".toList, "api=warn".toList, "[\x7bid\x7d]=debug".toList,
    "api[request\x7bid=7\x7d]=trace".toList]

theorem buildAlike_unlikePieces :
    (∀ piece ∈ unlikePieces, piece ≠ [] ∧ ',' ∉ piece) ∧
    (∀ piece ∈ unlikePieces, ∀ directive,
      Directive.read? piece = some directive → directive.isExact) ∧
    ((unlikePieces.filterMap Directive.read?).Pairwise fun a b => ¬a.SameScope b) ∧
    (∀ piece ∈ unlikePieces, Directive.read piece ≠ .error .brokeOff) ∧
    BuildAlike "info,api=warn,[\x7bid\x7d]=debug,api[request\x7bid=7\x7d]=trace"
      "api[request\x7bid=7\x7d]=trace,[\x7bid\x7d]=debug,api=warn,info" := by
  have hpieces : ∀ piece ∈ unlikePieces, piece ≠ [] ∧ ',' ∉ piece := by decide
  have hexact : ∀ piece ∈ unlikePieces, ∀ directive,
      Directive.read? piece = some directive → directive.isExact := by
    have hall : ∀ piece ∈ unlikePieces, (Directive.read? piece).all Directive.isExact := by decide
    intro piece hpiece directive hread
    simpa [hread] using hall piece hpiece
  have hunlike : (unlikePieces.filterMap Directive.read?).Pairwise fun a b => ¬a.SameScope b := by
    have hparts : (unlikePieces.filterMap Directive.read?).Pairwise fun a b =>
        a.target ≠ b.target ∨ a.span ≠ b.span ∨ a.field.isSome ≠ b.field.isSome := by decide
    refine hparts.imp fun {a b} hdiff hsame => ?_
    rw [hsame.target, hsame.span, hsame.field] at hdiff
    simp at hdiff
  have hreturns : ∀ piece ∈ unlikePieces, Directive.read piece ≠ .error .brokeOff := by
    have hsome : ∀ piece ∈ unlikePieces, (Directive.read? piece).isSome := by decide
    intro piece hpiece hread
    have hnone := hsome piece hpiece
    rw [Directive.read?, hread] at hnone
    contradiction
  exact ⟨hpieces, hexact, hunlike, hreturns,
    (buildAlike_iff hpieces hexact hunlike).mpr hreturns unlikePieces.reverse _ _
      unlikePieces.reverse_perm.symm (by decide) (by decide)⟩

/-- A second equals sign is refused, and the white space in front makes the end of the target fall
inside its only letter. -/
def faultyPieces : List (List Char) := ["a==b".toList, " é=info".toList]

theorem not_buildAlike_faultyPieces :
    ¬∀ pieces others text other,
      (∀ piece ∈ pieces, piece ≠ [] ∧ ',' ∉ piece) →
      (∀ piece ∈ pieces, ∀ directive,
        Directive.read? piece = some directive → directive.isExact) →
      ((pieces.filterMap Directive.read?).Pairwise fun a b => ¬a.SameScope b) →
      pieces.Perm others → text.toList = [','].intercalate pieces →
      other.toList = [','].intercalate others → BuildAlike text other := by
  intro h
  have hread : ∀ piece ∈ faultyPieces, Directive.read? piece = none := by decide
  have hexact : ∀ piece ∈ faultyPieces, ∀ directive,
      Directive.read? piece = some directive → directive.isExact := by
    intro piece hpiece directive hdirective
    rw [hread piece hpiece] at hdirective
    contradiction
  have hunlike : (faultyPieces.filterMap Directive.read?).Pairwise fun a b => ¬a.SameScope b := by
    rw [List.filterMap_eq_nil_iff.mpr hread]
    exact .nil
  obtain ⟨_, _, _, hbuilt, _⟩ := h faultyPieces faultyPieces.reverse "a==b, é=info" " é=info,a==b"
    (by decide) hexact hunlike faultyPieces.reverse_perm.symm (by decide) (by decide)
  have hnone : ofText? " é=info,a==b" = none := by decide
  rw [hnone] at hbuilt
  contradiction

end Filter

end PageSync.Log
