import Mathlib.Data.List.Forall2
import PageSync.Log.Filter
import PageSync.Proofs.Log.Specificity

/-!
The two tables of a filter. Of the static directives that were written the table of statics holds
the last of those that ask for the same, and likewise for the dynamic ones; the limit of a table is
the most verbose of all that were written for it, also of those that were replaced
(`Filter.madeOf_ofDirectives`).
-/

namespace PageSync.Log

/-! ### The most verbose limit -/

namespace Limit

theorem allows_off (level : Level) : off.allows level = false := by
  cases level <;> rfl

theorem allows_trace (level : Level) : (upTo .trace).allows level = true := by
  cases level <;> rfl

theorem allows_max (a b : Limit) (level : Level) :
    (max a b).allows level = (a.allows level || b.allows level) := by
  rw [Bool.eq_iff_iff]
  simp only [allows, rank_max, Bool.or_eq_true, decide_eq_true_eq, Nat.max_def]
  split <;> omega

theorem allows_foldl_max (limits : List Limit) (first : Limit) (level : Level) :
    (limits.foldl max first).allows level =
      (first.allows level || limits.any (·.allows level)) := by
  induction limits generalizing first with
  | nil => simp
  | cons limit rest ih => rw [List.foldl_cons, ih, allows_max, List.any_cons, Bool.or_assoc]

/-- The most verbose of some limits allows what any of them does. -/
theorem allows_maximum (limits : List Limit) (level : Level) :
    (maximum limits).allows level = limits.any (·.allows level) := by
  rw [maximum, allows_foldl_max, allows_off, Bool.false_or]

end Limit

/-! ### Tables -/

theorem mem_insertBy_self {α : Type} (cmp : α → α → Ordering) (entry : α) (sorted : List α) :
    entry ∈ insertBy cmp entry sorted := by
  induction sorted with
  | nil => exact List.mem_singleton_self entry
  | cons first rest ih =>
      rw [insertBy]
      split
      · exact List.mem_cons_self
      · exact List.mem_cons_self
      · exact List.mem_cons_of_mem first ih

theorem mem_insertBy_of_ne {α : Type} {cmp : α → α → Ordering} {entry other : α}
    {sorted : List α} (hmem : other ∈ sorted) (hne : cmp entry other ≠ .eq) :
    other ∈ insertBy cmp entry sorted := by
  induction sorted with
  | nil => contradiction
  | cons first rest ih =>
      rw [insertBy]
      split
      · exact List.mem_cons_of_mem entry hmem
      · rename_i heq
        rcases List.mem_cons.mp hmem with rfl | hmem
        · exact absurd heq hne
        · exact List.mem_cons_of_mem entry hmem
      · rcases List.mem_cons.mp hmem with rfl | hmem
        · exact List.mem_cons_self
        · exact List.mem_cons_of_mem first (ih hmem)

/-- Sorting keeps what nothing written later is equal to, whatever the comparison. -/
theorem mem_sortBy_of_last {α : Type} {cmp : α → α → Ordering} {entry : α} (before : List α)
    {after : List α} (hafter : ∀ other ∈ after, cmp other entry ≠ .eq) :
    entry ∈ sortBy cmp (before ++ entry :: after) := by
  induction after using List.reverseRecOn with
  | nil =>
      rw [sortBy_concat]
      exact mem_insertBy_self cmp entry _
  | append_singleton after last ih =>
      rw [List.forall_mem_append, List.forall_mem_singleton] at hafter
      rw [← List.cons_append, ← List.append_assoc, sortBy_concat]
      exact mem_insertBy_of_ne (ih hafter.1) hafter.2

/-- A table of what was written: nothing else is in it, and what nothing written later is equal to.
Without floats, which have no laws here, it is in strictly descending order. -/
structure Tabled (written table : List Directive) : Prop where
  mem : ∀ directive ∈ table, directive ∈ written
  last : ∀ before directive after, written = before ++ directive :: after →
    (∀ other ∈ after, other.specificity directive ≠ .eq) → directive ∈ table
  ranked : (∀ directive ∈ written, directive.isExact) → Ranked Directive.specificity table

theorem tabled_sortBy (written : List Directive) :
    Tabled written (sortBy Directive.specificity written) where
  mem _ := mem_of_mem_sortBy
  last := by
    rintro before directive after rfl hafter
    exact mem_sortBy_of_last before hafter
  ranked := by
    intro hexact
    have hexactly : ∀ a ∈ written, ∀ b ∈ written, a.specificity b = a.exactly b :=
      fun a ha b hb => Directive.specificity_eq_exactly (hexact a ha) (hexact b hb)
    have hranked : Ranked Directive.exactly (sortBy Directive.specificity written) := by
      rw [sortBy_congr hexactly]
      exact ranked_sortBy written
    exact hranked.imp_of_mem fun ha hb h =>
      (hexactly _ (mem_of_mem_sortBy ha) _ (mem_of_mem_sortBy hb)).trans h

/-! ### The tables of a filter -/

namespace Directive

theorem isStatic_of_isDynamic_eq_false {directive : Directive} (h : directive.isDynamic = false) :
    directive.isStatic := by
  simp only [isDynamic, Bool.or_eq_false_iff, Option.isSome_eq_false_iff] at h
  obtain ⟨hspan, hfield⟩ := h
  rw [isStatic, hasValue, Option.isNone_iff_eq_none.mp hfield, hspan]
  rfl

theorem isDynamic_eq_of_specificity {a b : Directive} (h : a.specificity b = .eq) :
    a.isDynamic = b.isDynamic := by
  simp only [specificity, Ordering.then_eq_eq, Std.compare_eq_iff_eq] at h
  rw [isDynamic, isDynamic, h.2.1, h.2.2.1]

end Directive

namespace Filter

theorem statics_ofDirectives (directives : List Directive) :
    (ofDirectives directives).statics = sortBy Directive.specificity
      ((directives.filter fun directive => !directive.isDynamic) ++
        (directives.filter Directive.isDynamic).filter Directive.isStatic) := by
  simp [ofDirectives, List.partition_eq_filter_filter, Function.comp_def]

theorem dynamics_ofDirectives (directives : List Directive) :
    (ofDirectives directives).dynamics =
      sortBy Directive.specificity (directives.filter Directive.isDynamic) := by
  simp [ofDirectives, List.partition_eq_filter_filter]

theorem staticLimit_ofDirectives (directives : List Directive) :
    (ofDirectives directives).staticLimit = Limit.maximum
      (((directives.filter fun directive => !directive.isDynamic) ++
        (directives.filter Directive.isDynamic).filter
          Directive.isStatic).map Directive.limit) := by
  simp [ofDirectives, List.partition_eq_filter_filter, Function.comp_def]

theorem dynamicLimit_ofDirectives (directives : List Directive) :
    (ofDirectives directives).dynamicLimit =
      Limit.maximum ((directives.filter Directive.isDynamic).map Directive.limit) := by
  simp [ofDirectives, List.partition_eq_filter_filter]

/-- The static directives, as they are put into their table: those on fields come last. -/
theorem mem_written_statics {directives : List Directive} {directive : Directive} :
    directive ∈ (directives.filter fun directive => !directive.isDynamic) ++
        (directives.filter Directive.isDynamic).filter Directive.isStatic ↔
      directive ∈ directives ∧ directive.isStatic := by
  have hplain : directive.isDynamic = false → directive.isStatic :=
    Directive.isStatic_of_isDynamic_eq_false
  simp only [List.mem_append, List.mem_filter, Bool.not_eq_true']
  cases hdynamic : directive.isDynamic with
  | false => simp [hplain hdynamic]
  | true => simp

theorem mem_of_mem_statics {directives : List Directive} {directive : Directive}
    (h : directive ∈ (ofDirectives directives).statics) :
    directive ∈ directives ∧ directive.isStatic := by
  rw [statics_ofDirectives] at h
  exact mem_written_statics.mp (mem_of_mem_sortBy h)

theorem mem_of_mem_dynamics {directives : List Directive} {directive : Directive}
    (h : directive ∈ (ofDirectives directives).dynamics) :
    directive ∈ directives ∧ directive.isDynamic := by
  rw [dynamics_ofDirectives] at h
  exact List.mem_filter.mp (mem_of_mem_sortBy h)

/-- What a filter holds of the directives that were written: a table of the static ones, a table of
the dynamic ones, and the most verbose level of each kind. -/
structure MadeOf (filter : Filter) (directives : List Directive) : Prop where
  statics : Tabled (directives.filter Directive.isStatic) filter.statics
  dynamics : Tabled (directives.filter Directive.isDynamic) filter.dynamics
  staticLimit : ∀ level, filter.staticLimit.allows level = true ↔
    ∃ directive ∈ directives, directive.isStatic ∧ directive.limit.allows level
  dynamicLimit : ∀ level, filter.dynamicLimit.allows level = true ↔
    ∃ directive ∈ directives, directive.isDynamic ∧ directive.limit.allows level

/-- A directive without and one with a field are never equal, so that it does not matter that the
table of statics takes the one kind before the other. -/
theorem tabled_statics (directives : List Directive) :
    Tabled (directives.filter Directive.isStatic) (ofDirectives directives).statics where
  mem directive hmem := List.mem_filter.mpr (mem_of_mem_statics hmem)
  last := by
    intro before directive after hwritten hafter
    have hmem : directive ∈ directives.filter Directive.isStatic := hwritten ▸ by simp
    have hstatic := (List.mem_filter.mp hmem).2
    -- the static table is built of the plain directives and, behind them, of those on a field, so
    -- what is the last of its kind as written has to be the last in that order
    let plain : Directive → Bool := fun directive => !directive.isDynamic
    have hplain : directives.filter plain =
        (directives.filter Directive.isStatic).filter plain := by
      rw [List.filter_filter]
      refine List.filter_congr fun other _ => ?_
      cases hother : other.isDynamic with
      | false => simp [plain, hother, Directive.isStatic_of_isDynamic_eq_false hother]
      | true => simp [plain, hother]
    have hfields : (directives.filter Directive.isDynamic).filter Directive.isStatic =
        (directives.filter Directive.isStatic).filter Directive.isDynamic := List.filter_comm ..
    have hsplit : ∀ keep : Directive → Bool, keep directive →
        (directives.filter Directive.isStatic).filter keep =
          before.filter keep ++ directive :: after.filter keep := by
      intro keep hkeep
      rw [hwritten, List.filter_append, List.filter_cons_of_pos hkeep]
    rw [statics_ofDirectives]
    cases hdynamic : directive.isDynamic with
    | false =>
        rw [hplain, hfields, hsplit plain (by simp [plain, hdynamic]), List.append_assoc,
          List.cons_append]
        refine mem_sortBy_of_last _ fun other hother => ?_
        -- those on a field come behind it in any case, but none of them is equal to it
        rcases List.mem_append.mp hother with hother | hother
        · exact hafter other (List.mem_of_mem_filter hother)
        · intro heq
          have hsame := Directive.isDynamic_eq_of_specificity heq
          rw [(List.mem_filter.mp hother).2, hdynamic] at hsame
          contradiction
    | true =>
        rw [hfields, hsplit Directive.isDynamic hdynamic, ← List.append_assoc]
        exact mem_sortBy_of_last _ fun other hother => hafter other (List.mem_of_mem_filter hother)
  ranked := by
    intro hexact
    rw [statics_ofDirectives]
    refine (tabled_sortBy _).ranked fun directive hmem => ?_
    exact hexact directive (List.mem_filter.mpr (mem_written_statics.mp hmem))

theorem madeOf_ofDirectives (directives : List Directive) :
    (ofDirectives directives).MadeOf directives where
  statics := tabled_statics directives
  dynamics := dynamics_ofDirectives directives ▸ tabled_sortBy _
  staticLimit := by
    intro level
    rw [staticLimit_ofDirectives, Limit.allows_maximum, List.any_map, List.any_eq_true]
    simp only [mem_written_statics, Function.comp_apply, and_assoc]
  dynamicLimit := by
    intro level
    rw [dynamicLimit_ofDirectives, Limit.allows_maximum, List.any_map, List.any_eq_true]
    simp only [List.mem_filter, Function.comp_apply, and_assoc]

end Filter

end PageSync.Log
