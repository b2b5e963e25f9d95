import Mathlib.Data.List.Induction
import PageSync.Log.Specificity

/-!
Lists in the order of their entries. Sorting puts the entries in strictly descending order and keeps
the last of those that are equal in it (`mem_sortBy_append`); a list in strictly descending order is
fixed by its members (`Ranked.eq_of_mem_iff`), so that sorting such members again, in whatever order
and however often each, gives the list back (`Ranked.sortBy_eq`).

Directives are compared lawfully as long as no float is: the floats have no laws here.
`Directive.exactly` compares all directives lawfully, and as `Directive.specificity` does where
there are no floats.
-/

namespace PageSync.Log

/-! ### Sorting by a comparison -/

section

variable {α : Type} {cmp : α → α → Ordering}

@[simp]
theorem sortBy_nil : sortBy cmp [] = [] := rfl

theorem sortBy_concat (entries : List α) (entry : α) :
    sortBy cmp (entries ++ [entry]) = insertBy cmp entry (sortBy cmp entries) := by
  rw [sortBy, List.foldl_append]
  rfl

theorem mem_of_mem_insertBy {entry other : α} {sorted : List α}
    (h : other ∈ insertBy cmp entry sorted) : other = entry ∨ other ∈ sorted := by
  induction sorted with
  | nil => exact .inl (List.mem_singleton.mp h)
  | cons first rest ih =>
      rw [insertBy] at h
      split at h
      · exact List.mem_cons.mp h
      · exact (List.mem_cons.mp h).imp_right (List.mem_cons_of_mem first)
      · rcases List.mem_cons.mp h with rfl | h
        · exact .inr List.mem_cons_self
        · exact (ih h).imp_right (List.mem_cons_of_mem first)

/-- Nothing is made up by sorting. -/
theorem mem_of_mem_sortBy {entry : α} {entries : List α} (h : entry ∈ sortBy cmp entries) :
    entry ∈ entries := by
  induction entries using List.reverseRecOn with
  | nil => exact h
  | append_singleton entries last ih =>
      rw [sortBy_concat] at h
      rw [List.mem_append, List.mem_singleton]
      exact (mem_of_mem_insertBy h).symm.imp_left ih

theorem insertBy_congr {cmp' : α → α → Ordering} {entry : α} {sorted : List α}
    (h : ∀ other ∈ sorted, cmp entry other = cmp' entry other) :
    insertBy cmp entry sorted = insertBy cmp' entry sorted := by
  induction sorted with
  | nil => rfl
  | cons first rest ih =>
      obtain ⟨hfirst, hrest⟩ := List.forall_mem_cons.mp h
      rw [insertBy, insertBy, hfirst, ih hrest]

/-- Sorting depends on how the entries are compared with each other, and on nothing else. -/
theorem sortBy_congr {cmp' : α → α → Ordering} {entries : List α}
    (h : ∀ entry ∈ entries, ∀ other ∈ entries, cmp entry other = cmp' entry other) :
    sortBy cmp entries = sortBy cmp' entries := by
  induction entries using List.reverseRecOn with
  | nil => rfl
  | append_singleton entries last ih =>
      simp only [List.forall_mem_append, List.forall_mem_singleton] at h
      rw [sortBy_concat, sortBy_concat, ← ih fun entry hentry => (h.1 entry hentry).1]
      exact insertBy_congr fun other hother => h.2.1 other (mem_of_mem_sortBy hother)

def Ranked (cmp : α → α → Ordering) (sorted : List α) : Prop :=
  sorted.Pairwise fun a b => cmp a b = .gt

variable [Std.TransCmp cmp] {entry other : α} {sorted entries more : List α}

theorem Ranked.mem_insertBy (h : Ranked cmp sorted) :
    other ∈ insertBy cmp entry sorted ↔ other = entry ∨ other ∈ sorted ∧ cmp entry other ≠ .eq := by
  induction sorted with
  | nil => simp [insertBy]
  | cons first rest ih =>
      obtain ⟨hfirst, hrest⟩ := List.pairwise_cons.mp h
      rw [insertBy]
      split
      · rename_i hgt
        -- what is above the first entry is above all others, and equal to none of them
        have hne : ∀ other ∈ first :: rest, cmp entry other ≠ .eq := by
          rw [List.forall_mem_cons]
          refine ⟨fun heq => ?_, fun other hother heq => ?_⟩
          · rw [hgt] at heq
            contradiction
          · rw [Std.TransCmp.gt_trans hgt (hfirst other hother)] at heq
            contradiction
        rw [List.mem_cons]
        exact or_congr_right (iff_self_and.mpr (hne other))
      · rename_i heq
        have hne : ∀ other ∈ rest, cmp entry other ≠ .eq := by
          intro other hother hsame
          rw [Std.TransCmp.gt_of_eq_of_gt heq (hfirst other hother)] at hsame
          contradiction
        rw [List.mem_cons, List.mem_cons]
        refine or_congr_right ⟨fun hmem => ⟨.inr hmem, hne other hmem⟩, ?_⟩
        rintro ⟨rfl | hmem, hother⟩
        · exact absurd heq hother
        · exact hmem
      · rename_i hlt
        have hne : cmp entry first ≠ .eq := by
          rw [hlt]
          decide
        rw [List.mem_cons, List.mem_cons, ih hrest]
        constructor
        · rintro (rfl | rfl | ⟨hmem, hother⟩)
          · exact .inr ⟨.inl rfl, hne⟩
          · exact .inl rfl
          · exact .inr ⟨.inr hmem, hother⟩
        · rintro (rfl | ⟨rfl | hmem, hother⟩)
          · exact .inr (.inl rfl)
          · exact .inl rfl
          · exact .inr (.inr ⟨hmem, hother⟩)

theorem Ranked.insertBy (h : Ranked cmp sorted) (entry : α) :
    Ranked cmp (insertBy cmp entry sorted) := by
  induction sorted with
  | nil => exact List.pairwise_singleton _ entry
  | cons first rest ih =>
      obtain ⟨hfirst, hrest⟩ := List.pairwise_cons.mp h
      rw [Log.insertBy]
      -- the three ways of the insertion: in front of the first entry, in its place, or behind it
      split
      · rename_i hgt
        refine List.pairwise_cons.mpr ⟨?_, h⟩
        rw [List.forall_mem_cons]
        exact ⟨hgt, fun other hother => Std.TransCmp.gt_trans hgt (hfirst other hother)⟩
      · rename_i heq
        exact List.pairwise_cons.mpr
          ⟨fun other hother => Std.TransCmp.gt_of_eq_of_gt heq (hfirst other hother), hrest⟩
      · rename_i hlt
        refine List.pairwise_cons.mpr ⟨fun other hother => ?_, ih hrest⟩
        rcases mem_of_mem_insertBy hother with rfl | hother
        · exact Std.OrientedCmp.gt_iff_lt.mpr hlt
        · exact hfirst other hother

theorem ranked_sortBy (entries : List α) : Ranked cmp (sortBy cmp entries) := by
  induction entries using List.reverseRecOn with
  | nil => exact List.Pairwise.nil
  | append_singleton entries last ih =>
      rw [sortBy_concat]
      exact ih.insertBy last

/-- Of equal entries the last one stays. -/
theorem mem_sortBy_append : entry ∈ sortBy cmp (entries ++ more) ↔
    entry ∈ sortBy cmp more ∨
      entry ∈ sortBy cmp entries ∧ ∀ other ∈ more, cmp other entry ≠ .eq := by
  induction more using List.reverseRecOn with
  | nil => simp
  | append_singleton more last ih =>
      rw [← List.append_assoc, sortBy_concat, sortBy_concat, (ranked_sortBy _).mem_insertBy,
        (ranked_sortBy _).mem_insertBy, ih, List.forall_mem_append, List.forall_mem_singleton,
        or_and_right, or_assoc, and_assoc]

/-- Leaving out entries along with those equal to them leaves out the same from the sorted ones. -/
theorem mem_sortBy_filter {keep : α → Bool}
    (h : ∀ a b, cmp a b = .eq → keep a = keep b) :
    entry ∈ sortBy cmp (entries.filter keep) ↔ entry ∈ sortBy cmp entries ∧ keep entry := by
  induction entries using List.reverseRecOn with
  | nil => simp
  | append_singleton entries last ih =>
      rw [List.filter_append, mem_sortBy_append, mem_sortBy_append, ih]
      have hlast : sortBy cmp [last] = [last] := rfl
      -- the last entry takes the places of those equal to it, which are kept just if it is
      cases hkeep : keep last with
      | true =>
          simp only [List.filter_cons, hkeep, if_true, List.filter_nil, hlast, List.mem_singleton,
            forall_eq]
          rw [or_and_right, and_right_comm]
          exact or_congr_left (iff_self_and.mpr fun heq => heq ▸ hkeep)
      | false =>
          have hne : keep entry = true → entry ≠ last ∧ cmp last entry ≠ .eq := by
            intro hentry
            refine ⟨fun heq => ?_, fun heq => ?_⟩
            · rw [heq, hkeep] at hentry
              contradiction
            · rw [← h _ _ heq, hkeep] at hentry
              contradiction
          simp only [List.filter_cons, hkeep, Bool.false_eq_true, if_false, List.filter_nil,
            sortBy_nil, List.not_mem_nil, false_or, false_implies, implies_true, and_true, hlast,
            List.mem_singleton, forall_eq]
          constructor
          · rintro ⟨hmem, hentry⟩
            exact ⟨.inr ⟨hmem, (hne hentry).2⟩, hentry⟩
          · rintro ⟨rfl | ⟨hmem, _⟩, hentry⟩
            · exact absurd rfl (hne hentry).1
            · exact ⟨hmem, hentry⟩

/-- Each entry is there after sorting, or one that is equal to it in the order. -/
theorem exists_mem_sortBy (h : entry ∈ entries) :
    ∃ other ∈ sortBy cmp entries, cmp other entry = .eq := by
  induction entries using List.reverseRecOn with
  | nil => contradiction
  | append_singleton entries last ih =>
      simp only [sortBy_concat, (ranked_sortBy _).mem_insertBy]
      by_cases hlast : cmp last entry = .eq
      · exact ⟨last, .inl rfl, hlast⟩
      · rcases List.mem_append.mp h with hmem | hmem
        · obtain ⟨other, hother, heq⟩ := ih hmem
          refine ⟨other, .inr ⟨hother, fun hsame => hlast ?_⟩, heq⟩
          rw [Std.TransCmp.congr_left hsame, heq]
        · obtain rfl := List.mem_singleton.mp hmem
          exact absurd Std.ReflCmp.compare_self hlast

/-- An entry stays if none of those that come after it is equal to it. -/
theorem mem_sortBy_iff : entry ∈ sortBy cmp entries ↔
    ∃ before after, entries = before ++ entry :: after ∧
      ∀ other ∈ after, cmp other entry ≠ .eq := by
  constructor
  · intro h
    induction entries using List.reverseRecOn with
    | nil => contradiction
    | append_singleton entries last ih =>
        rw [sortBy_concat] at h
        rcases (ranked_sortBy _).mem_insertBy.mp h with rfl | ⟨hmem, hlast⟩
        · exact ⟨entries, [], rfl, nofun⟩
        · obtain ⟨before, after, rfl, hafter⟩ := ih hmem
          refine ⟨before, after ++ [last], by simp, ?_⟩
          rw [List.forall_mem_append, List.forall_mem_singleton]
          exact ⟨hafter, hlast⟩
  · rintro ⟨before, after, rfl, hafter⟩
    have hself : entry ∈ sortBy cmp ([entry] ++ after) :=
      mem_sortBy_append.mpr (.inr ⟨List.mem_singleton_self entry, hafter⟩)
    exact mem_sortBy_append.mpr (.inl hself)

/-- Of the entries asked for, the first one is above all others. -/
theorem Ranked.find?_eq_some_iff {asked : α → Bool} (h : Ranked cmp sorted) :
    sorted.find? asked = some entry ↔ entry ∈ sorted ∧ asked entry = true ∧
      ∀ other ∈ sorted, asked other = true → cmp entry other ≠ .lt := by
  induction sorted with
  | nil => simp
  | cons first rest ih =>
      obtain ⟨hfirst, hrest⟩ := List.pairwise_cons.mp h
      -- the first entry is greater than all behind it, so if it is asked for, it is the one
      by_cases hasked : asked first = true
      · rw [List.find?_cons_of_pos hasked, Option.some.injEq]
        constructor
        · rintro rfl
          refine ⟨List.mem_cons_self, hasked, List.forall_mem_cons.mpr ⟨fun _ => ?_, ?_⟩⟩
          · have hself : cmp first first = .eq := Std.ReflCmp.compare_self
            rw [hself]
            decide
          · intro other hother _
            rw [hfirst other hother]
            decide
        · rintro ⟨hmem, -, habove⟩
          rcases List.mem_cons.mp hmem with rfl | hmem
          · rfl
          · refine absurd ?_ (habove first List.mem_cons_self hasked)
            exact Std.OrientedCmp.gt_iff_lt.mp (hfirst entry hmem)
      · rw [List.find?_cons_of_neg hasked, ih hrest, List.forall_mem_cons, List.mem_cons]
        constructor
        · rintro ⟨hmem, hentry, habove⟩
          exact ⟨.inr hmem, hentry, fun hyes => absurd hyes hasked, habove⟩
        · rintro ⟨rfl | hmem, hentry, -, habove⟩
          · exact absurd hentry hasked
          · exact ⟨hmem, hentry, habove⟩

theorem Ranked.nodup (h : Ranked cmp sorted) : sorted.Nodup := by
  refine h.imp fun {a b} hgt heq => ?_
  have hself : cmp a a = .eq := Std.ReflCmp.compare_self
  rw [← heq, hself] at hgt
  contradiction

theorem Ranked.eq_of_eq (h : Ranked cmp sorted) (hentry : entry ∈ sorted) (hother : other ∈ sorted)
    (heq : cmp entry other = .eq) : entry = other := by
  induction sorted with
  | nil => contradiction
  | cons first rest ih =>
      obtain ⟨hfirst, hrest⟩ := List.pairwise_cons.mp h
      rcases List.mem_cons.mp hentry with rfl | hentry' <;>
        rcases List.mem_cons.mp hother with rfl | hother'
      · rfl
      · rw [hfirst other hother'] at heq
        contradiction
      · rw [Std.OrientedCmp.eq_comm, hfirst entry hentry'] at heq
        contradiction
      · exact ih hrest hentry' hother'

/-- What is in strictly descending order is fixed by its members. -/
theorem Ranked.eq_of_mem_iff {sorted' : List α} (h : Ranked cmp sorted) (h' : Ranked cmp sorted')
    (hmem : ∀ entry, entry ∈ sorted ↔ entry ∈ sorted') : sorted = sorted' := by
  have hperm := (List.perm_ext_iff_of_nodup h.nodup h'.nodup).mpr hmem
  refine hperm.eq_of_pairwise (fun a b _ _ hab hba => ?_) h h'
  rw [Std.OrientedCmp.gt_iff_lt, hab] at hba
  contradiction

/-- Sorting only depends on what the entries are that are equal to each other, and on the order of
these. -/
theorem sortBy_eq_of_filter_eq {others : List α}
    (h : ∀ entry, entries.filter (cmp · entry == .eq) = others.filter (cmp · entry == .eq)) :
    sortBy cmp entries = sortBy cmp others := by
  refine (ranked_sortBy entries).eq_of_mem_iff (ranked_sortBy others) fun entry => ?_
  have hsame : ∀ a b, cmp a b = .eq → (cmp a entry == .eq) = (cmp b entry == .eq) := by
    intro a b hab
    rw [Std.TransCmp.congr_left hab]
  have hself : cmp entry entry = .eq := Std.ReflCmp.compare_self
  have hfilter : ∀ list : List α, entry ∈ sortBy cmp (list.filter (cmp · entry == .eq)) ↔
      entry ∈ sortBy cmp list := by
    intro list
    rw [mem_sortBy_filter hsame]
    simp [hself]
  rw [← hfilter entries, h entry, hfilter others]

/-- The members of a list in strictly descending order are sorted into that list, in whatever order
they come and however often each. -/
theorem Ranked.sortBy_eq (h : Ranked cmp sorted)
    (hmem : ∀ entry, entry ∈ entries ↔ entry ∈ sorted) : sortBy cmp entries = sorted := by
  refine (ranked_sortBy entries).eq_of_mem_iff h fun entry => ?_
  constructor
  · intro hentry
    exact (hmem entry).mp (mem_of_mem_sortBy hentry)
  · intro hentry
    obtain ⟨other, hother, heq⟩ : ∃ other ∈ sortBy cmp entries, cmp other entry = .eq :=
      exists_mem_sortBy ((hmem entry).mpr hentry)
    obtain rfl := h.eq_of_eq ((hmem other).mp (mem_of_mem_sortBy hother)) hentry heq
    exact hother

end

/-! ### The order of directives -/

theorem transCmp_comap {α β : Type} {cmp : β → β → Ordering} (h : Std.TransCmp cmp) (f : α → β) :
    Std.TransCmp fun a b => cmp (f a) (f b) where
  eq_swap := h.eq_swap
  isLE_trans := h.isLE_trans

instance {α : Type} {cmp : α → α → Ordering} [Std.TransCmp cmp] :
    Std.TransCmp (compareOption cmp) where
  eq_swap := by
    intro a b
    cases a <;> cases b
    · rfl
    · rfl
    · rfl
    · exact @Std.OrientedCmp.eq_swap _ cmp _ _ _
  isLE_trans := by
    intro a b c hab hbc
    cases a <;> cases b <;> cases c
    case some.some.some => exact @Std.TransCmp.isLE_trans _ cmp _ _ _ _ hab hbc
    all_goals trivial

instance : Std.TransCmp compareText := inferInstanceAs (Std.TransOrd String)

instance {α : Type} {cmp : α → α → Ordering} [Std.LawfulEqCmp cmp] :
    Std.LawfulEqCmp (compareOption cmp) where
  compare_self := by
    intro a
    cases a with
    | none => rfl
    | some a => exact @Std.ReflCmp.compare_self _ cmp _ a
  eq_of_compare := by
    intro a b h
    cases a <;> cases b
    · rfl
    · contradiction
    · contradiction
    · exact congrArg some (Std.LawfulEqCmp.eq_of_compare h)

instance : Std.LawfulEqCmp compareText := inferInstanceAs (Std.LawfulEqOrd String)

namespace Expected

/-- Puts another value without laws of its own in the place of a float. -/
def exact : Expected → Expected
  | .float _ => .nan
  | expected => expected

def isExact : Expected → Bool
  | .float _ => false
  | _ => true

def flag : Expected → Bool
  | .bool b => b
  | _ => false

def count : Expected → Nat
  | .natural n => n
  | _ => 0

def number : Expected → Int
  | .integer n => n
  | _ => 0

def pattern? : Expected → Option String
  | .pattern p => some p.text
  | _ => none

def exactly (a b : Expected) : Ordering := a.exact.specificity b.exact

/-- By kind first; then only the part that holds the value counts. -/
theorem exactly_eq : exactly = compareLex (compareOn fun e => e.exact.kind)
    (compareLex (compareOn flag) (compareLex (compareOn count) (compareLex (compareOn number)
      fun a b => compareOption compareText a.pattern? b.pattern?))) := by
  funext a b
  cases a <;> cases b
  case bool.bool => exact Ordering.then_eq.symm
  case natural.natural => exact Ordering.then_eq.symm
  case integer.integer => exact Ordering.then_eq.symm
  all_goals rfl

instance : Std.TransCmp exactly := by
  have hpattern : Std.TransCmp fun a b : Expected =>
      compareOption compareText a.pattern? b.pattern? :=
    transCmp_comap inferInstance pattern?
  rw [exactly_eq]
  infer_instance

end Expected

/-! What a directive asks for, with floats left without laws. -/

def FieldTest.exact (test : FieldTest) : FieldTest :=
  { test with value := test.value.map Expected.exact }

def FieldTest.exactly (a b : FieldTest) : Ordering := a.exact.specificity b.exact

instance : Std.TransCmp FieldTest.exactly := by
  have hname : Std.TransCmp fun a b : FieldTest => compareText a.name b.name :=
    transCmp_comap inferInstance FieldTest.name
  have hvalue : Std.TransCmp fun a b : FieldTest =>
      compareOption Expected.exactly a.value b.value :=
    transCmp_comap inferInstance FieldTest.value
  have heq : FieldTest.exactly = compareLex (compareOn fun a => a.value.isSome)
      (compareLex (fun a b => compareText a.name b.name)
        fun a b => compareOption Expected.exactly a.value b.value) := by
    funext ⟨_, a⟩ ⟨_, b⟩
    cases a <;> cases b <;> rfl
  rw [heq]
  infer_instance

namespace Directive

def exact (directive : Directive) : Directive :=
  { directive with field := directive.field.map FieldTest.exact }

def isExact (directive : Directive) : Bool :=
  directive.field.all fun test => test.value.all Expected.isExact

def exactly (a b : Directive) : Ordering := a.exact.specificity b.exact

theorem exact_eq_self {directive : Directive} (h : directive.isExact) :
    directive.exact = directive := by
  obtain ⟨target, span, field, limit⟩ := directive
  rcases field with _ | ⟨name, _ | value⟩
  · rfl
  · rfl
  · cases value
    case float => contradiction
    all_goals rfl

theorem specificity_eq_exactly {a b : Directive} (ha : a.isExact) (hb : b.isExact) :
    a.specificity b = a.exactly b := by
  rw [exactly, exact_eq_self ha, exact_eq_self hb]

instance : Std.TransCmp exactly := by
  have hsize : Std.TransCmp compareTargets :=
    inferInstanceAs (Std.TransCmp (compareOption (compareOn String.utf8ByteSize)))
  have htarget : Std.TransCmp fun a b : Directive => compareTargets a.target b.target :=
    transCmp_comap hsize Directive.target
  have htext : Std.TransCmp fun a b : Directive => compareOption compareText a.target b.target :=
    transCmp_comap inferInstance Directive.target
  have hspan : Std.TransCmp fun a b : Directive => compareOption compareText a.span b.span :=
    transCmp_comap inferInstance Directive.span
  have hfield : Std.TransCmp fun a b : Directive =>
      compareOption FieldTest.exactly a.field b.field :=
    transCmp_comap inferInstance Directive.field
  have heq : exactly = compareLex (fun a b => compareTargets a.target b.target)
      (compareLex (compareOn fun a => a.span.isSome)
        (compareLex (compareOn fun a => a.field.isSome)
          (compareLex (fun a b => compareOption compareText a.target b.target)
            (compareLex (fun a b => compareOption compareText a.span b.span)
              fun a b => compareOption FieldTest.exactly a.field b.field)))) := by
    funext ⟨_, _, a, _⟩ ⟨_, _, b, _⟩
    cases a <;> cases b <;> rfl
  rw [heq]
  infer_instance

theorem scope_of_exactly {a b : Directive} (h : a.exactly b = .eq) :
    a.target = b.target ∧ a.span = b.span ∧
      compareOption FieldTest.exactly a.field b.field = .eq := by
  obtain ⟨_, _, field, _⟩ := a
  obtain ⟨_, _, field', _⟩ := b
  simp only [exactly, specificity, Ordering.then_eq_eq] at h
  obtain ⟨_, _, _, htarget, hspan, hfield⟩ := h
  refine ⟨Std.LawfulEqCmp.eq_of_compare htarget, Std.LawfulEqCmp.eq_of_compare hspan, ?_⟩
  cases field <;> cases field'
  all_goals exact hfield

/-- Directives that are equal in the order ask for the same kinds of things. -/
theorem isSome_eq_of_exactly {a b : Directive} (h : a.exactly b = .eq) :
    a.span.isSome = b.span.isSome ∧ a.field.isSome = b.field.isSome ∧ a.hasValue = b.hasValue := by
  obtain ⟨_, span, field, _⟩ := a
  obtain ⟨_, span', field', _⟩ := b
  simp only [exactly, specificity, Ordering.then_eq_eq, Std.compare_eq_iff_eq] at h
  obtain ⟨_, hspan, hfield, _, _, htest⟩ := h
  refine ⟨hspan, ?_, ?_⟩
  · simpa [exact] using hfield
  · cases field <;> cases field'
    · rfl
    · contradiction
    · contradiction
    · simp only [exact, Option.map_some, compareOption, FieldTest.specificity,
        Ordering.then_eq_eq, Std.compare_eq_iff_eq] at htest
      simpa [hasValue, FieldTest.exact] using htest.1

end Directive

end PageSync.Log
