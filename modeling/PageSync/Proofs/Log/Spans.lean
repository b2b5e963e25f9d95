import PageSync.Log.Recorder
import PageSync.Log.Regex

/-!
Spans that are entered and exited in the course of a run. Which entrances are left open can be told
from the steps alone; a run leaves their entries over what was on the stack before, but for the
exits that reach below (`Recorder.spans_run`). So balanced steps leave the stack as it was, and a
span counts from its entrance on until an exit that no entrance behind it accounts for.

A refused span keeps a place on the stack that holds nothing. A run with it and a run without it go
through the same states but for that place (`Recorder.step_stacked_concat_none`).
-/

namespace PageSync.Log

/-! ### Entrances and exits -/

namespace Step

def isEnter : Step → Bool
  | .enter _ => true
  | _ => false

def isExit : Step → Bool
  | .exit => true
  | _ => false

end Step

def enters (steps : List Step) : Nat := steps.countP Step.isEnter

def exits (steps : List Step) : Nat := steps.countP Step.isExit

@[simp]
theorem enters_nil : enters [] = 0 := rfl

@[simp]
theorem exits_nil : exits [] = 0 := rfl

@[simp]
theorem enters_cons (step : Step) (rest : List Step) :
    enters (step :: rest) = enters rest + if step.isEnter then 1 else 0 := List.countP_cons

@[simp]
theorem exits_cons (step : Step) (rest : List Step) :
    exits (step :: rest) = exits rest + if step.isExit then 1 else 0 := List.countP_cons

/-- No exit among the steps leaves a span that was entered before them. -/
def Inner (steps : List Step) : Prop :=
  ∀ front, front <+: steps → exits front ≤ enters front

/-- Spans that are entered among the steps are exited among them, and no others. -/
structure Balanced (steps : List Step) : Prop where
  inner : Inner steps
  closed : enters steps = exits steps

/-- The number of exits that leave spans entered before. -/
def unmatched : List Step → Nat
  | [] => 0
  | .enter _ :: rest => unmatched rest - 1
  | .exit :: rest => unmatched rest + 1
  | .record _ :: rest | .event _ _ :: rest => unmatched rest

theorem forall_prefix_cons_iff {α : Type} {a : α} {list : List α} {P : List α → Prop} :
    (∀ front, front <+: a :: list → P front) ↔ P [] ∧ ∀ front, front <+: list → P (a :: front) := by
  constructor
  · intro h
    exact ⟨h [] List.nil_prefix, fun front hfront => h _ ((List.prefix_cons_inj a).mpr hfront)⟩
  · rintro ⟨hnil, hcons⟩ front hfront
    rcases List.prefix_cons_iff.mp hfront with rfl | ⟨tail, rfl, htail⟩
    · exact hnil
    · exact hcons tail htail

theorem unmatched_le_iff {steps : List Step} {n : Nat} : unmatched steps ≤ n ↔
    ∀ front, front <+: steps → exits front ≤ enters front + n := by
  -- an entrance in front makes room for one more exit behind it
  induction steps generalizing n with
  | nil => simp [unmatched]
  | cons step rest ih =>
      rw [forall_prefix_cons_iff]
      cases step with
      | enter span =>
          rw [unmatched, Nat.sub_le_iff_le_add, ih]
          simp [Step.isEnter, Step.isExit, Nat.add_assoc, Nat.add_comm 1]
      | exit =>
          cases n with
          | zero =>
              refine ⟨fun h => absurd h (Nat.not_succ_le_zero _), fun h => ?_⟩
              have hnil := h.2 [] List.nil_prefix
              simp [Step.isEnter, Step.isExit] at hnil
          | succ n =>
              rw [unmatched, Nat.add_le_add_iff_right, ih]
              simp [Step.isEnter, Step.isExit, ← Nat.add_assoc]
      | record fields => simp [unmatched, ih, Step.isEnter, Step.isExit]
      | event event parent => simp [unmatched, ih, Step.isEnter, Step.isExit]

theorem unmatched_add_exits_le {step : Step} {rest : List Step} {n : Nat}
    (h : unmatched (step :: rest) ≤ n) : unmatched rest + exits [step] ≤ n + enters [step] := by
  cases step with
  | enter span => exact Nat.sub_le_iff_le_add.mp h
  | exit => exact h
  | record fields => exact h
  | event event parent => exact h

theorem inner_iff {steps : List Step} : Inner steps ↔ unmatched steps = 0 := by
  rw [← Nat.le_zero, unmatched_le_iff]
  rfl

/-- The entrance that a step makes, unless the rest exits it again. -/
def opening (step : Step) (rest : List Step) : List (List Step × Span) :=
  match step with
  | .enter span => if unmatched rest = 0 then [([], span)] else []
  | _ => []

/-- The entrances that are left open, the last one first, each with the steps before it. -/
def openings : List Step → List (List Step × Span)
  | [] => []
  | step :: rest =>
    (openings rest).map (fun (front, span) => (step :: front, span)) ++ opening step rest

theorem mem_opening_iff {step : Step} {rest front : List Step} {span : Span} :
    (front, span) ∈ opening step rest ↔
      front = [] ∧ step = .enter span ∧ unmatched rest = 0 := by
  cases step with
  | enter other =>
      rw [opening]
      split
      · rename_i hinner
        simp [hinner, eq_comm]
      · rename_i hexited
        simp [hexited]
  | _ => simp [opening]

theorem mem_openings_iff {steps front : List Step} {span : Span} :
    (front, span) ∈ openings steps ↔
      ∃ after, steps = front ++ .enter span :: after ∧ Inner after := by
  induction steps generalizing front with
  | nil => simp [openings]
  | cons step rest ih =>
      rw [openings, List.mem_append, List.mem_map, mem_opening_iff]
      constructor
      · rintro (⟨⟨tail, span⟩, hmem, heq⟩ | ⟨rfl, rfl, hinner⟩)
        · obtain ⟨rfl, rfl⟩ := Prod.mk.inj heq
          obtain ⟨after, rfl, hinner⟩ := ih.mp hmem
          exact ⟨after, rfl, hinner⟩
        · exact ⟨rest, rfl, inner_iff.mpr hinner⟩
      · rintro ⟨after, heq, hinner⟩
        -- the entrance is the first step, or among those behind it
        cases front with
        | nil =>
            obtain ⟨rfl, rfl⟩ := List.cons.inj heq
            exact .inr ⟨rfl, rfl, inner_iff.mp hinner⟩
        | cons first tail =>
            obtain ⟨rfl, rfl⟩ := List.cons.inj heq
            exact .inl ⟨(tail, span), ih.mpr ⟨after, rfl, hinner⟩, rfl⟩

theorem length_openings (steps : List Step) :
    (openings steps).length + exits steps = enters steps + unmatched steps := by
  induction steps with
  | nil => rfl
  | cons step rest ih =>
      rw [openings, List.length_append, List.length_map, enters_cons, exits_cons]
      cases step with
      | enter span =>
          simp only [opening, unmatched, Step.isEnter, Step.isExit]
          split <;> simp <;> omega
      | exit =>
          simp [opening, unmatched, Step.isEnter, Step.isExit]
          omega
      | record fields => simpa [opening, unmatched, Step.isEnter, Step.isExit] using ih
      | event event parent => simpa [opening, unmatched, Step.isEnter, Step.isExit] using ih

/-- The last entrance comes first. -/
theorem pairwise_openings (steps : List Step) :
    (openings steps).Pairwise fun later earlier => earlier.1.length ≤ later.1.length := by
  induction steps with
  | nil => exact .nil
  | cons step rest ih =>
      rw [openings, List.pairwise_append, List.pairwise_map]
      refine ⟨ih.imp Nat.succ_le_succ, ?_, ?_⟩
      · cases step with
        | enter span =>
            rw [opening]
            split
            · exact List.pairwise_singleton _ _
            · exact .nil
        | _ => exact .nil
      · rintro later _ ⟨front, span⟩ hearlier
        obtain ⟨rfl, _⟩ := mem_opening_iff.mp hearlier
        exact Nat.zero_le _

namespace Recorder

section

variable [PatternEngine]

/-- A recorder with the filter of a text, before any step. -/
def ofText (text : String) : Recorder := { filter := some (Filter.ofText text) }

theorem run_cons (recorder : Recorder) (step : Step) (rest : List Step) :
    recorder.run (step :: rest) = (((recorder.step step).1.run rest).1,
      (recorder.step step).2 :: ((recorder.step step).1.run rest).2) := rfl

theorem run_append (recorder : Recorder) (front back : List Step) :
    recorder.run (front ++ back) =
      (((recorder.run front).1.run back).1,
        (recorder.run front).2 ++ ((recorder.run front).1.run back).2) := by
  induction front generalizing recorder with
  | nil => rfl
  | cons step front ih =>
      rw [List.cons_append, run_cons, ih, run_cons]
      rfl

@[simp]
theorem filter_step (recorder : Recorder) (step : Step) :
    (recorder.step step).1.filter = recorder.filter := by
  cases step <;> rfl

@[simp]
theorem filter_run (recorder : Recorder) (steps : List Step) :
    (recorder.run steps).1.filter = recorder.filter := by
  induction steps generalizing recorder with
  | nil => rfl
  | cons step rest ih => exact (ih _).trans (filter_step recorder step)

@[simp]
theorem raised_step (recorder : Recorder) (step : Step) :
    (recorder.step step).1.raised = recorder.raised := by
  cases step <;> rfl

@[simp]
theorem raised_run (recorder : Recorder) (steps : List Step) :
    (recorder.run steps).1.raised = recorder.raised := by
  induction steps generalizing recorder with
  | nil => rfl
  | cons step rest ih => exact (ih _).trans (raised_step recorder step)

def entryOf (recorder : Recorder) : List Step × Span → Option Entered
  | (front, span) => (recorder.run front).1.entered span

/-- A run leaves its own entries over those that were there before. -/
theorem spans_run (recorder : Recorder) (steps : List Step) :
    (recorder.run steps).1.spans =
      (openings steps).map recorder.entryOf ++ recorder.spans.drop (unmatched steps) := by
  induction steps generalizing recorder with
  | nil => rfl
  | cons step rest ih =>
      have hrest : ((openings rest).map fun (front, span) => (step :: front, span)).map
          recorder.entryOf = (openings rest).map (recorder.step step).1.entryOf := by
        rw [List.map_map]
        rfl
      refine (ih (recorder.step step).1).trans ?_
      rw [openings, List.map_append, hrest, List.append_assoc]
      congr 1
      cases step with
      | enter span =>
          -- the first unmatched exit of the rest takes this entry, the others those below it
          rw [opening, unmatched]
          cases unmatched rest with
          | zero => rfl
          | succ n => rfl
      | exit => exact List.drop_tail
      | record fields => rfl
      | event event parent => rfl

/-- Balanced steps leave everything as it was. Records in them may be of any span, as what a span
lets through is settled when it is entered. -/
theorem run_of_balanced (recorder : Recorder) {block : List Step} (h : Balanced block) :
    (recorder.run block).1 = recorder := by
  have hunmatched : unmatched block = 0 := inner_iff.mp h.inner
  have hopenings : openings block = [] := by
    have hlength := length_openings block
    rw [hunmatched, h.closed] at hlength
    exact List.length_eq_zero_iff.mp (by omega)
  have hspans : (recorder.run block).1.spans = recorder.spans := by
    rw [spans_run, hopenings, hunmatched]
    rfl
  have heta : (recorder.run block).1 =
      ⟨(recorder.run block).1.filter, (recorder.run block).1.raised,
        (recorder.run block).1.spans⟩ := rfl
  rw [heta, filter_run, raised_run, hspans]

/-! ### The spans that count -/

/-- After the steps, the span entered behind `front` is still entered, and it was let through. -/
def Holds (recorder : Recorder) (steps front : List Step) (span : Span) : Prop :=
  (∃ after, steps = front ++ .enter span :: after ∧ Inner after) ∧
    ((recorder.run front).1.step (.enter span)).2.took = true

structure Current (recorder : Recorder) (steps front : List Step) (span : Span) : Prop where
  holds : recorder.Holds steps front span
  last : ∀ front' span', recorder.Holds steps front' span' → front'.length ≤ front.length

theorem holds_iff {recorder : Recorder} {steps front : List Step} {span : Span} :
    recorder.Holds steps front span ↔
      (front, span) ∈ openings steps ∧ (recorder.entryOf (front, span)).isSome := by
  rw [mem_openings_iff]
  rfl

theorem current_of_openings {recorder : Recorder} {steps front : List Step} {span : Span}
    {later earlier : List (List Step × Span)}
    (hopenings : openings steps = later ++ (front, span) :: earlier)
    (hlater : ∀ entrance ∈ later, recorder.entryOf entrance = none)
    (htook : (recorder.entryOf (front, span)).isSome) : recorder.Current steps front span where
  holds := holds_iff.mpr ⟨by simp [hopenings], htook⟩
  last := by
    intro front' span' hholds
    obtain ⟨hmem, htook'⟩ := holds_iff.mp hholds
    have hpairwise := pairwise_openings steps
    rw [hopenings] at hmem hpairwise
    rcases List.mem_append.mp hmem with hmem | hmem
    · rw [hlater _ hmem] at htook'
      contradiction
    · rcases List.mem_cons.mp hmem with heq | hmem
      · obtain ⟨rfl, _⟩ := Prod.mk.inj heq
        exact Nat.le_refl _
      · exact List.rel_of_pairwise_cons (List.pairwise_append.mp hpairwise).2.1 hmem

/-! ### The name of the current span -/

theorem entered_eq {recorder : Recorder} {filter : Filter} {span : Span} {entry : Entered}
    (hfilter : recorder.filter = some filter) (h : recorder.entered span = some entry) :
    entry = ⟨span.name, filter.contribution span⟩ := by
  rw [entered, hfilter, Option.bind_some] at h
  split at h
  · exact (Option.some.inj h).symm
  · contradiction

theorem spans_run_ofText (text : String) (steps : List Step) :
    ((ofText text).run steps).1.spans = (openings steps).map (ofText text).entryOf := by
  rw [spans_run, ofText, List.drop_nil, List.append_nil]

theorem entryOf_ofText_eq {text : String} {front : List Step} {span : Span} {entry : Entered}
    (h : (ofText text).entryOf (front, span) = some entry) :
    entry = ⟨span.name, (Filter.ofText text).contribution span⟩ :=
  entered_eq (filter_run _ front) h

/-- An event is written with the name of the current span, if there is one. -/
theorem parentName_current (text : String) (before : List Step) :
    (∃ front span, (ofText text).Current before front span ∧
      ((ofText text).run before).1.parentName .current = some span.name) ∨
    (∀ front span, ¬(ofText text).Holds before front span) ∧
      ((ofText text).run before).1.parentName .current = none := by
  rw [parentName, spans_run_ofText, List.findSome?_map, Function.id_comp]
  cases hfirst : (openings before).findSome? (ofText text).entryOf with
  | none =>
      refine .inr ⟨fun front span hholds => ?_, rfl⟩
      obtain ⟨hmem, htook⟩ := holds_iff.mp hholds
      rw [List.findSome?_eq_none_iff.mp hfirst _ hmem] at htook
      contradiction
  | some entry =>
      obtain ⟨later, ⟨front, span⟩, earlier, hopenings, hentry, hlater⟩ :=
        List.findSome?_eq_some_iff.mp hfirst
      refine .inl ⟨front, span, current_of_openings hopenings hlater (hentry ▸ rfl), ?_⟩
      rw [entryOf_ofText_eq hentry]
      rfl

end

end Recorder

/-! ### Refused spans -/

/-- A parent as it is counted when the entry at this height is not there. -/
def Parent.past (height : Nat) : Parent → Parent
  | .entry i => if i < height then .entry i else if i = height then .root else .entry (i - 1)
  | parent => parent

def Step.past (height : Nat) : Step → Step
  | .event logged parent => .event logged (parent.past height)
  | step => step

namespace Recorder

def stacked (recorder : Recorder) (upper : List (Option Entered)) : Recorder :=
  { recorder with spans := upper ++ recorder.spans }

theorem scope_stacked_concat_none (recorder : Recorder) (upper : List (Option Entered)) :
    (recorder.stacked (upper ++ [none])).scope = (recorder.stacked upper).scope := by
  simp [scope, stacked]

theorem allowsEvent_stacked_concat_none (recorder : Recorder) (upper : List (Option Entered)) :
    (recorder.stacked (upper ++ [none])).allowsEvent = (recorder.stacked upper).allowsEvent := by
  funext event
  simp only [allowsEvent, scope_stacked_concat_none]
  rfl

theorem parentName_stacked_concat_none (recorder : Recorder) (upper : List (Option Entered))
    (parent : Parent) : (recorder.stacked (upper ++ [none])).parentName parent =
      (recorder.stacked upper).parentName (parent.past recorder.spans.length) := by
  cases parent with
  | current => simp [parentName, Parent.past, stacked]
  | root => rfl
  | entry i =>
      have hrefused : (recorder.stacked (upper ++ [none])).spans.reverse =
          recorder.spans.reverse ++ none :: upper.reverse := by simp [stacked]
      have hwithout : (recorder.stacked upper).spans.reverse =
          recorder.spans.reverse ++ upper.reverse := by simp [stacked]
      rw [Parent.past]
      rcases Nat.lt_trichotomy i recorder.spans.length with hlt | rfl | hgt
      · rw [if_pos hlt, parentName, parentName, hrefused, hwithout,
          List.getElem?_append_left (by simpa using hlt),
          List.getElem?_append_left (by simpa using hlt)]
      · rw [if_neg (Nat.lt_irrefl _), if_pos rfl, parentName, parentName, hrefused,
          List.getElem?_append_right (by simp)]
        simp
      · rw [if_neg (by omega), if_neg (by omega), parentName, parentName, hrefused, hwithout,
          List.getElem?_append_right (by simp; omega), List.getElem?_append_right (by simp; omega),
          List.length_reverse]
        obtain ⟨k, rfl⟩ := Nat.exists_eq_add_of_lt hgt
        have hindex : recorder.spans.length + k + 1 - recorder.spans.length = k + 1 := by omega
        have hindex' : recorder.spans.length + k + 1 - 1 - recorder.spans.length = k := by omega
        rw [hindex, hindex', List.getElem?_cons_succ]

theorem parentName_past (recorder : Recorder) (parent : Parent) :
    recorder.parentName (parent.past recorder.spans.length) = recorder.parentName parent := by
  cases parent with
  | current => rfl
  | root => rfl
  | entry i =>
      rw [Parent.past]
      split
      · rfl
      · rename_i hge
        have hnone : recorder.parentName (.entry i) = none := by
          rw [parentName, List.getElem?_eq_none (by simpa using hge)]
          rfl
        split
        · exact hnone.symm
        · rename_i hne
          rw [hnone, parentName, List.getElem?_eq_none (by simp; omega)]
          rfl

section

variable [PatternEngine]

theorem entered_stacked_concat_none (recorder : Recorder) (upper : List (Option Entered)) :
    (recorder.stacked (upper ++ [none])).entered = (recorder.stacked upper).entered := by
  funext span
  simp only [entered, allowsSpan, scope_stacked_concat_none]
  rfl

/-- One step keeps the two stacks alike but for the refused entry. -/
theorem step_stacked_concat_none (recorder : Recorder) {upper : List (Option Entered)} {step : Step}
    (h : step.isExit → upper ≠ []) :
    ∃ upper', upper'.length + exits [step] = upper.length + enters [step] ∧
      (recorder.stacked (upper ++ [none])).step step = (recorder.stacked (upper' ++ [none]),
        ((recorder.stacked upper).step (step.past recorder.spans.length)).2) ∧
      ((recorder.stacked upper).step (step.past recorder.spans.length)).1 =
        recorder.stacked upper' := by
  cases step with
  | enter span =>
      refine ⟨(recorder.stacked upper).entered span :: upper, rfl, ?_, rfl⟩
      rw [step, enter, entered_stacked_concat_none]
      rfl
  | exit =>
      -- the exit leaves the entry above, never the refused one
      obtain ⟨entry, rest, rfl⟩ := List.exists_cons_of_ne_nil (h rfl)
      exact ⟨rest, rfl, rfl, rfl⟩
  | record fields => exact ⟨upper, rfl, rfl, rfl⟩
  | event event parent =>
      refine ⟨upper, rfl, ?_, rfl⟩
      rw [step, lines, allowsEvent_stacked_concat_none, parentName_stacked_concat_none]
      rfl

/-- As long as a refused entry stays on the stack, all is answered as though it were not there. -/
theorem run_stacked_concat_none (recorder : Recorder) (steps : List Step) :
    ∀ upper : List (Option Entered), unmatched steps ≤ upper.length →
      ((recorder.stacked (upper ++ [none])).run steps).2 =
        ((recorder.stacked upper).run (steps.map (Step.past recorder.spans.length))).2 := by
  -- the entries above the refused one are enough for the exits among the steps to come
  induction steps with
  | nil => exact fun _ _ => rfl
  | cons step rest ih =>
      intro upper hupper
      have hrest := unmatched_add_exits_le hupper
      have hexit : step.isExit → upper ≠ [] := by
        rintro hexit rfl
        cases step <;> contradiction
      obtain ⟨upper', hlength, hstep, hstep'⟩ := step_stacked_concat_none recorder hexit
      rw [List.map_cons, run_cons, run_cons, hstep, hstep', ih upper' (by omega)]

theorem step_past (recorder : Recorder) (step : Step) :
    (recorder.step (step.past recorder.spans.length)).2 = (recorder.step step).2 := by
  cases step with
  | event event parent =>
      simp only [Step.past, Recorder.step, lines, parentName_past]
  | _ => rfl

theorem enter_eq_stacked {recorder : Recorder} {span : Span}
    (h : (recorder.step (.enter span)).2.took = false) :
    recorder.enter span = recorder.stacked ([] ++ [none]) := by
  have hnone : recorder.entered span = none := by
    rw [← Option.not_isSome_iff_eq_none, Bool.not_eq_true]
    exact h
  rw [enter, hnone]
  rfl

theorem length_run (recorder : Recorder) (steps : List Step) :
    (recorder.run steps).2.length = steps.length := by
  induction steps generalizing recorder with
  | nil => rfl
  | cons step rest ih => rw [run_cons, List.length_cons, ih, List.length_cons]

/-- What the steps behind answer depends on no more than the state they begin in. -/
theorem drop_run_append (recorder : Recorder) (front back : List Step) :
    (recorder.run (front ++ back)).2.drop front.length = ((recorder.run front).1.run back).2 := by
  rw [run_append, List.drop_left' (length_run recorder front)]

/-- How the spans around them matter to the steps of a run. An event is written with the name of the
current span. While a refused span is on the stack, all is answered as without it, with the entries
above it counted one lower, and that it is exited changes no answer. Balanced steps change nothing
for the steps behind them. -/
theorem spans_discipline (text : String) (before : List Step) :
    let recorder := ((ofText text).run before).1
    (∃ name,
      ((∃ front span, (ofText text).Current before front span ∧ name = some span.name) ∨
        (∀ front span, ¬(ofText text).Holds before front span) ∧ name = none) ∧
      ∀ event, let outcome := (recorder.step (.event event .current)).2
        outcome.lines = if outcome.took then [event.line name] else []) ∧
    (∀ span after, (recorder.step (.enter span)).2.took = false → Inner after →
      (recorder.run (.enter span :: after)).2 =
        ⟨false, []⟩ :: (recorder.run (after.map (Step.past recorder.spans.length))).2) ∧
    (∀ span within step, (recorder.step (.enter span)).2.took = false → Balanced within →
      step.isExit = false →
      ((recorder.run (.enter span :: within ++ [.exit])).1.step step).2 =
        ((recorder.run (.enter span :: within)).1.step step).2) ∧
    ∀ block after, Balanced block →
      ((ofText text).run (before ++ block ++ after)).2.drop (before ++ block).length =
        ((ofText text).run (before ++ after)).2.drop before.length := by
  intro recorder
  refine ⟨?_, ?_, ?_, ?_⟩
  · rcases parentName_current text before with ⟨front, span, hcurrent, hname⟩ | ⟨hnone, hname⟩
    · refine ⟨some span.name, .inl ⟨front, span, hcurrent, rfl⟩, fun event => ?_⟩
      rw [← hname]
      rfl
    · refine ⟨none, .inr ⟨hnone, rfl⟩, fun event => ?_⟩
      rw [← hname]
      rfl
  · intro span after hrefused hinner
    have hentered : (recorder.step (.enter span)).1 = recorder.stacked ([] ++ [none]) :=
      enter_eq_stacked hrefused
    have hstacked : recorder.stacked [] = recorder := rfl
    have houtcome : (recorder.step (.enter span)).2 = ⟨false, []⟩ := by
      rw [← hrefused]
      rfl
    rw [run_cons, hentered, houtcome,
      run_stacked_concat_none recorder after [] (Nat.le_of_eq (inner_iff.mp hinner)), hstacked]
  · intro span within step hrefused hbalanced hstep
    -- balanced steps leave the refused span on top, and its exit leaves what was there before
    have hentered : (recorder.run (.enter span :: within)).1 = recorder.stacked ([] ++ [none]) :=
      (run_of_balanced _ hbalanced).trans (enter_eq_stacked hrefused)
    have hexited : (recorder.run (.enter span :: within ++ [.exit])).1 = recorder := by
      rw [run_append, hentered]
      rfl
    have hnotExit : step.isExit → ([] : List (Option Entered)) ≠ [] := by
      rw [hstep]
      exact nofun
    obtain ⟨_, _, hrefusedStep, _⟩ := step_stacked_concat_none recorder hnotExit
    rw [hentered, hexited, hrefusedStep]
    exact (step_past recorder step).symm
  · intro block after hbalanced
    have hblock : ((ofText text).run (before ++ block)).1 = recorder := by
      rw [run_append]
      exact run_of_balanced _ hbalanced
    rw [drop_run_append, drop_run_append, hblock]

end

def walk : Span := ⟨"walk", .trace, "app", []⟩

def nested : List Step := [.enter ⟨"sync", .info, "app", []⟩, .enter walk]

def ready : Event := ⟨.info, "app", [⟨"message", .display "ready"⟩]⟩

theorem spans_discipline_nested :
    let recorder := ((ofText "info").run nested).1
    (recorder.step (.enter walk)).2.took = false ∧ Inner [.event ready (.entry 0)] ∧
      Balanced [.enter walk, .exit] ∧
      (recorder.run [.enter walk, .event ready (.entry 0)]).2 =
        ⟨false, []⟩ :: (recorder.run [.event ready (.entry 0)]).2 ∧
      ((recorder.run [.enter walk, .exit]).1.step (.event ready .current)).2 =
        ((recorder.run [.enter walk]).1.step (.event ready .current)).2 ∧
      ((ofText "info").run (nested ++ [.enter walk, .exit] ++ [.event ready .current])).2.drop 4 =
        ((ofText "info").run (nested ++ [.event ready .current])).2.drop 2 ∧
      (recorder.step (.event ready .current)).2.lines = [ready.line (some "sync")] := by
  intro recorder
  obtain ⟨_, hrefused, hexited, hblock⟩ := spans_discipline "info" nested
  have htook : (recorder.step (.enter walk)).2.took = false := by decide
  have hinner : Inner [.event ready (.entry 0)] := inner_iff.mpr rfl
  have hbalanced : Balanced [.enter walk, .exit] := ⟨inner_iff.mpr rfl, rfl⟩
  exact ⟨htook, hinner, hbalanced, hrefused walk _ htook hinner,
    hexited walk [] _ htook ⟨inner_iff.mpr rfl, rfl⟩ rfl, hblock _ _ hbalanced, rfl⟩

end Recorder

end PageSync.Log
