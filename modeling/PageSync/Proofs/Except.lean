/-!
Results that may be errors: when a chain of steps ends well, and which error it ends with if not.
-/

namespace PageSync

variable {ε δ α β : Type}

theorem ok_bind (a : α) (next : α → Except ε β) : ((.ok a : Except ε α) >>= next) = next a := rfl

theorem bind_eq_ok {first : Except ε α} {next : α → Except ε β} {b : β} :
    (first >>= next) = .ok b ↔ ∃ a, first = .ok a ∧ next a = .ok b := by
  cases first with
  | error error => simp [bind, Except.bind]
  | ok a => simp [bind, Except.bind]

theorem bind_eq_error {first : Except ε α} {next : α → Except ε β} {error : ε} :
    (first >>= next) = .error error ↔
      first = .error error ∨ ∃ a, first = .ok a ∧ next a = .error error := by
  cases first with
  | error other => simp [bind, Except.bind]
  | ok a => simp [bind, Except.bind]

theorem map_eq_ok {f : α → β} {first : Except ε α} {b : β} :
    first.map f = .ok b ↔ ∃ a, first = .ok a ∧ f a = b := by
  cases first with
  | error error => simp [Except.map]
  | ok a => simp [Except.map]

theorem mapError_eq_ok {f : ε → δ} {first : Except ε α} {a : α} :
    first.mapError f = .ok a ↔ first = .ok a := by
  cases first with
  | error error => exact ⟨nofun, nofun⟩
  | ok b =>
      show (Except.ok b : Except δ α) = .ok a ↔ _
      rw [Except.ok.injEq, Except.ok.injEq]

theorem toOption_eq_some {result : Except ε α} {a : α} :
    result.toOption = some a ↔ result = .ok a := by
  cases result with
  | error error => simp [Except.toOption]
  | ok b => simp [Except.toOption]

theorem toOption_mapM {f : α → Except ε β} (list : List α) :
    (list.mapM f).toOption = list.mapM fun a => (f a).toOption := by
  induction list with
  | nil => rfl
  | cons a list ih =>
      rw [List.mapM_cons, List.mapM_cons, ← ih]
      cases f a with
      | error error => rfl
      | ok b =>
          cases list.mapM f with
          | error error => rfl
          | ok rest => rfl

/-- A list ends with the error of the first entry that has one. -/
theorem mapM_eq_error {f : α → Except ε β} {list : List α} {error : ε} :
    list.mapM f = .error error ↔ ∃ front a back, list = front ++ a :: back ∧
      (∀ other ∈ front, ∃ b, f other = .ok b) ∧ f a = .error error := by
  induction list with
  | nil => simp [pure, Except.pure]
  | cons a list ih =>
      rw [List.mapM_cons, bind_eq_error]
      constructor
      · rintro (h | ⟨b, hb, h⟩)
        · exact ⟨[], a, list, rfl, nofun, h⟩
        · rcases bind_eq_error.mp h with h | ⟨_, _, h⟩
          · obtain ⟨front, a', back, rfl, hfront, h⟩ := ih.mp h
            exact ⟨a :: front, a', back, rfl, List.forall_mem_cons.mpr ⟨⟨b, hb⟩, hfront⟩, h⟩
          · contradiction
      · rintro ⟨front, a', back, heq, hfront, h⟩
        cases front with
        | nil =>
            obtain ⟨rfl, rfl⟩ := List.cons.inj heq
            exact .inl h
        | cons first front =>
            obtain ⟨rfl, rfl⟩ := List.cons.inj heq
            obtain ⟨⟨b, hb⟩, hfront⟩ := List.forall_mem_cons.mp hfront
            exact .inr ⟨b, hb, bind_eq_error.mpr (.inl (ih.mpr ⟨front, a', back, rfl, hfront, h⟩))⟩

end PageSync
