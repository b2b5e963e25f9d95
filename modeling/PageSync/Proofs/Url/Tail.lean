import Mathlib.Data.List.TakeWhile
import PageSync.Proofs.Except
import PageSync.Url.Resolve

/-!
Where the query of a URL comes from. What a reader of one part of a URL leaves to the next begins,
as far as query and fragment go, where the text it was given does: no reader takes a question mark
or a number sign away, and none goes past one.
-/

namespace PageSync.Url

open Text

/-! ### The tail of a text -/

def isMark (c : Char) : Bool := c == '?' || c == '#'

def tail (text : List Char) : List Char := text.dropWhile (!isMark ·)

theorem isMark_eq_false_iff {c : Char} : isMark c = false ↔ c ≠ '?' ∧ c ≠ '#' := by
  rw [isMark, Bool.or_eq_false_iff, beq_eq_false_iff_ne, beq_eq_false_iff_ne]

theorem tail_append {before : List Char} (h : ∀ c ∈ before, isMark c = false)
    (rest : List Char) : tail (before ++ rest) = tail rest := by
  refine List.dropWhile_append_of_pos fun c hc => ?_
  rw [h c hc, Bool.not_false]

theorem tail_cons {c : Char} (h : isMark c = false) (rest : List Char) :
    tail (c :: rest) = tail rest := by
  rw [tail, List.dropWhile_cons_of_pos (by rw [h, Bool.not_false]), tail]

theorem tail_cons_of_isMark {c : Char} (h : isMark c = true) (rest : List Char) :
    tail (c :: rest) = c :: rest := by
  rw [tail, List.dropWhile_cons_of_neg (by rw [h]; decide)]

/-- What is skipped before a mark leaves the tail. -/
theorem tail_dropWhile {skip : Char → Bool} (h : ∀ c, skip c = true → isMark c = false)
    (text : List Char) : tail (text.dropWhile skip) = tail text := by
  have hskip : ∀ c ∈ text.takeWhile skip, isMark c = false := fun c hc =>
    h c (List.mem_takeWhile_imp hc)
  calc tail (text.dropWhile skip)
      = tail (text.takeWhile skip ++ text.dropWhile skip) := (tail_append hskip _).symm
    _ = tail text := by rw [List.takeWhile_append_dropWhile]

theorem isMark_eq_false_of_isAnySlash {c : Char} (h : isAnySlash c = true) : isMark c = false := by
  rw [isAnySlash, Bool.or_eq_true, beq_iff_eq, beq_iff_eq] at h
  rcases h with rfl | rfl <;> decide

theorem isMark_eq_false_of_endsAuthority {kind : Kind} {c : Char}
    (h : endsAuthority kind c = false) : isMark c = false := by
  rw [endsAuthority, Bool.or_eq_false_iff, Bool.or_eq_false_iff] at h
  rw [isMark, h.1.2, h.2, Bool.or_false]

theorem tail_dropWhile_isAnySlash (text : List Char) :
    tail (text.dropWhile isAnySlash) = tail text :=
  tail_dropWhile (fun _ => isMark_eq_false_of_isAnySlash) text

theorem tail_dropWhile_endsAuthority (kind : Kind) (text : List Char) :
    tail (text.dropWhile (!endsAuthority kind ·)) = tail text :=
  tail_dropWhile
    (fun _ hc => isMark_eq_false_of_endsAuthority ((Bool.not_eq_true' _).mp hc)) text

/-! ### Paths -/

theorem readSegments_snd (kind : Kind) (done : List Segment) (text : List Char) :
    (readSegments kind done text).2 = tail text := rfl

theorem readRelativePath_snd (kind : Kind) (base : List Segment) (text : List Char) :
    (readRelativePath kind base text).2 = tail text := by
  rw [readRelativePath]
  split
  · rfl
  · rfl

theorem isMark_eq_false_of_isSlash {kind : Kind} {c : Char} (h : kind.isSlash c = true) :
    isMark c = false := by
  rw [Kind.isSlash, Bool.or_eq_true, Bool.and_eq_true, beq_iff_eq, beq_iff_eq] at h
  rcases h with rfl | ⟨-, rfl⟩ <;> decide

theorem readPath_snd (kind : Kind) (text : List Char) : (readPath kind text).2 = tail text := by
  cases text with
  | nil =>
      rw [readPath]
      split
      · rfl
      · rfl
  | cons c rest =>
      rw [readPath]
      split
      · rename_i hslash
        rw [readSegments_snd, tail_cons (isMark_eq_false_of_isSlash hslash)]
      · split
        · rename_i hmark
          rw [tail_cons_of_isMark (Bool.and_eq_true_iff.mp hmark).2]
        · rfl

/-! ### The authority -/

theorem cutScheme_tail {text scheme rest : List Char}
    (h : cutScheme text = some (scheme, rest)) : tail rest = tail text := by
  have hscheme : ∀ c, isSchemeChar c = true → isMark c = false := by
    intro c hc
    rw [isMark_eq_false_iff]
    constructor
    · rintro rfl
      exact absurd hc (by decide)
    · rintro rfl
      exact absurd hc (by decide)
  rw [← tail_dropWhile hscheme text]
  rw [cutScheme] at h
  split at h
  · rename_i after hafter
    rw [hafter, tail_cons (by decide)]
    split at h
    · simp only [Option.some.injEq, Prod.mk.injEq] at h
      rw [h.2]
    · cases h
  · cases h

theorem cutAtLast_eq {mark : Char} {text left right : List Char}
    (h : cutAtLast mark text = some (left, right)) : text = left ++ mark :: right := by
  induction text generalizing left right with
  | nil => contradiction
  | cons c rest ih =>
      rw [cutAtLast] at h
      cases hrest : cutAtLast mark rest with
      | some pair =>
          obtain ⟨before, after⟩ := pair
          rw [hrest, Option.some.injEq, Prod.mk.injEq] at h
          obtain ⟨rfl, rfl⟩ := h
          rw [ih hrest, List.cons_append]
      | none =>
          simp only [hrest] at h
          split at h
          · rename_i hc
            simp only [Option.some.injEq, Prod.mk.injEq] at h
            obtain ⟨rfl, rfl⟩ := h
            rw [hc, List.nil_append]
          · contradiction

theorem readUser_tail {kind : Kind} {text user password rest : List Char}
    (h : readUser kind text = .ok (user, password, rest)) : tail rest = tail text := by
  have hafter := tail_dropWhile_endsAuthority kind text
  simp only [readUser] at h
  split at h
  · simp only [Except.ok.injEq, Prod.mk.injEq] at h
    rw [h.2.2]
  · split at h
    · rename_i hempty
      simp only [Except.ok.injEq, Prod.mk.injEq] at h
      rw [← hafter, List.isEmpty_iff.mp hempty, h.2.2]
    · contradiction
  · rename_i info host _ hcut
    simp only [Except.ok.injEq, Prod.mk.injEq] at h
    -- the host begins before the authority ends, so no mark is in what is left out
    have hhost : ∀ c ∈ host, isMark c = false := by
      intro c hc
      have hmem : c ∈ text.takeWhile (!endsAuthority kind ·) := by
        rw [cutAtLast_eq hcut]
        exact List.mem_append_right info (List.mem_cons_of_mem _ hc)
      have hstop := List.mem_takeWhile_imp hmem
      exact isMark_eq_false_of_endsAuthority ((Bool.not_eq_true' _).mp hstop)
    rw [← h.2.2, tail_append hhost, hafter]

theorem cutHost_append (kind : Kind) (inBrackets : Bool) (text : List Char) :
    (cutHost kind inBrackets text).1 ++ (cutHost kind inBrackets text).2 = text ∧
      ∀ c ∈ (cutHost kind inBrackets text).1, isMark c = false := by
  induction text generalizing inBrackets with
  | nil => exact ⟨rfl, by simp [cutHost]⟩
  | cons c rest ih =>
      rw [cutHost]
      split
      · exact ⟨rfl, by simp⟩
      · rename_i hstop
        simp only [Bool.or_eq_true, not_or, Bool.not_eq_true] at hstop
        obtain ⟨happend, hmarks⟩ :=
          ih (if c = '[' then true else if c = ']' then false else inBrackets)
        refine ⟨by rw [List.cons_append, happend], ?_⟩
        intro d hd
        rcases List.mem_cons.mp hd with rfl | hd
        · exact isMark_eq_false_of_endsAuthority hstop.1
        · exact hmarks d hd

theorem cutHost_tail (kind : Kind) (inBrackets : Bool) (text : List Char) :
    tail (cutHost kind inBrackets text).2 = tail text := by
  obtain ⟨happend, hmarks⟩ := cutHost_append kind inBrackets text
  rw [← tail_append hmarks, happend]

theorem readHost_tail {kind : Kind} {text rest : List Char} {host : Option Host}
    (h : readHost kind text = .ok (host, rest)) : tail rest = tail text := by
  rw [← cutHost_tail kind false text]
  simp only [readHost] at h
  split at h
  · split at h
    · contradiction
    · simp only [Except.ok.injEq, Prod.mk.injEq] at h
      rw [h.2]
  · have hrest : (cutHost kind false text).2 = rest := by
      split at h
      · obtain ⟨_, -, h⟩ := bind_eq_ok.mp h
        exact (Prod.mk.inj (Except.ok.inj h)).2
      · obtain ⟨_, -, h⟩ := bind_eq_ok.mp h
        exact (Prod.mk.inj (Except.ok.inj h)).2
    rw [hrest]

theorem isMark_eq_false_of_isDigit {c : Char} (h : c.isDigit = true) : isMark c = false := by
  rw [isMark_eq_false_iff]
  constructor
  · rintro rfl
    contradiction
  · rintro rfl
    contradiction

theorem readPort_tail {scheme text rest : List Char} {port : Option Nat}
    (h : readPort scheme text = .ok (port, rest)) : tail rest = tail text := by
  have hdigits : tail (text.dropWhile Char.isDigit) = tail text :=
    tail_dropWhile (fun _ => isMark_eq_false_of_isDigit) text
  simp only [readPort] at h
  split at h
  · contradiction
  · split at h
    · simp only [Except.ok.injEq, Prod.mk.injEq] at h
      rw [← h.2, hdigits]
    · contradiction

theorem readPort?_tail {scheme text rest : List Char} {port : Option Nat}
    (h : readPort? scheme text = .ok (port, rest)) : tail rest = tail text := by
  unfold readPort? at h
  split at h
  · rw [tail_cons (by decide)]
    exact readPort_tail h
  · simp only [Except.ok.injEq, Prod.mk.injEq] at h
    rw [h.2]

theorem readAuthority_tail {scheme text rest : List Char} {authority : Authority}
    (h : readAuthority scheme text = .ok (authority, rest)) : tail rest = tail text := by
  obtain ⟨⟨user, password, afterUser⟩, huser, h⟩ := bind_eq_ok.mp h
  obtain ⟨⟨host, afterHost⟩, hhost, h⟩ := bind_eq_ok.mp h
  obtain ⟨⟨port, afterPort⟩, hport, h⟩ := bind_eq_ok.mp h
  simp only at h
  split at h
  · contradiction
  · simp only [Except.ok.injEq, Prod.mk.injEq] at h
    rw [← h.2, readPort?_tail hport, readHost_tail hhost, readUser_tail huser]

end PageSync.Url
