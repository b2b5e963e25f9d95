import PageSync.Proofs.Text.Utf8
import PageSync.Proofs.Url.Queries

/-!
Settled segments: characters that a path shows as they are, without slashes, and no dot segment in
any spelling. A dot segment is one that is read as dots, and escaping changes nothing in how a
segment is read. So walking over the pieces of a path leaves settled segments (`settled_walk`), and
walking over these leaves them as they are (`walk_of_settled`).
-/

namespace PageSync.Url

open Text

/-! ### Dot segments -/

def dotByte : UInt8 := 0x2E

/-- The digits that can spell a dot. -/
theorem digits_of_dot {high low : Char} (hhigh : hexValue? high = some 2)
    (hlow : hexValue? low = some 14) : high = '2' ∧ (low = 'e' ∨ low = 'E') := by
  have hall : ∀ code ≤ 'f'.toNat,
      (hexValue? (Char.ofNat code) = some 2 → Char.ofNat code = '2') ∧
        (hexValue? (Char.ofNat code) = some 14 →
          Char.ofNat code = 'e' ∨ Char.ofNat code = 'E') := by decide
  have hdigit : ∀ {c : Char} {n : Nat}, hexValue? c = some n → c.toNat ≤ 'f'.toNat :=
    fun hc => (toNat_of_isHexDigit (by rw [isHexDigit, hc, Option.isSome_some])).2
  have htwo := (hall high.toNat (hdigit hhigh)).1
  have hfourteen := (hall low.toNat (hdigit hlow)).2
  rw [Char.ofNat_toNat] at htwo hfourteen
  exact ⟨htwo hhigh, hfourteen hlow⟩

/-- The spellings of a dot are read as its byte. -/
theorem percentDecode_dot {dot : List Char} (h : dot ∈ dotSpellings) (rest : List Char) :
    percentDecode (dot ++ rest) = dotByte :: percentDecode rest := by
  simp only [dotSpellings, List.mem_cons, List.not_mem_nil, or_false] at h
  rcases h with rfl | rfl | rfl
  · exact percentDecode_cons_of_ne (by decide) rest
  · exact percentDecode_of_escapedByte? rfl rest
  · exact percentDecode_of_escapedByte? rfl rest

/-- And nothing else is. -/
theorem percentDecode_eq_dot_cons {text : List Char} {bytes : List UInt8}
    (h : percentDecode text = dotByte :: bytes) :
    ∃ dot ∈ dotSpellings, ∃ rest, text = dot ++ rest ∧ percentDecode rest = bytes := by
  fun_cases percentDecode text with
  | case1 => contradiction
  | case2 high low rest b hbyte =>
      rw [percentDecode_of_escapedByte? hbyte, List.cons.injEq] at h
      obtain ⟨rfl, rfl⟩ := h
      obtain ⟨m, n, hhigh, hlow, hvalue⟩ := escapedByte?_eq_some_iff.mp hbyte
      have hm := hexValue?_lt hhigh
      have hn := hexValue?_lt hlow
      -- two digits that write the byte of a dot are a two and a fourteen in either case
      have hsum : m * 16 + n = 46 := by
        have hnat := congrArg UInt8.toNat hvalue
        rw [UInt8.toNat_ofNat', Nat.mod_eq_of_lt (by omega)] at hnat
        exact hnat
      obtain rfl : m = 2 := by omega
      obtain rfl : n = 14 := by omega
      obtain ⟨rfl, rfl | rfl⟩ := digits_of_dot hhigh hlow
      · exact ⟨['%', '2', 'e'], by decide, rest, rfl, rfl⟩
      · exact ⟨['%', '2', 'E'], by decide, rest, rfl, rfl⟩
  | case3 high low rest hbyte =>
      rw [percentDecode, hbyte] at h
      exact absurd (List.cons.inj h).1 (by decide)
  | case4 c rest hno =>
      have hbytes : percentDecode (c :: rest) = String.utf8EncodeChar c ++ percentDecode rest := by
        rw [percentDecode]
        exact hno
      rw [hbytes] at h
      -- a character whose first byte is that of a dot is a dot
      obtain rfl : c = '.' := by
        have hread := congrArg decodeLossy h
        rw [decodeLossy_utf8EncodeChar] at hread
        exact (List.cons.inj (hread.trans (decodeLossy_one (a := 0x2E) (by decide) bytes))).1
      exact ⟨['.'], by decide, rest, rfl, (List.cons.inj h).2⟩

theorem eq_nil_of_percentDecode {text : List Char} (h : percentDecode text = []) : text = [] := by
  fun_cases percentDecode text with
  | case1 => rfl
  | case2 high low rest b hbyte =>
      rw [percentDecode_of_escapedByte? hbyte] at h
      contradiction
  | case3 high low rest hbyte =>
      rw [percentDecode, hbyte] at h
      contradiction
  | case4 c rest hno =>
      rw [percentDecode] at h
      · exact absurd (List.append_eq_nil_iff.mp h).1 String.utf8EncodeChar_ne_nil
      · exact hno

theorem isSingleDot_iff {s : Segment} :
    s.isSingleDot = true ↔ percentDecode s = [dotByte] := by
  have hspelled : s.isSingleDot = true ↔ s ∈ dotSpellings := by
    simp [Segment.isSingleDot, dotSpellings, or_assoc]
  rw [hspelled]
  constructor
  · intro h
    have hdot := percentDecode_dot h []
    rwa [List.append_nil] at hdot
  · intro h
    obtain ⟨dot, hdot, rest, rfl, hrest⟩ := percentDecode_eq_dot_cons h
    rw [eq_nil_of_percentDecode hrest, List.append_nil]
    exact hdot

theorem isDoubleDot_iff {s : Segment} :
    s.isDoubleDot = true ↔ percentDecode s = [dotByte, dotByte] := by
  have hspelled : s.isDoubleDot = true ↔
      ∃ first ∈ dotSpellings, ∃ second ∈ dotSpellings, s = first ++ second := by
    simp only [Segment.isDoubleDot, List.any_eq_true, beq_iff_eq]
  rw [hspelled]
  constructor
  · rintro ⟨first, hfirst, second, hsecond, rfl⟩
    have hdot := percentDecode_dot hsecond []
    rw [List.append_nil] at hdot
    rw [percentDecode_dot hfirst, hdot]
    rfl
  · intro h
    obtain ⟨first, hfirst, rest, rfl, hrest⟩ := percentDecode_eq_dot_cons h
    obtain ⟨second, hsecond, tail, rfl, htail⟩ := percentDecode_eq_dot_cons hrest
    rw [eq_nil_of_percentDecode htail, List.append_nil]
    exact ⟨first, hfirst, second, hsecond, rfl⟩

/-! ### Settled segments -/

/-- A segment as a special URL keeps it: escaped, within slashes, and no dot segment. -/
structure Segment.Settled (s : Segment) : Prop where
  kept : ∀ c ∈ s, keptInPath c = true
  inside : ∀ c ∈ s, Kind.special.isSlash c = false
  notSingle : s.isSingleDot = false
  notDouble : s.isDoubleDot = false

/-- A path of such segments, at least one. -/
inductive Path.Settled : Path → Prop where
  | segments {parts : List Segment} (hne : parts ≠ []) (h : ∀ s ∈ parts, s.Settled) :
      Path.Settled (.segments parts)

theorem settled_nil : Segment.Settled [] :=
  ⟨List.forall_mem_nil _, List.forall_mem_nil _, rfl, rfl⟩

theorem keepsForm_keptInPath : Query.KeepsForm keptInPath := keepsForm_plainExcept (by decide)

/-- Escaping keeps what makes up escapes, so a segment is read as the same bytes. -/
theorem percentDecode_percentEncode (s : Segment) :
    percentDecode (percentEncode keptInPath s) = percentDecode s := by
  have hspells : Spells id (percentEncodeChar keptInPath) := by
    intro c
    cases hc : keptInPath c with
    | true => exact .inl (if_pos hc)
    | false =>
        have hnot : ¬(isHexDigit c = true ∨ c = '%') := by
          rintro (hdigit | rfl)
          · rw [keepsForm_keptInPath c (.inl hdigit)] at hc
            contradiction
          · contradiction
        rw [not_or, Bool.not_eq_true] at hnot
        refine .inr ⟨?_, hnot.2, hnot.1⟩
        rw [percentEncodeChar, hc]
        exact escapes_escapeBytes c
  have hread := hspells.percentDecode_flatMap s
  rwa [List.map_id] at hread

theorem keptInPath_of_mem_percentEncode {s : Segment} {c : Char}
    (h : c ∈ percentEncode keptInPath s) : keptInPath c = true := by
  obtain ⟨d, -, hc⟩ := List.mem_flatMap.mp h
  rw [percentEncodeChar] at hc
  split at hc
  · rw [List.mem_singleton.mp hc]
    assumption
  · obtain ⟨b, -, hb⟩ := List.mem_flatMap.mp hc
    rcases mem_escapeByte hb with rfl | hdigit
    · decide
    · exact keepsForm_keptInPath c (.inl hdigit)

/-- What stands between slashes, if it is no dot segment, is settled once it is escaped. -/
theorem settled_percentEncode {s : Segment} (hinside : ∀ c ∈ s, Kind.special.isSlash c = false)
    (hsingle : s.isSingleDot = false) (hdouble : s.isDoubleDot = false) :
    Segment.Settled (percentEncode keptInPath s) := by
  have hslash : ∀ c, Kind.special.isSlash c = false ↔ c ≠ '/' ∧ c ≠ '\\' := by
    intro c
    simp [Kind.isSlash]
  refine ⟨fun c hc => keptInPath_of_mem_percentEncode hc, ?_, ?_, ?_⟩
  · intro c hc
    obtain ⟨d, hd, hc⟩ := List.mem_flatMap.mp hc
    obtain ⟨hd₁, hd₂⟩ := (hslash d).mp (hinside d hd)
    exact (hslash c).mpr ⟨ne_of_mem_percentEncodeChar (by decide) (by decide) hd₁ hc,
      ne_of_mem_percentEncodeChar (by decide) (by decide) hd₂ hc⟩
  · rw [Bool.eq_false_iff, Ne, isSingleDot_iff, percentDecode_percentEncode, ← isSingleDot_iff]
    exact Bool.eq_false_iff.mp hsingle
  · rw [Bool.eq_false_iff, Ne, isDoubleDot_iff, percentDecode_percentEncode, ← isDoubleDot_iff]
    exact Bool.eq_false_iff.mp hdouble

/-- Escaping changes nothing where all is kept. -/
theorem percentEncode_eq_self {keep : Char → Bool} {s : List Char} (h : ∀ c ∈ s, keep c = true) :
    percentEncode keep s = s := by
  induction s with
  | nil => rfl
  | cons c rest ih =>
      obtain ⟨hc, hrest⟩ := List.forall_mem_cons.mp h
      rw [percentEncode, List.flatMap_cons, percentEncodeChar, if_pos hc]
      exact congrArg (c :: ·) (ih hrest)

/-! ### Walking -/

section

variable {done : List Segment}

theorem mem_dropLastSegment {s : Segment} (h : s ∈ dropLastSegment done) : s ∈ done := by
  rw [dropLastSegment] at h
  split at h
  · split at h
    · exact h
    · exact List.dropLast_subset done h
  · exact h

theorem settled_enter (hdone : ∀ s ∈ done, Segment.Settled s) {s : Segment}
    (hs : ∀ c ∈ s, Kind.special.isSlash c = false) :
    ∀ x ∈ enter .special done s, Segment.Settled x := by
  intro x hx
  rw [enter] at hx
  split at hx
  · exact hdone x (mem_dropLastSegment hx)
  · split at hx
    · exact hdone x hx
    · rename_i hdouble hsingle
      rcases List.mem_append.mp hx with hx | hx
      · exact hdone x hx
      · rw [List.mem_singleton.mp hx]
        exact settled_percentEncode hs (Bool.eq_false_iff.mpr hsingle)
          (Bool.eq_false_iff.mpr hdouble)

theorem settled_finish (hdone : ∀ s ∈ done, Segment.Settled s) {s : Segment}
    (hs : ∀ c ∈ s, Kind.special.isSlash c = false) :
    Path.Settled (.segments (finish .special done s)) := by
  have henter := settled_enter hdone hs
  rw [finish]
  split
  · refine .segments (by simp) ?_
    rw [List.forall_mem_append, List.forall_mem_singleton]
    exact ⟨henter, settled_nil⟩
  · rename_i hdot
    rw [Bool.or_eq_true, not_or] at hdot
    refine .segments ?_ henter
    rw [enter, if_neg hdot.1, if_neg hdot.2]
    simp

/-- Walking over pieces that stand between slashes leaves a settled path. -/
theorem settled_walk {path : List Segment} (hdone : ∀ s ∈ done, Segment.Settled s)
    (hne : path ≠ []) (hpath : ∀ s ∈ path, ∀ c ∈ s, Kind.special.isSlash c = false) :
    Path.Settled (.segments (walk .special done path)) := by
  induction path generalizing done with
  | nil => contradiction
  | cons s rest ih =>
      obtain ⟨hs, hrest⟩ := List.forall_mem_cons.mp hpath
      cases rest with
      | nil => exact settled_finish hdone hs
      | cons next rest => exact ih (settled_enter hdone hs) (List.cons_ne_nil _ _) hrest

theorem enter_of_settled {s : Segment} (h : s.Settled) :
    enter .special done s = done ++ [s] := by
  rw [enter, h.notSingle, h.notDouble, percentEncode_eq_self h.kept]
  rfl

/-- Walking over settled segments leaves them as they are. -/
theorem walk_of_settled {path : List Segment} (h : ∀ s ∈ path, Segment.Settled s) :
    walk .special done path = done ++ path := by
  induction path generalizing done with
  | nil => rw [walk, List.append_nil]
  | cons s rest ih =>
      obtain ⟨hs, hrest⟩ := List.forall_mem_cons.mp h
      cases rest with
      | nil =>
          rw [walk, finish, hs.notSingle, hs.notDouble]
          exact enter_of_settled hs
      | cons next rest =>
          rw [walk, ih hrest, enter_of_settled hs, List.append_assoc, List.singleton_append]
          exact List.cons_ne_nil _ _

end

end PageSync.Url
