import Mathlib.Data.List.TakeWhile
import PageSync.Text.Utf8

/-!
Reading UTF-8 back. The bytes of a character are the longest beginning of a character at their
place, so they are read as it, whatever follows them: a text is read from its bytes as it was
(`decodeLossy_encode`).
-/

namespace PageSync.Text

/-! ### Leading bytes -/

theorem leadingByte_one {n : Nat} (h : n < 128) :
    leadingByte (UInt8.ofNat n) = some (0, n) := by
  have hall : ∀ n < 128, leadingByte (UInt8.ofNat n) = some (0, n) := by decide
  exact hall n h

theorem leadingByte_two {n : Nat} (h : 2 ≤ n) (hlt : n < 32) :
    leadingByte (UInt8.ofNat (n + 192)) = some (1, n) := by
  have hall : ∀ n < 32, 2 ≤ n → leadingByte (UInt8.ofNat (n + 192)) = some (1, n) := by decide
  exact hall n hlt h

theorem leadingByte_three {n : Nat} (h : n < 16) :
    leadingByte (UInt8.ofNat (n + 224)) = some (2, n) := by
  have hall : ∀ n < 16, leadingByte (UInt8.ofNat (n + 224)) = some (2, n) := by decide
  exact hall n h

theorem leadingByte_four {n : Nat} (h : n < 5) :
    leadingByte (UInt8.ofNat (n + 240)) = some (3, n) := by
  have hall : ∀ n < 5, leadingByte (UInt8.ofNat (n + 240)) = some (3, n) := by decide
  exact hall n h

/-! ### The bytes after them -/

theorem isContinuation_ofNat {n : Nat} (h : n < 64) :
    isContinuation (UInt8.ofNat (n + 128)) = true := by
  have hall : ∀ n < 64, isContinuation (UInt8.ofNat (n + 128)) = true := by decide
  exact hall n h

theorem toNat_continuation_mod {n : Nat} (h : n < 64) :
    (UInt8.ofNat (n + 128)).toNat % 64 = n := by
  rw [UInt8.toNat_ofNat']
  omega

theorem maySecond_two {a n : Nat} (ha : a < 32) (h : n < 64) :
    maySecond (UInt8.ofNat (a + 192)) (UInt8.ofNat (n + 128)) = true := by
  have hall : ∀ a < 32, ∀ n < 64,
      maySecond (UInt8.ofNat (a + 192)) (UInt8.ofNat (n + 128)) = true := by decide +kernel
  exact hall a ha n h

/-- No overlong form, and no surrogate. -/
theorem maySecond_three {a n : Nat} (ha : a < 16) (h : n < 64) (hlong : a = 0 → 32 ≤ n)
    (hsurrogate : a = 13 → n < 32) :
    maySecond (UInt8.ofNat (a + 224)) (UInt8.ofNat (n + 128)) = true := by
  have hall : ∀ a < 16, ∀ n < 64, (a = 0 → 32 ≤ n) → (a = 13 → n < 32) →
      maySecond (UInt8.ofNat (a + 224)) (UInt8.ofNat (n + 128)) = true := by decide +kernel
  exact hall a ha n h hlong hsurrogate

/-- No overlong form, and nothing above the last code point. -/
theorem maySecond_four {a n : Nat} (ha : a < 5) (h : n < 64) (hlong : a = 0 → 16 ≤ n)
    (hlast : a = 4 → n < 16) :
    maySecond (UInt8.ofNat (a + 240)) (UInt8.ofNat (n + 128)) = true := by
  have hall : ∀ a < 5, ∀ n < 64, (a = 0 → 16 ≤ n) → (a = 4 → n < 16) →
      maySecond (UInt8.ofNat (a + 240)) (UInt8.ofNat (n + 128)) = true := by decide +kernel
  exact hall a ha n h hlong hlast

/-- The bytes that a leading byte asks for are all taken, and no more. -/
theorem continuing_append {a b : UInt8} {tail : List UInt8} (hsecond : maySecond a b = true)
    (htail : ∀ x ∈ tail, isContinuation x = true) (rest : List UInt8) :
    continuing a (tail.length + 1) (b :: (tail ++ rest)) = b :: tail := by
  rw [continuing, if_pos hsecond, List.take_left, List.takeWhile_eq_self_iff.mpr htail]

/-! ### Characters -/

/-- A leading byte with the bytes it asks for is read as the number that they write. -/
theorem decodeLossy_append {a b : UInt8} {tail : List UInt8} {high : Nat}
    (hleading : leadingByte a = some (tail.length + 1, high)) (hsecond : maySecond a b = true)
    (htail : ∀ x ∈ tail, isContinuation x = true) (rest : List UInt8) :
    decodeLossy (a :: b :: (tail ++ rest)) =
      Char.ofNat ((b :: tail).foldl (fun n b => n * 64 + b.toNat % 64) high) ::
        decodeLossy rest := by
  have hhead : decodeHead a (b :: (tail ++ rest)) =
      (Char.ofNat ((b :: tail).foldl (fun n b => n * 64 + b.toNat % 64) high),
        tail.length + 1) := by
    rw [decodeHead, hleading]
    simp only [continuing_append hsecond htail, List.length_cons, if_true]
  rw [decodeLossy, hhead, List.drop_succ_cons, List.drop_left]

theorem decodeLossy_one {a : Nat} (ha : a < 128) (rest : List UInt8) :
    decodeLossy (UInt8.ofNat a :: rest) = Char.ofNat a :: decodeLossy rest := by
  have hhead : decodeHead (UInt8.ofNat a) rest = (Char.ofNat a, 0) := by
    rw [decodeHead, leadingByte_one ha]
    rfl
  rw [decodeLossy, hhead, List.drop_zero]

theorem decodeLossy_two {a b : Nat} (ha : 2 ≤ a) (hlt : a < 32) (hb : b < 64)
    (rest : List UInt8) :
    decodeLossy (UInt8.ofNat (a + 192) :: UInt8.ofNat (b + 128) :: rest) =
      Char.ofNat (a * 64 + b) :: decodeLossy rest := by
  have hread := decodeLossy_append (leadingByte_two ha hlt) (maySecond_two hlt hb)
    (List.forall_mem_nil _) rest
  rw [List.foldl_cons, toNat_continuation_mod hb] at hread
  exact hread

theorem decodeLossy_three {a b c : Nat} (ha : a < 16) (hb : b < 64) (hc : c < 64)
    (hlong : a = 0 → 32 ≤ b) (hsurrogate : a = 13 → b < 32) (rest : List UInt8) :
    decodeLossy (UInt8.ofNat (a + 224) :: UInt8.ofNat (b + 128) :: UInt8.ofNat (c + 128) :: rest) =
      Char.ofNat ((a * 64 + b) * 64 + c) :: decodeLossy rest := by
  have htail : ∀ x ∈ [UInt8.ofNat (c + 128)], isContinuation x = true := by
    rw [List.forall_mem_singleton]
    exact isContinuation_ofNat hc
  have hread := decodeLossy_append (leadingByte_three ha)
    (maySecond_three ha hb hlong hsurrogate) htail rest
  rw [List.foldl_cons, toNat_continuation_mod hb, List.foldl_cons,
    toNat_continuation_mod hc] at hread
  exact hread

theorem decodeLossy_four {a b c d : Nat} (ha : a < 5) (hb : b < 64) (hc : c < 64) (hd : d < 64)
    (hlong : a = 0 → 16 ≤ b) (hlast : a = 4 → b < 16) (rest : List UInt8) :
    decodeLossy (UInt8.ofNat (a + 240) :: UInt8.ofNat (b + 128) :: UInt8.ofNat (c + 128) ::
        UInt8.ofNat (d + 128) :: rest) =
      Char.ofNat (((a * 64 + b) * 64 + c) * 64 + d) :: decodeLossy rest := by
  have htail : ∀ x ∈ [UInt8.ofNat (c + 128), UInt8.ofNat (d + 128)],
      isContinuation x = true := by
    rw [List.forall_mem_cons, List.forall_mem_singleton]
    exact ⟨isContinuation_ofNat hc, isContinuation_ofNat hd⟩
  have hread := decodeLossy_append (leadingByte_four ha) (maySecond_four ha hb hlong hlast)
    htail rest
  rw [List.foldl_cons, toNat_continuation_mod hb, List.foldl_cons, toNat_continuation_mod hc,
    List.foldl_cons, toNat_continuation_mod hd] at hread
  exact hread

/-- The bytes of a character are read as it. -/
theorem decodeLossy_utf8EncodeChar (c : Char) (rest : List UInt8) :
    decodeLossy (String.utf8EncodeChar c ++ rest) = c :: decodeLossy rest := by
  have hvalid : c.toNat < 0xD800 ∨ 0xDFFF < c.toNat ∧ c.toNat < 0x110000 := c.valid
  have hc : ∀ n, n = c.toNat → Char.ofNat n = c := by
    rintro n rfl
    exact Char.ofNat_toNat c
  unfold String.utf8EncodeChar
  simp only [Char.toNat_val]
  -- by the number of bytes
  split
  · rw [List.singleton_append, decodeLossy_one (by omega), hc _ rfl]
  · split
    · rw [List.cons_append, List.cons_append, List.nil_append,
        decodeLossy_two (by omega) (by omega) (by omega), hc _ (by omega)]
    · split
      · rw [List.cons_append, List.cons_append, List.cons_append, List.nil_append,
          decodeLossy_three (by omega) (by omega) (by omega) (by omega) (by omega),
          hc _ (by omega)]
      · rw [List.cons_append, List.cons_append, List.cons_append, List.cons_append,
          List.nil_append, decodeLossy_four (by omega) (by omega) (by omega) (by omega)
          (by omega) (by omega), hc _ (by omega)]

/-- A text is read from its bytes as it was. -/
theorem decodeLossy_encode (text : List Char) : decodeLossy (encode text) = text := by
  induction text with
  | nil => rw [encode, List.flatMap_nil, decodeLossy]
  | cons c rest ih =>
      rw [encode, List.flatMap_cons, decodeLossy_utf8EncodeChar]
      exact congrArg (c :: ·) ih

end PageSync.Text
