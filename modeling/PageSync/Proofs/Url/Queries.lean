import PageSync.Proofs.Query.Escaping
import PageSync.Proofs.Url.Tail

/-!
The query of a URL that was read. Every kind of reference has a reader of its own, and each of them
leaves the tail of its text to `readTail`, or keeps the query of the base where the text has none
(`parse_readsQuery`).
-/

namespace PageSync.Url

open Text

/-! ### Written queries -/

/-- The query that is written in a text: after a question mark that no number sign precedes, up to
the next number sign. -/
def rawQuery? (text : List Char) : Option (List Char) :=
  match tail text with
  | '?' :: rest => some (rest.takeWhile (· != '#'))
  | _ => none

theorem rawQuery?_congr {text rest : List Char} (h : tail rest = tail text) :
    rawQuery? rest = rawQuery? text := by
  rw [rawQuery?, h, rawQuery?]

theorem rawQuery?_cons {c : Char} (h : isMark c = false) (rest : List Char) :
    rawQuery? (c :: rest) = rawQuery? rest := rawQuery?_congr (tail_cons h rest)

/-- Of what precedes the number sign, the query is what stands after the first question mark. -/
theorem rawQuery?_of_mem {text : List Char} (h : '?' ∈ text.takeWhile (· != '#')) :
    ∃ query, (text.takeWhile (· != '#')).dropWhile (· != '?') = '?' :: query ∧
      rawQuery? text = some query := by
  induction text with
  | nil => contradiction
  | cons c rest ih =>
      by_cases hnumber : c = '#'
      · simp [hnumber] at h
      · rw [List.takeWhile_cons_of_pos (by simpa using hnumber)] at h ⊢
        by_cases hmark : c = '?'
        · subst hmark
          exact ⟨rest.takeWhile (· != '#'), rfl, rfl⟩
        · obtain ⟨query, hquery, hraw⟩ := ih ((List.mem_cons.mp h).resolve_left (Ne.symm hmark))
          refine ⟨query, ?_, ?_⟩
          · rw [List.dropWhile_cons_of_pos (by simpa using hmark), hquery]
          · rw [rawQuery?_cons (isMark_eq_false_iff.mpr ⟨hmark, hnumber⟩), hraw]

theorem rawQuery?_eq_none {text : List Char} (h : '?' ∉ text.takeWhile (· != '#')) :
    rawQuery? text = none := by
  induction text with
  | nil => rfl
  | cons c rest ih =>
      by_cases hnumber : c = '#'
      · subst hnumber
        rfl
      · rw [List.takeWhile_cons_of_pos (by simpa using hnumber), List.mem_cons, not_or] at h
        rw [rawQuery?_cons (isMark_eq_false_iff.mpr ⟨Ne.symm h.1, hnumber⟩), ih h.2]

/-- The query of the URL is the one written in the text, escaped. Where none is written it has none,
or the one of the base. -/
structure ReadsQuery (base : Option Url) (text : List Char) (url : Url) : Prop where
  written : ∀ query, rawQuery? text = some query → url.query = some (encodeQuery url.kind query)
  unwritten : rawQuery? text = none → url.query = none ∨ ∃ b ∈ base, url.query = b.query

theorem ReadsQuery.of_tail {base : Option Url} {text rest : List Char} {url : Url}
    (h : ReadsQuery base rest url) (htail : tail rest = tail text) : ReadsQuery base text url := by
  have hraw := rawQuery?_congr htail
  exact ⟨hraw ▸ h.written, hraw ▸ h.unwritten⟩

theorem ReadsQuery.mono {base more : Option Url} {text : List Char} {url : Url}
    (h : ReadsQuery base text url) (hbase : ∀ b ∈ base, b ∈ more) : ReadsQuery more text url := by
  refine ⟨h.written, fun hraw => ?_⟩
  rcases h.unwritten hraw with hnone | ⟨b, hb, hquery⟩
  · exact .inl hnone
  · exact .inr ⟨b, hbase b hb, hquery⟩

theorem readTail_fst (kind : Kind) (text : List Char) :
    (readTail kind (tail text)).1 = (rawQuery? text).map (encodeQuery kind) := by
  rw [rawQuery?]
  cases tail text with
  | nil => rfl
  | cons c rest =>
      by_cases hc : c = '?'
      · subst hc
        rfl
      · simp [readTail, hc]

variable {base : Option Url}

theorem withTail_readsQuery (scheme : List Char) (authority : Option Authority) (path : Path)
    (text : List Char) : ReadsQuery base text (withTail scheme authority path (tail text)) := by
  have hquery : (withTail scheme authority path (tail text)).query =
      (rawQuery? text).map (encodeQuery (kindOf scheme)) := readTail_fst (kindOf scheme) text
  constructor
  · intro query hraw
    rw [hquery, hraw]
    rfl
  · intro hraw
    rw [hquery, hraw]
    exact .inl rfl

theorem replaceTail_nil_readsQuery (base : Url) :
    ReadsQuery (some base) [] (replaceTail base []) := by
  constructor
  · intro query hraw
    cases hraw
  · exact fun _ => .inr ⟨base, rfl, rfl⟩

theorem replaceTail_cons_readsQuery {base : Url} {c : Char} {rest : List Char}
    (h : c = '?' ∨ c = '#') :
    ReadsQuery (some base) (c :: rest) (replaceTail base (c :: rest)) := by
  rcases h with rfl | rfl
  · exact withTail_readsQuery base.scheme base.authority base.path ('?' :: rest)
  · constructor
    · intro query hraw
      cases hraw
    · exact fun _ => .inr ⟨base, rfl, rfl⟩

/-! ### Escaped queries -/

theorem keepsForm_plainExcept {excluded : List Char}
    (h : (excluded.all fun c => !isHexDigit c && decide (c ∉ ['%', '&', '=', '+'])) = true) :
    Query.KeepsForm (plainExcept excluded) := by
  intro c hc
  have hplain : isPlain c = true := by
    rcases hc with hdigit | rfl | rfl | rfl | rfl
    · have hrange := toNat_of_isHexDigit hdigit
      rw [isPlain, Bool.and_eq_true, decide_eq_true_eq, decide_eq_true_eq]
      simp only [Char.reduceToNat] at hrange
      omega
    all_goals decide
  -- the characters that give the form its shape are in none of the lists
  have hnot : c ∉ excluded := by
    intro hmem
    obtain ⟨hno, hform⟩ := Bool.and_eq_true_iff.mp (List.all_eq_true.mp h c hmem)
    rcases hc with hdigit | hc
    · rw [hdigit] at hno
      contradiction
    · exact of_decide_eq_true hform (by simpa using hc)
  rw [plainExcept, hplain, Bool.true_and]
  simpa using hnot

/-- Escaping a query changes no value in it. -/
theorem value?_encodeQuery (kind : Kind) (query : List Char) (name : String) :
    Query.value? (encodeQuery kind query) name = Query.value? query name := by
  refine Query.value?_percentEncode ?_ query name
  split
  · exact keepsForm_plainExcept (by decide)
  · exact keepsForm_plainExcept (by decide)

/-! ### Kinds of references -/

theorem afterSlashes_readsQuery {scheme text : List Char} {url : Url}
    (h : afterSlashes scheme text = .ok url) : ReadsQuery base text url := by
  obtain ⟨⟨authority, rest⟩, hauthority, h⟩ := bind_eq_ok.mp h
  have hurl : withTail scheme (some authority) (.segments (readPath (kindOf scheme) rest).1)
      (readPath (kindOf scheme) rest).2 = url := Except.ok.inj h
  rw [← hurl, readPath_snd, readAuthority_tail hauthority]
  exact withTail_readsQuery scheme (some authority) _ text

theorem readRelative_readsQuery {base : Url} {text : List Char} {url : Url}
    (h : readRelative base text = .ok url) : ReadsQuery (some base) text url := by
  unfold readRelative at h
  cases text with
  | nil =>
      rw [← Except.ok.inj h]
      exact replaceTail_nil_readsQuery base
  | cons c rest =>
      simp only [Bool.or_eq_true, decide_eq_true_eq] at h
      -- what is taken off in front are slashes, which begin no query
      split at h
      · rename_i hmark
        rw [← Except.ok.inj h]
        exact replaceTail_cons_readsQuery hmark
      · split at h
        · rename_i hslash
          have hc : isMark c = false := by rcases hslash with rfl | rfl <;> decide
          split at h
          · rename_i after hafter
            refine (afterSlashes_readsQuery h).of_tail ?_
            rw [hafter, tail_cons (by decide), tail_cons (by decide)]
          · split at h
            · exact (afterSlashes_readsQuery h).of_tail (tail_dropWhile_isAnySlash _)
            · rw [← Except.ok.inj h, readSegments_snd]
              exact (withTail_readsQuery base.scheme base.authority _ rest).of_tail
                (tail_cons hc rest).symm
        · rw [← Except.ok.inj h, readRelativePath_snd]
          exact withTail_readsQuery base.scheme base.authority _ (c :: rest)

theorem fileUrl_readsQuery (host : Option Host) (segments : List Segment) (text : List Char) :
    ReadsQuery base text (fileUrl host segments (tail text)) :=
  withTail_readsQuery fileScheme (some { host }) _ text

theorem readFileHost_readsQuery {text : List Char} {url : Url}
    (h : readFileHost text = .ok url) : ReadsQuery base text url := by
  have hafter := tail_dropWhile_endsAuthority .file text
  simp only [readFileHost] at h
  split at h
  · rw [← Except.ok.inj h]
    exact fileUrl_readsQuery none _ text
  · split at h
    · rw [← Except.ok.inj h]
      exact (fileUrl_readsQuery none _ _).of_tail hafter
    · obtain ⟨host, -, h⟩ := bind_eq_ok.mp h
      split at h
      · rw [← Except.ok.inj h]
        exact (fileUrl_readsQuery none _ _).of_tail hafter
      · rw [← Except.ok.inj h, readPath_snd]
        exact (fileUrl_readsQuery _ _ _).of_tail hafter

theorem readFileRoot_readsQuery (other : Option Url) (text : List Char) :
    ReadsQuery base text (readFileRoot other text) := by
  unfold readFileRoot
  simp only [readSegments_snd]
  split
  · exact fileUrl_readsQuery _ _ text
  · split
    · split
      · exact fileUrl_readsQuery _ _ text
      · exact fileUrl_readsQuery _ _ text
    · exact fileUrl_readsQuery _ _ text

theorem readFile_readsQuery {text : List Char} {url : Url} (h : readFile base text = .ok url) :
    ReadsQuery base text url := by
  unfold readFile at h
  cases text with
  | nil =>
      cases base with
      | none =>
          rw [← Except.ok.inj h]
          exact fileUrl_readsQuery none _ []
      | some base =>
          rw [← Except.ok.inj h]
          exact replaceTail_nil_readsQuery base
  | cons c rest =>
      simp only [readSegments_snd, readRelativePath_snd, Bool.or_eq_true, decide_eq_true_eq] at h
      split at h
      · -- slashes begin no query, so it is in the rest behind them
        rename_i hslash
        have hc := tail_cons (isMark_eq_false_of_isAnySlash hslash) rest
        split at h
        · split at h
          · rename_i hslash'
            refine (readFileHost_readsQuery h).of_tail ?_
            rw [hc, tail_cons (isMark_eq_false_of_isAnySlash hslash')]
          · rw [← Except.ok.inj h]
            exact (readFileRoot_readsQuery _ _).of_tail hc.symm
        · rw [← Except.ok.inj h]
          exact (readFileRoot_readsQuery _ _).of_tail hc.symm
      · split at h
        · split at h
          · rename_i hmark
            rw [← Except.ok.inj h]
            exact replaceTail_cons_readsQuery hmark
          · split at h
            · rw [← Except.ok.inj h]
              exact fileUrl_readsQuery none _ (c :: rest)
            · rw [← Except.ok.inj h]
              exact withTail_readsQuery fileScheme _ _ (c :: rest)
        · rw [← Except.ok.inj h]
          exact fileUrl_readsQuery none _ (c :: rest)

theorem readOther_readsQuery {scheme text : List Char} {url : Url}
    (h : readOther scheme text = .ok url) : ReadsQuery base text url := by
  unfold readOther at h
  split at h
  · refine (afterSlashes_readsQuery h).of_tail ?_
    rw [tail_cons (by decide), tail_cons (by decide)]
  · rename_i rest _
    rw [← Except.ok.inj h]
    exact (withTail_readsQuery scheme none _ rest).of_tail (tail_cons (by decide) rest).symm
  · rw [← Except.ok.inj h]
    exact withTail_readsQuery scheme none _ text

theorem readSpecial_readsQuery {scheme text : List Char} {url : Url}
    (h : readSpecial base scheme text = .ok url) : ReadsQuery base text url := by
  have hslashes := tail_dropWhile_isAnySlash text
  simp only [readSpecial] at h
  split at h
  · rename_i b hb
    split at h
    · refine (readRelative_readsQuery h).mono ?_
      rintro _ ⟨⟩
      exact (Option.filter_eq_some_iff.mp hb).1
    · exact (afterSlashes_readsQuery h).of_tail hslashes
  · exact (afterSlashes_readsQuery h).of_tail hslashes

theorem readReference_readsQuery {text : List Char} {url : Url}
    (h : readReference base text = .ok url) : ReadsQuery base text url := by
  unfold readReference at h
  split at h
  · contradiction
  · split at h
    · rename_i hhead
      obtain ⟨rest, rfl⟩ := List.head?_eq_some_iff.mp hhead
      rw [← Except.ok.inj h]
      exact replaceTail_cons_readsQuery (.inr rfl)
    · split at h
      · contradiction
      · split at h
        · exact readFile_readsQuery h
        · exact readRelative_readsQuery h

/-- A URL has the query that is written in its text, or else none or that of its base. -/
theorem parse_readsQuery {text : String} {url : Url} (h : parse base text = .ok url) :
    ReadsQuery base (clean text.toList) url := by
  simp only [parse] at h
  split at h
  · rename_i scheme rest hscheme
    refine ReadsQuery.of_tail ?_ (cutScheme_tail hscheme)
    split at h
    · exact (readFile_readsQuery h).mono fun _ hb => (Option.filter_eq_some_iff.mp hb).1
    · exact readSpecial_readsQuery h
    · exact readOther_readsQuery h
  · exact readReference_readsQuery h

end PageSync.Url
