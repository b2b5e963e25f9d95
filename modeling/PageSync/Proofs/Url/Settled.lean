import PageSync.Proofs.Url.Segments

/-!
Settled paths. Every reader of a special URL leaves a path of settled segments, or that of its base
(`Read.settlesPath`). Such a path has a plain text (`Path.Settled.plainText`), and as a reference of
its own it leads to itself (`join?_text`).
-/

namespace PageSync.Url

open Text

/-! ### Readers -/

def SettlesPath (url : Url) : Prop := url.kind = .special → url.path.Settled

theorem settled_readSegments {done : List Segment} (hdone : ∀ s ∈ done, Segment.Settled s)
    (text : List Char) : Path.Settled (.segments (readSegments .special done text).1) :=
  settled_walk hdone (pieces_ne_nil _ _) fun _ hs _ hc => sep_eq_false_of_mem_pieces hs hc

theorem settled_readPath (text : List Char) :
    Path.Settled (.segments (readPath .special text).1) := by
  cases text with
  | nil => exact .segments (List.cons_ne_nil _ _) (List.forall_mem_singleton.mpr settled_nil)
  | cons c rest =>
      rw [readPath]
      split
      · exact settled_readSegments (List.forall_mem_nil _) rest
      · exact settled_readSegments (List.forall_mem_nil _) (c :: rest)

theorem settled_readRelativePath {base : List Segment} (hbase : ∀ s ∈ base, Segment.Settled s)
    (text : List Char) : Path.Settled (.segments (readRelativePath .special base text).1) := by
  have hkept : keptOfBase .special base = (base.dropLast, []) := by
    rw [keptOfBase]
    split
    · rfl
    · rename_i hlast
      rw [List.getLast?_eq_none_iff.mp hlast]
      rfl
  rw [readRelativePath, hkept]
  exact settled_readSegments (fun s hs => hbase s (List.dropLast_subset base hs)) text

theorem withTail_settlesPath {scheme : List Char} {authority : Option Authority} {path : Path}
    {rest : List Char} (h : kindOf scheme = .special → path.Settled) :
    SettlesPath (withTail scheme authority path rest) := h

theorem settlesPath_of_kind {url : Url} (h : url.kind ≠ .special) : SettlesPath url :=
  fun hkind => absurd hkind h

theorem afterSlashes_settlesPath {scheme text : List Char} {url : Url}
    (h : afterSlashes scheme text = .ok url) : SettlesPath url := by
  obtain ⟨⟨authority, rest⟩, -, h⟩ := bind_eq_ok.mp h
  rw [← Except.ok.inj h]
  refine withTail_settlesPath fun hkind => ?_
  rw [hkind]
  exact settled_readPath rest

theorem replaceTail_kind (base : Url) (rest : List Char) :
    (replaceTail base rest).kind = base.kind := by
  unfold replaceTail
  split
  · rfl
  · rfl
  · rfl

theorem replaceTail_settlesPath {base : Url} (h : SettlesPath base) (rest : List Char) :
    SettlesPath (replaceTail base rest) := by
  unfold replaceTail
  split
  · exact h
  · exact h
  · exact withTail_settlesPath h

theorem readRelative_settlesPath {base : Url} (hbase : SettlesPath base) {text : List Char}
    {url : Url} (h : readRelative base text = .ok url) : SettlesPath url := by
  -- the forms of a reference, in the order of the reader
  have hroot : ∀ rest, SettlesPath (withTail base.scheme base.authority
      (.segments (readSegments base.kind [] rest).1) (readSegments base.kind [] rest).2) := by
    refine fun rest => withTail_settlesPath fun hkind => ?_
    rw [kind, hkind]
    exact settled_readSegments (List.forall_mem_nil _) rest
  unfold readRelative at h
  cases text with
  | nil =>
      rw [← Except.ok.inj h]
      exact replaceTail_settlesPath hbase []
  | cons c rest =>
      simp only at h
      split at h
      · rw [← Except.ok.inj h]
        exact replaceTail_settlesPath hbase _
      · split at h
        · split at h
          · exact afterSlashes_settlesPath h
          · split at h
            · exact afterSlashes_settlesPath h
            · rw [← Except.ok.inj h]
              exact hroot rest
        · rw [← Except.ok.inj h]
          refine withTail_settlesPath fun hkind => ?_
          cases hpath : base.path with
          | unstructured text =>
              rw [kind, hkind]
              exact settled_readRelativePath (List.forall_mem_nil _) (c :: rest)
          | segments parts =>
              have hparts : ∀ s ∈ parts, Segment.Settled s := by
                have hsettled := hbase hkind
                rw [hpath] at hsettled
                cases hsettled
                assumption
              rw [kind, hkind]
              exact settled_readRelativePath hparts (c :: rest)

theorem kindOf_fileScheme : kindOf fileScheme = .file := by decide

theorem fileUrl_kind (host : Option Host) (segments : List Segment) (rest : List Char) :
    (fileUrl host segments rest).kind = .file := kindOf_fileScheme

theorem readFileHost_kind {text : List Char} {url : Url} (h : readFileHost text = .ok url) :
    url.kind = .file := by
  simp only [readFileHost] at h
  split at h
  · rw [← Except.ok.inj h]
    exact fileUrl_kind _ _ _
  · split at h
    · rw [← Except.ok.inj h]
      exact fileUrl_kind _ _ _
    · obtain ⟨host, -, h⟩ := bind_eq_ok.mp h
      split at h
      · rw [← Except.ok.inj h]
        exact fileUrl_kind _ _ _
      · rw [← Except.ok.inj h]
        exact fileUrl_kind _ _ _

theorem readFileRoot_kind (base : Option Url) (text : List Char) :
    (readFileRoot base text).kind = .file := by
  unfold readFileRoot
  simp only
  split
  · exact fileUrl_kind _ _ _
  · split
    · split
      · exact fileUrl_kind _ _ _
      · exact fileUrl_kind _ _ _
    · exact fileUrl_kind _ _ _

/-- What is read as a file URL is one. -/
theorem readFile_kind {base : Option Url} (hbase : ∀ b ∈ base, b.kind = .file) {text : List Char}
    {url : Url} (h : readFile base text = .ok url) : url.kind = .file := by
  unfold readFile at h
  cases text with
  | nil =>
      cases base with
      | none =>
          rw [← Except.ok.inj h]
          exact fileUrl_kind _ _ _
      | some b =>
          rw [← Except.ok.inj h]
          exact hbase b rfl
  | cons c rest =>
      simp only at h
      split at h
      · split at h
        · split at h
          · exact readFileHost_kind h
          · rw [← Except.ok.inj h]
            exact readFileRoot_kind _ _
        · rw [← Except.ok.inj h]
          exact readFileRoot_kind _ _
      · cases base with
        | none =>
            rw [← Except.ok.inj h]
            exact fileUrl_kind _ _ _
        | some b =>
            simp only at h
            split at h
            · rw [← Except.ok.inj h, replaceTail_kind]
              exact hbase b rfl
            · split at h
              · rw [← Except.ok.inj h]
                exact fileUrl_kind _ _ _
              · rw [← Except.ok.inj h]
                exact kindOf_fileScheme

theorem readOther_settlesPath {scheme text : List Char} (hscheme : kindOf scheme = .other)
    {url : Url} (h : readOther scheme text = .ok url) : SettlesPath url := by
  have hother : ∀ path rest, SettlesPath (withTail scheme none path rest) := by
    refine fun path rest => withTail_settlesPath fun hkind => ?_
    rw [hscheme] at hkind
    contradiction
  unfold readOther at h
  split at h
  · exact afterSlashes_settlesPath h
  · rw [← Except.ok.inj h]
    exact hother _ _
  · rw [← Except.ok.inj h]
    exact hother _ _

theorem readSpecial_settlesPath {base : Option Url} (hbase : ∀ b ∈ base, SettlesPath b)
    {scheme text : List Char} {url : Url} (h : readSpecial base scheme text = .ok url) :
    SettlesPath url := by
  unfold readSpecial at h
  simp only at h
  split at h
  · rename_i b hb
    split at h
    · exact readRelative_settlesPath (hbase b (Option.filter_eq_some_iff.mp hb).1) h
    · exact afterSlashes_settlesPath h
  · exact afterSlashes_settlesPath h

theorem readReference_settlesPath {base : Option Url} (hbase : ∀ b ∈ base, SettlesPath b)
    {text : List Char} {url : Url} (h : readReference base text = .ok url) : SettlesPath url := by
  unfold readReference at h
  split at h
  · contradiction
  · rename_i b
    have hb : SettlesPath b := hbase b rfl
    split at h
    · rw [← Except.ok.inj h]
      exact replaceTail_settlesPath hb text
    · split at h
      · contradiction
      · split at h
        · rename_i hfile
          have hkind := readFile_kind (fun other hother => Option.some.inj hother ▸ hfile) h
          exact settlesPath_of_kind (by rw [hkind]; decide)
        · exact readRelative_settlesPath hb h

/-- What is read against a settled base is settled. -/
theorem parse_settlesPath {base : Option Url} (hbase : ∀ b ∈ base, SettlesPath b) {text : String}
    {url : Url} (h : parse base text = .ok url) : SettlesPath url := by
  simp only [parse] at h
  split at h
  · split at h
    · have hfile : ∀ b ∈ base.filter (·.kind = .file), b.kind = .file := fun b hb =>
        of_decide_eq_true (Option.filter_eq_some_iff.mp hb).2
      exact settlesPath_of_kind (by rw [readFile_kind hfile h]; decide)
    · exact readSpecial_settlesPath hbase h
    · rename_i hkind
      exact readOther_settlesPath hkind h
  · exact readReference_settlesPath hbase h

/-- The URLs that are read from texts, each alone or against one that was read before. -/
inductive Read : Url → Prop where
  | absolute {text : String} {url : Url} (h : absolute text = .ok url) : Read url
  | join {base url : Url} {reference : String} (hbase : Read base)
      (h : base.join? reference = some url) : Read url

theorem parse_of_join? {base url : Url} {reference : String}
    (h : base.join? reference = some url) : parse (some base) reference = .ok url := by
  rw [join?] at h
  cases hparse : parse (some base) reference with
  | error error =>
      rw [hparse] at h
      contradiction
  | ok found =>
      rw [hparse] at h
      rw [Option.some.inj h]

theorem Read.settlesPath {url : Url} (h : Read url) : SettlesPath url := by
  induction h with
  | absolute h => exact parse_settlesPath (fun b hb => absurd hb (Option.not_mem_none b)) h
  | join _ h ih => exact parse_settlesPath (fun b hb => Option.some.inj hb ▸ ih) (parse_of_join? h)

/-! ### Texts of settled paths -/

/-- The text of a path that needs no change: from the root, of printable characters, without what
ends a path, and with no segment that is read as one dot or two. -/
structure PlainPath (text : List Char) : Prop where
  root : text.head? = some '/'
  printable : ∀ c ∈ text, 0x20 < c.toNat ∧ c.toNat < 0x7F
  unmarked : ∀ c ∈ text, c ∉ ['?', '#', '\\']
  noDots : ∀ s ∈ pieces (· == '/') text,
    percentDecode s ≠ [dotByte] ∧ percentDecode s ≠ [dotByte, dotByte]

theorem text_segments {parts : List Segment} (hne : parts ≠ []) :
    (Path.segments parts).text = '/' :: ['/'].intercalate parts := by
  induction parts with
  | nil => contradiction
  | cons s rest ih =>
      cases rest with
      | nil => simp [Path.text]
      | cons next rest =>
          have hrest := ih (List.cons_ne_nil _ _)
          rw [Path.text] at hrest
          rw [Path.text, List.flatMap_cons, hrest]
          simp [List.intercalate]

theorem keptInPath_iff {c : Char} : keptInPath c = true ↔
    (0x20 ≤ c.toNat ∧ c.toNat < 0x7F) ∧
      c ∉ [' ', '"', '<', '>', '`', '#', '?', '\x7b', '\x7d'] := by
  rw [keptInPath, plainExcept, Bool.and_eq_true, isPlain, Bool.and_eq_true, decide_eq_true_eq,
    decide_eq_true_eq, Bool.not_eq_true', List.contains_eq_mem, decide_eq_false_iff_not]

/-- What holds of the slash and of all characters of settled segments holds of a settled path. -/
theorem forall_mem_text {parts : List Segment} (h : ∀ s ∈ parts, Segment.Settled s)
    {P : Char → Prop} (hslash : P '/')
    (hP : ∀ c, keptInPath c = true → Kind.special.isSlash c = false → P c) :
    ∀ c ∈ (Path.segments parts).text, P c := by
  intro c hc
  obtain ⟨s, hs, hc⟩ := List.mem_flatMap.mp hc
  rcases List.mem_cons.mp hc with rfl | hc
  · exact hslash
  · exact hP c ((h s hs).kept c hc) ((h s hs).inside c hc)

theorem printable_of_keptInPath {c : Char} (h : keptInPath c = true) :
    0x20 < c.toNat ∧ c.toNat < 0x7F := by
  obtain ⟨⟨hlow, hhigh⟩, hnot⟩ := keptInPath_iff.mp h
  refine ⟨Nat.lt_of_le_of_ne hlow ?_, hhigh⟩
  intro hspace
  obtain rfl : ' ' = c := Char.toNat_inj.mp hspace
  simp at hnot

theorem unmarked_of_keptInPath {c : Char} (h : keptInPath c = true)
    (hslash : Kind.special.isSlash c = false) : c ∉ ['?', '#', '\\'] := by
  intro hc
  simp only [List.mem_cons, List.not_mem_nil, or_false] at hc
  rcases hc with rfl | rfl | rfl
  · contradiction
  · contradiction
  · contradiction

/-- A settled path has a plain text. -/
theorem Path.Settled.plainPath {path : Path} (h : path.Settled) : PlainPath path.text := by
  cases h with
  | @segments parts hne h =>
      refine ⟨?_, ?_, ?_, ?_⟩
      · rw [text_segments hne]
        rfl
      · exact forall_mem_text h (by decide) fun c hc _ => printable_of_keptInPath hc
      · exact forall_mem_text h (by decide) fun c hc hslash => unmarked_of_keptInPath hc hslash
      · have hinside : ∀ s ∈ parts, ∀ c ∈ s, (c == '/') = false := by
          intro s hs c hc
          have hslash := (h s hs).inside c hc
          rw [Kind.isSlash, Bool.or_eq_false_iff] at hslash
          exact hslash.1
        -- cut at its slashes the text gives the segments back, behind an empty one
        have hpieces : pieces (· == '/') (Path.segments parts).text = [] :: parts := by
          rw [text_segments hne, pieces, if_pos (by rfl), pieces_intercalate (by rfl) hne hinside]
        rw [hpieces]
        intro s hs
        have hsettled : Segment.Settled s := by
          rcases List.mem_cons.mp hs with rfl | hs
          · exact settled_nil
          · exact h s hs
        constructor
        · rw [Ne, ← isSingleDot_iff, hsettled.notSingle]
          decide
        · rw [Ne, ← isDoubleDot_iff, hsettled.notDouble]
          decide

/-! ### Settled paths as references -/

theorem clean_eq_self {text : List Char} (h : ∀ c ∈ text, 0x20 < c.toNat) :
    clean text = text := by
  have hkeep : ∀ list : List Char, (∀ c ∈ list, 0x20 < c.toNat) →
      list.dropWhile (·.toNat ≤ 0x20) = list := by
    intro list hlist
    refine List.dropWhile_eq_self_iff.mpr fun hlength => ?_
    simpa using hlist _ (List.getElem_mem hlength)
  have htrim : trim (·.toNat ≤ 0x20) text = text := by
    rw [trim, trimStart, hkeep text h, trimEnd, hkeep text.reverse (by simpa using h),
      List.reverse_reverse]
  rw [clean, htrim, List.filter_eq_self]
  intro c hc
  have hlow := h c hc
  simp only [Bool.not_eq_true', List.contains_eq_mem, decide_eq_false_iff_not, List.mem_cons,
    List.not_mem_nil, or_false, not_or]
  refine ⟨?_, ?_, ?_⟩
  all_goals
    rintro rfl
    contradiction

theorem cutScheme_slash (rest : List Char) : cutScheme ('/' :: rest) = none := by
  have hslash : isSchemeChar '/' = false := by decide
  simp only [cutScheme, List.dropWhile_cons, hslash]
  rfl

/-- A reference with one slash in front goes on from the root of the base. -/
theorem readRelative_slash (base : Url) {rest : List Char}
    (h : ∀ c ∈ rest.head?, isAnySlash c = false) :
    readRelative base ('/' :: rest) =
      .ok (withTail base.scheme base.authority (.segments (readSegments base.kind [] rest).1)
        (readSegments base.kind [] rest).2) := by
  cases rest with
  | nil => simp [readRelative]
  | cons c rest =>
      have hc : isAnySlash c = false := h c rfl
      rw [isAnySlash, Bool.or_eq_false_iff, beq_eq_false_iff_ne, beq_eq_false_iff_ne] at hc
      simp [readRelative, hc.1, hc.2]

/-- A path that nothing ends is read to its end. -/
theorem readSegments_of_unmarked {text : List Char} (h : ∀ c ∈ text, isMark c = false) (kind : Kind)
    (done : List Segment) :
    readSegments kind done text = (walk kind done (pieces kind.isSlash text), []) := by
  have hcut : cutPath text = (text, []) := by
    have hkeep : ∀ c ∈ text, (!isMark c) = true := by
      intro c hc
      rw [h c hc, Bool.not_false]
    exact Prod.ext (List.takeWhile_eq_self_iff.mpr hkeep) (List.dropWhile_eq_nil_iff.mpr hkeep)
  rw [readSegments, hcut]

/-- The text of a settled path, if one slash begins it, leads to this path. -/
theorem join?_text {base : Url} (hbase : base.kind = .special) (hpath : base.path.Settled)
    {parts : List Segment} (hparts : Path.Settled (.segments parts))
    (hstart : ¬['/', '/'] <+: (Path.segments parts).text) :
    (base.join? (String.ofList (Path.segments parts).text)).map (·.path) =
      some (.segments parts) := by
  have hplain := hparts.plainPath
  cases hparts with
  | segments hne hsettled =>
      rw [text_segments hne] at hplain hstart ⊢
      have hmark : ∀ c ∈ ['/'].intercalate parts, isMark c = false := by
        intro c hc
        have hunmarked := hplain.unmarked c (List.mem_cons_of_mem _ hc)
        simp only [List.mem_cons, not_or] at hunmarked
        exact isMark_eq_false_iff.mpr ⟨hunmarked.1, hunmarked.2.1⟩
      -- a second slash would make the path an authority
      have hhead : ∀ c ∈ (['/'].intercalate parts).head?, isAnySlash c = false := by
        intro c hc
        obtain ⟨rest, hrest⟩ := List.head?_eq_some_iff.mp hc
        have hunmarked := hplain.unmarked c (by simp [hrest])
        simp only [List.mem_cons, not_or] at hunmarked
        rw [isAnySlash, Bool.or_eq_false_iff, beq_eq_false_iff_ne, beq_eq_false_iff_ne]
        refine ⟨?_, hunmarked.2.2.1⟩
        rintro rfl
        exact hstart (by simp [hrest])
      have hwalk : (readSegments .special [] (['/'].intercalate parts)).1 = parts := by
        rw [readSegments_of_unmarked hmark, pieces_intercalate (by rfl) hne fun s hs =>
          (hsettled s hs).inside]
        exact walk_of_settled hsettled
      cases hsegments : base.path with
      | unstructured text =>
          rw [hsegments] at hpath
          cases hpath
      | segments first =>
          have hfile : base.kind ≠ .file := by rw [hbase]; decide
          have hread : parse (some base) (String.ofList ('/' :: ['/'].intercalate parts)) =
              readRelative base ('/' :: ['/'].intercalate parts) := by
            rw [parse, String.toList_ofList, clean_eq_self fun c hc => (hplain.printable c hc).1]
            simp only [cutScheme_slash]
            rw [readReference]
            simp [hsegments, hfile]
          rw [join?, hread, readRelative_slash base hhead, hbase]
          exact congrArg (fun parts => some (Path.segments parts)) hwalk

end PageSync.Url
