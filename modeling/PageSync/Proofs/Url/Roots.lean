import PageSync.Proofs.Url.Settled

/-!
Two references that hardly say anything. The empty reference is the base itself, so what it leads to
depends on the base alone (`join?_empty`); and the origin of a web site is its root, which has
nothing in its path and no query (`absolute_origin`).
-/

namespace PageSync.Url

/-! ### The empty reference -/

/-- Against a base with an unstructured path the empty reference is no URL, against any other it is
the base without its fragment. -/
theorem join?_empty (base : Url) :
    base.join? "" = match base.path with
      | .unstructured _ => none
      | .segments _ => some { base with fragment := none } := by
  have hparse : parse (some base) "" = readReference (some base) [] := rfl
  rw [join?, hparse, readReference, if_neg (by decide)]
  cases hpath : base.path with
  | unstructured text => rfl
  | segments parts =>
      have hself : some { base with path := .segments parts, fragment := none } =
          some (replaceTail base []) := by
        rw [← hpath]
        rfl
      simp only
      rw [hself]
      split
      · rfl
      · rfl

/-! ### Origins -/

/-- Nothing that could end the authority of a URL. -/
def Unended (text : List Char) : Prop := ∀ c ∈ text, c ∉ ['/', '\\', '?', '#']

theorem Unended.of_suffix {text rest : List Char} (h : Unended text) (hrest : rest <:+ text) :
    Unended rest := fun c hc => h c (hrest.subset hc)

theorem mem_ends_of_endsAuthority {kind : Kind} {c : Char} (h : endsAuthority kind c = true) :
    c ∈ ['/', '\\', '?', '#'] := by
  rw [endsAuthority, Kind.isSlash] at h
  simp only [Bool.or_eq_true, Bool.and_eq_true, beq_iff_eq] at h
  rcases h with ((rfl | ⟨-, rfl⟩) | rfl) | rfl
  all_goals decide

theorem readUser_suffix {kind : Kind} {text user password rest : List Char}
    (h : readUser kind text = .ok (user, password, rest)) : rest <:+ text := by
  simp only [readUser] at h
  split at h
  · simp only [Except.ok.injEq, Prod.mk.injEq] at h
    exact h.2.2 ▸ List.suffix_rfl
  · split at h
    · simp only [Except.ok.injEq, Prod.mk.injEq] at h
      rw [← h.2.2]
      exact List.nil_suffix
    · contradiction
  · rename_i info host _ hcut
    simp only [Except.ok.injEq, Prod.mk.injEq] at h
    refine ⟨info ++ ['@'], ?_⟩
    rw [← h.2.2, List.append_assoc, List.singleton_append, ← List.cons_append, ← List.append_assoc,
      ← cutAtLast_eq hcut, List.takeWhile_append_dropWhile]

/-- What follows the host begins with the end of the authority or with the colon of the port. -/
theorem head?_cutHost (kind : Kind) (inBrackets : Bool) (text : List Char) :
    ∀ c ∈ (cutHost kind inBrackets text).2.head?, endsAuthority kind c = true ∨ c = ':' := by
  induction text generalizing inBrackets with
  | nil => exact nofun
  | cons c rest ih =>
      rw [cutHost]
      split
      · rename_i hstop
        intro d hd
        obtain rfl := Option.some.inj hd
        simp only [Bool.or_eq_true, Bool.and_eq_true, beq_iff_eq] at hstop
        exact hstop.imp_right And.left
      · exact ih _

theorem readHost_snd {kind : Kind} {text rest : List Char} {host : Option Host}
    (h : readHost kind text = .ok (host, rest)) : rest = (cutHost kind false text).2 := by
  simp only [readHost] at h
  split at h
  · split at h
    · contradiction
    · exact (Prod.mk.inj (Except.ok.inj h)).2.symm
  · split at h
    · obtain ⟨_, -, h⟩ := bind_eq_ok.mp h
      exact (Prod.mk.inj (Except.ok.inj h)).2.symm
    · obtain ⟨_, -, h⟩ := bind_eq_ok.mp h
      exact (Prod.mk.inj (Except.ok.inj h)).2.symm

/-- A port is read to the end of the authority. -/
theorem readPort_eq_nil {scheme text rest : List Char} {port : Option Nat} (htext : Unended text)
    (h : readPort scheme text = .ok (port, rest)) : rest = [] := by
  simp only [readPort] at h
  split at h
  · contradiction
  · split at h
    · rename_i hhead
      obtain rfl := (Prod.mk.inj (Except.ok.inj h)).2
      by_contra hne
      obtain ⟨c, after, hrest⟩ := List.exists_cons_of_ne_nil hne
      have hmem : c ∈ text := (List.dropWhile_suffix _).subset (hrest ▸ List.mem_cons_self)
      rw [hrest] at hhead
      exact htext c hmem (List.contains_iff_mem.mp hhead)
    · contradiction

theorem readAuthority_eq_nil {scheme text rest : List Char} {authority : Authority}
    (htext : Unended text) (h : readAuthority scheme text = .ok (authority, rest)) : rest = [] := by
  obtain ⟨⟨user, password, afterUser⟩, huser, h⟩ := bind_eq_ok.mp h
  obtain ⟨⟨host, afterHost⟩, hhost, h⟩ := bind_eq_ok.mp h
  obtain ⟨⟨port, afterPort⟩, hport, h⟩ := bind_eq_ok.mp h
  have hrest : afterPort = rest := by
    simp only at h
    split at h
    · contradiction
    · exact (Prod.mk.inj (Except.ok.inj h)).2
  -- nothing that could end the authority stands behind the host either
  have hunended : Unended afterHost := by
    rw [readHost_snd hhost]
    refine htext.of_suffix (List.IsSuffix.trans ?_ (readUser_suffix huser))
    exact ⟨_, (cutHost_append (kindOf scheme) false afterUser).1⟩
  rw [← hrest]
  match hafter : afterHost with
  | [] =>
      exact (Prod.mk.inj (Except.ok.inj hport)).2.symm
  | c :: after =>
      have hhead := head?_cutHost (kindOf scheme) false afterUser
      rw [← readHost_snd hhost] at hhead
      rcases hhead c rfl with hends | rfl
      · exact absurd (mem_ends_of_endsAuthority hends) (hunended c List.mem_cons_self)
      · exact readPort_eq_nil (hunended.of_suffix (List.suffix_cons _ _)) hport

theorem cutScheme_append {scheme rest : List Char} (hhead : scheme.head?.any Char.isAlpha)
    (hscheme : ∀ c ∈ scheme, isSchemeChar c = true) :
    cutScheme (scheme ++ ':' :: rest) = some (scheme.map Char.toLower, rest) := by
  have hcolon : isSchemeChar ':' = false := by decide
  rw [cutScheme, List.takeWhile_append_of_pos hscheme, List.dropWhile_append_of_pos hscheme]
  simp only [List.takeWhile_cons, List.dropWhile_cons, hcolon, Bool.false_eq_true, if_false,
    List.append_nil, hhead, if_true]

theorem printable_of_isSchemeChar {c : Char} (h : isSchemeChar c = true) : 0x20 < c.toNat := by
  have hcontrols : ∀ n : Fin 0x21, isSchemeChar (Char.ofNat n.val) = false := by decide
  by_contra hle
  have hc := hcontrols ⟨c.toNat, by omega⟩
  rw [Char.ofNat_toNat, h] at hc
  contradiction

theorem dropWhile_isAnySlash {text : List Char} (h : Unended text) :
    text.dropWhile isAnySlash = text := by
  refine List.dropWhile_eq_self_iff.mpr fun hlength hslash => ?_
  simp only [isAnySlash, Bool.or_eq_true, beq_iff_eq] at hslash
  refine h _ (List.getElem_mem hlength) ?_
  rcases hslash with hslash | hslash
  · rw [hslash]
    decide
  · rw [hslash]
    decide

/-- An absolute URL of a web site that ends with its authority is the root. -/
theorem absolute_origin {scheme host : List Char} (hhead : scheme.head?.any Char.isAlpha)
    (hscheme : ∀ c ∈ scheme, isSchemeChar c = true)
    (hkind : kindOf (scheme.map Char.toLower) = .special) (hprintable : ∀ c ∈ host, 0x20 < c.toNat)
    (hhost : Unended host) {url : Url}
    (h : absolute (String.ofList (scheme ++ ':' :: '/' :: '/' :: host)) = .ok url) :
    url.path = .segments [[]] ∧ url.query = none := by
  have hclean : clean (scheme ++ ':' :: '/' :: '/' :: host) =
      scheme ++ ':' :: '/' :: '/' :: host := by
    refine clean_eq_self (List.forall_mem_append.mpr ⟨fun c hc => ?_, ?_⟩)
    · exact printable_of_isSchemeChar (hscheme c hc)
    · simpa using hprintable
  have hslashes : ('/' :: '/' :: host).dropWhile isAnySlash = host := by
    rw [List.dropWhile_cons_of_pos (by decide), List.dropWhile_cons_of_pos (by decide),
      dropWhile_isAnySlash hhost]
  rw [absolute, parse, String.toList_ofList, hclean, cutScheme_append hhead hscheme] at h
  simp only [hkind, readSpecial, Option.filter_none, hslashes] at h
  obtain ⟨⟨authority, rest⟩, hauthority, h⟩ := bind_eq_ok.mp h
  obtain rfl := readAuthority_eq_nil hhost hauthority
  rw [← Except.ok.inj h, hkind]
  exact ⟨rfl, rfl⟩

end PageSync.Url
