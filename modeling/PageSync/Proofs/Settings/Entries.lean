import PageSync.Proofs.Json.Values
import PageSync.Proofs.Settings.Members

/-!
The entries of a settings text: objects and lists of JSON values, and the readers that take single
pieces off them. Each reader of a piece takes exactly what may stand there, so what it leaves is
known; a text is read from a value only if the whole value spells it (`readText_value`).
-/

namespace PageSync.Settings

open Json

/-! ### Objects and lists -/

/-- What stands before an entry: space, and after another entry a comma. -/
inductive Lead : Bool → List Char → Prop where
  | first {space : List Char} (h : Space space) : Lead true space
  | later {before after : List Char} (hbefore : Space before) (hafter : Space after) :
      Lead false (before ++ ',' :: after)

theorem Lead.append_space {first : Bool} {lead space : List Char} (h : Lead first lead)
    (hspace : Space space) : Lead first (lead ++ space) := by
  cases h with
  | first h => exact .first (h.append hspace)
  | later hbefore hafter =>
      rw [List.append_assoc, List.cons_append]
      exact .later hbefore (hafter.append hspace)

inductive MembersText : Bool → List (String × List Char) → List Char → Prop where
  | done {first : Bool} {space : List Char} (h : Space space) : MembersText first [] space
  | member {first : Bool} {name : String} {value lead body between space rest : List Char}
      {members : List (String × List Char)} (hlead : Lead first lead)
      (hname : SpellsChars name.toList body) (hbetween : Space between) (hspace : Space space)
      (hvalue : ValueText value) (tail : MembersText false members rest) :
      MembersText first ((name, value) :: members)
        (lead ++ '"' :: (body ++ '"' :: (between ++ ':' :: (space ++ (value ++ rest)))))

inductive ItemsText : Bool → List (List Char) → List Char → Prop where
  | done {first : Bool} {space : List Char} (h : Space space) : ItemsText first [] space
  | item {first : Bool} {lead value rest : List Char} {items : List (List Char)}
      (hlead : Lead first lead) (hvalue : ValueText value) (tail : ItemsText false items rest) :
      ItemsText first (value :: items) (lead ++ (value ++ rest))

inductive ObjectText (members : List (String × List Char)) : List Char → Prop where
  | braced {inside : List Char} (h : MembersText true members inside) :
      ObjectText members ('\x7b' :: (inside ++ ['\x7d']))

inductive ListText (items : List (List Char)) : List Char → Prop where
  | bracketed {inside : List Char} (h : ItemsText true items inside) :
      ListText items ('[' :: (inside ++ [']']))

/-- Members after another are what is left of the entries of an object. -/
theorem MembersText.remainder {first : Bool} {members : List (String × List Char)}
    {inside : List Char} (h : MembersText first members inside) (hfirst : first = false) :
    Remainder .object inside := by
  induction h with
  | done h => exact .done h
  | @member _ _ _ _ body between _ _ _ hlead hname hbetween hspace hvalue _ ih =>
      cases hlead with
      | first h => contradiction
      | @later before after hbefore hafter =>
          have hlabel := Label.key hafter hname.stringBody hbetween
          have hentries := (ih rfl).entries hlabel hspace hvalue
          simpa using Remainder.more hbefore hentries

theorem ItemsText.remainder {first : Bool} {items : List (List Char)} {inside : List Char}
    (h : ItemsText first items inside) (hfirst : first = false) : Remainder .list inside := by
  induction h with
  | done h => exact .done h
  | item hlead hvalue _ ih =>
      cases hlead with
      | first h => contradiction
      | later hbefore hafter =>
          have hentries := (ih rfl).entries .item hafter hvalue
          simpa using Remainder.more hbefore hentries

theorem ObjectText.valueText {members : List (String × List Char)} {text : List Char}
    (h : ObjectText members text) : ValueText text := by
  obtain ⟨h⟩ := h
  cases h with
  | done h => exact @Written.empty .object _ h
  | member hlead hname hbetween hspace hvalue tail =>
      obtain ⟨hlead⟩ := hlead
      have hlabel := Label.key hlead hname.stringBody hbetween
      have hentries := (tail.remainder rfl).entries hlabel hspace hvalue
      have hfull : ValueText _ := Written.full hentries
      simpa [Bracket.opening, Bracket.closing] using hfull

theorem ListText.valueText {items : List (List Char)} {text : List Char}
    (h : ListText items text) : ValueText text := by
  obtain ⟨h⟩ := h
  cases h with
  | done h => exact @Written.empty .list _ h
  | item hlead hvalue tail =>
      obtain ⟨hlead⟩ := hlead
      exact Written.full ((tail.remainder rfl).entries .item hlead hvalue)

/-! ### Leads and colons -/

theorem nextMember_entry {first : Bool} {text rest : List Char} :
    nextMember first text = .ok (.entry rest) ↔
      ∃ lead, Lead first lead ∧ text = lead ++ '"' :: rest := by
  constructor
  · intro h
    unfold nextMember at h
    -- the reader looks at one character after the space: the end, a comma or what else there is
    split at h
    · contradiction
    · cases Except.ok.inj h
    · rename_i hcomma
      obtain ⟨before, hbefore, rfl⟩ := (skipSpace_eq_cons rfl).mp hcomma
      split at h
      · contradiction
      · rename_i hfirst
        obtain rfl := Bool.eq_false_iff.mpr hfirst
        split at h
        · rename_i hquote
          obtain ⟨⟩ := Except.ok.inj h
          obtain ⟨space, hspace, rfl⟩ := (skipSpace_eq_cons rfl).mp hquote
          exact ⟨_, .later hbefore hspace, by simp⟩
        all_goals contradiction
    · rename_i c after _ _ hfront
      split at h
      · rename_i hfirst
        subst hfirst
        split at h
        · rename_i hquote
          obtain ⟨⟩ := Except.ok.inj h
          subst hquote
          obtain ⟨space, hspace, rfl⟩ := (skipSpace_eq_cons rfl).mp hfront
          exact ⟨space, .first hspace, rfl⟩
        · contradiction
      · contradiction
  · rintro ⟨lead, hlead, rfl⟩
    cases hlead with
    | first h =>
        rw [nextMember, skipSpace_append h, skipSpace_cons rfl]
        rfl
    | later hbefore hafter =>
        rw [nextMember, List.append_assoc, skipSpace_append hbefore, List.cons_append,
          skipSpace_cons rfl]
        simp only [skipSpace_append hafter, skipSpace_cons (c := '"') rfl]
        rfl

theorem nextMember_close {first : Bool} {text rest : List Char} :
    nextMember first text = .ok (.close rest) ↔
      ∃ space, Space space ∧ text = space ++ '\x7d' :: rest := by
  rw [← skipSpace_eq_cons rfl]
  constructor
  · intro h
    unfold nextMember at h
    split at h
    · contradiction
    · rename_i hclose
      obtain ⟨⟩ := Except.ok.inj h
      exact hclose
    · split at h
      · contradiction
      · split at h
        · cases Except.ok.inj h
        all_goals contradiction
    · split at h
      · split at h
        · cases Except.ok.inj h
        · contradiction
      · contradiction
  · intro h
    rw [nextMember, h]
    rfl

theorem nextItem_sound {first : Bool} {text rest : List Char}
    (h : nextItem first text = .ok (.entry rest)) :
    ∃ lead, Lead first lead ∧ text = lead ++ rest := by
  obtain ⟨before, hbefore, htext⟩ := exists_space text
  unfold nextItem at h
  split at h
  · contradiction
  · cases Except.ok.inj h
  · rename_i after hcomma
    split at h
    · rename_i hfirst
      obtain ⟨⟩ := Except.ok.inj h
      subst hfirst
      exact ⟨before, .first hbefore, by rw [htext, hcomma]⟩
    · rename_i hfirst
      obtain rfl := Bool.eq_false_iff.mpr hfirst
      obtain ⟨space, hspace, hafter⟩ := exists_space after
      split at h
      · contradiction
      · contradiction
      · obtain ⟨⟩ := Except.ok.inj h
        refine ⟨_, .later hbefore hspace, ?_⟩
        rw [htext, hcomma, List.append_assoc, List.cons_append, ← hafter]
  · split at h
    · rename_i hfirst
      obtain ⟨⟩ := Except.ok.inj h
      subst hfirst
      exact ⟨before, .first hbefore, htext⟩
    · contradiction

theorem readListEnd_eq_ok {text rest : List Char} : readListEnd text = .ok rest ↔
    ∃ space, Space space ∧ text = space ++ ']' :: rest := by
  rw [← skipSpace_eq_cons rfl]
  constructor
  · intro h
    unfold readListEnd at h
    split at h
    · rename_i hclose
      obtain rfl := Except.ok.inj h
      exact hclose
    · contradiction
    · split at h
      all_goals contradiction
    · contradiction
  · intro h
    rw [readListEnd, h]
    rfl

/-- Where a value follows, it is the next entry. -/
theorem nextItem_value {first : Bool} {lead value : List Char} (hlead : Lead first lead)
    (hvalue : ValueText value) (rest : List Char) :
    nextItem first (lead ++ (value ++ rest)) = .ok (.entry (value ++ rest)) := by
  obtain ⟨c, more, rfl, hc⟩ := hvalue.eq_cons
  have hclosing : c ≠ ']' := hc.ne_closing .list
  cases hlead with
  | first h =>
      rw [nextItem, skipSpace_append h, List.cons_append, skipSpace_cons hc.1]
      split
      all_goals simp_all
  | later hbefore hafter =>
      rw [nextItem, List.append_assoc, List.cons_append, skipSpace_append hbefore,
        skipSpace_cons rfl]
      simp only [skipSpace_append hafter, List.cons_append, skipSpace_cons hc.1]
      split
      all_goals simp_all

/-- A list does not end where a value follows. -/
theorem readListEnd_value {first : Bool} {lead value : List Char} (hlead : Lead first lead)
    (hvalue : ValueText value) (rest after : List Char) :
    readListEnd (lead ++ (value ++ rest)) ≠ .ok after := by
  rw [Ne, readListEnd_eq_ok, ← skipSpace_eq_cons rfl]
  intro h
  cases hlead with
  | first hspace =>
      rw [hvalue.skipSpace_append hspace] at h
      obtain ⟨c, more, rfl, hc⟩ := hvalue.eq_cons
      exact hc.ne_closing .list (List.cons.inj h).1
  | later hbefore _ =>
      rw [List.append_assoc, skipSpace_append hbefore, List.cons_append, skipSpace_cons rfl] at h
      cases h

theorem nextItem_close {first : Bool} {text rest : List Char} :
    nextItem first text = .ok (.close rest) ↔
      ∃ space, Space space ∧ text = space ++ ']' :: rest := by
  rw [← skipSpace_eq_cons rfl]
  constructor
  · intro h
    unfold nextItem at h
    split at h
    · contradiction
    · rename_i hclose
      obtain ⟨⟩ := Except.ok.inj h
      exact hclose
    · split at h
      · cases Except.ok.inj h
      · split at h
        · contradiction
        · contradiction
        · cases Except.ok.inj h
    · split at h
      · cases Except.ok.inj h
      · contradiction
  · intro h
    rw [nextItem, h]
    rfl

theorem orFault_eq_ok {α : Type} {result : Except Json.Fault α} {value : α} :
    orFault result = .ok value ↔ result = .ok value := by
  cases result with
  | error cause => exact ⟨nofun, nofun⟩
  | ok a => simp [orFault]

theorem readColon_eq_ok {text rest : List Char} : readColon text = .ok rest ↔
    ∃ space, Space space ∧ text = space ++ ':' :: rest := by
  rw [← skipSpace_eq_cons rfl]
  constructor
  · intro h
    unfold readColon at h
    split at h
    · rename_i hcolon
      obtain rfl := Except.ok.inj h
      exact hcolon
    · contradiction
    · contradiction
  · intro h
    rw [readColon, h]
    rfl

/-! ### String values -/

theorem mismatchAt_ne_ok {α : Type} {wanted : Wanted} {text : List Char} {a : α} :
    mismatchAt wanted text ≠ .ok a := by
  intro h
  obtain ⟨_, _, herror⟩ := bind_eq_ok.mp h
  contradiction

theorem readText_eq_ok {text rest : List Char} {content : String} :
    readText text = .ok (content, rest) ↔ ∃ space value, Space space ∧
      SpellsString content.toList value ∧ text = space ++ (value ++ rest) := by
  constructor
  · intro h
    unfold readText at h
    split at h
    · rename_i hquote
      obtain ⟨space, hspace, rfl⟩ := (skipSpace_eq_cons rfl).mp hquote
      obtain ⟨⟨_, _⟩, hread, heq⟩ := bind_eq_ok.mp h
      obtain ⟨rfl, rfl⟩ := Prod.mk.inj (Except.ok.inj heq)
      obtain ⟨body, hbody, rfl⟩ := readString_eq_ok.mp (orFault_eq_ok.mp hread)
      refine ⟨space, '"' :: (body ++ ['"']), hspace, ?_, by simp⟩
      rw [String.toList_ofList]
      exact .quoted hbody
    · contradiction
    · exact absurd h mismatchAt_ne_ok
  · rintro ⟨space, _, hspace, ⟨hbody⟩, rfl⟩
    rename_i body
    have hquote : skipSpace (space ++ ('"' :: (body ++ ['"']) ++ rest)) =
        '"' :: (body ++ '"' :: rest) := by
      rw [skipSpace_append hspace]
      simpa using skipSpace_cons (c := '"') rfl (body ++ '"' :: rest)
    have hread : readString (body ++ '"' :: rest) = .ok (content.toList, rest) :=
      readString_eq_ok.mpr ⟨body, hbody, rfl⟩
    rw [readText, hquote]
    refine bind_eq_ok.mpr ⟨_, orFault_eq_ok.mpr hread, ?_⟩
    simp

/-- Of a value, a text is read only if the whole of it spells the text. -/
theorem readText_value {space value rest after : List Char} {content : String}
    (hspace : Space space) (hvalue : ValueText value) (hrest : EndsNumber rest) :
    readText (space ++ (value ++ rest)) = .ok (content, after) ↔
      SpellsString content.toList value ∧ after = rest := by
  rw [readText_eq_ok]
  constructor
  · rintro ⟨space', value', hspace', hspells, htext⟩
    have hskip := skipValue_complete hspace hvalue hrest
    rw [htext, skipValue_string hspace' hspells] at hskip
    obtain rfl := Except.ok.inj hskip
    have hvalues : value ++ after = value' ++ after := by
      rw [← hvalue.skipSpace_append hspace, htext, hspells.valueText.skipSpace_append hspace']
    obtain rfl := List.append_cancel_right hvalues
    exact ⟨hspells, rfl⟩
  · rintro ⟨hspells, rfl⟩
    exact ⟨space, value, hspace, hspells, rfl⟩

end PageSync.Settings
