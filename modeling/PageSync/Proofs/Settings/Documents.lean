import PageSync.Proofs.Settings.Entries

/-!
What the reader takes from a settings text. A member of an object that has the name of a key gives a
setting and must hold a string; any other is passed over. Objects and lists are read as the settings
that they give, or refused (`readMembers_eq_ok_iff`, `readItems_eq_ok_iff`), and nothing but objects
and lists is read (`readSettings_eq_ok`).
-/

namespace PageSync.Settings

open Json

/-! ### Members -/

inductive Gives : String → List Char → Option (Key × String) → Prop where
  | key {key : Key} {value : List Char} {content : String}
      (h : SpellsString content.toList value) : Gives key.name value (some (key, content))
  | other {name : String} {value : List Char} (h : Key.ofName? name = none) :
      Gives name value none

inductive Values : List (String × List Char) → List (Key × String) → Prop where
  | nil : Values [] []
  | cons {name : String} {value : List Char} {setting : Option (Key × String)}
      {members : List (String × List Char)} {values : List (Key × String)}
      (head : Gives name value setting) (tail : Values members values) :
      Values ((name, value) :: members) (setting.toList ++ values)

def Distinct (values : List (Key × String)) : Prop := (values.map Prod.fst).Nodup

theorem distinct_nil : Distinct [] := List.nodup_nil

theorem distinct_append_singleton {given : List (Key × String)} {key : Key} {content : String} :
    Distinct (given ++ [(key, content)]) ↔ Distinct given ∧ key ∉ given.map Prod.fst := by
  rw [Distinct, List.map_append, List.map_singleton,
    (List.perm_append_singleton key (given.map Prod.fst)).nodup_iff, List.nodup_cons, and_comm]
  rfl

theorem Distinct.left {given more : List (Key × String)} (h : Distinct (given ++ more)) :
    Distinct given := by
  rw [Distinct, List.map_append] at h
  exact (List.nodup_append.mp h).1

/-- What the reader does with a value, by the name of its member. -/
inductive Takes (given : List (Key × String)) :
    String → List Char → Option (Key × String) → List Char → Prop where
  | key {key : Key} {text rest : List Char} {content : String} (hnew : key ∉ given.map Prod.fst)
      (h : readText text = .ok (content, rest)) :
      Takes given key.name text (some (key, content)) rest
  | other {name : String} {text rest : List Char} (hname : Key.ofName? name = none)
      (h : skipValue text = .ok rest) : Takes given name text none rest

theorem readMember_eq_ok {given : List (Key × String)} {text rest : List Char}
    {setting : Option (Key × String)} : readMember given text = .ok (setting, rest) ↔
      ∃ name behind value, readString text = .ok (name, behind) ∧ readColon behind = .ok value ∧
        Takes given (String.ofList name) value setting rest := by
  constructor
  · intro h
    obtain ⟨⟨name, behind⟩, hread, hnext⟩ := bind_eq_ok.mp h
    refine ⟨name, behind, ?_⟩
    simp only at hnext
    split at hnext
    · rename_i key hkey
      split at hnext
      · contradiction
      · rename_i hnew
        obtain ⟨value, hcolon, hvalue⟩ := bind_eq_ok.mp hnext
        obtain ⟨⟨content, _⟩, htext, heq⟩ := bind_eq_ok.mp hvalue
        obtain ⟨rfl, rfl⟩ := Prod.mk.inj (Except.ok.inj heq)
        refine ⟨value, orFault_eq_ok.mp hread, hcolon, ?_⟩
        rw [← Key.ofName?_eq_some.mp hkey]
        exact .key (by simpa using hnew) htext
    · rename_i hother
      obtain ⟨value, hcolon, hvalue⟩ := bind_eq_ok.mp hnext
      obtain ⟨_, hskip, heq⟩ := bind_eq_ok.mp hvalue
      obtain ⟨rfl, rfl⟩ := Prod.mk.inj (Except.ok.inj heq)
      exact ⟨value, orFault_eq_ok.mp hread, hcolon, .other hother (orFault_eq_ok.mp hskip)⟩
  · rintro ⟨name, behind, value, hread, hcolon, htakes⟩
    refine bind_eq_ok.mpr ⟨(name, behind), orFault_eq_ok.mpr hread, ?_⟩
    dsimp only
    generalize String.ofList name = memberName at htakes ⊢
    cases htakes with
    | @key key _ _ content hnew h =>
        simp only [Key.ofName?_name]
        rw [if_neg (by simpa using hnew)]
        exact bind_eq_ok.mpr ⟨value, hcolon, bind_eq_ok.mpr ⟨(content, rest), h, rfl⟩⟩
    | other hname h =>
        simp only [hname]
        exact bind_eq_ok.mpr
          ⟨value, hcolon, bind_eq_ok.mpr ⟨rest, orFault_eq_ok.mpr h, rfl⟩⟩

theorem Takes.sound {given : List (Key × String)} {name : String} {text rest : List Char}
    {setting : Option (Key × String)} (h : Takes given name text setting rest)
    (hgiven : Distinct given) : ∃ space value, Space space ∧ ValueText value ∧
      text = space ++ (value ++ rest) ∧ Gives name value setting ∧
      Distinct (given ++ setting.toList) := by
  cases h with
  | key hnew h =>
      obtain ⟨space, value, hspace, hspells, rfl⟩ := readText_eq_ok.mp h
      exact ⟨space, value, hspace, hspells.valueText, rfl, .key hspells,
        distinct_append_singleton.mpr ⟨hgiven, hnew⟩⟩
  | other hname h =>
      obtain ⟨space, value, hspace, hvalue, rfl⟩ := skipValue_sound h
      exact ⟨space, value, hspace, hvalue, rfl, .other hname, by simpa using hgiven⟩

theorem takes_value {given : List (Key × String)} {name : String}
    {space value rest after : List Char} {setting : Option (Key × String)}
    (hgiven : Distinct given) (hspace : Space space) (hvalue : ValueText value)
    (hrest : EndsNumber rest) : Takes given name (space ++ (value ++ rest)) setting after ↔
      Gives name value setting ∧ Distinct (given ++ setting.toList) ∧ after = rest := by
  constructor
  · intro h
    cases h with
    | key hnew h =>
        obtain ⟨hspells, rfl⟩ := (readText_value hspace hvalue hrest).mp h
        exact ⟨.key hspells, distinct_append_singleton.mpr ⟨hgiven, hnew⟩, rfl⟩
    | other hname h =>
        rw [skipValue_complete hspace hvalue hrest] at h
        exact ⟨.other hname, by simpa using hgiven, (Except.ok.inj h).symm⟩
  · rintro ⟨hgives, hdistinct, rfl⟩
    cases hgives with
    | key h =>
        exact .key (distinct_append_singleton.mp hdistinct).2
          ((readText_value hspace hvalue hrest).mpr ⟨h, rfl⟩)
    | other h => exact .other h (skipValue_complete hspace hvalue hrest)

theorem readMember_eq_ok_iff {given : List (Key × String)} {name : String}
    {body between space value rest after : List Char} {setting : Option (Key × String)}
    (hgiven : Distinct given) (hname : SpellsChars name.toList body) (hbetween : Space between)
    (hspace : Space space) (hvalue : ValueText value) (hrest : EndsNumber rest) :
    readMember given (body ++ '"' :: (between ++ ':' :: (space ++ (value ++ rest)))) =
        .ok (setting, after) ↔
      Gives name value setting ∧ Distinct (given ++ setting.toList) ∧ after = rest := by
  have hread : readString (body ++ '"' :: (between ++ ':' :: (space ++ (value ++ rest)))) =
      .ok (name.toList, between ++ ':' :: (space ++ (value ++ rest))) :=
    readString_eq_ok.mpr ⟨body, hname, rfl⟩
  have hcolon : readColon (between ++ ':' :: (space ++ (value ++ rest))) =
      .ok (space ++ (value ++ rest)) := readColon_eq_ok.mpr ⟨between, hbetween, rfl⟩
  rw [← takes_value hgiven hspace hvalue hrest, readMember_eq_ok]
  constructor
  · rintro ⟨_, _, _, hread', hcolon', htakes⟩
    obtain ⟨rfl, rfl⟩ := Prod.mk.inj (Except.ok.inj (hread.symm.trans hread'))
    obtain rfl := Except.ok.inj (hcolon.symm.trans hcolon')
    rwa [String.ofList_toList] at htakes
  · intro htakes
    refine ⟨_, _, _, hread, hcolon, ?_⟩
    rwa [String.ofList_toList]

/-! ### Objects -/

theorem MembersText.endsNumber {members : List (String × List Char)} {inside : List Char}
    (h : MembersText false members inside) (rest : List Char) :
    EndsNumber (inside ++ '\x7d' :: rest) := by
  cases h with
  | done h => exact endsNumber_append h (c := '\x7d') (by decide) rest
  | member hlead _ _ _ _ _ =>
      cases hlead with
      | later hbefore _ =>
          rw [List.append_assoc, List.append_assoc]
          exact endsNumber_append hbefore (c := ',') (by decide) _

theorem readMembers_sound {first : Bool} {given values : List (Key × String)}
    {text rest : List Char} (hgiven : Distinct given)
    (h : readMembers first given text = .ok (values, rest)) :
    ∃ members inside more, MembersText first members inside ∧ text = inside ++ '\x7d' :: rest ∧
      Values members more ∧ values = given ++ more ∧ Distinct values := by
  -- What was given before matters only for that no key is given twice.
  fun_induction readMembers first given text with
  | case1 => contradiction
  | case2 first given text _ hclose =>
      obtain ⟨rfl, rfl⟩ := Prod.mk.inj (Except.ok.inj h)
      obtain ⟨space, hspace, rfl⟩ := nextMember_close.mp hclose
      exact ⟨[], space, [], .done hspace, rfl, .nil, by simp, hgiven⟩
  | case3 => contradiction
  | case4 first given text entry hentry setting after hmember ih =>
      obtain ⟨lead, hlead, rfl⟩ := nextMember_entry.mp hentry
      obtain ⟨name, behind, value, hread, hcolon, htakes⟩ := readMember_eq_ok.mp hmember
      obtain ⟨body, hbody, rfl⟩ := readString_eq_ok.mp hread
      obtain ⟨between, hbetween, rfl⟩ := readColon_eq_ok.mp hcolon
      obtain ⟨space, value, hspace, hvalue, rfl, hgives, hdistinct⟩ := htakes.sound hgiven
      obtain ⟨members, inside, more, hmembers, rfl, hvalues, rfl, hall⟩ := ih hdistinct h
      have hname : SpellsChars (String.ofList name).toList body := by rwa [String.toList_ofList]
      refine ⟨_, _, _, .member hlead hname hbetween hspace hvalue hmembers, ?_,
        .cons hgives hvalues, ?_, hall⟩
      · simp
      · simp

theorem readMembers_of_close {first : Bool} {text rest : List Char}
    (h : nextMember first text = .ok (.close rest)) (given : List (Key × String)) :
    readMembers first given text = .ok (given, rest) := by
  rw [readMembers]
  split
  all_goals simp_all

theorem readMembers_of_entry {first : Bool} {given values : List (Key × String)}
    {text entry after : List Char} (h : nextMember first text = .ok (.entry entry)) :
    readMembers first given text = .ok (values, after) ↔
      ∃ setting behind, readMember given entry = .ok (setting, behind) ∧
        readMembers false (given ++ setting.toList) behind = .ok (values, after) := by
  conv => lhs; rw [readMembers]
  split
  · simp_all
  · simp_all
  · rename_i heq
    cases Except.ok.inj (h.symm.trans heq)
    split
    · simp_all
    · rename_i setting behind hmember
      constructor
      · exact fun hmembers => ⟨setting, behind, hmember, hmembers⟩
      · rintro ⟨_, _, hmember', hmembers⟩
        obtain ⟨rfl, rfl⟩ := Prod.mk.inj (Except.ok.inj (hmember.symm.trans hmember'))
        exact hmembers

/-- The members of an object are read exactly if each gives or leaves a setting, and none twice. -/
theorem readMembers_eq_ok_iff {first : Bool} {members : List (String × List Char)}
    {given values : List (Key × String)} {inside rest after : List Char}
    (h : MembersText first members inside) (hgiven : Distinct given) :
    readMembers first given (inside ++ '\x7d' :: rest) = .ok (values, after) ↔
      ∃ more, Values members more ∧ values = given ++ more ∧ Distinct values ∧ after = rest := by
  -- on the grammar of the members, with those read before as the accumulator
  induction h generalizing given with
  | done h =>
      rw [readMembers_of_close (nextMember_close.mpr ⟨_, h, rfl⟩), Except.ok.injEq, Prod.mk.injEq]
      constructor
      · rintro ⟨rfl, rfl⟩
        exact ⟨[], .nil, by simp, hgiven, rfl⟩
      · rintro ⟨more, ⟨⟩, rfl, _, rfl⟩
        exact ⟨by simp, rfl⟩
  | @member first name value lead body between space behind members hlead hname hbetween hspace
      hvalue tail ih =>
      simp only [List.append_assoc, List.cons_append]
      rw [readMembers_of_entry (nextMember_entry.mpr ⟨lead, hlead, rfl⟩)]
      simp only [readMember_eq_ok_iff hgiven hname hbetween hspace hvalue (tail.endsNumber rest)]
      constructor
      · rintro ⟨setting, _, ⟨hgives, hdistinct, rfl⟩, hmembers⟩
        obtain ⟨more, hvalues, rfl, hall, rfl⟩ := (ih hdistinct).mp hmembers
        exact ⟨_, .cons hgives hvalues, by simp, hall, rfl⟩
      · rintro ⟨_, hmore, rfl, hall, rfl⟩
        cases hmore with
        | @cons _ _ setting _ more hgives hvalues =>
            have hassoc := (List.append_assoc given setting.toList more).symm
            have hdistinct : Distinct (given ++ setting.toList) := (hassoc ▸ hall).left
            exact ⟨setting, _, ⟨hgives, hdistinct, rfl⟩,
              (ih hdistinct).mpr ⟨more, hvalues, hassoc, hall, rfl⟩⟩

/-! ### Lists -/

/-- The settings that values give by position. -/
inductive Assigned : List Key → List (List Char) → List (Key × String) → Prop where
  | nil {keys : List Key} : Assigned keys [] []
  | cons {key : Key} {keys : List Key} {value : List Char} {items : List (List Char)}
      {content : String} {values : List (Key × String)} (head : SpellsString content.toList value)
      (tail : Assigned keys items values) :
      Assigned (key :: keys) (value :: items) ((key, content) :: values)

theorem ItemsText.endsNumber {items : List (List Char)} {inside : List Char}
    (h : ItemsText false items inside) (rest : List Char) :
    EndsNumber (inside ++ ']' :: rest) := by
  cases h with
  | done h => exact endsNumber_append h (c := ']') (by decide) rest
  | item hlead _ _ =>
      cases hlead with
      | later hbefore _ =>
          rw [List.append_assoc, List.append_assoc]
          exact endsNumber_append hbefore (c := ',') (by decide) _

theorem readItems_of_close {first : Bool} {text rest : List Char}
    (hclose : ∃ space, Space space ∧ text = space ++ ']' :: rest) (keys : List Key) :
    readItems first keys text = .ok ([], rest) := by
  cases keys with
  | nil =>
      exact bind_eq_ok.mpr ⟨rest, orFault_eq_ok.mpr (readListEnd_eq_ok.mpr hclose), rfl⟩
  | cons key keys =>
      exact bind_eq_ok.mpr ⟨.close rest, orFault_eq_ok.mpr (nextItem_close.mpr hclose), rfl⟩

theorem readItems_of_entry {first : Bool} {key : Key} {keys : List Key}
    {values : List (Key × String)} {text entry after : List Char}
    (h : nextItem first text = .ok (.entry entry)) :
    readItems first (key :: keys) text = .ok (values, after) ↔
      ∃ content behind more, readText entry = .ok (content, behind) ∧
        readItems false keys behind = .ok (more, after) ∧ values = (key, content) :: more := by
  constructor
  · intro hread
    obtain ⟨next, hitem, hnext⟩ := bind_eq_ok.mp hread
    obtain rfl := Except.ok.inj (h.symm.trans (orFault_eq_ok.mp hitem))
    obtain ⟨⟨content, behind⟩, htext, hrest⟩ := bind_eq_ok.mp hnext
    obtain ⟨⟨more, _⟩, hmore, heq⟩ := bind_eq_ok.mp hrest
    obtain ⟨rfl, rfl⟩ := Prod.mk.inj (Except.ok.inj heq)
    exact ⟨content, behind, more, htext, hmore, rfl⟩
  · rintro ⟨content, behind, more, htext, hmore, rfl⟩
    refine bind_eq_ok.mpr ⟨_, orFault_eq_ok.mpr h, ?_⟩
    exact bind_eq_ok.mpr ⟨(content, behind), htext, bind_eq_ok.mpr ⟨(more, after), hmore, rfl⟩⟩

theorem readItems_sound {first : Bool} {keys : List Key} {values : List (Key × String)}
    {text rest : List Char} (h : readItems first keys text = .ok (values, rest)) :
    ∃ items inside, ItemsText first items inside ∧ text = inside ++ ']' :: rest ∧
      Assigned keys items values := by
  induction keys generalizing first text values with
  | nil =>
      obtain ⟨_, hend, heq⟩ := bind_eq_ok.mp h
      obtain ⟨rfl, rfl⟩ := Prod.mk.inj (Except.ok.inj heq)
      obtain ⟨space, hspace, rfl⟩ := readListEnd_eq_ok.mp (orFault_eq_ok.mp hend)
      exact ⟨[], space, .done hspace, rfl, .nil⟩
  | cons key keys ih =>
      obtain ⟨next, hitem, hnext⟩ := bind_eq_ok.mp h
      replace hitem := orFault_eq_ok.mp hitem
      cases next with
      | close behind =>
          obtain ⟨rfl, rfl⟩ := Prod.mk.inj (Except.ok.inj hnext)
          obtain ⟨space, hspace, rfl⟩ := nextItem_close.mp hitem
          exact ⟨[], space, .done hspace, rfl, .nil⟩
      | entry entry =>
          obtain ⟨content, behind, more, htext, hmore, rfl⟩ := (readItems_of_entry hitem).mp h
          obtain ⟨lead, hlead, rfl⟩ := nextItem_sound hitem
          obtain ⟨space, value, hspace, hspells, rfl⟩ := readText_eq_ok.mp htext
          obtain ⟨items, inside, hitems, rfl, hassigned⟩ := ih hmore
          -- The reader of the text passes over the space that stands before it.
          refine ⟨value :: items, lead ++ space ++ (value ++ inside), ?_, by simp,
            .cons hspells hassigned⟩
          exact .item (hlead.append_space hspace) hspells.valueText hitems

/-- The values of a list are read exactly if there is a key for each and all are strings. -/
theorem readItems_eq_ok_iff {first : Bool} {items : List (List Char)} {keys : List Key}
    {values : List (Key × String)} {inside rest after : List Char}
    (h : ItemsText first items inside) :
    readItems first keys (inside ++ ']' :: rest) = .ok (values, after) ↔
      Assigned keys items values ∧ after = rest := by
  -- on the grammar of the list, with a key taken for each value
  induction h generalizing keys values with
  | @done first space h =>
      rw [readItems_of_close ⟨space, h, rfl⟩, Except.ok.injEq, Prod.mk.injEq]
      constructor
      · rintro ⟨rfl, rfl⟩
        exact ⟨.nil, rfl⟩
      · rintro ⟨⟨⟩, rfl⟩
        exact ⟨rfl, rfl⟩
  | @item first lead value behind items hlead hvalue tail ih =>
      have hends := tail.endsNumber rest
      simp only [List.append_assoc]
      cases keys with
      | nil =>
          constructor
          · intro h
            obtain ⟨_, hend, _⟩ := bind_eq_ok.mp h
            -- a value behind the last key is one too many
            exact absurd (orFault_eq_ok.mp hend) (readListEnd_value hlead hvalue _ _)
          · rintro ⟨⟨⟩, _⟩
      | cons key keys =>
          rw [readItems_of_entry (nextItem_value hlead hvalue _)]
          constructor
          · rintro ⟨content, _, more, htext, hmore, rfl⟩
            obtain ⟨hspells, rfl⟩ := (readText_value space_nil hvalue hends).mp htext
            obtain ⟨hassigned, rfl⟩ := ih.mp hmore
            exact ⟨.cons hspells hassigned, rfl⟩
          · rintro ⟨hassigned, rfl⟩
            cases hassigned with
            | @cons _ _ _ _ content more hspells hassigned =>
                exact ⟨content, _, more,
                  (readText_value space_nil hvalue hends).mpr ⟨hspells, rfl⟩,
                  ih.mpr ⟨hassigned, rfl⟩, rfl⟩

/-! ### Settings -/

/-- The settings that an object or a list describes. -/
inductive Describes : List Char → Settings → Prop where
  | object {members : List (String × List Char)} {values : List (Key × String)}
      {text : List Char} (h : ObjectText members text) (hvalues : Values members values)
      (hdistinct : Distinct values) : Describes text (ofValues values)
  | list {items : List (List Char)} {values : List (Key × String)} {text : List Char}
      (h : ListText items text) (hvalues : Assigned Key.all items values) :
      Describes text (ofValues values)

/-- An object's settings are those of its members, if none is given twice and all are strings. -/
theorem readSettings_object {members : List (String × List Char)}
    {space inner rest after : List Char} {settings : Settings} (hspace : Space space)
    (h : ObjectText members inner) :
    readSettings (space ++ (inner ++ rest)) = .ok (settings, after) ↔
      ∃ values, Values members values ∧ Distinct values ∧ settings = ofValues values ∧
        after = rest := by
  obtain @⟨inside, hinside⟩ := h
  have hmembers : ∀ values after,
      readMembers true [] (inside ++ '\x7d' :: rest) = .ok (values, after) ↔
        Values members values ∧ Distinct values ∧ after = rest := by
    intro values after
    rw [readMembers_eq_ok_iff hinside distinct_nil]
    constructor
    · rintro ⟨more, hvalues, rfl, hdistinct, rfl⟩
      exact ⟨hvalues, hdistinct, rfl⟩
    · rintro ⟨hvalues, hdistinct, rfl⟩
      exact ⟨values, hvalues, rfl, hdistinct, rfl⟩
  have hfront : skipSpace (space ++ ('\x7b' :: (inside ++ ['\x7d']) ++ rest)) =
      '\x7b' :: (inside ++ '\x7d' :: rest) := by
    rw [skipSpace_append hspace]
    simpa using skipSpace_cons (c := '\x7b') rfl (inside ++ '\x7d' :: rest)
  rw [readSettings, hfront]
  constructor
  · intro h
    obtain ⟨⟨values, _⟩, hread, heq⟩ := bind_eq_ok.mp h
    obtain ⟨rfl, rfl⟩ := Prod.mk.inj (Except.ok.inj heq)
    obtain ⟨hvalues, hdistinct, rfl⟩ := (hmembers _ _).mp hread
    exact ⟨values, hvalues, hdistinct, rfl, rfl⟩
  · rintro ⟨values, hvalues, hdistinct, rfl, rfl⟩
    exact bind_eq_ok.mpr ⟨_, (hmembers _ _).mpr ⟨hvalues, hdistinct, rfl⟩, rfl⟩

theorem readSettings_list {items : List (List Char)} {space inner rest after : List Char}
    {settings : Settings} (hspace : Space space) (h : ListText items inner) :
    readSettings (space ++ (inner ++ rest)) = .ok (settings, after) ↔
      ∃ values, Assigned Key.all items values ∧ settings = ofValues values ∧ after = rest := by
  obtain @⟨inside, hinside⟩ := h
  have hfront : skipSpace (space ++ ('[' :: (inside ++ [']']) ++ rest)) =
      '[' :: (inside ++ ']' :: rest) := by
    rw [skipSpace_append hspace]
    simpa using skipSpace_cons (c := '[') rfl (inside ++ ']' :: rest)
  rw [readSettings, hfront]
  constructor
  · intro h
    obtain ⟨⟨values, _⟩, hread, heq⟩ := bind_eq_ok.mp h
    obtain ⟨rfl, rfl⟩ := Prod.mk.inj (Except.ok.inj heq)
    obtain ⟨hvalues, rfl⟩ := (readItems_eq_ok_iff hinside).mp hread
    exact ⟨values, hvalues, rfl, rfl⟩
  · rintro ⟨values, hvalues, rfl, rfl⟩
    exact bind_eq_ok.mpr ⟨_, (readItems_eq_ok_iff hinside).mpr ⟨hvalues, rfl⟩, rfl⟩

/-- Nothing but objects and lists is read, and to its end. -/
theorem readSettings_eq_ok {text rest : List Char} {settings : Settings} :
    readSettings text = .ok (settings, rest) ↔ ∃ space inner, Space space ∧
      Describes inner settings ∧ text = space ++ (inner ++ rest) := by
  constructor
  · intro h
    obtain ⟨space, hspace, htext⟩ := exists_space text
    unfold readSettings at h
    split at h
    · contradiction
    · rename_i hfront
      obtain ⟨⟨values, _⟩, hread, heq⟩ := bind_eq_ok.mp h
      obtain ⟨rfl, rfl⟩ := Prod.mk.inj (Except.ok.inj heq)
      obtain ⟨members, inside, more, hmembers, rfl, hvalues, hmore, hdistinct⟩ :=
        readMembers_sound distinct_nil hread
      rw [List.nil_append] at hmore
      refine ⟨space, _, hspace, .object (.braced hmembers) (hmore ▸ hvalues) hdistinct, ?_⟩
      rw [htext, hfront]
      simp
    · rename_i hfront
      obtain ⟨⟨values, _⟩, hread, heq⟩ := bind_eq_ok.mp h
      obtain ⟨rfl, rfl⟩ := Prod.mk.inj (Except.ok.inj heq)
      obtain ⟨items, inside, hitems, rfl, hvalues⟩ := readItems_sound hread
      refine ⟨space, _, hspace, .list (.bracketed hitems) hvalues, ?_⟩
      rw [htext, hfront]
      simp
    · exact absurd h mismatchAt_ne_ok
  · rintro ⟨space, inner, hspace, hinner, rfl⟩
    cases hinner with
    | object h hvalues hdistinct =>
        exact (readSettings_object hspace h).mpr ⟨_, hvalues, hdistinct, rfl, rfl⟩
    | list h hvalues => exact (readSettings_list hspace h).mpr ⟨_, hvalues, rfl, rfl⟩

end PageSync.Settings
