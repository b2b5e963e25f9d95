import Mathlib.Data.List.Forall2
import PageSync.Proofs.Settings.Decoding

/-!
Settings by position. A list of strings gives them to the first keys in their order, as an object
does that names these keys with the same strings, in whatever order and spelling. The readers of
lists and of objects share nothing but the reader of one string; they agree since each of them takes
the same pairs of a key and a string (`Assigned.of_spelled`, `NamesFirst`). A list with more strings
than there are keys is refused at the first string beyond the last key (`readItems_of_longer`).
-/

namespace PageSync.Settings

open Json

/-! ### The pairs that are given -/

/-- The contents of some values in the order of the values, each in any spelling. -/
def SpelledIn (contents : List String) (items : List (List Char)) : Prop :=
  List.Forall₂ (fun content value => SpellsString (String.toList content) value) contents items

/-- The members name just the first keys, in any order, each with the content at its place. Members
with other names may stand between them. -/
def NamesFirst (contents : List String) (members : List (String × List Char)) : Prop :=
  ∃ values, Values members values ∧ values.Perm (Key.all.zip contents)

/-- The first keys have the contents given and the other keys their defaults. -/
structure Positional (contents : List String) (settings : Settings) : Prop where
  given : ∀ key content, (key, content) ∈ Key.all.zip contents → settings.get key = content
  unnamed : ∀ key, key ∉ Key.all.take contents.length →
    settings.get key = ({} : Settings).get key

theorem map_fst_zip_contents (keys : List Key) (contents : List String) :
    (keys.zip contents).map Prod.fst = keys.take contents.length := by
  induction keys generalizing contents with
  | nil => simp
  | cons key keys ih =>
      cases contents with
      | nil => rfl
      | cons content contents => simp [ih]

theorem distinct_zip (contents : List String) : Distinct (Key.all.zip contents) := by
  have hall : Key.all.Nodup := by decide
  rw [Distinct, map_fst_zip_contents]
  exact hall.sublist (List.take_sublist _ _)

theorem positional_ofValues {contents : List String} {values : List (Key × String)}
    (h : values.Perm (Key.all.zip contents)) : Positional contents (ofValues values) := by
  have hdistinct : Distinct values := ((h.map Prod.fst).nodup_iff).mpr (distinct_zip contents)
  refine ⟨fun key content hmem => ?_, fun key hnone => ?_⟩
  · exact get_foldl_of_mem hdistinct (h.mem_iff.mpr hmem) {}
  · refine get_foldl_of_not_mem (fun hmem => hnone ?_) {}
    rw [← map_fst_zip_contents]
    exact ((h.map Prod.fst).mem_iff).mp hmem

/-- Each key is one of the first ones or not, so nothing is left open. -/
theorem Positional.unique {contents : List String} {settings other : Settings}
    (h : Positional contents settings) (h' : Positional contents other) : settings = other := by
  refine ext_get fun key => ?_
  by_cases hkey : key ∈ Key.all.take contents.length
  · rw [← map_fst_zip_contents, List.mem_map] at hkey
    obtain ⟨⟨_, content⟩, hmem, rfl⟩ := hkey
    exact (h.given _ content hmem).trans (h'.given _ content hmem).symm
  · exact (h.unnamed key hkey).trans (h'.unnamed key hkey).symm

/-! ### Objects -/

theorem ofText_of_namesFirst {contents : List String} {text : String} {inner : List Char}
    {members : List (String × List Char)} (htext : Around inner text.toList)
    (h : ObjectText members inner) (hnames : NamesFirst contents members) :
    ∃ settings, ofText text = .ok settings ∧ Positional contents settings := by
  obtain ⟨values, hvalues, hperm⟩ := hnames
  have hdistinct : Distinct values := ((hperm.map Prod.fst).nodup_iff).mpr (distinct_zip contents)
  refine ⟨ofValues values, ?_, positional_ofValues hperm⟩
  exact (ofText_object_eq_ok_iff htext h).mpr ⟨values, hvalues, hdistinct, rfl⟩

/-! ### Lists -/

theorem Assigned.of_spelled {contents : List String} {items : List (List Char)}
    (h : SpelledIn contents items) {keys : List Key} (hlength : contents.length ≤ keys.length) :
    Assigned keys items (keys.zip contents) := by
  induction h generalizing keys with
  | nil =>
      rw [List.zip_nil_right]
      exact .nil
  | cons hhead _ ih =>
      cases keys with
      | nil => contradiction
      | cons key keys => exact .cons hhead (ih (Nat.le_of_succ_le_succ hlength))

theorem ofText_of_spelled {contents : List String} {items : List (List Char)} {text : String}
    {inner : List Char} (htext : Around inner text.toList) (h : ListText items inner)
    (hitems : SpelledIn contents items) (hlength : contents.length ≤ Key.all.length) :
    ∃ settings, ofText text = .ok settings ∧ Positional contents settings := by
  refine ⟨ofValues (Key.all.zip contents), ?_, positional_ofValues (.refl _)⟩
  exact (ofText_list_eq_ok_iff htext h).mpr ⟨_, .of_spelled hitems hlength, rfl⟩

/-- No list ends at a string. -/
theorem readListEnd_string {first : Bool} {lead value : List Char} {content : String}
    (hlead : Lead first lead) (hvalue : SpellsString content.toList value) (rest : List Char) :
    readListEnd (lead ++ (value ++ rest)) = .error .trailingCharacters := by
  obtain ⟨_⟩ := hvalue
  cases hlead with
  | first hspace =>
      rw [readListEnd, skipSpace_append hspace, List.cons_append, skipSpace_cons rfl]
      rfl
  | later hbefore hafter =>
      rw [readListEnd, List.append_assoc, List.cons_append, skipSpace_append hbefore,
        skipSpace_cons rfl]
      simp only [skipSpace_append hafter, List.cons_append, skipSpace_cons (c := '"') rfl]
      rfl

/-- All keys are served before the list is refused. -/
theorem readItems_of_longer {first : Bool} {items : List (List Char)} {contents : List String}
    {keys : List Key} {inside : List Char} (h : ItemsText first items inside)
    (hitems : SpelledIn contents items) (hlength : keys.length < contents.length)
    (rest : List Char) :
    readItems first keys (inside ++ ']' :: rest) = .error (.fault .trailingCharacters) := by
  induction h generalizing contents keys with
  | done =>
      cases hitems
      contradiction
  | @item first lead value behind items hlead hvalue tail ih =>
      cases hitems with
      | @cons content _ contents _ hstring hrest =>
          simp only [List.append_assoc]
          cases keys with
          | nil =>
              rw [readItems, readListEnd_string hlead hstring]
              rfl
          | cons key keys =>
              have htext : readText (value ++ (behind ++ ']' :: rest)) =
                  .ok (content, behind ++ ']' :: rest) :=
                (readText_value space_nil hvalue (tail.endsNumber rest)).mpr ⟨hstring, rfl⟩
              have hmore := ih hrest (Nat.lt_of_succ_lt_succ hlength)
              rw [readItems, nextItem_value hlead hvalue]
              simp only [orFault, bind, Except.bind, htext, hmore]

theorem ofText_of_longer {contents : List String} {items : List (List Char)} {text : String}
    {inner : List Char} (htext : Around inner text.toList) (h : ListText items inner)
    (hitems : SpelledIn contents items) (hlength : Key.all.length < contents.length) :
    ofText text = .error (.fault .trailingCharacters) := by
  generalize hchars : text.toList = chars at htext
  obtain @⟨before, after, hbefore, hafter⟩ := htext
  obtain @⟨inside, hinside⟩ := h
  have hfront : skipSpace (before ++ ('[' :: (inside ++ [']']) ++ after)) =
      '[' :: (inside ++ ']' :: after) := by
    rw [skipSpace_append hbefore]
    simpa using skipSpace_cons (c := '[') rfl (inside ++ ']' :: after)
  have hread := readItems_of_longer hinside hitems hlength after
  rw [ofText, hchars, readSettings, hfront]
  simp only [hread]
  rfl

/-- Strings in a list and the same strings in an object that names the first keys give the same
settings. There are nine keys, and a list of more strings is refused. -/
theorem ofText_list_of_strings {contents : List String} {items : List (List Char)} {text : String}
    {inner : List Char} (htext : Around inner text.toList) (h : ListText items inner)
    (hitems : SpelledIn contents items) :
    (contents.length ≤ 9 → ∃ settings, ofText text = .ok settings ∧
      Positional contents settings ∧
      ∀ (other : String) (otherInner : List Char) (members : List (String × List Char)),
        Around otherInner other.toList → ObjectText members otherInner →
          NamesFirst contents members → ofText other = .ok settings) ∧
    (9 < contents.length → ofText text = .error (.fault .trailingCharacters)) := by
  refine ⟨fun hlength => ?_, fun hlength => ofText_of_longer htext h hitems hlength⟩
  obtain ⟨settings, hok, hsettings⟩ := ofText_of_spelled htext h hitems hlength
  refine ⟨settings, hok, hsettings, fun other otherInner members hother hobject hnames => ?_⟩
  obtain ⟨found, hfound, hpositional⟩ := ofText_of_namesFirst hother hobject hnames
  rw [hfound, hpositional.unique hsettings]

/-- An escaped string and an empty one, by position. -/
def positionalList : List Char := "[\"\\u002etabs\" ,\"\"]".toList

/-- The same strings by name, the second key first, with a member between them that is passed
over. -/
def namedObject : List Char :=
  "\x7b\"tabGroupSelector\":\"\",\"x\":null, \"navSelector\":\".tabs\"\x7d".toList

def tooLongList : List Char :=
  '[' :: (['"', '"'] ++ (List.replicate 9 ['"', '"']).flatMap (',' :: ·) ++ [']'])

theorem spellsString_empty : SpellsString "".toList ['"', '"'] := .quoted .nil

theorem spelledIn_positionalList :
    SpelledIn [".tabs", ""] ["\"\\u002etabs\"".toList, ['"', '"']] := by
  have hdot : SpellsChar '.' "\\u002e".toList := .unit ⟨rfl, by decide, by decide⟩
  have htabs : SpellsString ".tabs".toList "\"\\u002etabs\"".toList :=
    .quoted (.cons hdot (.of_standsForItself (by decide)))
  exact .cons htabs (.cons spellsString_empty .nil)

theorem listText_positionalList :
    ListText ["\"\\u002etabs\"".toList, ['"', '"']] positionalList := by
  have hspace : Space [' '] := by decide
  have hspelled := spelledIn_positionalList
  cases hspelled with
  | cons hfirst _ =>
      exact .bracketed (.item (.first space_nil) hfirst.valueText
        (.item (.later hspace space_nil) spellsString_empty.valueText (.done space_nil)))

def namedMembers : List (String × List Char) :=
  [("tabGroupSelector", ['"', '"']), ("x", "null".toList), ("navSelector", "\".tabs\"".toList)]

theorem spellsString_tabs : SpellsString ".tabs".toList "\".tabs\"".toList :=
  .quoted (.of_standsForItself (by decide))

theorem objectText_namedObject : ObjectText namedMembers namedObject := by
  have hspace : Space [' '] := by decide
  have hnull : ValueText "null".toList := .scalar (.word (by decide))
  have hgroups : SpellsChars "tabGroupSelector".toList "tabGroupSelector".toList :=
    .of_standsForItself (by decide)
  have hother : SpellsChars "x".toList "x".toList := .of_standsForItself (by decide)
  have hnav : SpellsChars "navSelector".toList "navSelector".toList :=
    .of_standsForItself (by decide)
  exact .braced (.member (.first space_nil) hgroups space_nil space_nil
    spellsString_empty.valueText (.member (.later space_nil space_nil) hother space_nil space_nil
      hnull (.member (.later space_nil hspace) hnav space_nil space_nil
        spellsString_tabs.valueText (.done space_nil))))

theorem namesFirst_namedObject : NamesFirst [".tabs", ""] namedMembers := by
  refine ⟨[(.tabGroupSelector, ""), (.navSelector, ".tabs")], ?_, .swap _ _ _⟩
  have hgroups : Gives "tabGroupSelector" ['"', '"'] (some (.tabGroupSelector, "")) :=
    @Gives.key .tabGroupSelector _ _ spellsString_empty
  have hnav : Gives "navSelector" "\".tabs\"".toList (some (.navSelector, ".tabs")) :=
    @Gives.key .navSelector _ _ spellsString_tabs
  exact .cons hgroups (.cons (.other (by decide)) (.cons hnav .nil))

theorem spelledIn_replicate (n : Nat) :
    SpelledIn (List.replicate n "") (List.replicate n ['"', '"']) := by
  induction n with
  | zero => exact .nil
  | succ n ih => exact .cons spellsString_empty ih

theorem listText_tooLongList : ListText (List.replicate 10 ['"', '"']) tooLongList := by
  have hmore : ∀ n, ItemsText false (List.replicate n ['"', '"'])
      ((List.replicate n ['"', '"']).flatMap (',' :: ·)) := by
    intro n
    induction n with
    | zero => exact .done space_nil
    | succ n ih => exact .item (.later space_nil space_nil) spellsString_empty.valueText ih
  exact .bracketed (.item (.first space_nil) spellsString_empty.valueText (hmore 9))

theorem ofText_list_of_strings_respelled :
    (∃ settings, ofText (String.ofList positionalList) = .ok settings ∧
      ofText (String.ofList namedObject) = .ok settings ∧ settings.navSelector = ".tabs" ∧
      settings.tabGroupSelector = "" ∧ settings.tabSelector = ".tab") ∧
    ofText (String.ofList tooLongList) = .error (.fault .trailingCharacters) := by
  have haround : ∀ inner, Around inner (String.ofList inner).toList := by
    intro inner
    have hinner := @Around.space inner [] [] space_nil space_nil
    simpa using hinner
  obtain ⟨settings, hok, hsettings, hobject⟩ := (ofText_list_of_strings (haround _)
    listText_positionalList spelledIn_positionalList).1 (by decide)
  refine ⟨⟨settings, hok, hobject _ _ _ (haround _) objectText_namedObject namesFirst_namedObject,
    ?_, ?_, ?_⟩, ?_⟩
  · exact hsettings.given .navSelector _ (by decide)
  · exact hsettings.given .tabGroupSelector _ (by decide)
  · exact hsettings.unnamed .tabSelector (by decide)
  · have hlong := ofText_list_of_strings (haround _) listText_tooLongList (spelledIn_replicate 10)
    exact hlong.2 (by decide)

end PageSync.Settings
