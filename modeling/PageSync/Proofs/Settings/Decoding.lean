import PageSync.Proofs.Settings.Documents

/-!
Decoding a settings text. An object in which each key is named at most once, and with a string,
gives the defaults with those settings in place, whatever its other members hold and however it is
spelled (`ofText_object`). Nothing else is taken but lists of strings no longer than there are keys
(`ofText_isOk_iff`).
-/

namespace PageSync.Settings

open Json

/-! ### Settings by key -/

theorem get_foldl_of_not_mem {values : List (Key × String)} {key : Key}
    (h : key ∉ values.map Prod.fst) (start : Settings) :
    (values.foldl (fun settings (key, value) => settings.set key value) start).get key =
      start.get key := by
  induction values generalizing start with
  | nil => rfl
  | cons first rest ih =>
      rw [List.map_cons, List.mem_cons, not_or] at h
      rw [List.foldl_cons, ih h.2, get_set_of_ne start h.1]

theorem get_foldl_of_mem {values : List (Key × String)} {key : Key} {content : String}
    (hdistinct : Distinct values) (h : (key, content) ∈ values) (start : Settings) :
    (values.foldl (fun settings (key, value) => settings.set key value) start).get key =
      content := by
  induction values generalizing start with
  | nil => contradiction
  | cons first rest ih =>
      obtain ⟨hfirst, hrest⟩ := List.nodup_cons.mp hdistinct
      rw [List.foldl_cons]
      rcases List.mem_cons.mp h with rfl | hmem
      · rw [get_foldl_of_not_mem hfirst, get_set_self]
      · exact ih hrest hmem _

/-! ### What members give -/

/-- Each key is named at most once, and with a string. -/
structure Suitable (members : List (String × List Char)) : Prop where
  distinct : (members.filterMap fun member => Key.ofName? member.1).Nodup
  string : ∀ key value, (Key.name key, value) ∈ members →
    ∃ content : String, SpellsString content.toList value

theorem Gives.key_eq {name : String} {value : List Char} {setting : Option (Key × String)}
    (h : Gives name value setting) : setting.map Prod.fst = Key.ofName? name := by
  cases h with
  | key h => exact (Key.ofName?_name _).symm
  | other h => exact h.symm

theorem Values.keys_eq {members : List (String × List Char)} {values : List (Key × String)}
    (h : Values members values) :
    values.map Prod.fst = members.filterMap fun member => Key.ofName? member.1 := by
  induction h with
  | nil => rfl
  | @cons name value setting members values head tail ih =>
      rw [List.map_append, ih, List.filterMap_cons]
      rw [← head.key_eq]
      cases setting with
      | none => rfl
      | some setting => rfl

theorem Gives.mem_iff {name : String} {value : List Char} {setting : Option (Key × String)}
    (h : Gives name value setting) {key : Key} {content : String} :
    (key, content) ∈ setting.toList ↔ key.name = name ∧ SpellsString content.toList value := by
  cases h with
  | @key own _ given h =>
      rw [Option.toList_some, List.mem_singleton, Prod.mk.injEq]
      constructor
      · rintro ⟨rfl, rfl⟩
        exact ⟨rfl, h⟩
      · rintro ⟨hname, hspells⟩
        have hkey : some key = some own := by rw [← Key.ofName?_name, hname, Key.ofName?_name]
        exact ⟨Option.some.inj hkey, String.toList_inj.mp (hspells.unique h)⟩
  | other h =>
      rw [Option.toList_none]
      refine ⟨nofun, ?_⟩
      rintro ⟨rfl, _⟩
      rw [Key.ofName?_name] at h
      contradiction

theorem exists_gives_iff {name : String} {value : List Char} :
    (∃ setting, Gives name value setting) ↔
      ∀ key, Key.name key = name → ∃ content : String, SpellsString content.toList value := by
  constructor
  · rintro ⟨setting, h⟩ key hname
    cases h with
    | key h => exact ⟨_, h⟩
    | other h =>
        rw [← hname, Key.ofName?_name] at h
        contradiction
  · intro h
    cases hname : Key.ofName? name with
    | none => exact ⟨none, .other hname⟩
    | some key =>
        obtain rfl := Key.ofName?_eq_some.mp hname
        obtain ⟨content, hspells⟩ := h key rfl
        exact ⟨some (key, content), .key hspells⟩

/-- The settings given are those that members with the name of a key spell. -/
theorem Values.mem_iff {members : List (String × List Char)} {values : List (Key × String)}
    (h : Values members values) {key : Key} {content : String} : (key, content) ∈ values ↔
      ∃ value, (Key.name key, value) ∈ members ∧ SpellsString content.toList value := by
  induction h with
  | nil => simp
  | cons head tail ih =>
      simp only [List.mem_append, head.mem_iff, ih, List.mem_cons, Prod.mk.injEq, or_and_right,
        exists_or, and_assoc, exists_and_left, exists_eq_left]

theorem exists_values_iff {members : List (String × List Char)} :
    (∃ values, Values members values) ↔ ∀ key value, (Key.name key, value) ∈ members →
      ∃ content : String, SpellsString content.toList value := by
  induction members with
  | nil => exact ⟨fun _ _ _ => nofun, fun _ => ⟨[], .nil⟩⟩
  | cons member members ih =>
      obtain ⟨name, value⟩ := member
      constructor
      · rintro ⟨_, ⟨⟩⟩ key value' hmem
        rename_i setting values head tail
        rcases List.mem_cons.mp hmem with heq | hmem
        · obtain ⟨hname, rfl⟩ := Prod.mk.inj heq
          exact exists_gives_iff.mp ⟨_, head⟩ key hname
        · exact ih.mp ⟨_, tail⟩ key value' hmem
      · intro h
        obtain ⟨setting, head⟩ := exists_gives_iff.mpr fun key hname =>
          h key value (hname ▸ List.mem_cons_self)
        obtain ⟨values, tail⟩ := ih.mpr fun key value' hmem =>
          h key value' (List.mem_cons_of_mem _ hmem)
        exact ⟨_, .cons head tail⟩

theorem suitable_iff {members : List (String × List Char)} :
    Suitable members ↔ ∃ values, Values members values ∧ Distinct values := by
  constructor
  · rintro ⟨hdistinct, hstring⟩
    obtain ⟨values, hvalues⟩ := exists_values_iff.mpr hstring
    refine ⟨values, hvalues, ?_⟩
    rwa [Distinct, hvalues.keys_eq]
  · rintro ⟨values, hvalues, hdistinct⟩
    rw [Distinct, hvalues.keys_eq] at hdistinct
    exact ⟨hdistinct, exists_values_iff.mp ⟨values, hvalues⟩⟩

structure SuitableList (items : List (List Char)) : Prop where
  length_le : items.length ≤ 9
  string : ∀ value ∈ items, ∃ content : String, SpellsString content.toList value

theorem exists_assigned_iff {keys : List Key} {items : List (List Char)} :
    (∃ values, Assigned keys items values) ↔ items.length ≤ keys.length ∧
      ∀ value ∈ items, ∃ content : String, SpellsString content.toList value := by
  induction items generalizing keys with
  | nil => exact ⟨fun _ => ⟨Nat.zero_le _, nofun⟩, fun _ => ⟨[], .nil⟩⟩
  | cons value items ih =>
      rw [List.forall_mem_cons]
      constructor
      · rintro ⟨_, ⟨⟩⟩
        rename_i head tail
        obtain ⟨hlength, hitems⟩ := ih.mp ⟨_, tail⟩
        exact ⟨Nat.succ_le_succ hlength, ⟨_, head⟩, hitems⟩
      · rintro ⟨hlength, ⟨content, head⟩, hitems⟩
        cases keys with
        | nil => contradiction
        | cons key keys =>
            obtain ⟨values, tail⟩ := ih.mpr ⟨Nat.le_of_succ_le_succ hlength, hitems⟩
            exact ⟨_, .cons head tail⟩

theorem suitableList_iff {items : List (List Char)} :
    SuitableList items ↔ ∃ values, Assigned Key.all items values := by
  rw [exists_assigned_iff]
  exact ⟨fun h => ⟨h.length_le, h.string⟩, fun h => ⟨h.1, h.2⟩⟩

/-! ### Texts -/

inductive Around (inner : List Char) : List Char → Prop where
  | space {before after : List Char} (hbefore : Space before) (hafter : Space after) :
      Around inner (before ++ (inner ++ after))

theorem ofText_eq_ok {text : String} {settings : Settings} : ofText text = .ok settings ↔
    ∃ rest, readSettings text.toList = .ok (settings, rest) ∧ Space rest := by
  constructor
  · intro h
    obtain ⟨⟨found, rest⟩, hread, hend⟩ := bind_eq_ok.mp h
    dsimp only at hend
    split at hend
    · rename_i hrest
      obtain rfl := Except.ok.inj hend
      exact ⟨rest, hread, skipSpace_eq_nil.mp (List.isEmpty_iff.mp hrest)⟩
    · contradiction
  · rintro ⟨rest, hread, hrest⟩
    refine bind_eq_ok.mpr ⟨_, hread, if_pos ?_⟩
    rw [List.isEmpty_iff, skipSpace_eq_nil]
    exact hrest

theorem ofText_eq_ok_iff {text : String} {settings : Settings} : ofText text = .ok settings ↔
    ∃ inner, Around inner text.toList ∧ Describes inner settings := by
  simp only [ofText_eq_ok, readSettings_eq_ok]
  constructor
  · rintro ⟨rest, ⟨space, inner, hspace, hinner, htext⟩, hrest⟩
    exact ⟨inner, htext ▸ .space hspace hrest, hinner⟩
  · rintro ⟨inner, htext, hinner⟩
    generalize text.toList = chars at htext
    obtain ⟨hbefore, hafter⟩ := htext
    exact ⟨_, ⟨_, inner, hbefore, hinner, rfl⟩, hafter⟩

theorem ofText_object_eq_ok_iff {text : String} {inner : List Char}
    {members : List (String × List Char)} {settings : Settings} (htext : Around inner text.toList)
    (h : ObjectText members inner) : ofText text = .ok settings ↔
      ∃ values, Values members values ∧ Distinct values ∧ settings = ofValues values := by
  rw [ofText_eq_ok]
  generalize text.toList = chars at htext
  obtain ⟨hbefore, hafter⟩ := htext
  simp only [readSettings_object hbefore h]
  constructor
  · rintro ⟨_, ⟨values, hvalues, hdistinct, rfl, _⟩, _⟩
    exact ⟨values, hvalues, hdistinct, rfl⟩
  · rintro ⟨values, hvalues, hdistinct, rfl⟩
    exact ⟨_, ⟨values, hvalues, hdistinct, rfl, rfl⟩, hafter⟩

theorem ofText_list_eq_ok_iff {text : String} {inner : List Char} {items : List (List Char)}
    {settings : Settings} (htext : Around inner text.toList) (h : ListText items inner) :
    ofText text = .ok settings ↔
      ∃ values, Assigned Key.all items values ∧ settings = ofValues values := by
  rw [ofText_eq_ok]
  generalize text.toList = chars at htext
  obtain ⟨hbefore, hafter⟩ := htext
  simp only [readSettings_list hbefore h]
  constructor
  · rintro ⟨_, ⟨values, hvalues, rfl, _⟩, _⟩
    exact ⟨values, hvalues, rfl⟩
  · rintro ⟨values, hvalues, rfl⟩
    exact ⟨_, ⟨values, hvalues, rfl, rfl⟩, hafter⟩

/-- An object is taken exactly if each key is named at most once, and with a string. -/
theorem ofText_object_isOk_iff {text : String} {inner : List Char}
    {members : List (String × List Char)} (htext : Around inner text.toList)
    (h : ObjectText members inner) :
    (∃ settings, ofText text = .ok settings) ↔ Suitable members := by
  simp only [ofText_object_eq_ok_iff htext h, suitable_iff]
  constructor
  · rintro ⟨_, values, hvalues, hdistinct, _⟩
    exact ⟨values, hvalues, hdistinct⟩
  · rintro ⟨values, hvalues, hdistinct⟩
    exact ⟨_, values, hvalues, hdistinct, rfl⟩

theorem ofText_list_isOk_iff {text : String} {inner : List Char} {items : List (List Char)}
    (htext : Around inner text.toList) (h : ListText items inner) :
    (∃ settings, ofText text = .ok settings) ↔ SuitableList items := by
  simp only [ofText_list_eq_ok_iff htext h, suitableList_iff]
  constructor
  · rintro ⟨_, values, hvalues, _⟩
    exact ⟨values, hvalues⟩
  · rintro ⟨values, hvalues⟩
    exact ⟨_, values, hvalues, rfl⟩

/-- A well-formed object gives the defaults with its settings in their places. -/
theorem ofText_object {text : String} {inner : List Char} {members : List (String × List Char)}
    (htext : Around inner text.toList) (h : ObjectText members inner)
    (hsuitable : Suitable members) :
    ∃ settings, ofText text = .ok settings ∧
      (∀ key value content, (Key.name key, value) ∈ members →
        SpellsString (String.toList content) value → settings.get key = content) ∧
      (∀ key, (∀ value, (Key.name key, value) ∉ members) →
        settings.get key = ({} : Settings).get key) ∧
      ∀ wanted : Settings, (∀ key, ∃ value, (Key.name key, value) ∈ members ∧
        SpellsString (wanted.get key).toList value) → settings = wanted := by
  obtain ⟨values, hvalues, hdistinct⟩ := suitable_iff.mp hsuitable
  have hgiven : ∀ key value content, (Key.name key, value) ∈ members →
      SpellsString (String.toList content) value → (ofValues values).get key = content :=
    fun key value content hmem hspells =>
      get_foldl_of_mem hdistinct (hvalues.mem_iff.mpr ⟨value, hmem, hspells⟩) {}
  refine ⟨ofValues values,
    (ofText_object_eq_ok_iff htext h).mpr ⟨values, hvalues, hdistinct, rfl⟩, hgiven, ?_, ?_⟩
  · intro key hnone
    refine get_foldl_of_not_mem (fun hkey => ?_) {}
    obtain ⟨⟨_, content⟩, hmem, rfl⟩ := List.mem_map.mp hkey
    obtain ⟨value, hmember, _⟩ := hvalues.mem_iff.mp hmem
    exact hnone value hmember
  · intro wanted hwanted
    refine ext_get fun key => ?_
    obtain ⟨value, hmem, hspells⟩ := hwanted key
    exact hgiven key value _ hmem hspells

/-- A member that is passed over, a key that is escaped in part, and a surrogate pair. -/
def respelledMembers : List (String × List Char) :=
  [("x", "[\x7b\x7d]".toList), ("logFilter", "\"\\ud83d\\uDE00\\n\"".toList)]

def respelledObject : List Char :=
  "\x7b\"x\" : [\x7b\x7d],\n\"log\\u0046ilter\":\"\\ud83d\\uDE00\\n\"\x7d".toList

theorem spellsString_respelled :
    SpellsString "😀\n".toList "\"\\ud83d\\uDE00\\n\"".toList := by
  have hhigh : SpellsUnit 0xD83D "d83d".toList := ⟨rfl, by decide, by decide⟩
  have hlow : SpellsUnit 0xDE00 "DE00".toList := ⟨rfl, by decide, by decide⟩
  have hpair : SpellsChar '😀' "\\ud83d\\uDE00".toList :=
    @SpellsChar.pair '😀' _ _ (by decide) hhigh hlow
  have hbreak : SpellsChar '\n' "\\n".toList := .short (by decide)
  exact .quoted (.cons hpair (.cons hbreak .nil))

theorem objectText_respelled : ObjectText respelledMembers respelledObject := by
  have hspace : Space [' '] := by decide
  have hline : Space ['\n'] := by decide
  have hplain : SpellsChars "x".toList "x".toList := .of_standsForItself (by decide)
  have hescaped : SpellsChar 'F' "\\u0046".toList := .unit ⟨rfl, by decide, by decide⟩
  have hname : SpellsChars "logFilter".toList "log\\u0046ilter".toList :=
    .cons (.self (by decide)) (.cons (.self (by decide)) (.cons (.self (by decide))
      (.cons hescaped (.of_standsForItself (by decide)))))
  have hinner : ValueText "\x7b\x7d".toList := @Written.empty .object _ space_nil
  have hvalue : ValueText "[\x7b\x7d]".toList :=
    @Written.full .list _ (.last .item space_nil hinner space_nil)
  exact .braced (.member (.first space_nil) hplain hspace hspace hvalue
    (.member (.later space_nil hline) hname space_nil space_nil spellsString_respelled.valueText
      (.done space_nil)))

theorem ofText_object_respelled :
    Around respelledObject (String.ofList (' ' :: respelledObject)).toList ∧
    ObjectText respelledMembers respelledObject ∧ Suitable respelledMembers ∧
    ∃ settings, ofText (String.ofList (' ' :: respelledObject)) = .ok settings ∧
      settings.logFilter = "😀\n" ∧ settings.navSelector = ({} : Settings).navSelector := by
  have htext : Around respelledObject (String.ofList (' ' :: respelledObject)).toList := by
    rw [String.toList_ofList, ← List.append_nil respelledObject]
    exact @Around.space _ [' '] [] (by decide) (by decide)
  have hunnamed : ∀ value key, key ≠ .logFilter → (Key.name key, value) ∉ respelledMembers := by
    intro value key hkey hmem
    have hnames : ∀ name ∈ respelledMembers.map Prod.fst, Key.name key ≠ name := by
      cases key with
      | logFilter => exact absurd rfl hkey
      | _ => decide
    exact hnames _ (List.mem_map_of_mem hmem) rfl
  have hsuitable : Suitable respelledMembers := by
    refine ⟨by decide, fun key value hmem => ?_⟩
    by_cases hkey : key = .logFilter
    · subst hkey
      have hvalue : value = "\"\\ud83d\\uDE00\\n\"".toList := by
        simpa [respelledMembers, Key.name] using hmem
      exact ⟨_, hvalue ▸ spellsString_respelled⟩
    · exact absurd hmem (hunnamed value key hkey)
  obtain ⟨settings, hok, hgiven, hdefault, _⟩ :=
    ofText_object htext objectText_respelled hsuitable
  refine ⟨htext, objectText_respelled, hsuitable, settings, hok, ?_, ?_⟩
  · exact hgiven .logFilter _ _ (by decide) spellsString_respelled
  · exact hdefault .navSelector fun value => hunnamed value .navSelector (by decide)

/-- Of two texts that are taken, one of which the other continues, the other adds space only. -/
theorem space_of_ofText_append {front : String} {back : List Char} {settings more : Settings}
    (hfront : ofText front = .ok settings)
    (hboth : ofText (String.ofList (front.toList ++ back)) = .ok more) : Space back := by
  obtain ⟨rest, hread, _⟩ := ofText_eq_ok.mp hfront
  obtain ⟨space, inner, hspace, hinner, hchars⟩ := readSettings_eq_ok.mp hread
  have hlonger : readSettings (front.toList ++ back) = .ok (settings, rest ++ back) :=
    readSettings_eq_ok.mpr ⟨space, inner, hspace, hinner, by rw [hchars]; simp⟩
  obtain ⟨_, hread', hend⟩ := ofText_eq_ok.mp hboth
  rw [String.toList_ofList, hlonger] at hread'
  obtain ⟨_, rfl⟩ := Prod.mk.inj (Except.ok.inj hread')
  exact (List.forall_mem_append.mp hend).2

/-- Which texts are taken. An object with a key named twice or without a string, a list that is too
long or holds another value, a text cut short and a text with more behind it are refused. -/
theorem ofText_isOk_iff (text : String) :
    ((∃ settings, ofText text = .ok settings) ↔
      ∃ inner, Around inner text.toList ∧ ValueText inner ∧
        ((∃ members, ObjectText members inner ∧ Suitable members) ∨
          ∃ items, ListText items inner ∧ SuitableList items)) ∧
    (∀ inner members, Around inner text.toList → ObjectText members inner →
      ((∃ settings, ofText text = .ok settings) ↔ Suitable members)) ∧
    (∀ inner items, Around inner text.toList → ListText items inner →
      ((∃ settings, ofText text = .ok settings) ↔ SuitableList items)) ∧
    ∀ back, ¬Space back → ¬((∃ settings, ofText text = .ok settings) ∧
      ∃ settings, ofText (String.ofList (text.toList ++ back)) = .ok settings) := by
  refine ⟨?_, fun _ _ => ofText_object_isOk_iff, fun _ _ => ofText_list_isOk_iff, ?_⟩
  · constructor
    · rintro ⟨settings, h⟩
      obtain ⟨inner, htext, hinner⟩ := ofText_eq_ok_iff.mp h
      cases hinner with
      | object hobject hvalues hdistinct =>
          have hsuitable := suitable_iff.mpr ⟨_, hvalues, hdistinct⟩
          exact ⟨inner, htext, hobject.valueText, .inl ⟨_, hobject, hsuitable⟩⟩
      | list hlist hvalues =>
          have hsuitable := suitableList_iff.mpr ⟨_, hvalues⟩
          exact ⟨inner, htext, hlist.valueText, .inr ⟨_, hlist, hsuitable⟩⟩
    · rintro ⟨inner, htext, _, ⟨members, hobject, hsuitable⟩ | ⟨items, hlist, hsuitable⟩⟩
      · exact (ofText_object_isOk_iff htext hobject).mpr hsuitable
      · exact (ofText_list_isOk_iff htext hlist).mpr hsuitable
  · rintro back hback ⟨⟨_, hfront⟩, ⟨_, hboth⟩⟩
    exact hback (space_of_ofText_append hfront hboth)

end PageSync.Settings
