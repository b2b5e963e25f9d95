import PageSync.Proofs.TabGroup.Links

/-!
A group of tabs as the attributes of its element set it up. Each thing that decides which tab is
active may be missing or empty, and the next one decides in its place: the value is the first that
is not empty of the query's, the group's default and the first tab's own, and the active tab is the
first with this value among those that the tabs have by themselves. So a group without an active tab
is one that was asked for a value no tab has (`ofMarkup_activation?`).
-/

namespace PageSync.TabGroup

/-! ### The first that is not empty -/

def firstText (texts : List (Option String)) : String :=
  ((texts.filterMap id).find? (· != "")).getD ""

/-- The value that a tab has by itself: its own, else the parameter in the link that it is. -/
def ownValue (param : String) (base : Url) (tab : Tab) : String :=
  firstText [tab.value, (base.join? (tab.href.getD "")).bind (linkValue? · param)]

theorem nonEmpty_eq_some_iff {text : Option String} {found : String} :
    nonEmpty text = some found ↔ text = some found ∧ found ≠ "" := by
  rw [nonEmpty, Option.filter_eq_some_iff, bne_iff_ne]

theorem firstText_nil : firstText [] = "" := rfl

theorem firstText_cons (text : Option String) (texts : List (Option String)) :
    firstText (text :: texts) = (nonEmpty text).getD (firstText texts) := by
  cases text with
  | none => rfl
  | some text =>
      change ((text :: texts.filterMap id).find? (· != "")).getD "" = _
      rw [List.find?_cons]
      by_cases h : text = ""
      · rw [h]
        rfl
      · rw [nonEmpty_some h, bne_iff_ne.mpr h]
        rfl

theorem getD_tabValue? (tab : Tab) (param : String) (base : Url) :
    (tabValue? tab param base).getD "" = ownValue param base tab := by
  rw [tabValue?, ownValue, firstText_cons, firstText_cons, firstText_nil, Option.getD_or]

theorem firstText_singleton (text : String) : firstText [some text] = text := by
  rw [firstText_cons, firstText_nil]
  by_cases h : text = ""
  · rw [h]
    rfl
  · rw [nonEmpty_some h, Option.getD_some]

/-- Where the value is not the last resort, one of the others supplied it. -/
theorem firstText_concat (texts : List (Option String)) (last : String) :
    (∃ text ∈ texts, text = some (firstText (texts ++ [some last])) ∧
      firstText (texts ++ [some last]) ≠ "") ∨
    firstText (texts ++ [some last]) = last := by
  induction texts with
  | nil =>
      exact .inr (firstText_singleton last)
  | cons text texts ih =>
      rw [List.cons_append, firstText_cons]
      cases htext : nonEmpty text with
      | none =>
          rw [Option.getD_none]
          refine ih.imp_left ?_
          rintro ⟨other, hother, hsame⟩
          exact ⟨other, List.mem_cons_of_mem _ hother, hsame⟩
      | some found =>
          rw [Option.getD_some]
          exact .inl ⟨text, List.mem_cons_self, nonEmpty_eq_some_iff.mp htext⟩

theorem firstText_concat_of_empty {texts : List (Option String)}
    (h : ∀ text ∈ texts, text = none ∨ text = some "") (last : String) :
    firstText (texts ++ [some last]) = last := by
  rcases firstText_concat texts last with ⟨text, htext, hsome, hne⟩ | heq
  · rcases h text htext with hnone | hempty
    · rw [hnone] at hsome
      contradiction
    · rw [hempty] at hsome
      exact absurd (Option.some.inj hsome).symm hne
  · exact heq

/-! ### The first place with a value -/

structure FirstAt (values : List String) (value : String) (i : Nat) : Prop where
  has : values[i]? = some value
  first : ∀ k < i, values[k]? ≠ some value

theorem firstAt_zero (value : String) (values : List String) : FirstAt (value :: values) value 0 :=
  ⟨rfl, nofun⟩

theorem findIdx?_eq_some_iff_firstAt {α : Type} {own : α → String} {as : List α} {value : String}
    {i : Nat} :
    (as.findIdx? fun a => own a == value) = some i ↔ FirstAt (as.map own) value i := by
  rw [List.findIdx?_eq_some_iff_getElem]
  constructor
  · rintro ⟨hi, hvalue, hfirst⟩
    refine ⟨by rw [List.getElem?_map, List.getElem?_eq_getElem hi, Option.map_some,
      eq_of_beq hvalue], fun k hk hsame => hfirst k hk ?_⟩
    rw [List.getElem?_map, List.getElem?_eq_getElem (hk.trans hi), Option.map_some] at hsame
    exact beq_iff_eq.mpr (Option.some.inj hsame)
  · rintro ⟨hhas, hfirst⟩
    obtain ⟨a, ha, hvalue⟩ := Option.map_eq_some_iff.mp (List.getElem?_map ▸ hhas)
    obtain ⟨hi, rfl⟩ := List.getElem?_eq_some_iff.mp ha
    refine ⟨hi, beq_iff_eq.mpr hvalue, fun k hk hsame => hfirst k hk ?_⟩
    rw [List.getElem?_map, List.getElem?_eq_getElem (hk.trans hi), Option.map_some,
      eq_of_beq hsame]

/-! ### Labels -/

structure Stripped (label text : String) : Prop where
  around : ∃ front back : List Char, label.toList = front ++ text.toList ++ back ∧
    (∀ c ∈ front, Text.isBlank c) ∧ ∀ c ∈ back, Text.isBlank c
  head : ∀ c ∈ text.toList.head?, Text.isBlank c = false
  last : ∀ c ∈ text.toList.getLast?, Text.isBlank c = false

theorem isBlank_of_mem_head?_dropWhile {text : List Char} {c : Char}
    (h : c ∈ (text.dropWhile Text.isBlank).head?) : Text.isBlank c = false := by
  have hhead := List.head?_dropWhile_not Text.isBlank text
  rw [Option.mem_def.mp h] at hhead
  exact hhead

theorem stripped_strip (label : String) : Stripped label (Text.strip label) := by
  let front := label.toList.takeWhile Text.isBlank
  let rest := label.toList.dropWhile Text.isBlank
  let back := (rest.reverse.takeWhile Text.isBlank).reverse
  have htext : (Text.strip label).toList = (rest.reverse.dropWhile Text.isBlank).reverse := by
    rw [Text.strip, String.toList_ofList, Text.trim, Text.trimStart, Text.trimEnd]
  have hrest : rest = (Text.strip label).toList ++ back := by
    rw [htext, ← List.reverse_append, List.takeWhile_append_dropWhile, List.reverse_reverse]
  refine ⟨⟨front, back, ?_, fun c hc => List.mem_takeWhile_imp hc,
    fun c hc => List.mem_takeWhile_imp (List.mem_reverse.mp hc)⟩, fun c hc => ?_, fun c hc => ?_⟩
  · rw [List.append_assoc, ← hrest, List.takeWhile_append_dropWhile]
  · have hfirst : c ∈ rest.head? := by
      rw [hrest, List.head?_append, Option.mem_def.mp hc]
      rfl
    exact isBlank_of_mem_head?_dropWhile hfirst
  · rw [htext, List.getLast?_reverse] at hc
    exact isBlank_of_mem_head?_dropWhile hc

/-! ### Activation -/

/-- What an activation is to be where the query asks for a value, the group has its attributes and
the tabs have values of their own. -/
structure Resolves (attribute? : String → Option String) (asked : Option String) (tabs : List Tab)
    (values : List String) (placeholder : String) (activation : Activation) : Prop where
  value : activation.value =
    firstText [asked, attribute? "data-default-tab", values.head?]
  active : ∀ i, activation.active = some i ↔ FirstAt values activation.value i
  one : ∀ i j, activation.marks i → activation.marks j → i = j
  /-- no tab is active only where a value was asked for that no tab has -/
  unmarked : activation.active = none → activation.value ∉ values ∧
    ∃ text ∈ [asked, attribute? "data-default-tab"], text = some activation.value ∧
      activation.value ≠ ""
  unasked : (∀ text ∈ [asked, attribute? "data-default-tab"], text = none ∨ text = some "") →
    activation.active = some 0
  shows : activation.indicator.isSome ↔ ∃ selector, attribute? "data-indicator" = some selector ∧
    selector ≠ ""
  indicator : ∀ shown ∈ activation.indicator,
    attribute? "data-indicator" = some shown.selector ∧
    (∀ i ∈ activation.active, ∃ tab label, tabs[i]? = some tab ∧ Stripped tab.label label ∧
      shown.text = if label = "" then placeholder else label) ∧
    (activation.active = none → shown.text = placeholder)

theorem getD_or_eq_firstText (asked default : Option String) (own : String) :
    ((nonEmpty asked).or (nonEmpty default)).getD own = firstText [asked, default, some own] := by
  rw [Option.getD_or, firstText_cons, firstText_cons, firstText_singleton]

section

variable {attribute? : String → Option String} {asked : Option String} {tabs : List Tab}
  {own : Tab → String} {placeholder : String} {activation : Activation}

theorem active_eq_some_iff
    (hactive : activation.active = tabs.findIdx? fun tab => own tab == activation.value) (i : Nat) :
    activation.active = some i ↔ FirstAt (tabs.map own) activation.value i := by
  rw [hactive]
  exact findIdx?_eq_some_iff_firstAt

theorem indicatorText_of_active
    (hactive : activation.active = tabs.findIdx? fun tab => own tab == activation.value) {i : Nat}
    (hi : activation.active = some i) :
    ∃ tab label, tabs[i]? = some tab ∧ Stripped tab.label label ∧
      indicatorText placeholder (activation.active.bind fun i => tabs[i]?.map Tab.label) =
        if label = "" then placeholder else label := by
  obtain ⟨hlt, -⟩ := List.findIdx?_eq_some_iff_getElem.mp (hactive.symm.trans hi)
  have htab := List.getElem?_eq_getElem hlt
  refine ⟨tabs[i], _, htab, stripped_strip _, ?_⟩
  rw [hi, Option.bind_some, htab, Option.map_some, indicatorText_some]

theorem resolves_of_eq (hne : tabs ≠ [])
    (hvalue : activation.value =
      firstText [asked, attribute? "data-default-tab", (tabs.map own).head?])
    (hactive : activation.active = tabs.findIdx? fun tab => own tab == activation.value)
    (hindicator : activation.indicator =
      (nonEmpty (attribute? "data-indicator")).map fun selector =>
        ⟨selector, indicatorText placeholder
          (activation.active.bind fun i => tabs[i]?.map Tab.label)⟩) :
    Resolves attribute? asked tabs (tabs.map own) placeholder activation := by
  -- the value of the first tab is the last to fall back on, so some tab has it
  obtain ⟨first, rest, rfl⟩ := List.exists_cons_of_ne_nil hne
  have hlast : activation.value =
      firstText ([asked, attribute? "data-default-tab"] ++ [some (own first)]) := hvalue
  refine ⟨hvalue, active_eq_some_iff hactive, ?one, ?unmarked, ?unasked, ?shows, ?indicator⟩
  case one =>
    intro i j hi hj
    rw [Activation.marks, beq_iff_eq] at hi hj
    exact Option.some.inj (hi.symm.trans hj)
  case unmarked =>
    intro hnone
    have hmissing : ∀ tab ∈ first :: rest, own tab ≠ activation.value := by
      intro tab htab
      exact beq_eq_false_iff_ne.mp
        (List.findIdx?_eq_none_iff.mp (hactive.symm.trans hnone) tab htab)
    refine ⟨?_, ?_⟩
    · intro hmem
      obtain ⟨tab, htab, hsame⟩ := List.mem_map.mp hmem
      exact hmissing tab htab hsame
    · rw [hlast]
      refine (firstText_concat _ _).resolve_right fun heq => ?_
      exact hmissing first List.mem_cons_self (hlast.trans heq).symm
  case unasked =>
    intro hempty
    rw [active_eq_some_iff hactive, hlast, firstText_concat_of_empty hempty]
    exact firstAt_zero _ _
  case shows =>
    rw [hindicator, Option.isSome_map, Option.isSome_iff_exists]
    exact exists_congr fun selector => nonEmpty_eq_some_iff
  case indicator =>
    intro shown hshown
    rw [hindicator, Option.mem_def, Option.map_eq_some_iff] at hshown
    obtain ⟨selector, hselector, rfl⟩ := hshown
    refine ⟨(nonEmpty_eq_some_iff.mp hselector).1, ?_, ?_⟩
    · intro i hi
      exact indicatorText_of_active hactive hi
    · intro hnone
      rw [hnone]
      rfl

end

/-- Which tab of a group is active, what its value is and what the indicator says, for a group with
any attributes. -/
theorem ofMarkup_activation? (attribute? : String → Option String)
    (defaultParam search placeholder : String) (tabs : List Tab) (base : Url) :
    let group := ofMarkup defaultParam attribute?
    let param := firstText [attribute? "data-tab-param", some defaultParam]
    (group.activation? search tabs base placeholder = none ↔ tabs = []) ∧
    ∀ activation ∈ group.activation? search tabs base placeholder,
      Resolves attribute? (Query.searchValue? search param) tabs (tabs.map (ownValue param base))
        placeholder activation := by
  intro group param
  have hparam : group.param = param := by
    change (nonEmpty _).getD defaultParam = firstText [_, _]
    rw [firstText_cons, firstText_singleton]
  cases tabs with
  | nil => exact ⟨⟨fun _ => rfl, fun _ => rfl⟩, nofun⟩
  | cons first rest =>
      refine ⟨⟨nofun, nofun⟩, fun activation hactivation => ?_⟩
      simp only [activation?, getD_tabValue?, hparam] at hactivation
      obtain rfl := Option.some.inj (Option.mem_def.mp hactivation)
      exact resolves_of_eq (List.cons_ne_nil first rest) (getD_or_eq_firstText ..) rfl rfl

/-- Asked for a value that no tab has, in a group whose own default is empty. -/
def askedAttribute? : String → Option String
  | "data-tab-param" => some ""
  | "data-default-tab" => some ""
  | "data-indicator" => some "#shown"
  | _ => none

def strayValues : List String := ["all", "%4é' %", "%4é' %"]

theorem ofMarkup_activation?_strayTabs :
    (ofMarkup "view" askedAttribute?).activation? "?view=closed" strayTabs siteRoot "-" =
      some ⟨none, "closed", some ⟨"#shown", "-"⟩⟩ ∧
    Resolves askedAttribute? (some "closed") strayTabs strayValues "-"
      ⟨none, "closed", some ⟨"#shown", "-"⟩⟩ := by
  have hactivation : (ofMarkup "view" askedAttribute?).activation? "?view=closed" strayTabs siteRoot
      "-" = some ⟨none, "closed", some ⟨"#shown", "-"⟩⟩ := by decide +kernel
  have hparam : firstText [askedAttribute? "data-tab-param", some "view"] = "view" := by
    decide +kernel
  have hasked : Query.searchValue? "?view=closed" "view" = some "closed" := by decide +kernel
  have hvalues : strayTabs.map (ownValue "view" siteRoot) = strayValues := by decide +kernel
  have hresolves := (ofMarkup_activation? askedAttribute? "view" "?view=closed" "-" strayTabs
    siteRoot).2 _ hactivation
  rw [hparam, hasked, hvalues] at hresolves
  exact ⟨hactivation, hresolves⟩

end PageSync.TabGroup
