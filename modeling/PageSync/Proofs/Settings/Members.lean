import PageSync.Proofs.Except
import PageSync.Settings.Decode

/-!
Settings from the members of an object. Sorting leaves of the members with one key the last, so a
settings object is taken exactly if the values that count for the nine keys are texts, whatever the
other members are (`ofJson_object_isOk_iff`).
-/

namespace PageSync

namespace Json

/-! ### Sorted members -/

def Ascending (members : List (String × Json)) : Prop := members.Pairwise fun a b => a.1 < b.1

theorem Ascending.lt_of_mem {first : String × Json} {rest : List (String × Json)}
    (h : Ascending (first :: rest)) {key : String} (hbefore : key < first.1) :
    ∀ member ∈ first :: rest, key < member.1 := by
  intro member hmember
  rcases List.mem_cons.mp hmember with rfl | hmember
  · exact hbefore
  · exact String.lt_trans hbefore ((List.pairwise_cons.mp h).1 member hmember)

/-- A key before all members is the key of none. -/
theorem mem_iff_ne_and_mem {members : List (String × Json)} {key k : String} {v : Json}
    (h : ∀ member ∈ members, key < member.1) : (k, v) ∈ members ↔ k ≠ key ∧ (k, v) ∈ members := by
  refine ⟨fun hmem => ⟨?_, hmem⟩, And.right⟩
  rintro rfl
  exact String.lt_irrefl _ (h _ hmem)

/-- An inserted member takes the place of the one with its key. -/
theorem mem_insertMember {members : List (String × Json)} (h : Ascending members) {key k : String}
    {value v : Json} :
    (k, v) ∈ insertMember key value members ↔
      k = key ∧ v = value ∨ k ≠ key ∧ (k, v) ∈ members := by
  -- as the keys ascend, a member with this key is no later than where the new one goes
  induction members with
  | nil => simp [insertMember]
  | cons first rest ih =>
      obtain ⟨hfirst, hrest⟩ := List.pairwise_cons.mp h
      rw [insertMember]
      split
      · rename_i hbefore
        rw [List.mem_cons, Prod.mk.injEq]
        exact or_congr_right (mem_iff_ne_and_mem (h.lt_of_mem hbefore))
      · split
        · rename_i hsame
          have hskip : k ≠ key → (k, v) ≠ first := by
            rintro hne rfl
            exact hne hsame.symm
          rw [List.mem_cons, Prod.mk.injEq, mem_iff_ne_and_mem (hsame ▸ hfirst)]
          refine or_congr_right (and_congr_right fun hne => ?_)
          rw [List.mem_cons, or_iff_right (hskip hne)]
        · rename_i hne
          have hkept : (k, v) = first → k ≠ key := by
            rintro rfl rfl
            exact hne rfl
          rw [List.mem_cons, ih hrest, List.mem_cons]
          constructor
          · rintro (heq | hnew | ⟨hk, hold⟩)
            · exact .inr ⟨hkept heq, .inl heq⟩
            · exact .inl hnew
            · exact .inr ⟨hk, .inr hold⟩
          · rintro (hnew | ⟨hk, heq | hold⟩)
            · exact .inr (.inl hnew)
            · exact .inl heq
            · exact .inr (.inr ⟨hk, hold⟩)

theorem Ascending.insertMember {members : List (String × Json)} (h : Ascending members)
    (key : String) (value : Json) : Ascending (insertMember key value members) := by
  induction members with
  | nil => exact List.pairwise_singleton _ _
  | cons first rest ih =>
      obtain ⟨hfirst, hrest⟩ := List.pairwise_cons.mp h
      rw [Json.insertMember]
      split
      · rename_i hbefore
        exact List.pairwise_cons.mpr ⟨h.lt_of_mem hbefore, h⟩
      · split
        · rename_i hsame
          refine List.pairwise_cons.mpr ⟨?_, hrest⟩
          intro other hother
          rw [hsame]
          exact hfirst other hother
        · rename_i hnot hne
          refine List.pairwise_cons.mpr ⟨?_, ih hrest⟩
          intro other hother
          rcases (mem_insertMember hrest).mp hother with ⟨hkey, _⟩ | ⟨_, hother⟩
          · rw [hkey]
            exact Std.lt_of_le_of_ne (String.not_lt.mp hnot) (Ne.symm hne)
          · exact hfirst other hother

theorem member?_cons (key : String) (value : Json) (rest : List (String × Json)) (k : String) :
    member? ((key, value) :: rest) k =
      (member? rest k).or (if key = k then some value else none) := by
  rw [member?, List.reverse_cons, List.find?_append, member?, Option.map_or]
  congr 1
  by_cases hkey : key = k
  · simp [hkey]
  · simp [hkey]

/-- Inserting members one after another leaves the last of each key, and of the members before
those of the other keys. -/
theorem mem_foldl_insertMember (members : List (String × Json)) {sorted : List (String × Json)}
    (h : Ascending sorted) {k : String} {v : Json} :
    (k, v) ∈ members.foldl (fun sorted (key, value) => insertMember key value sorted) sorted ↔
      member? members k = some v ∨ member? members k = none ∧ (k, v) ∈ sorted := by
  induction members generalizing sorted with
  | nil => simp [member?]
  | cons first rest ih =>
      obtain ⟨key, value⟩ := first
      rw [List.foldl_cons, ih (h.insertMember key value), mem_insertMember h, member?_cons]
      cases member? rest k with
      | some other => simp
      | none =>
          by_cases hkey : key = k
          · subst hkey
            simp [eq_comm]
          · have hother : k ≠ key := Ne.symm hkey
            simp [hkey, hother]

/-- The members with one key leave the last. -/
theorem mem_sortMembers {members : List (String × Json)} {k : String} {v : Json} :
    (k, v) ∈ sortMembers members ↔ member? members k = some v := by
  rw [sortMembers, mem_foldl_insertMember members List.Pairwise.nil]
  simp

end Json

namespace Settings

open Json

theorem Key.ofName?_eq_some {name : String} {key : Key} :
    Key.ofName? name = some key ↔ key.name = name := by
  constructor
  · intro h
    exact eq_of_beq (List.find?_some (p := fun key : Key => key.name == name) h)
  · rintro rfl
    exact Key.ofName?_name key

theorem textOfJson_eq_ok {value : Json} {text : String} :
    textOfJson value = .ok text ↔ value = .string text := by
  cases value <;> simp [textOfJson]

/-- Members are taken exactly if those with the name of a key hold texts. -/
theorem valuesOfMembers_isOk_iff {members : List (String × Json)} :
    (∃ values, valuesOfMembers members = .ok values) ↔
      ∀ key value, (Key.name key, value) ∈ members → ∃ text, value = .string text := by
  induction members with
  | nil => simp [valuesOfMembers]
  | cons first rest ih =>
      obtain ⟨name, value⟩ := first
      -- members with other names are passed over, whatever their values
      cases hname : Key.ofName? name with
      | none =>
          have hother : ∀ key v, (Key.name key, v) ≠ (name, value) := by
            intro key v heq
            rw [← (Prod.mk.inj heq).1, Key.ofName?_name] at hname
            contradiction
          simp only [valuesOfMembers, hname, List.mem_cons, hother, false_or]
          exact ih
      | some key =>
          obtain rfl := Key.ofName?_eq_some.mp hname
          simp only [valuesOfMembers, hname, bind_eq_ok, textOfJson_eq_ok]
          constructor
          · rintro ⟨_, text, rfl, values, hvalues, _⟩ k v hmem
            rcases List.mem_cons.mp hmem with heq | hmem
            · exact ⟨text, (Prod.mk.inj heq).2⟩
            · exact ih.mp ⟨values, hvalues⟩ k v hmem
          · intro h
            obtain ⟨text, htext⟩ := h key value List.mem_cons_self
            obtain ⟨values, hvalues⟩ :=
              ih.mpr fun k v hmem => h k v (List.mem_cons_of_mem _ hmem)
            exact ⟨_, text, htext, values, hvalues, rfl⟩

/-- An object is taken exactly if the values that count for the keys are texts. -/
theorem ofJson_object_isOk_iff {members : List (String × Json)} :
    (∃ settings, ofJson (.object members) = .ok settings) ↔
      ∀ key value, member? members (Key.name key) = some value → ∃ text, value = .string text := by
  simp only [← mem_sortMembers, ← valuesOfMembers_isOk_iff, ofJson, bind_eq_ok]
  constructor
  · rintro ⟨_, values, hvalues, _⟩
    exact ⟨values, hvalues⟩
  · rintro ⟨values, hvalues⟩
    exact ⟨_, values, hvalues, rfl⟩

end Settings

end PageSync
