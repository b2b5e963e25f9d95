import PageSync.Settings.Basic
import PageSync.Json.Value
import PageSync.Text.Printable

/-!
Settings from JSON: from a text, or from a value that a page holds. A settings object names some of
the keys, each at most once and with a string; members with other names may hold anything. A
settings list gives the values by position. What is not given keeps its default. The first thing
wrong, from the front, refuses the whole.
-/

namespace PageSync.Settings

open Json

inductive Found where
  | null
  | bool (b : Bool)
  | number (n : Json.Number)
  | string (s : String)
  | list
  | object

def Found.text : Found → String
  | .null => "null"
  | .bool b => s!"boolean `{b}`"
  | .number (.float x) => s!"floating point `{Decimal.Style.json.write x}`"
  | .number n => s!"integer `{n.text}`"
  | .string s => "string " ++ Text.quoted s
  | .list => "sequence"
  | .object => "map"

inductive Wanted where
  | string
  | settings

def Wanted.text : Wanted → String
  | .string => "a string"
  | .settings => "struct SyncConfig"

inductive DecodeError where
  | fault (cause : Json.Fault)
  | mismatch (found : Found) (wanted : Wanted)
  | duplicate (key : Key)

def DecodeError.message : DecodeError → String
  | .fault cause => cause.message
  | .mismatch found wanted => s!"invalid type: {found.text}, expected {wanted.text}"
  | .duplicate key => s!"duplicate field `{key.name}`"

inductive DecodeError.Category where
  | malformed
  | truncated
  | unsuitable

def DecodeError.category : DecodeError → Category
  | .fault cause => if cause.isEnd then .truncated else .malformed
  | _ => .unsuitable

def orFault {α : Type} : Except Json.Fault α → Except DecodeError α
  | .ok value => .ok value
  | .error cause => .error (.fault cause)

/-! ### From text -/

/-- The value at the head of a text, as far as it must be read to name its kind. -/
def readFound (text : List Char) : Except Json.Fault Found :=
  match text with
  | 'n' :: rest => (readWord ['u', 'l', 'l'] rest).map fun _ => .null
  | 't' :: rest => (readWord ['r', 'u', 'e'] rest).map fun _ => .bool true
  | 'f' :: rest => (readWord ['a', 'l', 's', 'e'] rest).map fun _ => .bool false
  | '-' :: rest => (readNumber true rest).map fun (n, _) => .number n
  | '"' :: rest => (readString rest).map fun (s, _) => .string (String.ofList s)
  | '[' :: _ => .ok .list
  | '\x7b' :: _ => .ok .object
  | c :: rest =>
    if c.isDigit then (readNumber false (c :: rest)).map fun (n, _) => .number n
    else .error .expectedValue
  | [] => .error .endOfValue

def mismatchAt {α : Type} (wanted : Wanted) (text : List Char) : Except DecodeError α := do
  let found ← orFault (readFound text)
  .error (.mismatch found wanted)

def readText (text : List Char) : Except DecodeError (String × List Char) :=
  match skipSpace text with
  | '"' :: rest => do
    let (s, rest) ← orFault (readString rest)
    .ok (String.ofList s, rest)
  | [] => .error (.fault .endOfValue)
  | rest => mismatchAt .string rest

def readColon (text : List Char) : Except DecodeError (List Char) :=
  match skipSpace text with
  | ':' :: rest => .ok rest
  | [] => .error (.fault .endOfObject)
  | _ => .error (.fault .expectedColon)

/-- A member after the opening quote of its key: the setting it gives, if it gives one. -/
def readMember (given : List (Key × String)) (text : List Char) :
    Except DecodeError (Option (Key × String) × List Char) := do
  let (name, rest) ← orFault (readString text)
  match Key.ofName? (String.ofList name) with
  | some key =>
    if given.any fun (k, _) => k = key then .error (.duplicate key)
    else
      let rest ← readColon rest
      let (value, rest) ← readText rest
      .ok (some (key, value), rest)
  | none =>
    let rest ← readColon rest
    let rest ← orFault (skipValue rest)
    .ok (none, rest)

inductive Next where
  /-- another entry begins -/
  | entry (text : List Char)
  /-- the closing bracket has been read -/
  | close (rest : List Char)

def nextMember (first : Bool) (text : List Char) : Except Json.Fault Next :=
  match skipSpace text with
  | [] => .error .endOfObject
  | '\x7d' :: rest => .ok (.close rest)
  | ',' :: rest =>
    if first then .error .keyMustBeString
    else match skipSpace rest with
      | '"' :: rest => .ok (.entry rest)
      | '\x7d' :: _ => .error .trailingComma
      | [] => .error .endOfValue
      | _ => .error .keyMustBeString
  | c :: rest =>
    if first then (if c = '"' then .ok (.entry rest) else .error .keyMustBeString)
    else .error .expectedObjectCommaOrEnd

theorem nextMember_length {first : Bool} {text rest : List Char}
    (h : nextMember first text = .ok (.entry rest)) : rest.length < text.length := by
  unfold nextMember at h
  have h₀ := length_skipSpace_le text
  split at h
  · simp at h
  · simp at h
  · rename_i rest₁ heq
    rw [heq] at h₀
    have h₁ := length_skipSpace_le rest₁
    split at h
    · simp at h
    · split at h
      · rename_i rest₂ heq₂
        simp only [Except.ok.injEq, Next.entry.injEq] at h
        rw [heq₂, h] at h₁
        simp only [List.length_cons] at *; omega
      all_goals simp at h
  · rename_i c rest₁ _ _ heq
    rw [heq] at h₀
    split at h
    · split at h
      · simp only [Except.ok.injEq, Next.entry.injEq] at h
        rw [h] at h₀
        simp only [List.length_cons] at *; omega
      · simp at h
    · simp at h

theorem readColon_length {text rest : List Char} (h : readColon text = .ok rest) :
    rest.length < text.length := by
  unfold readColon at h
  have h₀ := length_skipSpace_le text
  split at h
  · rename_i rest₁ heq
    simp only [Except.ok.injEq] at h
    rw [heq, h] at h₀
    simp only [List.length_cons] at *; omega
  · simp at h
  · simp at h

theorem readText_length {text rest : List Char} {s : String} (h : readText text = .ok (s, rest)) :
    rest.length < text.length := by
  unfold readText at h
  have h₀ := length_skipSpace_le text
  split at h
  · rename_i rest₁ heq
    cases hr : readString rest₁ with
    | error e => simp [hr, orFault, bind, Except.bind] at h
    | ok p =>
      simp only [hr, orFault, bind, Except.bind, Except.ok.injEq,
        Prod.mk.injEq] at h
      have : p.2.length < rest₁.length := readString_length hr
      rw [heq] at h₀
      simp only [List.length_cons, ← h.2] at *; omega
  · simp at h
  · rename_i rest₁ _ _
    unfold mismatchAt at h
    cases hf : orFault (readFound (skipSpace text)) <;> simp [hf, bind, Except.bind] at h
theorem readMember_length {given : List (Key × String)} {text rest : List Char}
    {setting : Option (Key × String)} (h : readMember given text = .ok (setting, rest)) :
    rest.length < text.length := by
  unfold readMember at h
  cases hn : readString text with
  | error e => simp [hn, orFault, bind, Except.bind] at h
  | ok p =>
    have h₁ : p.2.length < text.length := readString_length hn
    simp only [hn, orFault, bind, Except.bind] at h
    split at h
    · split at h
      · simp at h
      · split at h
        · simp at h
        · rename_i rest₁ hc
          split at h
          · simp at h
          · rename_i q ht
            simp only [Except.ok.injEq, Prod.mk.injEq] at h
            have h₂ := readColon_length hc
            have h₃ : q.2.length < rest₁.length := readText_length (s := q.1) ht
            rw [← h.2]; omega
    · split at h
      · simp at h
      · rename_i rest₁ hc
        have h₂ := readColon_length hc
        cases hv : skipValue rest₁ with
        | error e => simp [hv] at h
        | ok rest₂ =>
          simp only [hv, Except.ok.injEq, Prod.mk.injEq] at h
          have h₃ := skipValue_length hv
          rw [← h.2]; omega

def readMembers (first : Bool) (given : List (Key × String)) (text : List Char) :
    Except DecodeError (List (Key × String) × List Char) :=
  match _hn : nextMember first text with
  | .error cause => .error (.fault cause)
  | .ok (.close rest) => .ok (given, rest)
  | .ok (.entry rest) =>
    match _hm : readMember given rest with
    | .error error => .error error
    | .ok (setting, rest) => readMembers false (given ++ setting.toList) rest
termination_by text.length
decreasing_by
  have := nextMember_length _hn
  have := readMember_length _hm
  omega

def readListEnd (text : List Char) : Except Json.Fault (List Char) :=
  match skipSpace text with
  | ']' :: rest => .ok rest
  | [] => .error .endOfList
  | ',' :: rest =>
    match skipSpace rest with
    | ']' :: _ => .error .trailingComma
    | _ => .error .trailingCharacters
  | _ => .error .trailingCharacters

def nextItem (first : Bool) (text : List Char) : Except Json.Fault Next :=
  match skipSpace text with
  | [] => .error .endOfList
  | ']' :: rest => .ok (.close rest)
  | ',' :: rest =>
    if first then .ok (.entry (',' :: rest))
    else match skipSpace rest with
      | ']' :: _ => .error .trailingComma
      | [] => .error .endOfValue
      | rest => .ok (.entry rest)
  | rest => if first then .ok (.entry rest) else .error .expectedListCommaOrEnd

def readItems (first : Bool) (keys : List Key) (text : List Char) :
    Except DecodeError (List (Key × String) × List Char) :=
  match keys with
  | [] => do
    let rest ← orFault (readListEnd text)
    .ok ([], rest)
  | key :: keys => do
    match ← orFault (nextItem first text) with
    | .close rest => .ok ([], rest)
    | .entry rest =>
      let (value, rest) ← readText rest
      let (values, rest) ← readItems false keys rest
      .ok ((key, value) :: values, rest)

def readSettings (text : List Char) : Except DecodeError (Settings × List Char) :=
  match skipSpace text with
  | [] => .error (.fault .endOfValue)
  | '\x7b' :: rest => do
    let (values, rest) ← readMembers true [] rest
    .ok (ofValues values, rest)
  | '[' :: rest => do
    let (values, rest) ← readItems true Key.all rest
    .ok (ofValues values, rest)
  | rest => mismatchAt .settings rest

def ofText (text : String) : Except DecodeError Settings := do
  let (settings, rest) ← readSettings text.toList
  if (skipSpace rest).isEmpty then .ok settings else .error (.fault .trailingCharacters)

/-! ### From a value -/

def Found.ofJson : Json → Found
  | .null => .null
  | .bool b => .bool b
  | .number n => .number n
  | .string s => .string s
  | .array _ => .list
  | .object _ => .object

def textOfJson : Json → Except DecodeError String
  | .string s => .ok s
  | other => .error (.mismatch (Found.ofJson other) .string)

def valuesOfMembers : List (String × Json) → Except DecodeError (List (Key × String))
  | [] => .ok []
  | (name, value) :: rest =>
    match Key.ofName? name with
    | some key => do
      let text ← textOfJson value
      let values ← valuesOfMembers rest
      .ok ((key, text) :: values)
    | none => valuesOfMembers rest

/-- Decodes a value. The members of an object are looked at in the order of their keys. A list is an
object that has none of them. -/
def ofJson (value : Json) : Except DecodeError Settings :=
  match value with
  | .object members => do
    let values ← valuesOfMembers (sortMembers members)
    .ok (ofValues values)
  | .array _ => .ok {}
  | other => .error (.mismatch (Found.ofJson other) .settings)

end PageSync.Settings
