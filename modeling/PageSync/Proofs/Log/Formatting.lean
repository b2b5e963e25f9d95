import Mathlib.Data.List.Induction
import PageSync.Log.Event

/-!
What the line of an event is made of. Each field that is recorded either sets the message or stands
in the line once, in its place (`Field.Parts`); the message is the one that was set last
(`Field.Message`). Only texts and formatted values under the name `message` set it. Errors, bits and
integers of 64 bits are ordinary fields under that name too.

The collector visits the fields one after the other. What a visit does to its message and to its
list is said once for each kind of field, and carried through a whole event by induction.
-/

namespace PageSync.Log

/-! ### Values -/

namespace Value

/-- How a formatted value is written: wide integers and floats as numbers, texts as they are or
quoted and escaped. -/
inductive Formatted : Value → String → Prop where
  | wide (n : Int) : Formatted (.wide n) (integerText n)
  | float (x : Float) : Formatted (.float x) (Decimal.Style.debug.write x)
  | display (s : String) : Formatted (.display s) s
  | debug (s : String) : Formatted (.debug s) (Text.quoted s)

/-- How a value stands behind the name of its field. Only texts and errors are put between quotes,
and these as they are. -/
inductive Written : Value → String → Prop where
  | signed (n : Int) : Written (.signed n) (integerText n)
  | unsigned (n : Nat) : Written (.unsigned n) (Text.decimalText n)
  | yes : Written (.bool true) "true"
  | no : Written (.bool false) "false"
  | text (s : String) : Written (.text s) ("\"" ++ s ++ "\"")
  | failure (s : String) : Written (.failure s) ("\"" ++ s ++ "\"")
  | formatted {value : Value} {text : String} (h : value.Formatted text) : Written value text

/-- Every value is written somehow, but for the one that is none. -/
theorem written_or_empty (value : Value) : (∃ text, value.Written text) ∨ value = .empty := by
  cases value with
  | signed n => exact .inl ⟨_, .signed n⟩
  | unsigned n => exact .inl ⟨_, .unsigned n⟩
  | wide n => exact .inl ⟨_, .formatted (.wide n)⟩
  | bool b =>
      cases b with
      | false => exact .inl ⟨_, .no⟩
      | true => exact .inl ⟨_, .yes⟩
  | float x => exact .inl ⟨_, .formatted (.float x)⟩
  | text s => exact .inl ⟨_, .text s⟩
  | display s => exact .inl ⟨_, .formatted (.display s)⟩
  | debug s => exact .inl ⟨_, .formatted (.debug s)⟩
  | failure s => exact .inl ⟨_, .failure s⟩
  | empty => exact .inr rfl

end Value

/-! ### Fields -/

namespace Field

/-- The message that a field sets: its name is `message`, and it is recorded as a text or
formatted. -/
inductive SetsMessage : Field → String → Prop where
  | text (s : String) : SetsMessage ⟨"message", .text s⟩ s
  | formatted {value : Value} {s : String} (h : value.Formatted s) :
    SetsMessage ⟨"message", value⟩ s

def Ordinary (field : Field) : Prop := ∀ message, ¬field.SetsMessage message

inductive Part : Field → String → Prop where
  | part {field : Field} {text : String} (hordinary : field.Ordinary)
      (h : field.value.Written text) : Part field (field.name ++ "=" ++ text)

/-- The parts of the line that fields are: each field but those that set a message, once and in
order. A field without a value is not recorded. -/
inductive Parts : List Field → List String → Prop where
  | nil : Parts [] []
  | part {field : Field} {fields : List Field} {text : String} {parts : List String}
      (h : field.Part text) (hrest : Parts fields parts) : Parts (field :: fields) (text :: parts)
  | message {field : Field} {fields : List Field} {message : String} {parts : List String}
      (h : field.SetsMessage message) (hrest : Parts fields parts) : Parts (field :: fields) parts
  | empty {name : String} {fields : List Field} {parts : List String} (hrest : Parts fields parts) :
      Parts (⟨name, .empty⟩ :: fields) parts

/-- The message is the one that was set last; it is empty if none was set. -/
inductive Message : List Field → String → Prop where
  | last {before after : List Field} {field : Field} {message : String}
      (h : field.SetsMessage message) (hafter : ∀ other ∈ after, other.Ordinary) :
      Message (before ++ field :: after) message
  | nothing {fields : List Field} (h : ∀ field ∈ fields, field.Ordinary) : Message fields ""

/-- A field sets a message, or is a part of the line, or is not recorded. -/
theorem setsMessage_or_part_or_empty (field : Field) :
    (∃ message, field.SetsMessage message) ∨ (∃ text, field.Part text) ∨ field.value = .empty := by
  by_cases hordinary : field.Ordinary
  · rcases field.value.written_or_empty with ⟨text, h⟩ | h
    · exact .inr (.inl ⟨_, .part hordinary h⟩)
    · exact .inr (.inr h)
  · exact .inl (not_forall_not.mp hordinary)

/-- Every list of fields has its parts. -/
theorem exists_parts (fields : List Field) : ∃ parts, Parts fields parts := by
  induction fields with
  | nil => exact ⟨[], .nil⟩
  | cons field fields ih =>
      obtain ⟨parts, hrest⟩ := ih
      rcases field.setsMessage_or_part_or_empty with ⟨message, h⟩ | ⟨text, h⟩ | h
      · exact ⟨parts, .message h hrest⟩
      · exact ⟨text :: parts, .part h hrest⟩
      · obtain ⟨name, value⟩ := field
        obtain rfl : value = .empty := h
        exact ⟨parts, .empty hrest⟩

theorem Message.concat {fields : List Field} {field : Field} {m : String} (h : Message fields m)
    (hordinary : field.Ordinary) : Message (fields ++ [field]) m := by
  cases h with
  | last h hafter =>
      rw [List.append_assoc, List.cons_append]
      refine .last h ?_
      rw [List.forall_mem_append, List.forall_mem_singleton]
      exact ⟨hafter, hordinary⟩
  | nothing h =>
      refine .nothing ?_
      rw [List.forall_mem_append, List.forall_mem_singleton]
      exact ⟨h, hordinary⟩

/-- Every list of fields has its message, perhaps the empty one. -/
theorem exists_message (fields : List Field) : ∃ m, Message fields m := by
  -- by the last field, which overwrites the message or leaves it
  induction fields using List.reverseRecOn with
  | nil => exact ⟨"", .nothing nofun⟩
  | append_singleton fields last ih =>
      by_cases hordinary : last.Ordinary
      · obtain ⟨m, hm⟩ := ih
        exact ⟨m, hm.concat hordinary⟩
      · obtain ⟨m, hm⟩ := not_forall_not.mp hordinary
        exact ⟨m, .last hm nofun⟩

end Field

/-! ### Visits -/

namespace Collector

variable (collector : Collector)

theorem record_of_setsMessage {field : Field} {message : String} (h : field.SetsMessage message) :
    collector.record field = collector.setMessage message := by
  cases h with
  | text => rfl
  | formatted h => cases h <;> rfl

theorem recordText_of_ne {name : String} (h : name ≠ "message") (s : String) :
    collector.recordText name s = collector.push name ("\"" ++ s ++ "\"") := by
  rw [recordText, if_neg h]

theorem recordFormatted_of_ne {name : String} (h : name ≠ "message") (s : String) :
    collector.recordFormatted name s = collector.push name s := by
  rw [recordFormatted, if_neg h]

theorem record_of_written {name text : String} {value : Value} (h : value.Written text)
    (hordinary : Field.Ordinary ⟨name, value⟩) :
    collector.record ⟨name, value⟩ = collector.push name text := by
  cases h with
  | signed => rfl
  | unsigned => rfl
  | yes => rfl
  | no => rfl
  | failure => rfl
  | text s =>
      have hname : name ≠ "message" := fun heq => hordinary s (heq ▸ .text s)
      exact collector.recordText_of_ne hname s
  | formatted h =>
      have hname : name ≠ "message" := fun heq => hordinary text (heq ▸ .formatted h)
      cases h with
      | wide => exact collector.recordFormatted_of_ne hname _
      | float => exact collector.recordFormatted_of_ne hname _
      | display => exact collector.recordFormatted_of_ne hname _
      | debug => exact collector.recordFormatted_of_ne hname _

/-- A part is added behind the others. -/
theorem record_of_part {field : Field} {text : String} (h : field.Part text) :
    collector.record field = { collector with fields := collector.fields ++ [text] } := by
  obtain ⟨hordinary, hwritten⟩ := h
  exact collector.record_of_written hwritten hordinary

/-- Only a field that sets a message changes it. -/
theorem message_record_of_ordinary {field : Field} (h : field.Ordinary) :
    (collector.record field).message = collector.message := by
  rcases field.setsMessage_or_part_or_empty with ⟨message, hmessage⟩ | ⟨text, hpart⟩ | hempty
  · exact absurd hmessage (h message)
  · rw [collector.record_of_part hpart]
  · rw [record, hempty]

theorem message_foldl_of_ordinary {fields : List Field} (h : ∀ field ∈ fields, field.Ordinary) :
    (fields.foldl record collector).message = collector.message := by
  induction fields generalizing collector with
  | nil => rfl
  | cons field fields ih =>
      rw [List.forall_mem_cons] at h
      rw [List.foldl_cons, ih _ h.2, message_record_of_ordinary collector h.1]

theorem fields_foldl {fields : List Field} {parts : List String} (h : Field.Parts fields parts) :
    (fields.foldl record collector).fields = collector.fields ++ parts := by
  induction h generalizing collector with
  | nil => exact (List.append_nil _).symm
  | part h _ ih =>
      rw [List.foldl_cons, ih, collector.record_of_part h, List.append_assoc, List.singleton_append]
  | message h _ ih =>
      rw [List.foldl_cons, ih, collector.record_of_setsMessage h]
      rfl
  | empty _ ih =>
      rw [List.foldl_cons, ih]
      rfl

/-- The collector ends with the message that was set last. -/
theorem message_collect {fields : List Field} {m : String} (h : Field.Message fields m) :
    (collect fields).message = m := by
  cases h with
  | last h hafter =>
      rw [collect, List.foldl_append, List.foldl_cons, message_foldl_of_ordinary _ hafter,
        record_of_setsMessage _ h]
      rfl
  | nothing h => exact message_foldl_of_ordinary _ h

/-- It ends with all parts in order. -/
theorem fields_collect {fields : List Field} {parts : List String}
    (h : Field.Parts fields parts) : (collect fields).fields = parts := fields_foldl _ h

end Collector

/-! ### Lines -/

/-- The text of a line: level, target, the span in brackets if there is one, and after a dash the
message, if it is not empty, and the other fields. -/
inductive Event.LineText (event : Event) (span : Option String) : String → Prop where
  | line {message : String} {parts : List String} (hmessage : Field.Message event.fields message)
      (hparts : Field.Parts event.fields parts) :
      LineText event span (event.level.name ++ " " ++ event.target ++
        (span.elim "" fun name => " [" ++ name ++ "]") ++ " - " ++
        " ".intercalate ((if message = "" then [] else [message]) ++ parts))

/-- A blank stands between the message and the fields only if there are both. -/
theorem separated_eq (line message : String) (parts : List String) :
    (if parts.isEmpty then line ++ message
      else (if message.isEmpty then line ++ message else line ++ message ++ " ") ++
        " ".intercalate parts) =
      line ++ " ".intercalate ((if message = "" then [] else [message]) ++ parts) := by
  by_cases hmessage : message = ""
  · subst hmessage
    cases parts with
    | nil => rfl
    | cons part parts => simp
  · have hempty : message.isEmpty = false := by simpa using hmessage
    rw [if_neg hmessage, hempty]
    cases parts with
    | nil => simp
    | cons part parts => simp [String.append_assoc]

theorem Event.text_line {event : Event} {span : Option String} {message : String}
    {parts : List String} (hmessage : Field.Message event.fields message)
    (hparts : Field.Parts event.fields parts) :
    (event.line span).text = event.level.name ++ " " ++ event.target ++
      (span.elim "" fun name => " [" ++ name ++ "]") ++ " - " ++
      " ".intercalate ((if message = "" then [] else [message]) ++ parts) := by
  rw [← separated_eq, ← Collector.message_collect hmessage, ← Collector.fields_collect hparts]
  cases span with
  | none => rfl
  | some name => rfl

/-- The line of an event is the one that is made of its message and its other fields. -/
theorem Event.text_line_eq_iff (event : Event) (span : Option String) (text : String) :
    (event.line span).text = text ↔ event.LineText span text := by
  constructor
  · rintro rfl
    obtain ⟨message, hmessage⟩ := Field.exists_message event.fields
    obtain ⟨parts, hparts⟩ := Field.exists_parts event.fields
    rw [text_line hmessage hparts]
    exact .line hmessage hparts
  · rintro ⟨hmessage, hparts⟩
    exact text_line hmessage hparts

/-- The message that was set last stands first; a number named `message` keeps its place. -/
example : (Event.line ⟨.info, "app", [⟨"message", .text "begun"⟩, ⟨"message", .signed (-7)⟩,
    ⟨"file", .text "a b"⟩, ⟨"message", .display "done"⟩]⟩ (some "request")).text =
    "INFO app [request] - done message=-7 file=\"a b\"" := by
  decide

end PageSync.Log
