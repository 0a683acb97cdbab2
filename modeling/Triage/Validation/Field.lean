import Triage.Validation.Checked
import Triage.Pattern.Basic

/-!
# Checks of scalars, lists and records

* `checkText`, `checkNonEmptyText`, `checkPattern`, `checkList`: single values.
* `FieldName`: a field of a record, known by a title and by a plain name. The title wins if both are
  given, and the plain name then counts as an unknown key.
* `checkNoUnknownKeys`: every key of a record must be one that a field has taken.
-/

namespace Triage

/-- A text. Bytes are read as UTF-8. -/
def checkText : Value → Checked String
  | .text s => .ok s
  | .bytes bs =>
    match String.fromUTF8? ⟨bs.toArray⟩ with
    | some s => .ok s
    | none => .fail .textNotUnicode
  | _ => .fail .notText

/-- A text that is not empty. -/
def checkNonEmptyText (v : Value) : Checked String :=
  (checkText v).andThen fun s => if s.isEmpty then .fail .textTooShort else .ok s

/-- A text that is a regular expression. -/
def checkPattern (source : String) : Checked Pattern :=
  match Pattern.compile source with
  | .ok p => .ok p
  | .error .countTooLarge => .failed (.beyondLimit .countTooLarge)
  | .error .codePointTooLarge => .failed (.beyondLimit .codePointTooLarge)
  | .error f => .fail (.refused (.pattern source f))

/-- A list of values, each checked at its position. A set or a list of pairs is a list, too. -/
def checkList {α : Type} (check : Value → Checked α) : Value → Checked (List α)
  | .list vs => Checked.items check 0 vs
  | .set vs => Checked.items check 0 vs
  | .pair a b => Checked.items check 0 [a, b]
  | _ => .fail .notList

/-- A list of values, or nothing, which stands for the empty list. -/
def checkOptionalList {α : Type} (check : Value → Checked α) : Value → Checked (List α)
  | .null => .ok []
  | v => checkList check v

/-- A field of a record. -/
structure FieldName where
  title : String
  name : String
  deriving DecidableEq, Repr

namespace FieldName

/-- The key by which the field is given, and its value. -/
def find? (f : FieldName) (entries : List (Value × Value)) : Option (String × Value) :=
  match Value.entry? f.title entries with
  | some v => some (f.title, v)
  | none => (Value.entry? f.name entries).map fun v => (f.name, v)

/-- Checks a field that must be given. -/
def required {α : Type} (f : FieldName) (check : Value → Checked α)
    (entries : List (Value × Value)) : Checked α :=
  match f.find? entries with
  | some (key, v) => (check v).inside (.key key)
  | none => (Checked.fail .missing).inside (.key f.title)

/-- Checks a field that has a default. -/
def optional {α : Type} (f : FieldName) (default : α) (check : Value → Checked α)
    (entries : List (Value × Value)) : Checked α :=
  match f.find? entries with
  | some (key, v) => (check v).inside (.key key)
  | none => .ok default

end FieldName

/-- The complaint about one key of a record, unless a field has taken it. -/
def unknownKey? (taken : List String) : Value → Option Issue
  | .text s => if taken.contains s then none else some ⟨[.key s], .unknownKey⟩
  | k => some ⟨[Locator.ofKey k], .keyNotText⟩

/-- Refuses every key of a record that no field has taken. -/
def checkNoUnknownKeys (fields : List FieldName) (entries : List (Value × Value)) : Checked Unit :=
  let taken := fields.filterMap fun f => (f.find? entries).map (·.1)
  match entries.filterMap fun e => unknownKey? taken e.1 with
  | [] => .ok ()
  | is => .failed (.issues is)

end Triage
