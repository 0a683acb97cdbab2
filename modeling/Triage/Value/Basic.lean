import Triage.Number.Binary64
import Triage.Text.Quoted

/-!
# Document values

What a document, a setting or an argument may hold before it is known to mean anything.

* `Value`: the values themselves. Mappings keep their keys in the order of their first appearance.
* `Value.kind`: the name of a value's kind in messages.
* `Value.shown`: a value as it is shown inside a message; `Value.text` is the same without the quotes of
  a text.
* `Value.same`: equality of keys, under which numbers and truth values are equal by magnitude.
* `Value.entry?`, `Value.insertEntry`: the value under a text, and a value set there; `Value.entry?_insertEntry`: what
  the entries say afterwards.
-/

namespace Triage

/-- A day of the calendar. -/
structure Date where
  year : Nat
  month : Nat
  day : Nat
  deriving DecidableEq, Repr

/-- A time of day, with the offset from the common zone in minutes if one is given. -/
structure Clock where
  hour : Nat
  minute : Nat
  second : Nat
  microsecond : Nat
  offset : Option Int
  deriving DecidableEq, Repr

/-- A value of a document. -/
inductive Value where
  | null
  | bool (b : Bool)
  | int (n : Int)
  | float (x : Binary64)
  | text (s : String)
  | bytes (bs : List UInt8)
  | date (d : Date)
  | moment (d : Date) (t : Clock)
  | list (items : List Value)
  | pair (first second : Value)
  | set (items : List Value)
  | map (entries : List (Value × Value))
  deriving Inhabited, Repr

namespace Value

/-- The name of a value's kind in messages. -/
def kind : Value → String
  | null => "NoneType"
  | bool _ => "bool"
  | int _ => "int"
  | float _ => "float"
  | text _ => "str"
  | bytes _ => "bytes"
  | date _ => "date"
  | moment _ _ => "datetime"
  | list _ => "list"
  | pair _ _ => "tuple"
  | set _ => "set"
  | map _ => "dict"

/-- The name of a value's kind together with the library that defines it. -/
def qualifiedKind (v : Value) : String :=
  match v with
  | date _ | moment _ _ => s!"datetime.{v.kind}"
  | _ => v.kind

/-- An integer in decimal digits. -/
def renderInt (n : Int) : String := toString n

/-- The fields of a time of day as they are shown: seconds and microseconds only as far as they are
needed. -/
def shownClock (t : Clock) : List String :=
  let base := [toString t.hour, toString t.minute]
  let tail :=
    if t.microsecond != 0 then [toString t.second, toString t.microsecond]
    else if t.second != 0 then [toString t.second] else []
  base ++ tail

/-- A zone offset as it is shown. -/
def shownOffset : Option Int → List String
  | none => []
  | some m =>
    let seconds := m * 60
    let days := seconds.fdiv 86400
    let rest := seconds.fmod 86400
    if m == 0 then ["tzinfo=datetime.timezone.utc"]
    else
      let delta := (if days != 0 then [s!"days={days}"] else []) ++
        (if rest != 0 then [s!"seconds={rest}"] else [])
      ["tzinfo=datetime.timezone(datetime.timedelta(" ++ ", ".intercalate delta ++ "))"]

mutual

/-- A value as it is shown inside a message. -/
def shown : Value → String
  | null => "None"
  | bool b => if b then "True" else "False"
  | int n => renderInt n
  | float x => x.render
  | text s => Text.quoted s
  | bytes bs => Text.quotedBytes bs
  | date d => s!"datetime.date({d.year}, {d.month}, {d.day})"
  | moment d t =>
    "datetime.datetime(" ++ ", ".intercalate
      ([toString d.year, toString d.month, toString d.day] ++ shownClock t ++ shownOffset t.offset) ++ ")"
  | list items => "[" ++ ", ".intercalate (shownItems items) ++ "]"
  | pair a b => "(" ++ shown a ++ ", " ++ shown b ++ ")"
  | set items => if items.isEmpty then "set()" else "\x7b" ++ ", ".intercalate (shownItems items) ++ "\x7d"
  | map entries => "\x7b" ++ ", ".intercalate (shownEntries entries) ++ "\x7d"

/-- The items of a list as they are shown. -/
def shownItems : List Value → List String
  | [] => []
  | v :: vs => shown v :: shownItems vs

/-- The entries of a mapping as they are shown. -/
def shownEntries : List (Value × Value) → List String
  | [] => []
  | (k, v) :: es => (shown k ++ ": " ++ shown v) :: shownEntries es

end

/-- A value as part of a text: as it is shown, a text without quotes. -/
def toText : Value → String
  | text s => s
  | v => v.shown

/-- The magnitude of a number or truth value. -/
def number? : Value → Option (Int ⊕ Binary64)
  | bool b => some (.inl (if b then 1 else 0))
  | int n => some (.inl n)
  | float x => some (match x.toInt? with | some n => .inl n | none => .inr x)
  | _ => none

/-- Equality of scalar keys: numbers and truth values are equal by magnitude, other values only to a
value of their own kind. Collections are no keys, and the value that is no number equals nothing. -/
def same : Value → Value → Bool
  | null, null => true
  | text a, text b => a == b
  | bytes a, bytes b => a == b
  | date a, date b => a == b
  | moment a s, moment b t => a == b && s == t
  | a, b =>
    match a.number?, b.number? with
    | some (.inl m), some (.inl n) => m == n
    | some (.inr x), some (.inr y) => x == y && !x.isNaN
    | _, _ => false

/-- Whether a value may be a key. -/
def isKey : Value → Bool
  | list _ | set _ | map _ => false
  | pair a b => a.isKey && b.isKey
  | _ => true

/-- The value under a key. -/
def lookup? (k : Value) (entries : List (Value × Value)) : Option Value :=
  (entries.find? fun e => e.1.same k).map (·.2)

/-- The value under a text key. -/
def entry? (key : String) (entries : List (Value × Value)) : Option Value :=
  (entries.find? fun e => match e.1 with | text s => s == key | _ => false).map (·.2)

/-- Sets the value under a key: in its old place if the key is there, at the end otherwise. -/
def insertEntry (k v : Value) : List (Value × Value) → List (Value × Value)
  | [] => [(k, v)]
  | e :: es => if e.1.same k then (e.1, v) :: es else e :: insertEntry k v es

variable {es : List (Value × Value)} {key name : String} {k v : Value}

/-- A text is the same key as itself only. -/
theorem same_text_iff : k.same (.text name) = true ↔ k = .text name := by
  cases k with
  | text s =>
    rw [Value.text.injEq]
    exact beq_iff_eq
  | _ => exact iff_of_false (by simp [same, number?]) (by simp)

theorem entry?_cons_self : entry? key ((.text key, v) :: es) = some v := by
  unfold entry?
  rw [List.find?_cons_of_pos (by simp)]
  rfl

theorem entry?_cons_of_ne (h : k ≠ .text key) : entry? key ((k, v) :: es) = entry? key es := by
  unfold entry?
  rw [List.find?_cons_of_neg]
  cases k with
  | text s => exact fun heq => h (congrArg text (beq_iff_eq.1 heq))
  | _ => exact Bool.false_ne_true

/-- **What the entries say** after one entry is set. -/
theorem entry?_insertEntry :
    entry? key (insertEntry (.text name) v es) = if name = key then some v else entry? key es := by
  have hnew (es : List (Value × Value)) :
      entry? key ((.text name, v) :: es) = if name = key then some v else entry? key es := by
    split
    · next h => rw [h, entry?_cons_self]
    · next h => exact entry?_cons_of_ne fun heq => h (text.inj heq)
  induction es with
  | nil => exact hnew []
  | cons e es ih =>
    obtain ⟨k, w⟩ := e
    rw [insertEntry]
    by_cases hk : k = .text name
    · rw [if_pos (same_text_iff.2 hk), hk, hnew]
      split
      · rfl
      · next h => rw [entry?_cons_of_ne fun heq => h (text.inj heq)]
    · rw [if_neg fun hsame => hk (same_text_iff.1 hsame)]
      by_cases hkey : k = .text key
      · have hne : name ≠ key := fun heq => hk (hkey.trans (congrArg text heq.symm))
        rw [hkey, entry?_cons_self, entry?_cons_self, if_neg hne]
      · rw [entry?_cons_of_ne hkey, entry?_cons_of_ne hkey, ih]

end Value

end Triage
