import Triage.Text.Digit

/-!
# Tags

A node has a tag that says what its value is. A plain scalar without one gets the tag of the first kind
whose form it has.

* `Tag.ofPlain`: that tag.
* `Timestamp.ofText?`: the parts of a date or time.
-/

namespace Triage.Yaml

open Triage.Text (isHexDigit natOfText)

namespace Tag

/-- The tag of a kind that the format itself knows. -/
def core (kind : String) : String := "tag:yaml.org,2002:" ++ kind

/-- The tag of texts. -/
def text : String := core "str"

/-- The tag of sequences. -/
def sequence : String := core "seq"

/-- The tag of mappings. -/
def mapping : String := core "map"

/-- The tag of the key whose value is merged into a mapping. -/
def merge : String := core "merge"

/-- The tag of the key whose value stands for a mapping. -/
def value : String := core "value"

end Tag

/-! ## Forms of plain scalars -/

/-- The text without a sign before it. -/
def dropSign : List Char → List Char
  | '+' :: cs => cs
  | '-' :: cs => cs
  | cs => cs

/-- A digit or an underscore. -/
def isDigitOrUnderscore (c : Char) : Bool := c.isDigit || c == '_'

/-- The rest after a digit and the digits and underscores that follow it. -/
def afterDigits? : List Char → Option (List Char)
  | [] => none
  | c :: cs => if c.isDigit then some (cs.dropWhile isDigitOrUnderscore) else none

/-- Whether a text is an exponent with a sign, or nothing. -/
def isSignedExponent : List Char → Bool
  | [] => true
  | e :: s :: ds =>
    (e == 'e' || e == 'E') && (s == '-' || s == '+') && !ds.isEmpty && ds.all Char.isDigit
  | _ => false

/-- The rest after groups of a colon and a number below sixty; at least one is needed. -/
def afterSixties? : Nat → List Char → Option (List Char)
  | 0, _ => none
  | fuel + 1, ':' :: a :: rest =>
    if !a.isDigit then none
    else
      let rest := match rest with
        | b :: more => if a ≤ '5' && b.isDigit then more else rest
        | [] => []
      match afterSixties? fuel rest with
      | some r => some r
      | none => if rest.head? == some ':' then none else some rest
  | _, _ => none

/-- The form of a number with a point. -/
def isFloatForm (cs : List Char) : Bool :=
  let unsigned := dropSign cs
  let pointed := match afterDigits? unsigned with
    | some ('.' :: rest) => isSignedExponent (rest.dropWhile isDigitOrUnderscore)
    | some rest =>
      match afterSixties? rest.length rest with
      | some ('.' :: rest) => rest.all isDigitOrUnderscore
      | _ => false
    | none => false
  let leadingPoint := match cs with
    | '.' :: rest =>
      match afterDigits? rest with
      | some rest => isSignedExponent rest
      | none => false
    | _ => false
  pointed || leadingPoint || [".inf", ".Inf", ".INF"].contains (String.ofList unsigned) ||
    [".nan", ".NaN", ".NAN"].contains (String.ofList cs)

/-- The form of an integer: binary, octal, decimal, hexadecimal, or to base sixty. -/
def isIntegerForm (cs : List Char) : Bool :=
  match dropSign cs with
  | ['0'] => true
  | '0' :: 'b' :: ds => !ds.isEmpty && ds.all fun c => c == '0' || c == '1' || c == '_'
  | '0' :: 'x' :: ds => !ds.isEmpty && ds.all fun c => isHexDigit c || c == '_'
  | '0' :: ds => ds.all fun c => Text.isOctalDigit c || c == '_'
  | ds =>
    match afterDigits? ds with
    | some [] => true
    | some rest => afterSixties? rest.length rest == some []
    | none => false

/-- The forms of truth values. -/
def boolForms : List String :=
  ["yes", "Yes", "YES", "no", "No", "NO", "true", "True", "TRUE", "false", "False", "FALSE", "on", "On",
    "ON", "off", "Off", "OFF"]

/-- The forms of no value. -/
def nullForms : List String := ["~", "null", "Null", "NULL", ""]

/-! ## Dates and times -/

/-- The parts of a date or time as they are written. -/
structure Timestamp where
  year : Nat
  month : Nat
  day : Nat
  /-- Hour, minute and second. -/
  time : Option (Nat × Nat × Nat)
  fraction : List Char
  /-- The zone in minutes, if one is given. -/
  zone : Option Int
  deriving DecidableEq, Repr

namespace Timestamp

/-- Reads a number of `least` up to `most` digits. -/
def number? (least most : Nat) (cs : List Char) : Option (Nat × List Char) :=
  let digits := (cs.take most).takeWhile Char.isDigit
  if digits.length < least then none else some (natOfText 10 digits, cs.drop digits.length)

/-- Reads a character. -/
def char? (c : Char) : List Char → Option (List Char)
  | d :: cs => if d == c then some cs else none
  | [] => none

/-- A space or tab. -/
def isGap (c : Char) : Bool := c == ' ' || c == '\t'

/-- Reads a zone up to the end of the text. -/
def zone? (cs : List Char) : Option (Option Int) :=
  match cs.dropWhile isGap with
  | [] => if cs.isEmpty then some none else none
  | ['Z'] => some (some 0)
  | s :: rest =>
    if s == '-' || s == '+' then do
      let (hours, rest) ← number? 1 2 rest
      let minutes ← match rest with
        | [] => some 0
        | ':' :: rest =>
          match number? 2 2 rest with
          | some (m, []) => some m
          | _ => none
        | _ => none
      let offset : Int := hours * 60 + minutes
      return some (if s == '-' then -offset else offset)
    else none

/-- Reads a time up to the end of the text. -/
def time? (year month day : Nat) (cs : List Char) : Option Timestamp := do
  let (hour, cs) ← number? 1 2 cs
  let (minute, cs) ← number? 2 2 (← char? ':' cs)
  let (second, cs) ← number? 2 2 (← char? ':' cs)
  let (fraction, cs) := match cs with
    | '.' :: rest => (rest.takeWhile Char.isDigit, rest.dropWhile Char.isDigit)
    | rest => ([], rest)
  let zone ← zone? cs
  return ⟨year, month, day, some (hour, minute, second), fraction, zone⟩

/-- Reads a date, and the time that follows it. -/
def ofText? (cs : List Char) : Option Timestamp := do
  let (year, cs) ← number? 4 4 cs
  let (month, cs) ← number? 1 2 (← char? '-' cs)
  let (day, cs) ← number? 1 2 (← char? '-' cs)
  match cs with
  | [] => return ⟨year, month, day, none, [], none⟩
  | c :: rest =>
    if c == 'T' || c == 't' then time? year month day rest
    else if isGap c then time? year month day (rest.dropWhile isGap)
    else none

/-- The form of a date or time. A date alone needs all its digits. -/
def isForm (cs : List Char) : Bool :=
  match ofText? cs with
  | none => false
  | some t => t.time.isSome || cs.length == 10

end Timestamp

/-- The tag of a plain scalar without one. -/
def Tag.ofPlain (s : String) : String :=
  let cs := s.toList
  -- one line feed at the end does not count, unless it is all there is
  let cs := if 1 < cs.length && cs.getLast? == some '\n' then cs.dropLast else cs
  let s := String.ofList cs
  if boolForms.contains s then Tag.core "bool"
  else if isFloatForm cs then Tag.core "float"
  else if isIntegerForm cs then Tag.core "int"
  else if s == "<<" then Tag.merge
  else if nullForms.contains s then Tag.core "null"
  else if Timestamp.isForm cs then Tag.core "timestamp"
  else if s == "=" then Tag.value
  else Tag.text

end Triage.Yaml
