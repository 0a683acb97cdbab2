import Triage.Files.Tree
import Triage.Log.Level
import Triage.Text.CaseMap
import Triage.Validation.Field

/-!
# Checks of settings

Settings come from documents and from the environment, where everything is text. So numbers and truth
values may also be written as text.

* `checkInteger`: an integer, or a number without a fraction, or the text of one.
* `checkBool`: a truth value, or a number or word for one.
* `checkPath`, `checkLevel`: paths and names of levels.
-/

namespace Triage

open Triage.Text (natOfText trimList)

/-! ## Integers as text -/

/-- White space without the information separators. -/
def isWhiteSpace (c : Char) : Bool :=
  Text.isBlank c && !('\x1c' ≤ c && c ≤ '\x1f')

/-- Splits off a sign. -/
def splitSign : List Char → Bool × List Char
  | '-' :: cs => (true, cs)
  | '+' :: cs => (false, cs)
  | cs => (false, cs)

/-- An integer of plain digits with at most one sign. -/
def plainInteger? (cs : List Char) : Option Int :=
  let (negative, ds) := splitSign cs
  if ds.isEmpty || !ds.all Char.isDigit then none
  else
    let n : Int := natOfText 10 ds
    some (if negative then -n else n)

/-- From how many characters on underscores may stand anywhere after the first digit. -/
def longIntegerLength : Nat := 19

/-- An integer of many digits with underscores anywhere but at its start. -/
def longInteger? (cs : List Char) : Option Int :=
  let (negative, ds) := splitSign cs
  let ds := if negative then (splitSign ds).2 else ds
  if ds.isEmpty || ds.head? == some '_' || !ds.all fun c => c.isDigit || c == '_' then none
  else
    let n : Int := natOfText 10 (ds.filter (· != '_'))
    some (if negative then -n else n)

/-- An integer without further ado. -/
def directInteger? (cs : List Char) : Option Int :=
  if cs.length < longIntegerLength then plainInteger? cs else longInteger? cs

/-- The text without zeros before the first other digit; the last zero of several stays, also before a
point. -/
def dropLeadingZeros : List Char → Option (List Char)
  | [] => none
  | c :: cs =>
    if c == '0' then go cs
    else if c.isDigit || c == '-' then some (c :: cs)
    else none
where
  /-- The rest after at least one zero. -/
  go : List Char → Option (List Char)
    | [] => some ['0']
    | c :: cs =>
      if c == '0' || c == '_' then go cs
      else if c.isDigit then some (c :: cs)
      else if c == '.' then some ('0' :: c :: cs)
      else none

/-- The text without a point and zeros at its end. -/
def dropZeroFraction (cs : List Char) : List Char :=
  let fraction := (cs.dropWhile (· != '.')).drop 1
  if cs.contains '.' && fraction.all (· == '0') then cs.takeWhile (· != '.') else cs

/-- Whether no two underscores follow each other. -/
def singleUnderscores : List Char → Bool
  | '_' :: '_' :: _ => false
  | _ :: cs => singleUnderscores cs
  | [] => true

/-- The text without underscores, if each of them stands alone and between other characters. -/
def dropUnderscores (cs : List Char) : List Char :=
  if cs.head? == some '_' || cs.getLast? == some '_' || !singleUnderscores cs then cs
  else cs.filter (· != '_')

/-- An integer after zeros, a fraction of zeros and underscores have been cleaned away. -/
def cleanedInteger? (cs : List Char) : Option Int := do
  let unsigned := match cs with
    | '+' :: rest => if rest.head? == some '-' then [] else rest
    | cs => cs
  let ds ← dropLeadingZeros unsigned
  directInteger? (dropUnderscores (dropZeroFraction ds))

/-- An integer as text. -/
def checkIntegerText (s : String) : Checked Int :=
  let cs := trimList isWhiteSpace s.toList
  if Text.maxDigits < (String.ofList cs).utf8ByteSize then .fail .integerTooLong
  else
    match (directInteger? cs).orElse fun _ => cleanedInteger? cs with
    | some n => .ok n
    | none => .fail .unreadableInteger

/-! ## Values -/

/-- The text of bytes. -/
def textOfBytes? (bs : List UInt8) : Option String :=
  (Text.decodeUtf8 bs).toOption.map String.ofList

/-- The least magnitude that does not fit into 64 bits beside a sign. -/
def wordLimit : Nat := 0x8000000000000000

/-- Whether a number fits into 64 bits. -/
def fitsWord (n : Int) : Bool := -(wordLimit : Int) ≤ n && n < (wordLimit : Int)

/-- An integer. -/
def checkInteger : Value → Checked Int
  | .int n => .ok n
  | .bool b => .ok (if b then 1 else 0)
  | .float x =>
    if !x.isFinite then .fail .notFinite
    else
      match x.toInt? with
      | some n => if n.natAbs < wordLimit then .ok n else .fail .integerTooLong
      | none => .fail .fractionalInteger
  | .text s => checkIntegerText s
  | .bytes bs =>
    match textOfBytes? bs with
    | some s => checkIntegerText s
    | none => .fail .unreadableInteger
  | _ => .fail .notInteger

/-- An integer of at least some minimum. -/
def checkIntegerFrom (minimum : Int) (v : Value) : Checked Int :=
  (checkInteger v).andThen fun n =>
    if n < minimum then .fail (.belowMinimum minimum) else .ok n

/-- Words for true. -/
def trueWords : List String := ["1", "on", "t", "true", "y", "yes"]

/-- Words for false. -/
def falseWords : List String := ["0", "off", "f", "false", "n", "no"]

/-- A word for a truth value, in any case of ASCII letters. -/
def checkBoolText (s : String) : Checked Bool :=
  let low := String.ofList (s.toList.map Char.toLower)
  if trueWords.contains low then .ok true
  else if falseWords.contains low then .ok false
  else .fail .unreadableBool

/-- Zero or one. -/
def checkBoolNumber (n : Int) : Checked Bool :=
  if n == 0 then .ok false else if n == 1 then .ok true else .fail .unreadableBool

/-- A truth value. -/
def checkBool : Value → Checked Bool
  | .bool b => .ok b
  | .text s => checkBoolText s
  | .bytes bs =>
    match textOfBytes? bs with
    | some s => checkBoolText s
    | none => .fail .unreadableBool
  | .int n => if fitsWord n then checkBoolNumber n else .fail .notBool
  | .float x =>
    match x.toInt? with
    | some n => if n.natAbs < wordLimit then checkBoolNumber n else .fail .notBool
    | none => .fail .notBool
  | _ => .fail .notBool

/-- A path, or nothing. -/
def checkPath : Value → Checked (Option String)
  | .null => .ok none
  | .text s => .ok (some (normalPath s))
  | .bytes bs =>
    match textOfBytes? bs with
    | some s => .ok (some (normalPath s))
    | none => .fail .notPath
  | _ => .fail .notPath

/-- The name of a level, in any case and with white space around it. -/
def checkLevel (v : Value) : Checked Log.LevelName :=
  (checkText v).andThen fun s =>
    match Log.LevelName.ofText? (Text.upper (Text.trim s)) with
    | some l => .ok l
    | none => .fail (.refused (.logLevel s))

end Triage
