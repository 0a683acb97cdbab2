import Triage.Text.Base64
import Triage.Text.CaseMap
import Triage.Text.Integer
import Triage.Value.Basic
import Triage.Yaml.Error
import Triage.Yaml.Tag

/-!
# Values of scalars

What the text of a scalar stands for under a tag. A tag may be given to a text that does not fit it, which
is a `Misfit`.

* `integerOf`, `floatOf`, `boolOf`, `timestampOf`, `bytesOf`: the values, one kind each.
-/

namespace Triage.Yaml

open Triage.Text (digitValue? hexValue? natOfDigits natOfText trimList isBlank)

/-- Whether a date exists, and if not, why. -/
def checkDate (year month day : Nat) : Except Misfit Date :=
  let leap := year % 4 == 0 && (year % 100 != 0 || year % 400 == 0)
  let days :=
    if month == 2 then if leap then 29 else 28
    else if month == 4 || month == 6 || month == 9 || month == 11 then 30
    else 31
  if year == 0 then .error (.outOfRange "year 0 is out of range")
  else if month < 1 || 12 < month then .error (.outOfRange "month must be in 1..12")
  else if day < 1 || days < day then .error (.outOfRange "day is out of range for month")
  else .ok ⟨year, month, day⟩

/-- The text on an offset that reaches a day. -/
def offsetTooLarge (minutes : Int) : Misfit :=
  let seconds := minutes * 60
  let days := seconds.fdiv 86400
  let rest := seconds.fmod 86400
  let parts := (if days != 0 then [s!"days={days}"] else []) ++
    (if rest != 0 then [s!"seconds={rest}"] else [])
  .outOfRange ("offset must be a timedelta strictly between -timedelta(hours=24) and " ++
    "timedelta(hours=24), not datetime.timedelta(" ++ ", ".intercalate parts ++ ").")

/-- Microseconds from the digits of a fraction; those beyond the sixth are cut off. -/
def microseconds (digits : List Char) : Nat :=
  natOfText 10 ((digits ++ List.replicate 6 '0').take 6)

/-- The value of a date or time. -/
def timestampOf (text : String) : Except Misfit Value :=
  match Timestamp.ofText? text.toList with
  | none => .error .noTimestamp
  | some t =>
    match t.time with
    | none => (checkDate t.year t.month t.day).map Value.date
    | some (hour, minute, second) =>
      if t.zone.any fun z => 1440 ≤ z.natAbs then .error (offsetTooLarge (t.zone.getD 0))
      else
        match checkDate t.year t.month t.day with
        | .error e => .error e
        | .ok d =>
          if 23 < hour then .error (.outOfRange "hour must be in 0..23")
          else if 59 < minute then .error (.outOfRange "minute must be in 0..59")
          else if 59 < second then .error (.outOfRange "second must be in 0..59")
          else .ok (.moment d ⟨hour, minute, second, microseconds t.fraction, t.zone⟩)

/-- The value of a truth value. -/
def boolOf (text : String) : Except Misfit Value :=
  let low := Text.lower text
  if ["yes", "true", "on"].contains low then .ok (.bool true)
  else if ["no", "false", "off"].contains low then .ok (.bool false)
  else .error (.noBool low)

/-- A text without its underscores. -/
def withoutUnderscores (s : String) : List Char :=
  s.toList.filter (· != '_')

/-- Whether a text starts with a minus sign. -/
def isNegated (cs : List Char) : Bool := cs.head? == some '-'

/-- A decimal integer, in any script and with white space around it. -/
def decimalOf (cs : List Char) : Except Misfit Int :=
  let text := String.ofList cs
  let digits := (dropSign (trimList isBlank cs)).length
  match Text.integer? text with
  | none => .error (.noInteger 10 text)
  | some n => if Text.maxDigits < digits then .error (.integerTooLong digits) else .ok n

/-- The mark that may stand before digits of a base. -/
def baseMark (base : Nat) : Char :=
  if base == 2 then 'b' else if base == 8 then 'o' else 'x'

/-- An integer to a base, with white space around it, a sign, and the mark of the base before it. -/
def integerToBase (base : Nat) (cs : List Char) : Except Misfit Int :=
  let trimmed := trimList isBlank cs
  let unsigned := dropSign trimmed
  let digits := match unsigned with
    | '0' :: m :: ds => if m.toLower == baseMark base && !ds.isEmpty then ds else unsigned
    | ds => ds
  let values := digits.filterMap fun c => ((hexValue? c).or (digitValue? c)).filter (· < base)
  if digits.isEmpty || values.length != digits.length then
    .error (.noInteger base (String.ofList cs))
  else
    let n : Int := natOfDigits base values
    .ok (if isNegated trimmed then -n else n)

/-- The parts of a text between colons. -/
def colonParts : List Char → List (List Char)
  | [] => [[]]
  | c :: cs =>
    if c == ':' then [] :: colonParts cs
    else
      match colonParts cs with
      | [] => [[c]]
      | p :: ps => (c :: p) :: ps

/-- The value of an integer: to base two, sixteen, eight, sixty or ten by its first characters. -/
def integerOf (text : String) : Except Misfit Value := do
  let cs := withoutUnderscores text
  let sign : Int := if isNegated cs then -1 else 1
  if cs.isEmpty then .error .emptyNumber
  else
    match dropSign cs with
    | [] => .error .emptyNumber
    | ['0'] => return .int 0
    | '0' :: 'b' :: ds => return .int (sign * (← integerToBase 2 ds))
    | '0' :: 'x' :: ds => return .int (sign * (← integerToBase 16 ds))
    | '0' :: ds => return .int (sign * (← integerToBase 8 ('0' :: ds)))
    | ds =>
      if ds.contains ':' then
        let parts ← (colonParts ds).mapM decimalOf
        return .int (sign * parts.foldl (fun n d => n * 60 + d) 0)
      else return .int (sign * (← decimalOf ds))

/-- A digit of any script as a digit of ASCII; other characters as they are. -/
def asciiDigit (c : Char) : Char :=
  match digitValue? c with
  | some n => Char.ofNat ('0'.toNat + n)
  | none => c

/-- A decimal number with a point or exponent, in any script, or one of the names of infinity and of no
number. -/
def plainFloatOf (cs : List Char) : Except Misfit Binary64 :=
  let trimmed := (trimList isBlank cs).map asciiDigit
  let negative := isNegated trimmed
  let unsigned := dropSign trimmed
  let low := Text.lower (String.ofList unsigned)
  let fault : Except Misfit Binary64 := .error (.noFloat (String.ofList cs))
  if low == "inf" || low == "infinity" then
    .ok (if negative then Binary64.infinity.neg else Binary64.infinity)
  else if low == "nan" then .ok Binary64.nan
  else
    let whole := unsigned.takeWhile Char.isDigit
    let rest := unsigned.dropWhile Char.isDigit
    let (fraction, rest) := match rest with
      | '.' :: r => (r.takeWhile Char.isDigit, r.dropWhile Char.isDigit)
      | r => ([], r)
    if whole.isEmpty && fraction.isEmpty then fault
    else
      let shift : Int := -(fraction.length : Int)
      let mantissa := natOfText 10 (whole ++ fraction)
      match rest with
      | [] => .ok (.ofDecimal negative mantissa shift)
      | e :: r =>
        let ds := dropSign r
        if (e == 'e' || e == 'E') && !ds.isEmpty && ds.all Char.isDigit then
          let n : Int := natOfText 10 ds
          .ok (.ofDecimal negative mantissa (shift + if isNegated r then -n else n))
        else fault

/-- The most parts to base sixty that a number with a point may have: sixty to the power of this number is
beyond the largest one. -/
def maxFloatParts : Nat := 174

/-- The value of a number with a point. -/
def floatOf (text : String) : Except Misfit Value := do
  let cs := (Text.lower (String.ofList (withoutUnderscores text))).toList
  if cs.isEmpty then .error .emptyNumber
  else
    let signed (x : Binary64) : Value := .float (if isNegated cs then x.neg else x)
    let unsigned := dropSign cs
    if String.ofList unsigned == ".inf" then return signed .infinity
    else if String.ofList unsigned == ".nan" then return .float .nan
    else if unsigned.contains ':' then
      let parts ← (colonParts unsigned).mapM plainFloatOf
      if maxFloatParts < parts.length then .error .weightTooLarge
      let sum := parts.reverse.foldl (fun (acc : Float × Float) d =>
        (acc.1 + d.toFloat * acc.2, acc.2 * 60)) (0, 1)
      return signed (.ofFloat sum.1)
    else return signed (← plainFloatOf unsigned)

/-- The value of bytes in base 64. -/
def bytesOf (text : String) : Except Problem Value :=
  let cs := text.toList
  if cs.all fun c => c.toNat < 128 then
    match Text.decodeBase64 cs with
    | .ok bs => .ok (.bytes bs)
    | .error f => .error (.notBase64 f.message)
  else .error (.notAscii text)

end Triage.Yaml
