import Triage.Pattern.Error
import Triage.Value.Basic

/-!
# Issues of a document

What is wrong with a document, and where.

* `Complaint`: what can be wrong with one value, with its wording in `Complaint.message`.
* `Issue`: a complaint together with the way from the root to the value.
* `Issue.report`: the full text about a document of which a list of issues is known.
-/

namespace Triage

/-- One step from a value to a part of it. -/
inductive Locator where
  | key (name : String)
  | index (position : Int)
  deriving DecidableEq, Repr

namespace Locator

/-- A step as it is written in a path; a name with a dot in it is set off. -/
def render : Locator → String
  | key name => if name.toList.contains '.' then s!"`{name}`" else name
  | index i => toString i

/-- The step to the value under a key. -/
def ofKey : Value → Locator
  | .text s => key s
  | .int n => index n
  | .bool b => index (if b then 1 else 0)
  | v => key v.shown

end Locator

/-- Why a value of the right form is refused nevertheless. -/
inductive Objection where
  | pattern (source : String) (failure : Pattern.Failure)
  | duplicateNames (names : List String)
  | logLevel (name : String)
  deriving DecidableEq, Repr

/-- The wording of an objection. A fault of grammar quotes the pattern; a limit does not. -/
def Objection.message : Objection → String
  | pattern source f =>
    match f with
    | .malformed _ _ =>
      s!"invalid regular expression {Text.quoted source}: {f.message source}"
    | _ => f.message source
  | duplicateNames names =>
    s!"duplicate category names: {(Value.list (names.map Value.text)).shown}"
  | logLevel name => s!"Unknown log level: {Text.quoted name}"

/-- What can be wrong with a value. -/
inductive Complaint where
  | missing
  | unknownKey
  | keyNotText
  | notText
  | textNotUnicode
  | textTooShort
  | notList
  | notRecord (model : String)
  | notInteger
  | unreadableInteger
  | integerTooLong
  | fractionalInteger
  | notFinite
  | belowMinimum (minimum : Int)
  | notBool
  | unreadableBool
  | notPath
  | refused (objection : Objection)
  deriving DecidableEq, Repr

namespace Complaint

/-- The code of a complaint. -/
def code : Complaint → String
  | missing => "missing"
  | unknownKey => "extra_forbidden"
  | keyNotText => "invalid_key"
  | notText => "string_type"
  | textNotUnicode => "string_unicode"
  | textTooShort => "string_too_short"
  | notList => "tuple_type"
  | notRecord _ => "model_type"
  | notInteger => "int_type"
  | unreadableInteger => "int_parsing"
  | integerTooLong => "int_parsing_size"
  | fractionalInteger => "int_from_float"
  | notFinite => "finite_number"
  | belowMinimum _ => "greater_than_equal"
  | notBool => "bool_type"
  | unreadableBool => "bool_parsing"
  | notPath => "path_type"
  | refused _ => "value_error"

/-- The wording of a complaint. -/
def message : Complaint → String
  | missing => "Field required"
  | unknownKey => "Extra inputs are not permitted"
  | keyNotText => "Keys should be strings"
  | notText => "Input should be a valid string"
  | textNotUnicode => "Input should be a valid string, unable to parse raw data as a unicode string"
  | textTooShort => "String should have at least 1 character"
  | notList => "Input should be a valid tuple"
  | notRecord model => s!"Input should be a valid dictionary or instance of {model}"
  | notInteger => "Input should be a valid integer"
  | unreadableInteger => "Input should be a valid integer, unable to parse string as an integer"
  | integerTooLong => "Unable to parse input string as an integer, exceeded maximum size"
  | fractionalInteger => "Input should be a valid integer, got a number with a fractional part"
  | notFinite => "Input should be a finite number"
  | belowMinimum m => s!"Input should be greater than or equal to {m}"
  | notBool => "Input should be a valid boolean"
  | unreadableBool => "Input should be a valid boolean, unable to interpret input"
  | notPath => "Input is not a valid path for <class 'pathlib.Path'>"
  | refused o => s!"Value error, {o.message}"

end Complaint

/-- A complaint about the value at a place of the document. -/
structure Issue where
  location : List Locator
  complaint : Complaint
  deriving DecidableEq, Repr

namespace Issue

/-- The issue as seen from one level further out. -/
def inside (l : Locator) (i : Issue) : Issue :=
  { i with location := l :: i.location }

/-- The lines of one issue: the place unless it is the root, and the complaint with its code. -/
def render (i : Issue) : String :=
  let place := if i.location.isEmpty then "" else ".".intercalate (i.location.map Locator.render) ++ "\n"
  s!"{place}  {i.complaint.message} [type={i.complaint.code}]"

/-- The full text on a document of the given model. -/
def report (model : String) (issues : List Issue) : String :=
  let noun := if issues.length == 1 then "validation error" else "validation errors"
  "\n".intercalate (s!"{issues.length} {noun} for {model}" :: issues.map render)

end Issue

end Triage
