import Triage.Fault.Basic
import Triage.Text.CaseMap

/-!
# Labels

A fault is counted under a label that is made from names of classes and never from a message.

* `camelCase`: a name in parts joined by underscores, with each part capitalised.
* `prettyLabel`: a name with a capital first letter and one `Error` at its end.
* `Fault.label`: the label of a fault. A class that says nothing about the failure gives way to the cause.
* `Fault.describe`: the line that tells of a fault, its message and its cause.
-/

namespace Triage

open Triage.Text (lower upper)

/-- The text with its first character in upper case. -/
def capitalize : List Char → List Char
  | [] => []
  | c :: cs => Text.upperChars c ++ cs

/-- The parts of a list between the underscores, empty ones included. -/
def underscoreParts : List Char → List (List Char)
  | [] => [[]]
  | c :: cs =>
    if c == '_' then [] :: underscoreParts cs
    else
      match underscoreParts cs with
      | [] => [[c]]
      | p :: ps => (c :: p) :: ps

/-- A name in parts joined by underscores as one word: everything in lower case, then each part
capitalised. -/
def camelCase (name : String) : String :=
  String.ofList ((underscoreParts (lower name).toList).flatMap capitalize)

/-- The text without the given ending, if it has it. -/
def dropEnding (ending text : List Char) : List Char :=
  if ending.isSuffixOf text then text.take (text.length - ending.length) else text

/-- A name without one `Error` at its end. -/
def withoutError (name : String) : String :=
  String.ofList (dropEnding "Error".toList name.toList)

/-- A name with a capital first letter, without one `Exception` and then one `Error` at its end, and with
`Error` put there. -/
def prettyLabel (name : String) : String :=
  let bare := dropEnding "Error".toList (dropEnding "Exception".toList (capitalize name.toList))
  String.ofList (bare ++ "Error".toList)

namespace Fault

/-- What stands before the class name: the token for a class that says nothing, the error type, or the
token, for a structured fault, and nothing otherwise. -/
def labelToken (f : Fault) (token : String) : String :=
  match f.cls.generic with
  | some .exception | some .runtime => token
  | _ => if f.cls.isEngine then ((f.errorType.map lower).getD token) else ""

/-- The label of a fault, given its cause. -/
def label (f : Fault) (cause : Option Fault) (token : String) : String :=
  let f := if f.cls.generic.isSome then cause.getD f else f
  prettyLabel (f.labelToken token ++ f.cls.name)

/-- The message for matching; a message that cannot be shown counts as empty. -/
def matchText (f : Fault) : String :=
  match f.message with
  | .text s => s
  | .broken _ => ""

/-- The line that tells of a fault, given its cause, or the message of the fault that showing it gives. -/
def describe (f : Fault) (cause : Option Fault) : Except String String :=
  match f.message with
  | .broken e => .error e
  | .text s =>
    let message := if s.isEmpty then Value.null.toText else s
    match cause.map (·.shown) with
    | none => .ok s!"Exception: {f.cls.name}. Message: {message}. Cause: None"
    | some (.text c) => .ok s!"Exception: {f.cls.name}. Message: {message}. Cause: {c}"
    | some (.broken e) => .error e

end Fault

namespace FaultGraph

/-- The label of the fault at a position. -/
def label (g : FaultGraph) (i : Nat) (token : String) : Option String :=
  (g.fault? i).map fun f => f.label (g.causeFault? i) token

end FaultGraph

end Triage
