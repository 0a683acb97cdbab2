import Triage.Text.Blank
import Triage.Text.Digit

/-!
# Integers in text

`integer?` reads a decimal integer the lenient way: white space around it, a sign, digits of any
script, and single underscores between digits.
-/

namespace Triage.Text

/-- Digits with at most one underscore between two of them; `afterDigit` tells whether a digit stands
just before. -/
def separatedDigits? (afterDigit : Bool) : List Char → Option (List Nat)
  | [] => if afterDigit then some [] else none
  | c :: cs =>
    if c == '_' then
      if afterDigit then
        match cs with
        | [] => none
        | d :: ds => do
          let n ← digitValue? d
          return n :: (← separatedDigits? true ds)
      else none
    else do
      let n ← digitValue? c
      return n :: (← separatedDigits? true cs)

/-- Reads an integer; `none` if the text is not one. -/
def integer? (s : String) : Option Int :=
  match trimList isBlank s.toList with
  | '-' :: cs => (separatedDigits? false cs).map fun ds => -(natOfDigits 10 ds : Int)
  | '+' :: cs => (separatedDigits? false cs).map fun ds => (natOfDigits 10 ds : Int)
  | cs => (separatedDigits? false cs).map fun ds => (natOfDigits 10 ds : Int)

end Triage.Text
