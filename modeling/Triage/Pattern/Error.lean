import Triage.Text.Quoted

/-!
# What can be wrong with a pattern

* `Cause`: the grammatical faults, with their wording in `Cause.message`.
* `Failure`: a fault with its place, or one of the limits that are not faults of grammar.
* `Failure.message`: the full text; a place in a pattern of several lines also names line and column.
-/

namespace Triage.Pattern

open Triage.Text (quoted)

/-- A letter of an inline flag group that is missing or wrong. -/
inductive FlagFault where
  | missing (expected : String)
  | unknown
  | localeInText
  | incompatibleTypes
  | typeTurnedOff
  | globalTurnedOn
  | globalTurnedOff
  | onAndOff
  deriving Repr, DecidableEq

/-- The grammatical faults of a pattern. -/
inductive Cause where
  | danglingEscape
  | badEscape (escape : String)
  | incompleteEscape (escape : String)
  | octalTooLarge (escape : String)
  | missingBrace
  | unknownCharacterName (name : String)
  | missingName (what : String)
  | unterminatedName (terminator : String)
  | badGroupName (name : String)
  | unknownGroupName (name : String)
  | groupRedefined (name : String) (group was : Nat)
  | openGroup
  | groupInSameLookbehind
  | noSuchGroup (group : Nat)
  | badGroupNumber
  | unterminatedSet
  | badRange (first last : String)
  | bounds
  | nothingToRepeat
  | multipleRepeat
  | unexpectedEnd
  | unknownExtension (text : String)
  | unterminatedComment
  | unterminatedGroup
  | unbalancedParenthesis
  | tooManyBranches
  | flagsNotAtStart
  | flags (fault : FlagFault)
  | lookbehindWidth
  | lookbehindTooWide
  | templateOperator (name : String)
  deriving Repr, DecidableEq

/-- The wording of a flag fault. -/
def FlagFault.message : FlagFault → String
  | missing expected => s!"missing {expected}"
  | unknown => "unknown flag"
  | localeInText => "bad inline flags: cannot use 'L' flag with a str pattern"
  | incompatibleTypes => "bad inline flags: flags 'a', 'u' and 'L' are incompatible"
  | typeTurnedOff => "bad inline flags: cannot turn off flags 'a', 'u' and 'L'"
  | globalTurnedOn => "bad inline flags: cannot turn on global flag"
  | globalTurnedOff => "bad inline flags: cannot turn off global flag"
  | onAndOff => "bad inline flags: flag turned on and off"

/-- The wording of a fault. -/
def Cause.message : Cause → String
  | danglingEscape => "bad escape (end of pattern)"
  | badEscape e => s!"bad escape {e}"
  | incompleteEscape e => s!"incomplete escape {e}"
  | octalTooLarge e => s!"octal escape value {e} outside of range 0-0o377"
  | missingBrace => "missing \x7b"
  | unknownCharacterName n => s!"undefined character name {quoted n}"
  | missingName what => s!"missing {what}"
  | unterminatedName t => s!"missing {t}, unterminated name"
  | badGroupName n => s!"bad character in group name {quoted n}"
  | unknownGroupName n => s!"unknown group name {quoted n}"
  | groupRedefined n g was => s!"redefinition of group name {quoted n} as group {g}; was group {was}"
  | openGroup => "cannot refer to an open group"
  | groupInSameLookbehind => "cannot refer to group defined in the same lookbehind subpattern"
  | noSuchGroup g => s!"invalid group reference {g}"
  | badGroupNumber => "bad group number"
  | unterminatedSet => "unterminated character set"
  | badRange a b => s!"bad character range {a}-{b}"
  | bounds => "min repeat greater than max repeat"
  | nothingToRepeat => "nothing to repeat"
  | multipleRepeat => "multiple repeat"
  | unexpectedEnd => "unexpected end of pattern"
  | unknownExtension t => s!"unknown extension ?{t}"
  | unterminatedComment => "missing ), unterminated comment"
  | unterminatedGroup => "missing ), unterminated subpattern"
  | unbalancedParenthesis => "unbalanced parenthesis"
  | tooManyBranches => "conditional backref with more than two branches"
  | flagsNotAtStart => "global flags not at the start of the expression"
  | flags f => f.message
  | lookbehindWidth => "look-behind requires fixed-width pattern"
  | lookbehindTooWide => "looks too much behind"
  | templateOperator n => s!"internal: unsupported template operator {n}"

/-- Why a pattern is refused. -/
inductive Failure where
  /-- A fault of grammar, at a place if one is to blame. -/
  | malformed (cause : Cause) (position : Option Nat)
  /-- The pattern's global flags ask for ASCII and for the full repertoire. -/
  | conflictingTypes
  /-- A number of more digits than are read. -/
  | tooManyDigits (count : Nat)
  /-- A repetition count beyond the largest one. -/
  | countTooLarge
  /-- A code point that does not fit a machine integer. -/
  | codePointTooLarge
  deriving Repr, DecidableEq

/-- Line and column of a position, both counted from one. -/
def lineColumn (pattern : List Char) (position : Nat) : Nat × Nat :=
  let before := pattern.take position
  (before.count '\n' + 1, (before.reverse.takeWhile (· != '\n')).length + 1)

/-- The full text of a failure in the given pattern. -/
def Failure.message (pattern : String) : Failure → String
  | malformed c none => c.message
  | malformed c (some p) =>
    let text := s!"{c.message} at position {p}"
    if pattern.toList.contains '\n' then
      let (line, column) := lineColumn pattern.toList p
      s!"{text} (line {line}, column {column})"
    else text
  | conflictingTypes => "ASCII and UNICODE flags are incompatible"
  | tooManyDigits n =>
    s!"Exceeds the limit (4300 digits) for integer string conversion: value has {n} digits; " ++
      "use sys.set_int_max_str_digits() to increase the limit"
  | countTooLarge => "the repetition number is too large"
  | codePointTooLarge => "Python int too large to convert to C int"

end Triage.Pattern
