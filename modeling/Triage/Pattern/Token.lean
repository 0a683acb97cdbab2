/-!
# The characters of a pattern as a reader takes them

A backslash and the character after it are taken together. A backslash at the very end has no partner
and belongs to no token.
-/

namespace Triage.Pattern

/-- A character, or a character after a backslash. -/
inductive Token where
  | plain (c : Char)
  | escape (c : Char)
  deriving Repr, DecidableEq

namespace Token

/-- The token as it is written. -/
def chars : Token → List Char
  | plain c => [c]
  | escape c => ['\\', c]

/-- The token as it is written. -/
def text (t : Token) : String :=
  String.ofList t.chars

/-- The number of characters of the token. -/
def length : Token → Nat
  | plain _ => 1
  | escape _ => 2

/-- Whether the token is the unescaped character. -/
def is (t : Token) (c : Char) : Bool :=
  t == plain c

/-- The unescaped character, if the token is one. -/
def plain? : Token → Option Char
  | plain c => some c
  | escape _ => none

/-- The tokens of a pattern, up to a backslash at its end. -/
def ofChars : List Char → List Token
  | [] => []
  | ['\\'] => []
  | '\\' :: c :: cs => escape c :: ofChars cs
  | c :: cs => plain c :: ofChars cs

/-- Whether the pattern ends in a backslash without a partner. -/
def dangles : List Char → Bool
  | [] => false
  | ['\\'] => true
  | '\\' :: _ :: cs => dangles cs
  | _ :: cs => dangles cs

end Token

end Triage.Pattern
