import Triage.Yaml.Error

/-!
# Tokens

The tokens of a document. Indentation shows as tokens of its own, so that what reads tokens need not look
at columns.
-/

namespace Triage.Yaml

/-- A directive before a document. -/
inductive Directive where
  | version (major minor : Nat)
  | handle (handle expansion : String)
  | other
  deriving DecidableEq, Repr

/-- What a token stands for. -/
inductive TokenKind where
  | streamEnd
  | directive (d : Directive)
  | documentStart
  | documentEnd
  | blockSequenceStart
  | blockMappingStart
  | blockEnd
  | flowSequenceStart
  | flowSequenceEnd
  | flowMappingStart
  | flowMappingEnd
  | blockEntry
  | flowEntry
  | key
  | value
  | reference (name : String)
  | anchor (name : String)
  | tag (handle : Option String) (suffix : String)
  | scalar (text : String) (plain : Bool)
  deriving DecidableEq, Repr

/-- The name of a token in messages. -/
def TokenKind.title : TokenKind → String
  | streamEnd => "<stream end>"
  | directive _ => "<directive>"
  | documentStart => "<document start>"
  | documentEnd => "<document end>"
  | blockSequenceStart => "<block sequence start>"
  | blockMappingStart => "<block mapping start>"
  | blockEnd => "<block end>"
  | flowSequenceStart => "["
  | flowSequenceEnd => "]"
  | flowMappingStart => "\x7b"
  | flowMappingEnd => "\x7d"
  | blockEntry => "-"
  | flowEntry => ","
  | key => "?"
  | value => ":"
  | reference _ => "<alias>"
  | anchor _ => "<anchor>"
  | tag .. => "<tag>"
  | scalar .. => "<scalar>"

/-- A token with its place. -/
structure Token where
  kind : TokenKind
  start : Mark
  stop : Mark
  deriving DecidableEq, Repr

/-- A problem met while tokens are read. -/
def failAt {α : Type} (activity : Option Activity) (start : Option Mark) (p : Problem) (c : Cursor) :
    Except Error α :=
  .error (.located ⟨.scanner, activity, start, p, c.mark⟩)

/-- Letters, digits, hyphen and underscore of ASCII. -/
def isWord (c : Char) : Bool := c.isAlphanum || c == '-' || c == '_'

/-- Reads the end of a line after a directive or block header: spaces, a comment, a line break. -/
def endOfLine (activity : Activity) (start : Mark) (c : Cursor) : Except Error Cursor :=
  let c := (c.skipWhile (· == ' ')).skipComment
  if isLineEnd c.peek then .ok c.lineBreak.2
  else failAt (some activity) (some start) (.noCommentOrBreak c.peek) c

end Triage.Yaml
