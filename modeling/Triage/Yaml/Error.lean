import Triage.Text.Decoding
import Triage.Yaml.Mark

/-!
# What can be wrong with a YAML document

* `Problem`: what is wrong at a place, with its wording in `Problem.message`.
* `Activity`: what was being read when the problem came up.
* `Error`: all ways in which reading a document fails: unreadable characters, problems at a place, and
  scalars with a tag that they do not fit.
* `Error.message`, `Error.shown`: the full text of an error, and the error as it is shown as a cause.
-/

namespace Triage.Yaml

open Triage.Text (quoted)

/-- A character as it is shown in a message. -/
def shownChar (c : Char) : String := quoted (String.singleton c)

/-- What was being read when a problem came up. -/
inductive Activity where
  | nextToken
  | simpleKey
  | directive
  | anchor
  | reference
  | tag
  | tagText
  | directiveText
  | blockScalar
  | quotedScalar
  | doubleQuotedScalar
  | blockNode
  | flowNode
  | node
  | blockCollection
  | blockMapping
  | flowSequence
  | flowMapping
  | firstAnchor (name : String)
  | onlyDocument
  | mapping
  | orderedMap
  | pairs
  deriving DecidableEq, Repr

/-- The wording of an activity. -/
def Activity.message : Activity → String
  | nextToken => "while scanning for the next token"
  | simpleKey => "while scanning a simple key"
  | directive => "while scanning a directive"
  | anchor => "while scanning an anchor"
  | reference => "while scanning an alias"
  | tag => "while scanning a tag"
  | tagText => "while parsing a tag"
  | directiveText => "while parsing a directive"
  | blockScalar => "while scanning a block scalar"
  | quotedScalar => "while scanning a quoted scalar"
  | doubleQuotedScalar => "while scanning a double-quoted scalar"
  | blockNode => "while parsing a block node"
  | flowNode => "while parsing a flow node"
  | node => "while parsing a node"
  | blockCollection => "while parsing a block collection"
  | blockMapping => "while parsing a block mapping"
  | flowSequence => "while parsing a flow sequence"
  | flowMapping => "while parsing a flow mapping"
  | firstAnchor name => s!"found duplicate anchor {quoted name}; first occurrence"
  | onlyDocument => "expected a single document in the stream"
  | mapping => "while constructing a mapping"
  | orderedMap => "while constructing an ordered map"
  | pairs => "while constructing pairs"

/-- What is wrong at a place. -/
inductive Problem where
  | noToken (found : Char)
  | noColon
  | notAlphanumeric (found : Char)
  | noDigit (found : Char)
  | noDigitOrDot (found : Char)
  | noDigitOrSpace (found : Char)
  | noSpace (found : Char)
  | noCommentOrBreak (found : Char)
  | noTagEnd (found : Char)
  | noTagStart (found : Char)
  | noTagText (found : Char)
  | noTagEscape (found : Char)
  | tagTextNotUnicode (bytes : List UInt8) (fault : Text.DecodingFault)
  | zeroIndentation
  | noBlockIndicator (found : Char)
  | noHexadecimal (digits : Nat) (found : Char)
  | unknownEscape (found : Char)
  | unexpectedEnd
  | unexpectedSeparator
  | entryNotAllowed
  | keyNotAllowed
  | valueNotAllowed
  | secondVersion
  | wrongVersion
  | secondHandle (handle : String)
  | noDocumentStart (found : String)
  | unknownHandle (handle : String)
  | noContent (found : String)
  | noBlockEnd (found : String)
  | noSequenceEnd (found : String)
  | noMappingEnd (found : String)
  | unknownAlias (name : String)
  | secondAnchor
  | secondDocument
  | unknownTag (tag : String)
  | notMapping (found : String)
  | notSequence (found : String)
  | notScalar (found : String)
  | keyIsCollection
  | notMergeable (found : String)
  | itemNotMergeable (found : String)
  | notOrderedItems (found : String)
  | notSingleMapping (found : String)
  | notSingleItem (count : Nat)
  | notAscii (text : String)
  | notBase64 (reason : String)
  deriving DecidableEq, Repr

/-- The wording of a problem. -/
def Problem.message : Problem → String
  | noToken c => s!"found character {shownChar c} that cannot start any token"
  | noColon => "could not find expected ':'"
  | notAlphanumeric c => s!"expected alphabetic or numeric character, but found {shownChar c}"
  | noDigit c => s!"expected a digit, but found {shownChar c}"
  | noDigitOrDot c => s!"expected a digit or '.', but found {shownChar c}"
  | noDigitOrSpace c => s!"expected a digit or ' ', but found {shownChar c}"
  | noSpace c => s!"expected ' ', but found {shownChar c}"
  | noCommentOrBreak c => s!"expected a comment or a line break, but found {shownChar c}"
  | noTagEnd c => s!"expected '>', but found {shownChar c}"
  | noTagStart c => s!"expected '!', but found {shownChar c}"
  | noTagText c => s!"expected URI, but found {shownChar c}"
  | noTagEscape c =>
    s!"expected URI escape sequence of 2 hexadecimal numbers, but found {shownChar c}"
  | tagTextNotUnicode bytes fault => fault.message bytes
  | zeroIndentation => "expected indentation indicator in the range 1-9, but found 0"
  | noBlockIndicator c => s!"expected chomping or indentation indicators, but found {shownChar c}"
  | noHexadecimal n c =>
    s!"expected escape sequence of {n} hexadecimal numbers, but found {shownChar c}"
  | unknownEscape c => s!"found unknown escape character {shownChar c}"
  | unexpectedEnd => "found unexpected end of stream"
  | unexpectedSeparator => "found unexpected document separator"
  | entryNotAllowed => "sequence entries are not allowed here"
  | keyNotAllowed => "mapping keys are not allowed here"
  | valueNotAllowed => "mapping values are not allowed here"
  | secondVersion => "found duplicate YAML directive"
  | wrongVersion => "found incompatible YAML document (version 1.* is required)"
  | secondHandle h => s!"duplicate tag handle {quoted h}"
  | noDocumentStart t => s!"expected '<document start>', but found {quoted t}"
  | unknownHandle h => s!"found undefined tag handle {quoted h}"
  | noContent t => s!"expected the node content, but found {quoted t}"
  | noBlockEnd t => s!"expected <block end>, but found {quoted t}"
  | noSequenceEnd t => s!"expected ',' or ']', but got {quoted t}"
  | noMappingEnd t => s!"expected ',' or '\x7d', but got {quoted t}"
  | unknownAlias name => s!"found undefined alias {quoted name}"
  | secondAnchor => "second occurrence"
  | secondDocument => "but found another document"
  | unknownTag t => s!"could not determine a constructor for the tag {quoted t}"
  | notMapping k => s!"expected a mapping node, but found {k}"
  | notSequence k => s!"expected a sequence node, but found {k}"
  | notScalar k => s!"expected a scalar node, but found {k}"
  | keyIsCollection => "found unhashable key"
  | notMergeable k => s!"expected a mapping or list of mappings for merging, but found {k}"
  | itemNotMergeable k => s!"expected a mapping for merging, but found {k}"
  | notOrderedItems k => s!"expected a sequence, but found {k}"
  | notSingleMapping k => s!"expected a mapping of length 1, but found {k}"
  | notSingleItem n => s!"expected a single mapping item, but found {n} items"
  | notAscii text => s!"failed to convert base64 data into ascii: {Text.notAsciiReason text}"
  | notBase64 reason => s!"failed to decode base64 data: {reason}"

/-- The fault behind a problem as it is shown as a cause, where a problem has one. -/
def Problem.behind? : Problem → Option String
  | tagTextNotUnicode bytes fault => some (fault.shown bytes)
  | notAscii text => some (Text.shownNotAscii text)
  | notBase64 reason => some s!"Error({quoted reason})"
  | _ => none

/-- The stage at which a problem comes up. -/
inductive Stage where
  | scanner
  | parser
  | composer
  | constructor
  deriving DecidableEq, Repr

/-- The name of the errors of a stage. -/
def Stage.errorName : Stage → String
  | scanner => "ScannerError"
  | parser => "ParserError"
  | composer => "ComposerError"
  | constructor => "ConstructorError"

/-- A problem at a place, with what was being read and where that starts. -/
structure Located where
  stage : Stage
  activity : Option Activity
  start : Option Mark
  problem : Problem
  place : Mark
  deriving DecidableEq, Repr

/-- A scalar does not fit its tag. -/
inductive Misfit where
  | noBool (text : String)
  | emptyNumber
  | noInteger (base : Nat) (text : String)
  | integerTooLong (digits : Nat)
  | noFloat (text : String)
  | noTimestamp
  /-- A mapping stands where the text of a time is looked for. -/
  | timestampOfMapping
  | outOfRange (message : String)
  /-- The weight of the first of many parts is beyond every number with a point. -/
  | weightTooLarge
  | codePointOutOfRange
  | codePointTooLarge
  deriving DecidableEq, Repr

/-- The name of the error of a misfit. -/
def Misfit.errorName : Misfit → String
  | noBool _ => "KeyError"
  | emptyNumber => "IndexError"
  | noTimestamp => "AttributeError"
  | timestampOfMapping => "TypeError"
  | weightTooLarge | codePointTooLarge => "OverflowError"
  | _ => "ValueError"

/-- The wording of a misfit. -/
def Misfit.message : Misfit → String
  | noBool text => quoted text
  | emptyNumber => "string index out of range"
  | noInteger base text => s!"invalid literal for int() with base {base}: {quoted text}"
  | integerTooLong n =>
    s!"Exceeds the limit (4300 digits) for integer string conversion: value has {n} digits; " ++
      "use sys.set_int_max_str_digits() to increase the limit"
  | noFloat text => s!"could not convert string to float: {quoted text}"
  | noTimestamp => "'NoneType' object has no attribute 'groupdict'"
  | timestampOfMapping => "expected string or bytes-like object, got 'list'"
  | outOfRange m => m
  | weightTooLarge => "int too large to convert to float"
  | codePointOutOfRange => "chr() arg not in range(0x110000)"
  | codePointTooLarge => "Python int too large to convert to C int"

/-- The text that a misfit carries. A failed look-up carries its key, which is shown as its message. -/
def Misfit.carried : Misfit → String
  | noBool text => text
  | m => m.message

/-- Why a document cannot be read. -/
inductive Error where
  /-- A character or byte that does not belong into a document, at a position of the named source. -/
  | unreadable (source : String) (position code : Nat) (encoding reason : String)
  | located (e : Located)
  | misfit (m : Misfit)
  deriving DecidableEq, Repr

namespace Located

/-- The lines of the text on a problem: what was being read and where it starts, unless that is the same
place; the problem; and its place. -/
def render (e : Located) (source : String) (text : Option (List Char)) : String :=
  let activity := (e.activity.map Activity.message).toList
  let start := match e.start with
    | some m =>
      if m.line == e.place.line && m.column == e.place.column then [] else [m.render source text]
    | none => []
  "\n".intercalate (activity ++ start ++ [e.problem.message, e.place.render source text])

/-- A problem as it is shown as a cause; places are not spelled out. -/
def shown (e : Located) : String :=
  let activity := match e.activity with
    | some a => quoted a.message
    | none => "None"
  let start := if e.start.isSome then "<Mark>" else "None"
  s!"{e.stage.errorName}({activity}, {start}, {quoted e.problem.message}, <Mark>)"

end Located

/-- The four digits or more of a code in hexadecimal. -/
def shownCode (n : Nat) : String :=
  String.ofList (Text.hexPadded (if n < 0x10000 then 4 else if n < 0x100000 then 5 else 6) n)

namespace Error

/-- The name of an error. -/
def name : Error → String
  | unreadable .. => "ReaderError"
  | located e => e.stage.errorName
  | misfit m => m.errorName

/-- The full text of an error in a document. -/
def message (source : String) (text : Option (List Char)) : Error → String
  | unreadable src position code _ reason =>
    s!"unacceptable character #x{shownCode code}: {reason}\n  in \"{src}\", position {position}"
  | located e => e.render source text
  | misfit m => m.message

/-- An error as it is shown as a cause. -/
def shown : Error → String
  | unreadable src position code encoding reason =>
    s!"ReaderError({quoted src}, {position}, {code}, {quoted encoding}, {quoted reason})"
  | located e => e.shown
  | misfit m => s!"{m.errorName}({quoted m.carried})"

/-- The fault behind an error as it is shown as a cause, where an error has one. -/
def behind? : Error → Option String
  | located e => e.problem.behind?
  | _ => none

/-- Whether the error belongs to the format itself, and not to the value of a scalar. -/
def isOfFormat : Error → Bool
  | misfit _ => false
  | _ => true

end Error

end Triage.Yaml
