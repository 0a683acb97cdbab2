import Triage.Yaml.Token.Scalar
import Triage.Yaml.Token.Tag

/-!
# The tokens of a text

A text is read token by token. A scalar, collection or other node may turn out to be the key of a mapping
when a colon follows it; until then it is a *pending key*, and the tokens from it on are held back. So a
token is settled only when no pending key stands before it.

* `Scanner.step`: reads the next token, with the tokens that its indentation makes necessary before it.
* `tokenRun`: all tokens that are settled before the text ends or cannot be read on.
-/

namespace Triage.Yaml

/-- A node that may turn out to be a key. -/
structure PendingKey where
  /-- The number of tokens before it. -/
  position : Nat
  /-- Whether only a key may stand here. -/
  required : Bool
  mark : Mark
  deriving Repr

/-- What is known while tokens are read. -/
structure Scanner where
  cursor : Cursor
  tokens : Array Token
  /-- How many brackets are open. -/
  flowLevel : Nat
  /-- The column of the innermost block collection; below zero outside of all. -/
  indent : Int
  /-- The columns of the block collections around it. -/
  outerIndents : List Int
  keyAllowed : Bool
  /-- The pending keys by the number of brackets open around them. -/
  pending : List (Nat × PendingKey)
  finished : Bool
  deriving Repr

namespace Scanner

/-- The start of a text. -/
def start (text : List Char) : Scanner where
  cursor := .start text
  tokens := #[]
  flowLevel := 0
  indent := -1
  outerIndents := []
  keyAllowed := true
  pending := []
  finished := false

/-- The place reached. -/
def mark (s : Scanner) : Mark := s.cursor.mark

/-- Whether some bracket is open. -/
def inFlow (s : Scanner) : Bool := s.flowLevel != 0

/-- Appends a token. -/
def push (s : Scanner) (kind : TokenKind) (start stop : Mark) : Scanner :=
  { s with tokens := s.tokens.push ⟨kind, start, stop⟩ }

/-- Appends a token of some characters and steps over them. -/
def pushOver (s : Scanner) (kind : TokenKind) (length : Nat) : Scanner :=
  let c := s.cursor.advanceBy length
  { s with cursor := c, tokens := s.tokens.push ⟨kind, s.mark, c.mark⟩ }

/-- Inserts a token without width. -/
def insertAt (s : Scanner) (position : Nat) (kind : TokenKind) (m : Mark) : Scanner :=
  { s with tokens := s.tokens.insertIdxIfInBounds position ⟨kind, m, m⟩ }

/-- The number of settled tokens. -/
def settled (s : Scanner) : Nat :=
  s.pending.foldl (fun n p => min n p.2.position) s.tokens.size

/-! ## Pending keys -/

/-- How far after its start a key may end. -/
def maxKeyLength : Nat := 1024

/-- Whether a pending key is no key any more: it has to end on its line and within some characters. -/
def isStale (s : Scanner) (k : PendingKey) : Bool :=
  k.mark.line != s.mark.line || maxKeyLength < s.mark.index - k.mark.index

/-- The complaint that a required key turns out to be none. -/
def keyExpected {α : Type} (s : Scanner) (k : PendingKey) : Except Error α :=
  failAt (some .simpleKey) (some k.mark) .noColon s.cursor

/-- Drops the pending keys that are no keys any more. -/
def dropStale (s : Scanner) : Except Error Scanner :=
  match s.pending.find? fun p => s.isStale p.2 && p.2.required with
  | some p => s.keyExpected p.2
  | none => .ok { s with pending := s.pending.filter fun p => !s.isStale p.2 }

/-- The pending key at the current level. -/
def currentKey? (s : Scanner) : Option PendingKey :=
  (s.pending.find? fun p => p.1 == s.flowLevel).map (·.2)

/-- Forgets the pending key at the current level. -/
def forgetKey (s : Scanner) : Scanner :=
  { s with pending := s.pending.filter fun p => p.1 != s.flowLevel }

/-- Gives up the pending key at the current level. -/
def dropKey (s : Scanner) : Except Error Scanner :=
  match s.currentKey? with
  | some k => if k.required then s.keyExpected k else .ok s.forgetKey
  | none => .ok s

/-- Notes that the next token may start a key. -/
def noteKey (s : Scanner) : Except Error Scanner :=
  if s.keyAllowed then do
    let required := !s.inFlow && s.indent == s.cursor.column
    let s ← s.dropKey
    return { s with pending := s.pending ++ [(s.flowLevel, ⟨s.tokens.size, required, s.mark⟩)] }
  else .ok s

/-! ## Indentation -/

/-- Closes block collections, innermost first, as long as they stand to the right of a column. -/
def closeBlocks (column : Int) (m : Mark) (indent : Int) : List Int → Array Token → Int × List Int × Array Token
  | [], tokens => (indent, [], tokens)
  | outer :: outers, tokens =>
    if column < indent then closeBlocks column m outer outers (tokens.push ⟨.blockEnd, m, m⟩)
    else (indent, outer :: outers, tokens)

/-- Ends the block collections that stand to the right of a column. Between brackets indentation does not
matter. -/
def unwind (s : Scanner) (column : Int) : Scanner :=
  if s.inFlow then s
  else
    let (indent, outerIndents, tokens) := closeBlocks column s.mark s.indent s.outerIndents s.tokens
    { s with indent, outerIndents, tokens }

/-- Whether a collection at a column stands inside the current one. -/
def opensAt (s : Scanner) (column : Nat) : Bool := s.indent < column

/-- Starts a block collection at a column. -/
def indentTo (s : Scanner) (column : Nat) : Scanner :=
  { s with outerIndents := s.indent :: s.outerIndents, indent := column }

/-- Starts a block collection here, unless one stands at this column already. -/
def openBlock (s : Scanner) (kind : TokenKind) : Scanner :=
  if s.opensAt s.cursor.column then (s.indentTo s.cursor.column).push kind s.mark s.mark else s

/-! ## Single tokens -/

/-- Steps over blanks, comments and line breaks. After a line break outside of brackets a key may start. -/
def skipToToken (inFlow : Bool) : Nat → Cursor → Bool → Cursor × Bool
  | 0, c, allowed => (c, allowed)
  | fuel + 1, c, allowed =>
    let c := (c.skipWhile (· == ' ')).skipComment
    if isBreak c.peek then skipToToken inFlow fuel c.lineBreak.2 (allowed || !inFlow)
    else (c, allowed)

/-- Steps to the next token. A byte order mark counts only at the very start. -/
def toToken (s : Scanner) : Scanner :=
  let c := if s.mark.index == 0 && s.cursor.peek == '\ufeff' then s.cursor.advance else s.cursor
  let (cursor, keyAllowed) := skipToToken s.inFlow (c.rest.length + 1) c s.keyAllowed
  { s with cursor, keyAllowed }

/-- The end of the text. -/
def endStream (s : Scanner) : Except Error Scanner := do
  let s ← (s.unwind (-1)).dropKey
  let s := { s with keyAllowed := false, pending := [], finished := true }
  return s.push .streamEnd s.mark s.mark

/-- A directive. -/
def directive (s : Scanner) : Except Error Scanner := do
  let s ← (s.unwind (-1)).dropKey
  let ((d, stop), c) ← readDirective s.cursor
  return { s with keyAllowed := false, cursor := c }.push (.directive d) s.mark stop

/-- A line that separates documents. -/
def separator (s : Scanner) (kind : TokenKind) : Except Error Scanner := do
  let s ← (s.unwind (-1)).dropKey
  return { s with keyAllowed := false }.pushOver kind 3

/-- An opening bracket. -/
def openFlow (s : Scanner) (kind : TokenKind) : Except Error Scanner := do
  let s ← s.noteKey
  return { s with flowLevel := s.flowLevel + 1, keyAllowed := true }.pushOver kind 1

/-- A closing bracket. -/
def closeFlow (s : Scanner) (kind : TokenKind) : Except Error Scanner := do
  let s ← s.dropKey
  return { s with flowLevel := s.flowLevel - 1, keyAllowed := false }.pushOver kind 1

/-- A comma between brackets. -/
def flowEntry (s : Scanner) : Except Error Scanner := do
  let s ← { s with keyAllowed := true }.dropKey
  return s.pushOver .flowEntry 1

/-- The dash of an entry. -/
def blockEntry (s : Scanner) : Except Error Scanner := do
  if !s.inFlow && !s.keyAllowed then failAt none none .entryNotAllowed s.cursor
  else
    let s := if s.inFlow then s else s.openBlock .blockSequenceStart
    let s ← { s with keyAllowed := true }.dropKey
    return s.pushOver .blockEntry 1

/-- The question mark of a key. -/
def explicitKey (s : Scanner) : Except Error Scanner := do
  if !s.inFlow && !s.keyAllowed then failAt none none .keyNotAllowed s.cursor
  else
    let s := if s.inFlow then s else s.openBlock .blockMappingStart
    let s ← { s with keyAllowed := !s.inFlow }.dropKey
    return s.pushOver .key 1

/-- Settles that a pending key is a key. It starts a mapping if none stands at its column. -/
def settleKey (s : Scanner) (k : PendingKey) : Scanner :=
  let s := (s.forgetKey.insertAt k.position .key k.mark)
  if !s.inFlow && s.opensAt k.mark.column then
    (s.indentTo k.mark.column).insertAt k.position .blockMappingStart k.mark
  else s

/-- The colon of a value. -/
def value (s : Scanner) : Except Error Scanner := do
  match s.currentKey? with
  | some k => return { s.settleKey k with keyAllowed := false }.pushOver .value 1
  | none =>
    if !s.inFlow && !s.keyAllowed then failAt none none .valueNotAllowed s.cursor
    else
      let s := if s.inFlow then s else s.openBlock .blockMappingStart
      let s ← { s with keyAllowed := !s.inFlow }.dropKey
      return s.pushOver .value 1

/-- An anchor or a reference to one. -/
def anchor (s : Scanner) (activity : Activity) (kind : String → TokenKind) : Except Error Scanner := do
  let s ← s.noteKey
  let (name, c) ← readAnchor activity s.cursor
  return { s with keyAllowed := false, cursor := c }.push (kind name) s.mark c.mark

/-- A tag. -/
def tag (s : Scanner) : Except Error Scanner := do
  let s ← s.noteKey
  let ((handle, suffix), c) ← readTag s.cursor
  return { s with keyAllowed := false, cursor := c }.push (.tag handle suffix) s.mark c.mark

/-- A block scalar. -/
def blockScalar (s : Scanner) (folded : Bool) : Except Error Scanner := do
  let s ← { s with keyAllowed := true }.dropKey
  let ((text, stop), c) ← readBlock folded s.indent s.cursor
  return { s with cursor := c }.push (.scalar text false) s.mark stop

/-- A quoted scalar. -/
def quotedScalar (s : Scanner) (double : Bool) : Except Error Scanner := do
  let s ← s.noteKey
  let (text, c) ← readQuoted double s.cursor
  return { s with keyAllowed := false, cursor := c }.push (.scalar text false) s.mark c.mark

/-- A plain scalar. If it ends with a line, a key may follow. -/
def plainScalar (s : Scanner) : Except Error Scanner := do
  let s ← s.noteKey
  let p := readPlain s.inFlow (s.indent + 1) s.cursor
  return { s with keyAllowed := p.brokeLine, cursor := p.after }.push
    (.scalar (String.ofList p.text) true) s.mark p.stop

/-- Whether a separator of the given character starts here. -/
def atSeparator (s : Scanner) (ch : Char) : Bool :=
  s.cursor.column == 0 && s.cursor.peek == ch && s.cursor.atSeparator

/-- Whether a blank or the end of the line follows the next character. -/
def blankNext (s : Scanner) : Bool := isBlankOrEnd (s.cursor.peekAt 1)

/-- Characters that start no plain scalar. -/
def isIndicator (c : Char) : Bool :=
  isBlankOrEnd c || "-?:,[]\x7b\x7d#&*!|>'\"%@`".toList.contains c

/-- Whether a plain scalar starts here. Hyphen, question mark and colon may start one if no blank follows,
the latter two only outside of brackets. -/
def atPlain (s : Scanner) : Bool :=
  let c := s.cursor.peek
  !isIndicator c || (!s.blankNext && (c == '-' || (!s.inFlow && (c == '?' || c == ':'))))

/-- Reads the token that starts here. -/
def token (s : Scanner) : Except Error Scanner :=
  let c := s.cursor.peek
  if c == '\x00' then s.endStream
  else if c == '%' && s.cursor.column == 0 then s.directive
  else if s.atSeparator '-' then s.separator .documentStart
  else if s.atSeparator '.' then s.separator .documentEnd
  else if c == '[' then s.openFlow .flowSequenceStart
  else if c == '\x7b' then s.openFlow .flowMappingStart
  else if c == ']' then s.closeFlow .flowSequenceEnd
  else if c == '\x7d' then s.closeFlow .flowMappingEnd
  else if c == ',' then s.flowEntry
  else if c == '-' && s.blankNext then s.blockEntry
  else if c == '?' && (s.inFlow || s.blankNext) then s.explicitKey
  else if c == ':' && (s.inFlow || s.blankNext) then s.value
  else if c == '*' then s.anchor .reference .reference
  else if c == '&' then s.anchor .anchor .anchor
  else if c == '!' then s.tag
  else if c == '|' && !s.inFlow then s.blockScalar false
  else if c == '>' && !s.inFlow then s.blockScalar true
  else if c == '\'' then s.quotedScalar false
  else if c == '"' then s.quotedScalar true
  else if s.atPlain then s.plainScalar
  else failAt (some .nextToken) none (.noToken c) s.cursor

/-- Reads the next token. -/
def step (s : Scanner) : Except Error Scanner := do
  let s ← s.toToken.dropStale
  let s ← (s.unwind s.cursor.column).token
  s.dropStale

end Scanner

/-- The tokens of a text as far as they are settled, and what ended them, unless it is the end of the
text. -/
structure TokenRun where
  tokens : List Token
  error : Option Error
  deriving Repr

/-- Reads tokens on. Each step consumes a character or ends the text, so that the length of the text is
fuel enough. -/
def Scanner.run : Nat → Scanner → TokenRun
  | 0, s => ⟨s.tokens.toList, none⟩
  | fuel + 1, s =>
    if s.finished then ⟨s.tokens.toList, none⟩
    else
      match s.step with
      | .ok next => next.run fuel
      | .error e => ⟨s.tokens.toList.take s.settled, some e⟩

/-- The tokens of a text. -/
def tokenRun (text : List Char) : TokenRun :=
  (Scanner.start text).run (text.length + 2)

end Triage.Yaml
