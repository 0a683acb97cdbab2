import Triage.Yaml.Token.Basic
import Triage.Text.Digit

/-!
# Scalars

* `readQuoted`: a scalar between quotes. Line breaks in it are folded; between double quotes escapes are
  replaced.
* `readPlain`: a scalar without quotes, up to an indicator that ends it.
* `readBlock`: a scalar that takes up the indented lines after its header.
-/

namespace Triage.Yaml

open Triage.Text (isHexDigit natOfText)

/-- Folds a line break that `others` follow: a line feed becomes a space, or nothing before other breaks. -/
def foldBreak (first others : List Char) : List Char :=
  if first != ['\n'] then first ++ others
  else if others.isEmpty then [' '] else others

/-! ## Quoted scalars -/

/-- The characters that one letter after a backslash stands for. -/
def escapeOf? : Char → Option Char
  | '0' => some '\x00'
  | 'a' => some '\x07'
  | 'b' => some '\x08'
  | 't' => some '\t'
  | '\t' => some '\t'
  | 'n' => some '\n'
  | 'v' => some '\x0b'
  | 'f' => some '\x0c'
  | 'r' => some '\r'
  | 'e' => some '\x1b'
  | ' ' => some ' '
  | '"' => some '"'
  | '\\' => some '\\'
  | '/' => some '/'
  | 'N' => some '\x85'
  | '_' => some '\u00a0'
  | 'L' => some '\u2028'
  | 'P' => some '\u2029'
  | _ => none

/-- The number of digits after a letter that announces a code point. -/
def escapeDigits? : Char → Option Nat
  | 'x' => some 2
  | 'u' => some 4
  | 'U' => some 8
  | _ => none

/-- Reads the line breaks inside a quoted scalar, with the blanks around them. -/
def readQuotedBreaks (start : Mark) : Nat → Cursor → Except Error (List Char × Cursor)
  | 0, c => .ok ([], c)
  | fuel + 1, c =>
    if c.atSeparator then failAt (some .quotedScalar) (some start) .unexpectedSeparator c
    else
      let c := c.skipWhile fun ch => ch == ' ' || ch == '\t'
      if isBreak c.peek then do
        let (b, c) := c.lineBreak
        let (rest, c) ← readQuotedBreaks start fuel c
        return (b ++ rest, c)
      else .ok ([], c)

/-- Reads blanks inside a quoted scalar; a line break among them is folded. -/
def readQuotedSpaces (start : Mark) (c : Cursor) : Except Error (List Char × Cursor) :=
  let (blanks, c) := c.span fun ch => ch == ' ' || ch == '\t'
  if c.peek == '\x00' then failAt (some .quotedScalar) (some start) .unexpectedEnd c
  else if isBreak c.peek then do
    let (first, c) := c.lineBreak
    let (others, c) ← readQuotedBreaks start (c.rest.length + 1) c
    return (foldBreak first others, c)
  else .ok (blanks, c)

/-- The second half of a surrogate pair, if it is written next. -/
def lowSurrogate? (c : Cursor) : Option Nat :=
  match c.rest with
  | '\\' :: 'u' :: rest =>
    let digits := rest.take 4
    let n := natOfText 16 digits
    if digits.length == 4 && digits.all isHexDigit && 0xdc00 ≤ n && n < 0xe000 then some n else none
  | _ => none

/-- Reads a code point of the given number of digits. A surrogate pair gives one character. -/
def readCodePoint (start : Mark) (count : Nat) (c : Cursor) : Except Error (Char × Cursor) :=
  let digits := c.rest.take count
  match (List.range count).find? fun k => !isHexDigit (c.peekAt k) with
  | some k =>
    failAt (some .doubleQuotedScalar) (some start) (.noHexadecimal count (c.peekAt k)) c
  | none =>
    let n := natOfText 16 digits
    let after := c.advanceBy count
    if 0x80000000 ≤ n then .error (.misfit .codePointTooLarge)
    else if 0x110000 ≤ n then .error (.misfit .codePointOutOfRange)
    else
      match lowSurrogate? after with
      | some low =>
        if 0xd800 ≤ n && n < 0xdc00 then
          .ok (Char.ofNat (0x10000 + (n - 0xd800) * 0x400 + (low - 0xdc00)), after.advanceBy 6)
        else .ok (Char.ofNat n, after)
      | none => .ok (if 0xd800 ≤ n && n < 0xe000 then '\ufffd' else Char.ofNat n, after)

/-- Reads what follows a backslash between double quotes. -/
def readEscape (start : Mark) (c : Cursor) : Except Error (List Char × Cursor) :=
  match escapeOf? c.peek with
  | some ch => .ok ([ch], c.advance)
  | none =>
    match escapeDigits? c.peek with
    | some count => do
      let (ch, c) ← readCodePoint start count c.advance
      return ([ch], c)
    | none =>
      if isBreak c.peek then readQuotedBreaks start (c.rest.length + 1) c.lineBreak.2
      else failAt (some .doubleQuotedScalar) (some start) (.unknownEscape c.peek) c

/-- Characters that stand for themselves inside any quotes. -/
def isQuotedChar (c : Char) : Bool :=
  !(c == '\'' || c == '"' || c == '\\' || isBlankOrEnd c)

/-- Reads a quoted scalar up to its closing quote. -/
def readQuotedRest (double : Bool) (start : Mark) : Nat → Cursor → Except Error (List Char × Cursor)
  | 0, c => failAt (some .quotedScalar) (some start) .unexpectedEnd c
  | fuel + 1, c =>
    let (cs, c) := c.span isQuotedChar
    let ch := c.peek
    let continueWith (more : List Char) (c : Cursor) : Except Error (List Char × Cursor) := do
      let (rest, c) ← readQuotedRest double start fuel c
      return (cs ++ more ++ rest, c)
    if !double && ch == '\'' && c.peekAt 1 == '\'' then continueWith ['\''] (c.advanceBy 2)
    else if (double && ch == '\'') || (!double && (ch == '"' || ch == '\\')) then
      continueWith [ch] c.advance
    else if double && ch == '\\' then do
      let (more, c) ← readEscape start c.advance
      continueWith more c
    else if ch == '\'' || ch == '"' then .ok (cs, c.advance)
    else do
      let (more, c) ← readQuotedSpaces start c
      continueWith more c

/-- Reads a quoted scalar. -/
def readQuoted (double : Bool) (c : Cursor) : Except Error (String × Cursor) := do
  let (cs, after) ← readQuotedRest double c.mark (c.rest.length + 1) c.advance
  return (String.ofList cs, after)

/-! ## Plain scalars -/

/-- Whether a plain scalar ends before the place some characters ahead. -/
def endsPlain (inFlow : Bool) (c next : Char) : Bool :=
  isBlankOrEnd c ||
    (c == ':' && (isBlankOrEnd next || (inFlow && ",[]\x7b\x7d".toList.contains next))) ||
    (inFlow && ",?[]\x7b\x7d".toList.contains c)

/-- The leading characters of a text that belong to a plain scalar. -/
def plainChars (inFlow : Bool) : List Char → List Char
  | [] => []
  | c :: cs => if endsPlain inFlow c (cs.headD '\x00') then [] else c :: plainChars inFlow cs

/-- Reads the lines that only separate two lines of a plain scalar; `none` if documents are separated. -/
def readPlainBreaks : Nat → Cursor → Option (List Char) × Cursor
  | 0, c => (some [], c)
  | fuel + 1, c =>
    let c := c.skipWhile (· == ' ')
    if isBreak c.peek then
      let (b, c) := c.lineBreak
      if c.atSeparator then (none, c)
      else
        let (rest, c) := readPlainBreaks fuel c
        (rest.map (b ++ ·), c)
    else (some [], c)

/-- What separates two parts of a plain scalar. -/
structure PlainGap where
  /-- What the gap stands for; nothing if the scalar ends here. -/
  text : List Char
  /-- Whether a line was ended. -/
  brokeLine : Bool
  after : Cursor

/-- Reads the gap after a part of a plain scalar. -/
def readPlainGap (c : Cursor) : PlainGap :=
  let (spaces, c) := c.span (· == ' ')
  if isBreak c.peek then
    let (first, c) := c.lineBreak
    if c.atSeparator then ⟨[], true, c⟩
    else
      match readPlainBreaks (c.rest.length + 1) c with
      | (some others, c) => ⟨foldBreak first others, true, c⟩
      | (none, c) => ⟨[], true, c⟩
  else ⟨spaces, false, c⟩

/-- A plain scalar, where it ends, and whether the last gap ended a line. -/
structure Plain where
  text : List Char
  stop : Mark
  brokeLine : Bool
  after : Cursor

/-- Reads the parts of a plain scalar from a place on, with what is known before. `indent` is the least
column on which it goes on outside of brackets. -/
def readPlainParts (inFlow : Bool) (indent : Int) : Nat → List Char → Plain → Plain
  | 0, _, p => p
  | fuel + 1, gap, p =>
    let c := p.after
    let chars := plainChars inFlow c.rest
    if c.peek == '#' || chars.isEmpty then p
    else
      let c := c.advanceBy chars.length
      let next := readPlainGap c
      let p : Plain := ⟨p.text ++ gap ++ chars, c.mark, next.brokeLine, next.after⟩
      if next.text.isEmpty || next.after.peek == '#' || (!inFlow && next.after.column < indent) then p
      else readPlainParts inFlow indent fuel next.text p

/-- Reads a plain scalar. -/
def readPlain (inFlow : Bool) (indent : Int) (c : Cursor) : Plain :=
  readPlainParts inFlow indent (c.rest.length + 1) [] ⟨[], c.mark, false, c⟩

/-! ## Block scalars -/

/-- What becomes of the line breaks at the end of a block scalar. -/
inductive Chomping where
  | strip
  | clip
  | keep
  deriving DecidableEq, Repr

/-- The header of a block scalar. -/
structure BlockHeader where
  chomping : Chomping
  indentation : Option Nat
  deriving Repr

/-- A chomping indicator. -/
def chomping? : Char → Option Chomping
  | '+' => some .keep
  | '-' => some .strip
  | _ => none

/-- Reads an indentation indicator, if there is one. -/
def readIndentation (start : Mark) (c : Cursor) : Except Error (Option Nat × Cursor) :=
  if c.peek == '0' then failAt (some .blockScalar) (some start) .zeroIndentation c
  else if c.peek.isDigit then .ok (some (c.peek.toNat - '0'.toNat), c.advance)
  else .ok (none, c)

/-- Reads the indicators of a block scalar, in either order. -/
def readBlockHeader (start : Mark) (c : Cursor) : Except Error (BlockHeader × Cursor) := do
  let (header, c) ← match chomping? c.peek with
    | some ch => do
      let (indentation, c) ← readIndentation start c.advance
      pure (BlockHeader.mk ch indentation, c)
    | none => do
      let (indentation, c) ← readIndentation start c
      match indentation, chomping? c.peek with
      | some n, some ch => pure (BlockHeader.mk ch (some n), c.advance)
      | n, _ => pure (BlockHeader.mk .clip n, c)
  if isSpaceOrEnd c.peek then return (header, c)
  else failAt (some .blockScalar) (some start) (.noBlockIndicator c.peek) c

/-- Reads the empty lines before a block scalar: the breaks, the widest indentation met, and the place after
the last break. -/
def readLeadingBreaks : Nat → Nat → Mark → Cursor → List Char × Nat × Mark × Cursor
  | 0, widest, m, c => ([], widest, m, c)
  | fuel + 1, widest, m, c =>
    if c.peek == ' ' then readLeadingBreaks fuel (max widest (c.column + 1)) m c.advance
    else if isBreak c.peek then
      let (b, c) := c.lineBreak
      let (rest, widest, m, c) := readLeadingBreaks fuel widest c.mark c
      (b ++ rest, widest, m, c)
    else ([], widest, m, c)

/-- Steps over at most so many spaces that the column is reached. -/
def skipIndent (indent : Nat) (c : Cursor) : Cursor :=
  c.advanceBy (min (indent - c.column) (c.rest.takeWhile (· == ' ')).length)

/-- Reads the empty lines of a block scalar: the breaks, and the place after the last one. -/
def readBlockBreaks (indent : Nat) : Nat → Mark → Cursor → List Char × Mark × Cursor
  | 0, m, c => ([], m, c)
  | fuel + 1, m, c =>
    let c := skipIndent indent c
    if isBreak c.peek then
      let (b, c) := c.lineBreak
      let (rest, m, c) := readBlockBreaks indent fuel c.mark c
      (b ++ rest, m, c)
    else ([], m, c)

/-- The lines of a block scalar, and what is left for chomping: the last line break and the empty lines
after it. -/
structure BlockLines where
  text : List Char
  lastBreak : List Char
  trailing : List Char
  stop : Mark
  after : Cursor

/-- Whether a line of a block scalar starts here. -/
def atBlockLine (indent : Nat) (c : Cursor) : Bool :=
  c.column == indent && c.peek != '\x00'

/-- A space or tab. -/
def isSpaceOrTab (c : Char) : Bool := c == ' ' || c == '\t'

/-- Reads the lines of a block scalar. Two lines of a folded one are joined by a space, unless one of them
is indented further. -/
def readBlockLines (folded : Bool) (indent : Nat) : Nat → BlockLines → BlockLines
  | 0, b => b
  | fuel + 1, b =>
    let c := b.after
    if !atBlockLine indent c then b
    else
      let leading := !isSpaceOrTab c.peek
      let (line, c) := c.span fun ch => !isLineEnd ch
      let (lineBreak, c) := c.lineBreak
      let (breaks, stop, c) := readBlockBreaks indent (c.rest.length + 1) c.mark c
      let text := b.text ++ b.trailing ++ line
      if atBlockLine indent c then
        let joint :=
          if folded && lineBreak == ['\n'] && leading && !isSpaceOrTab c.peek then
            if breaks.isEmpty then [' '] else []
          else lineBreak
        readBlockLines folded indent fuel ⟨text ++ joint, lineBreak, breaks, stop, c⟩
      else ⟨text, lineBreak, breaks, stop, c⟩

/-- Reads a block scalar; `indent` is the column of the collection around it. The answer has the place at
which the scalar ends. -/
def readBlock (folded : Bool) (indent : Int) (c : Cursor) : Except Error ((String × Mark) × Cursor) := do
  let start := c.mark
  let (header, c) ← readBlockHeader start c.advance
  let c ← endOfLine .blockScalar start c
  let least := (max (indent + 1) 1).toNat
  let (breaks, column, stop, c) :=
    match header.indentation with
    | some n =>
      let column := least + n - 1
      let (breaks, stop, c) := readBlockBreaks column (c.rest.length + 1) c.mark c
      (breaks, column, stop, c)
    | none =>
      let (breaks, widest, stop, c) := readLeadingBreaks (c.rest.length + 1) 0 c.mark c
      (breaks, max least widest, stop, c)
  let lines := readBlockLines folded column (c.rest.length + 1) ⟨[], [], breaks, stop, c⟩
  let tail := match header.chomping with
    | .strip => []
    | .clip => lines.lastBreak
    | .keep => lines.lastBreak ++ lines.trailing
  return ((String.ofList (lines.text ++ tail), lines.stop), lines.after)

end Triage.Yaml
