/-!
# Places in a document

* `Cursor`: what is left of a text, and the place at which it starts.
* `Mark`: a place alone.
* `Mark.render`: a place in words, with the line around it if the text is at hand.
-/

namespace Triage.Yaml

/-- A place: the number of characters before it, and its line and column, all counted from zero. -/
structure Mark where
  index : Nat
  line : Nat
  column : Nat
  deriving DecidableEq, Repr, Inhabited

/-- Line breaks. -/
def isBreak (c : Char) : Bool :=
  c == '\n' || c == '\r' || c == '\x85' || c == '\u2028' || c == '\u2029'

/-- A line break or the end of the text, which shows as the character of code zero. -/
def isLineEnd (c : Char) : Bool := c == '\x00' || isBreak c

/-- A space, or the end of a line. -/
def isSpaceOrEnd (c : Char) : Bool := c == ' ' || isLineEnd c

/-- A space or tab, or the end of a line. -/
def isBlankOrEnd (c : Char) : Bool := c == '\t' || isSpaceOrEnd c

/-- What is left of a text and where it starts. -/
structure Cursor where
  rest : List Char
  mark : Mark
  deriving Repr

namespace Cursor

/-- The start of a text. -/
def start (text : List Char) : Cursor := ⟨text, ⟨0, 0, 0⟩⟩

/-- The character some places ahead; the character of code zero after the end. -/
def peekAt (c : Cursor) (ahead : Nat) : Char := c.rest.getD ahead '\x00'

/-- The next character. -/
def peek (c : Cursor) : Char := c.peekAt 0

/-- The column of the place. -/
def column (c : Cursor) : Nat := c.mark.column

/-- The place after a character that the rest follows. A byte order mark has no width. -/
def markAfter (m : Mark) (ch : Char) (rest : List Char) : Mark :=
  if isBreak ch && !(ch == '\r' && rest.head? == some '\n') then ⟨m.index + 1, m.line + 1, 0⟩
  else if ch == '\ufeff' then ⟨m.index + 1, m.line, m.column⟩
  else ⟨m.index + 1, m.line, m.column + 1⟩

/-- Steps over one character. -/
def advance (c : Cursor) : Cursor :=
  match c.rest with
  | [] => c
  | ch :: rest => ⟨rest, markAfter c.mark ch rest⟩

/-- Steps over some characters. -/
def advanceBy (c : Cursor) : Nat → Cursor
  | 0 => c
  | n + 1 => c.advance.advanceBy n

/-- Steps over the leading characters of `p`. -/
def skipWhile (c : Cursor) (p : Char → Bool) : Cursor :=
  c.advanceBy (c.rest.takeWhile p).length

/-- The leading characters of `p`, and the place after them. -/
def span (c : Cursor) (p : Char → Bool) : List Char × Cursor :=
  (c.rest.takeWhile p, c.skipWhile p)

/-- Steps over one line break, which is read as a line feed unless it separates lines or paragraphs. -/
def lineBreak (c : Cursor) : List Char × Cursor :=
  let ch := c.peek
  if ch == '\r' && c.peekAt 1 == '\n' then (['\n'], c.advanceBy 2)
  else if ch == '\r' || ch == '\n' || ch == '\x85' then (['\n'], c.advance)
  else if ch == '\u2028' || ch == '\u2029' then ([ch], c.advance)
  else ([], c)

/-- Whether a line that separates documents starts here; the column is not looked at. -/
def atSeparator (c : Cursor) : Bool :=
  (c.rest.take 3 == ['-', '-', '-'] || c.rest.take 3 == ['.', '.', '.']) && isBlankOrEnd (c.peekAt 3)

/-- Steps over a comment, if one starts here. -/
def skipComment (c : Cursor) : Cursor :=
  if c.peek == '#' then c.skipWhile fun ch => !isLineEnd ch else c

end Cursor

/-- How many characters a snippet shows on each side of its place. -/
def snippetReach : Nat := 36

/-- The part of a line before a place, nearest character first, cut off with dots if it is long. -/
def snippetHead (before : List Char) : List Char :=
  let line := before.takeWhile fun c => !isLineEnd c
  if snippetReach < line.length then
    " ... ".toList ++ (line.take (snippetReach + 1 - 5)).reverse
  else line.reverse

/-- The part of a line from a place on, cut off with dots if it is long. -/
def snippetTail (after : List Char) : List Char :=
  let line := after.takeWhile fun c => !isLineEnd c
  if snippetReach < line.length then line.take (snippetReach + 1 - 5) ++ " ... ".toList else line

/-- The line around a place, and a mark below it. -/
def snippet (text : List Char) (m : Mark) : String :=
  let head := snippetHead (text.take m.index).reverse
  let tail := snippetTail (text.drop m.index)
  String.ofList (List.replicate 4 ' ' ++ head ++ tail ++ ['\n'] ++
    List.replicate (4 + head.length) ' ' ++ ['^'])

/-- A place in words; the text is shown if it is at hand. -/
def Mark.render (source : String) (text : Option (List Char)) (m : Mark) : String :=
  let place := s!"  in \"{source}\", line {m.line + 1}, column {m.column + 1}"
  match text with
  | some t => place ++ ":\n" ++ snippet t m
  | none => place

end Triage.Yaml
