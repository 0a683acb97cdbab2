import Triage.Text.Decoding
import Triage.Yaml.Token.Basic

/-!
# Anchors, tags and directives

* `readAnchor`: an anchor or a reference to one.
* `readTag`: a tag, in angle brackets, with a handle, or with the primary handle.
* `readDirective`: a directive with its line.
-/

namespace Triage.Yaml

open Triage.Text (hexValue? isHexDigit natOfText)

/-- Characters that may follow an anchor. -/
def mayFollowAnchor (c : Char) : Bool :=
  isBlankOrEnd c || "?:,]\x7d%@`".toList.contains c

/-- Reads the name of an anchor after its indicator. -/
def readAnchor (activity : Activity) (c : Cursor) : Except Error (String × Cursor) :=
  let (name, after) := c.advance.span isWord
  if name.isEmpty then failAt (some activity) (some c.mark) (.notAlphanumeric after.peek) after
  else if mayFollowAnchor after.peek then .ok (String.ofList name, after)
  else failAt (some activity) (some c.mark) (.notAlphanumeric after.peek) after

/-- Reads a tag handle. -/
def readHandle (activity : Activity) (start : Mark) (c : Cursor) : Except Error (String × Cursor) :=
  if c.peek != '!' then failAt (some activity) (some start) (.noTagStart c.peek) c
  else if c.peekAt 1 == ' ' then .ok ("!", c.advance)
  else
    let (word, after) := c.advance.span isWord
    if after.peek == '!' then .ok ("!" ++ String.ofList word ++ "!", after.advance)
    else failAt (some activity) (some start) (.noTagStart after.peek) after

/-- Characters of the text of a tag, the escape sign apart. -/
def isTagChar (c : Char) : Bool :=
  c.isAlphanum || "-;/?:@&=+$,_.!~*'()[]".toList.contains c

/-- Reads escapes in the text of a tag as bytes. -/
def readTagBytes (activity : Activity) (start : Mark) : Nat → Cursor → Except Error (List UInt8 × Cursor)
  | 0, c => .ok ([], c)
  | fuel + 1, c =>
    if c.peek != '%' then .ok ([], c)
    else
      let c := c.advance
      if !isHexDigit c.peek then failAt (some activity) (some start) (.noTagEscape c.peek) c
      else if !isHexDigit (c.peekAt 1) then
        failAt (some activity) (some start) (.noTagEscape (c.peekAt 1)) c
      else do
        let byte := UInt8.ofNat (natOfText 16 [c.peek, c.peekAt 1])
        let (rest, c) ← readTagBytes activity start fuel (c.advanceBy 2)
        return (byte :: rest, c)

/-- Reads a run of escapes in the text of a tag. -/
def readTagEscapes (activity : Activity) (start : Mark) (c : Cursor) : Except Error (List Char × Cursor) := do
  let (bytes, after) ← readTagBytes activity start (c.rest.length + 1) c
  match Text.decodeUtf8 bytes with
  | .ok cs => return (cs, after)
  | .error f => failAt (some activity) (some start) (.tagTextNotUnicode bytes f) c

/-- Reads the characters and escapes of the text of a tag. -/
def readTagChars (activity : Activity) (start : Mark) : Nat → Cursor → Except Error (List Char × Cursor)
  | 0, c => .ok ([], c)
  | fuel + 1, c =>
    if c.peek == '%' then do
      let (cs, c) ← readTagEscapes activity start c
      let (rest, c) ← readTagChars activity start fuel c
      return (cs ++ rest, c)
    else
      let (cs, c) := c.span isTagChar
      if c.peek == '%' then do
        let (rest, c) ← readTagChars activity start fuel c
        return (cs ++ rest, c)
      else .ok (cs, c)

/-- Reads the text of a tag, which may not be empty. `whole` is what is being read when there is none. -/
def readTagText (activity whole : Activity) (start : Mark) (c : Cursor) : Except Error (String × Cursor) := do
  let (cs, after) ← readTagChars activity start (2 * c.rest.length + 2) c
  if after.mark.index == c.mark.index then
    failAt (some whole) (some start) (.noTagText c.peek) c
  else return (String.ofList cs, after)

/-- Whether a handle stands at the start of a tag: an exclamation mark before the end of the word. -/
def hasHandle (c : Cursor) : Bool :=
  (c.advance.rest.takeWhile fun ch => !isSpaceOrEnd ch).contains '!'

/-- Reads a tag: its handle, if it is written with one, and the rest. -/
def readTag (c : Cursor) : Except Error ((Option String × String) × Cursor) := do
  let start := c.mark
  let ch := c.peekAt 1
  let (value, after) ←
    if ch == '<' then do
      let (text, c) ← readTagText .tag .tagText start (c.advanceBy 2)
      if c.peek == '>' then pure ((none, text), c.advance)
      else failAt (some .tagText) (some start) (.noTagEnd c.peek) c
    else if isBlankOrEnd ch then pure ((none, "!"), c.advance)
    else if hasHandle c then do
      let (handle, c) ← readHandle .tag start c
      let (text, c) ← readTagText .tag .tagText start c
      pure ((some handle, text), c)
    else do
      let (text, c) ← readTagText .tag .tagText start c.advance
      pure ((some "!", text), c)
  if isSpaceOrEnd after.peek then return (value, after)
  else failAt (some .tag) (some start) (.noSpace after.peek) after

/-- Reads a number of a version. -/
def readVersionNumber (start : Mark) (c : Cursor) : Except Error (Nat × Cursor) :=
  let (digits, after) := c.span Char.isDigit
  if digits.isEmpty then failAt (some .directive) (some start) (.noDigit c.peek) c
  else if Text.maxDigits < digits.length then .error (.misfit (.integerTooLong digits.length))
  else .ok (natOfText 10 digits, after)

/-- Reads the version of the format. -/
def readVersion (start : Mark) (c : Cursor) : Except Error (Directive × Cursor) := do
  let (major, c) ← readVersionNumber start (c.skipWhile (· == ' '))
  if c.peek != '.' then failAt (some .directive) (some start) (.noDigitOrDot c.peek) c
  else
    let (minor, c) ← readVersionNumber start c.advance
    if isSpaceOrEnd c.peek then return (.version major minor, c)
    else failAt (some .directive) (some start) (.noDigitOrSpace c.peek) c

/-- Reads the meaning of a handle. -/
def readHandleMeaning (start : Mark) (c : Cursor) : Except Error (Directive × Cursor) := do
  let (handle, c) ← readHandle .directive start (c.skipWhile (· == ' '))
  if c.peek != ' ' then failAt (some .directive) (some start) (.noSpace c.peek) c
  else
    let (text, c) ← readTagText .directive .directiveText start (c.skipWhile (· == ' '))
    if isSpaceOrEnd c.peek then return (.handle handle text, c)
    else failAt (some .directive) (some start) (.noSpace c.peek) c

/-- Reads the name of a directive. -/
def readDirectiveName (start : Mark) (c : Cursor) : Except Error (String × Cursor) :=
  let (name, after) := c.span isWord
  if name.isEmpty || !isSpaceOrEnd after.peek then
    failAt (some .directive) (some start) (.notAlphanumeric after.peek) after
  else .ok (String.ofList name, after)

/-- Reads a directive and its line. The answer has the place at which the directive itself ends. -/
def readDirective (c : Cursor) : Except Error ((Directive × Mark) × Cursor) := do
  let start := c.mark
  let (name, c) ← readDirectiveName start c.advance
  if name == "YAML" then
    let (d, c) ← readVersion start c
    return ((d, c.mark), ← endOfLine .directive start c)
  else if name == "TAG" then
    let (d, c) ← readHandleMeaning start c
    return ((d, c.mark), ← endOfLine .directive start c)
  else
    let stop := c.mark
    return ((.other, stop), ← endOfLine .directive start (c.skipWhile fun ch => !isLineEnd ch))

end Triage.Yaml
