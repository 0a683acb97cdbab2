import Triage.Text.CodeRanges

/-!
# White space

`isBlank` is the widest reading: the standard's white space together with the four information
separators. `trim` removes it from both ends of a text.
-/

namespace Triage.Text

/-- Tabs, line ends, separators and spaces. -/
def blankRanges : CodeRanges := #[
  (0x9, 0xd), (0x1c, 0x20), (0x85, 0x85), (0xa0, 0xa0), (0x1680, 0x1680), (0x2000, 0x200a),
  (0x2028, 0x2029), (0x202f, 0x202f), (0x205f, 0x205f), (0x3000, 0x3000)]

/-- White space. -/
def isBlank (c : Char) : Bool :=
  blankRanges.covers c.toNat

/-- White space of the ASCII range: tab, line feed, vertical tab, form feed, return and space. -/
def isAsciiBlank (c : Char) : Bool :=
  c == ' ' || ('\t' ≤ c && c ≤ '\r')

/-- The list without the characters of `p` at its two ends. -/
def trimList (p : Char → Bool) (cs : List Char) : List Char :=
  ((cs.dropWhile p).reverse.dropWhile p).reverse

/-- The text without white space at its two ends. -/
def trim (s : String) : String :=
  String.ofList (trimList isBlank s.toList)

/-- A text with nothing but white space. -/
def isBlankText (s : String) : Bool :=
  s.toList.all isBlank

end Triage.Text
