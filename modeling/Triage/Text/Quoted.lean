import Triage.Text.Printable
import Triage.Text.Digit

/-!
# Quoted text

How a text is shown inside a message: between single quotes, or between double quotes when it holds a
single quote and no double one. The backslash and the chosen quote are escaped by a backslash, line
feed, return and tab by a letter, other characters without a visible form by their number.
-/

namespace Triage.Text

/-- The digit of a value below 16, in lower case. -/
def hexDigit (n : Nat) : Char :=
  if n < 10 then Char.ofNat ('0'.toNat + n) else Char.ofNat ('a'.toNat + (n - 10))

/-- The hexadecimal form of `n` in exactly `width` digits. -/
def hexPadded (width n : Nat) : List Char :=
  (List.range width).reverse.map fun i => hexDigit (n / Nat.pow 16 i % 16)

/-- The escape of a character without a visible form, by its code point. -/
def numericEscape (n : Nat) : List Char :=
  if n < 0x100 then '\\' :: 'x' :: hexPadded 2 n
  else if n < 0x10000 then '\\' :: 'u' :: hexPadded 4 n
  else '\\' :: 'U' :: hexPadded 8 n

/-- One character of a quoted text. -/
def quotedChar (quote c : Char) : List Char :=
  if c == quote || c == '\\' then ['\\', c]
  else if c == '\n' then ['\\', 'n']
  else if c == '\r' then ['\\', 'r']
  else if c == '\t' then ['\\', 't']
  else if isPrintable c then [c]
  else numericEscape c.toNat

/-- The quote that a text is shown with. -/
def quoteFor (s : String) : Char :=
  if s.toList.contains '\'' && !s.toList.contains '"' then '"' else '\''

/-- The text as shown inside a message. -/
def quoted (s : String) : String :=
  let q := quoteFor s
  String.ofList (q :: (s.toList.flatMap (quotedChar q) ++ [q]))

/-- One byte of a quoted byte string. -/
def quotedByte (quote : Char) (b : UInt8) : List Char :=
  let c := Char.ofNat b.toNat
  if c == quote || c == '\\' then ['\\', c]
  else if c == '\n' then ['\\', 'n']
  else if c == '\r' then ['\\', 'r']
  else if c == '\t' then ['\\', 't']
  else if 32 ≤ b && b < 127 then [c]
  else '\\' :: 'x' :: hexPadded 2 b.toNat

/-- A byte string as shown inside a message: a quoted text after the letter `b`. -/
def quotedBytes (bs : List UInt8) : String :=
  let q := if bs.contains 39 && !bs.contains 34 then '"' else '\''
  String.ofList ('b' :: q :: (bs.flatMap (quotedByte q) ++ [q]))

end Triage.Text
