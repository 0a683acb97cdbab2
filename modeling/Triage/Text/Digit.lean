/-!
# Decimal digits

Every decimal digit of the standard belongs to a run of ten in ascending order, so a run is known by
its zero. `digitValue?` gives the value of a digit of any run.
-/

namespace Triage.Text

/-- The zeros of the decimal digit runs above ASCII; each is followed by its nine other digits. -/
def digitZeros : Array Nat := #[
  0x660, 0x6f0, 0x7c0, 0x966, 0x9e6, 0xa66, 0xae6, 0xb66, 0xbe6, 0xc66, 0xce6, 0xd66, 0xde6,
  0xe50, 0xed0, 0xf20, 0x1040, 0x1090, 0x17e0, 0x1810, 0x1946, 0x19d0, 0x1a80, 0x1a90, 0x1b50,
  0x1bb0, 0x1c40, 0x1c50, 0xa620, 0xa8d0, 0xa900, 0xa9d0, 0xa9f0, 0xaa50, 0xabf0, 0xff10,
  0x104a0, 0x10d30, 0x11066, 0x110f0, 0x11136, 0x111d0, 0x112f0, 0x11450, 0x114d0, 0x11650,
  0x116c0, 0x11730, 0x118e0, 0x11950, 0x11c50, 0x11d50, 0x11da0, 0x16a60, 0x16ac0, 0x16b50,
  0x1d7ce, 0x1d7d8, 0x1d7e2, 0x1d7ec, 0x1d7f6, 0x1e140, 0x1e2f0, 0x1e950, 0x1fbf0]

/-- The value of a decimal digit, in any script. -/
def digitValue? (c : Char) : Option Nat :=
  if c.val < 128 then if c.isDigit then some (c.toNat - '0'.toNat) else none
  else (digitZeros.find? fun z => z ≤ c.toNat && c.toNat < z + 10).map (c.toNat - ·)

/-- Decimal digits of any script. -/
def isDecimalDigit (c : Char) : Bool :=
  (digitValue? c).isSome

/-- The value of a hexadecimal digit. -/
def hexValue? (c : Char) : Option Nat :=
  if c.isDigit then some (c.toNat - '0'.toNat)
  else if 'a' ≤ c && c ≤ 'f' then some (c.toNat - 'a'.toNat + 10)
  else if 'A' ≤ c && c ≤ 'F' then some (c.toNat - 'A'.toNat + 10)
  else none

/-- Hexadecimal digits of either case. -/
def isHexDigit (c : Char) : Bool :=
  (hexValue? c).isSome

/-- Octal digits. -/
def isOctalDigit (c : Char) : Bool :=
  '0' ≤ c && c ≤ '7'

/-- The largest number of decimal digits that are read as one number. -/
def maxDigits : Nat := 4300

/-- The number that digits of a base spell, most significant first. -/
def natOfDigits (base : Nat) (ds : List Nat) : Nat :=
  ds.foldl (fun n d => n * base + d) 0

/-- The number that ASCII digits and letters spell in the base; other characters count as zero. -/
def natOfText (base : Nat) (cs : List Char) : Nat :=
  natOfDigits base (cs.map fun c => (hexValue? c).getD 0)

end Triage.Text
