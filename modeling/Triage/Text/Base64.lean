/-!
# Bytes in base 64

`decodeBase64` reads four characters as three bytes. Characters that do not belong to the code are passed
over, and padding ends it.
-/

namespace Triage.Text

/-- The value of a character of the code. -/
def base64Value? (c : Char) : Option Nat :=
  if 'A' ≤ c && c ≤ 'Z' then some (c.toNat - 'A'.toNat)
  else if 'a' ≤ c && c ≤ 'z' then some (c.toNat - 'a'.toNat + 26)
  else if c.isDigit then some (c.toNat - '0'.toNat + 52)
  else if c == '+' then some 62
  else if c == '/' then some 63
  else none

/-- Why a text is not in base 64. -/
inductive Base64Fault where
  | oneTooMany (count : Nat)
  | padding
  deriving DecidableEq, Repr

/-- The wording of such a reason. -/
def Base64Fault.message : Base64Fault → String
  | oneTooMany n =>
    s!"Invalid base64-encoded string: number of data characters ({n}) cannot be 1 more than a multiple of 4"
  | padding => "Incorrect padding"

/-- Reads on with some values pending of a group of four, in reverse, and some padding met. `count` is the
number of values read. -/
def base64From (pending : List Nat) (pads count : Nat) : List Char → Except Base64Fault (List UInt8)
  | [] =>
    match pending with
    | [] => .ok []
    | [_] => .error (.oneTooMany count)
    | _ => .error .padding
  | c :: cs =>
    if c == '=' then
      if 2 ≤ pending.length then
        if 4 ≤ pending.length + pads + 1 then .ok []
        else base64From pending (pads + 1) count cs
      else base64From pending pads count cs
    else
      match base64Value? c with
      | none => base64From pending pads count cs
      | some v =>
        match pending with
        | [] => base64From [v] 0 (count + 1) cs
        | [a] => (base64From [v, a] 0 (count + 1) cs).map (UInt8.ofNat (a * 4 + v / 16) :: ·)
        | [b, _] =>
          (base64From (v :: pending) 0 (count + 1) cs).map (UInt8.ofNat (b % 16 * 16 + v / 4) :: ·)
        | d :: _ => (base64From [] 0 (count + 1) cs).map (UInt8.ofNat (d % 4 * 64 + v) :: ·)

/-- Reads bytes in base 64. -/
def decodeBase64 (cs : List Char) : Except Base64Fault (List UInt8) :=
  base64From [] 0 0 cs

end Triage.Text
