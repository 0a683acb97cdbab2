import Triage.Text.Digit

/-!
# Binary floating point numbers

A number of the 64-bit binary format is held by its bits, so that two of them can be compared.

* `Binary64.nearest`, `Binary64.ofDecimal`: the nearest number to a quotient, and to a decimal one.
* `Binary64.render`: the fewest digits that read back; positional from `1e-4` up to, not including, `1e16`.
* `Binary64.toInt?`: the integer that the number is, if it is one.
-/

namespace Triage

/-- A binary floating point number. -/
structure Binary64 where
  bits : UInt64
  deriving DecidableEq, Repr

namespace Binary64

/-- The number as the machine computes with it. -/
def toFloat (x : Binary64) : Float := .ofBits x.bits

/-- The bits of a machine number. -/
def ofFloat (x : Float) : Binary64 := ⟨x.toBits⟩

/-- Infinity. -/
def infinity : Binary64 := ⟨0x7ff0000000000000⟩

/-- The value that is no number. -/
def nan : Binary64 := ⟨0x7ff8000000000000⟩

/-- The number with the other sign. -/
def neg (x : Binary64) : Binary64 := ⟨x.bits ^^^ 0x8000000000000000⟩

/-- Whether the sign bit is set. -/
def isNegative (x : Binary64) : Bool := x.bits >>> 63 == 1

/-- The least magnitude of 53 bits. -/
def leastNormal : Nat := 0x10000000000000

/-- The biased exponent. -/
def exponentField (x : Binary64) : Nat := x.bits.toNat / leastNormal % 0x800

/-- The fraction. -/
def fractionField (x : Binary64) : Nat := x.bits.toNat % leastNormal

/-- Neither infinite nor the value that is no number. -/
def isFinite (x : Binary64) : Bool := x.exponentField != 2047

/-- The value that is no number. -/
def isNaN (x : Binary64) : Bool := x.exponentField == 2047 && x.fractionField != 0

/-- A finite magnitude as `m * 2 ^ (e - 1075)`; the answer is the pair `(m, e)`. -/
def magnitude (x : Binary64) : Nat × Nat :=
  if x.exponentField == 0 then (x.fractionField, 1)
  else (x.fractionField + leastNormal, x.exponentField)

/-- A quotient rounded to the nearest integer, and to the even one if two are as near. -/
def roundedQuotient (n d : Nat) : Nat :=
  let below := n / d
  let twice := 2 * (n % d)
  if d < twice || (twice == d && below % 2 == 1) then below + 1 else below

/-- The number nearest to `n / d`. -/
def nearest (n d : Nat) : Binary64 :=
  if n == 0 then ⟨0⟩
  else
    -- the quotient lies between `2 ^ top` and twice that
    let top : Int := if d ≤ n then Nat.log2 (n / d) else -((Nat.log2 ((d - 1) / n) + 1 : Nat) : Int)
    let e := (max 1 (top + 1023)).toNat
    if 2046 < e then infinity
    else
      let m := roundedQuotient (n * Nat.pow 2 (1075 - e)) (d * Nat.pow 2 (e - 1075))
      -- a magnitude that is rounded up to 54 bits carries over into the exponent
      ⟨.ofNat ((e - 1) * leastNormal + m)⟩

/-- The number nearest to `m * 10 ^ e`. Beyond the exponents that matter the answer is known without a
power of ten being computed. -/
def decimal (m : Nat) (e : Int) : Binary64 :=
  let size := if m == 0 then 0 else (Nat.log2 m / 3 : Nat) + e
  if m == 0 || size < -2000 then ⟨0⟩
  else if 2000 < e then infinity
  else nearest (m * Nat.pow 10 e.toNat) (Nat.pow 10 (-e).toNat)

/-- The number nearest to `m * 10 ^ e` or to its negative. -/
def ofDecimal (negative : Bool) (m : Nat) (e : Int) : Binary64 :=
  if negative then (decimal m e).neg else decimal m e

/-- The integer that the number is, if it is one. -/
def toInt? (x : Binary64) : Option Int :=
  if !x.isFinite then none
  else
    let (m, e) := x.magnitude
    let sign (n : Nat) : Int := if x.isNegative then -(n : Int) else n
    if 1075 ≤ e then some (sign (m * Nat.pow 2 (e - 1075)))
    else if m % Nat.pow 2 (1075 - e) == 0 then some (sign (m / Nat.pow 2 (1075 - e)))
    else none

/-- A positive magnitude between its two rounding limits, over one denominator. -/
structure Interval where
  low : Nat
  value : Nat
  high : Nat
  denominator : Nat
  closed : Bool

/-- The interval of the reals that round to the magnitude `m * 2 ^ (e - 1075)`. -/
def interval (m e : Nat) : Interval :=
  let low := if m == leastNormal && 1 < e then 4 * m - 1 else 4 * m - 2
  if 1077 ≤ e then
    let s := Nat.pow 2 (e - 1077)
    ⟨low * s, 4 * m * s, (4 * m + 2) * s, 1, m % 2 == 0⟩
  else ⟨low, 4 * m, 4 * m + 2, Nat.pow 2 (1077 - e), m % 2 == 0⟩

/-- Whether `n / d` lies in the interval. -/
def Interval.holds (i : Interval) (n d : Nat) : Bool :=
  if i.closed then i.low * d ≤ n * i.denominator && n * i.denominator ≤ i.high * d
  else i.low * d < n * i.denominator && n * i.denominator < i.high * d

/-- The decimal exponent `k` of a positive value: `10 ^ k` is the largest power of ten not above it,
searched downwards from `start`. -/
def decimalExponent (i : Interval) : Nat → Int → Int
  | 0, k => k
  | fuel + 1, k =>
    let reaches := if 0 ≤ k then Nat.pow 10 k.toNat * i.denominator ≤ i.value
      else i.denominator ≤ i.value * Nat.pow 10 k.natAbs
    if reaches then k else decimalExponent i fuel (k - 1)

/-- The point of the grid of `10 ^ k` that lies in the interval and is nearest to the value. -/
def Interval.gridPoint? (i : Interval) (k : Int) : Option Nat :=
  -- the value is `top / bottom` grid steps
  let (top, bottom) := if 0 ≤ k then (i.value, i.denominator * Nat.pow 10 k.toNat)
    else (i.value * Nat.pow 10 k.natAbs, i.denominator)
  let inside (n : Nat) : Bool :=
    if 0 ≤ k then i.holds (n * Nat.pow 10 k.toNat) 1 else i.holds n (Nat.pow 10 k.natAbs)
  let below := top / bottom
  let twice := 2 * (top % bottom)
  let upFirst := bottom < twice || (bottom == twice && below % 2 == 1)
  let (near, far) := if upFirst then (below + 1, below) else (below, below + 1)
  if inside near then some near else if inside far then some far else none

/-- The first grid with a point in the interval, from coarse to fine: the point and the grid. -/
def shortest (i : Interval) (k : Int) : Nat → Nat × Int
  | 0 => ((i.gridPoint? k).getD 0, k)
  | fuel + 1 =>
    match i.gridPoint? k with
    | some n => (n, k)
    | none => shortest i (k - 1) fuel

/-- The decimal digits of `n`. -/
def digits (n : Nat) : List Char := (toString n).toList

/-- Digits without the zeros at their end, and how many those were. -/
def dropTrailingZeros (ds : List Char) : List Char × Nat :=
  let zeros := (ds.reverse.takeWhile (· == '0')).length
  (ds.take (ds.length - zeros), zeros)

/-- The text of `n * 10 ^ k`, which always shows that the number is not an integer type. -/
def renderDecimal (n : Nat) (k : Int) : String :=
  let (ds, zeros) := dropTrailingZeros (digits n)
  let k := k + zeros
  -- the place of the point, counted from the first digit
  let point := k + ds.length
  if -4 < point && point ≤ 16 then
    if point ≤ 0 then "0." ++ String.ofList (List.replicate point.natAbs '0' ++ ds)
    else if ds.length ≤ point.toNat then
      String.ofList (ds ++ List.replicate (point.toNat - ds.length) '0') ++ ".0"
    else String.ofList (ds.take point.toNat) ++ "." ++ String.ofList (ds.drop point.toNat)
  else
    let e := point - 1
    let exponent := digits e.natAbs
    let exponent := if exponent.length < 2 then '0' :: exponent else exponent
    let rest := ds.drop 1
    String.ofList (ds.take 1) ++ (if rest.isEmpty then "" else "." ++ String.ofList rest) ++ "e" ++
      (if e < 0 then "-" else "+") ++ String.ofList exponent

/-- The text of a number: the fewest digits that read back. -/
def render (x : Binary64) : String :=
  let sign := if x.isNegative then "-" else ""
  if x.isNaN then "nan"
  else if !x.isFinite then sign ++ "inf"
  else
    let (m, e) := x.magnitude
    if m == 0 then sign ++ "0.0"
    else
      let i := interval m e
      let k := decimalExponent i 650 309
      let (n, k) := shortest i k 17
      sign ++ renderDecimal n k

end Binary64

end Triage
