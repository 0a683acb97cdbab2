import Triage.Value.Basic

/-!
# Reading JSON

`Json.parse?` reads a JSON text as a value. It takes exactly the grammar of the format: no comment, no
trailing comma, no leading zero. Of a key given twice the last value counts, in the place of the first.

The readers of values work on fuel. Each call for a nested value has consumed a character, so that the
length of the text is fuel enough.
-/

namespace Triage.Json

open Triage.Text (hexValue? natOfText)

/-- Insignificant white space. -/
def isSpace (c : Char) : Bool :=
  c == ' ' || c == '\t' || c == '\n' || c == '\r'

/-- The text after its leading white space. -/
def skipSpace (cs : List Char) : List Char :=
  cs.dropWhile isSpace

/-- Reads four hexadecimal digits. -/
def hexFour? : List Char → Option (Nat × List Char)
  | a :: b :: c :: d :: rest =>
    if [a, b, c, d].all fun x => (hexValue? x).isSome then some (natOfText 16 [a, b, c, d], rest)
    else none
  | _ => none

/-- The character of a surrogate pair. -/
def ofSurrogates (high low : Nat) : Char :=
  Char.ofNat (0x10000 + (high - 0xd800) * 0x400 + (low - 0xdc00))

/-- Reads the escape after a backslash. A high surrogate needs its low one. -/
def escape? : List Char → Option (Char × List Char)
  | '"' :: r => some ('"', r)
  | '\\' :: r => some ('\\', r)
  | '/' :: r => some ('/', r)
  | 'b' :: r => some ('\x08', r)
  | 'f' :: r => some ('\x0c', r)
  | 'n' :: r => some ('\n', r)
  | 'r' :: r => some ('\r', r)
  | 't' :: r => some ('\t', r)
  | 'u' :: r => do
    let (n, rest) ← hexFour? r
    if 0xd800 ≤ n && n < 0xdc00 then
      match rest with
      | '\\' :: 'u' :: rest => do
        let (m, rest) ← hexFour? rest
        if 0xdc00 ≤ m && m < 0xe000 then some (ofSurrogates n m, rest) else none
      | _ => none
    else if 0xdc00 ≤ n && n < 0xe000 then none
    else some (Char.ofNat n, rest)
  | _ => none

/-- Reads the characters of a string up to its closing quote; `done` holds those read, in reverse. -/
def stringTail? : Nat → List Char → List Char → Option (String × List Char)
  | 0, _, _ => none
  | fuel + 1, done, cs =>
    match cs with
    | '"' :: rest => some (String.ofList done.reverse, rest)
    | '\\' :: rest => do
      let (c, rest) ← escape? rest
      stringTail? fuel (c :: done) rest
    | c :: rest => if c.toNat < 0x20 then none else stringTail? fuel (c :: done) rest
    | [] => none

/-- Splits off the leading ASCII digits. -/
def spanDigits (cs : List Char) : List Char × List Char :=
  (cs.takeWhile Char.isDigit, cs.dropWhile Char.isDigit)

/-- Reads the fraction of a number, if there is one. -/
def fraction? : List Char → Option (List Char × List Char)
  | '.' :: rest =>
    let (ds, rest) := spanDigits rest
    if ds.isEmpty then none else some (ds, rest)
  | rest => some ([], rest)

/-- Reads the exponent of a number, if there is one. -/
def exponent? : List Char → Option (Option Int × List Char)
  | [] => some (none, [])
  | c :: rest =>
    if c == 'e' || c == 'E' then
      let (negative, rest) := match rest with
        | '-' :: r => (true, r)
        | '+' :: r => (false, r)
        | r => (false, r)
      let (ds, rest) := spanDigits rest
      if ds.isEmpty then none
      else
        let n : Int := natOfText 10 ds
        some (some (if negative then -n else n), rest)
    else some (none, c :: rest)

/-- Reads a number. It is an integer if it has neither fraction nor exponent. -/
def number? (cs : List Char) : Option (Value × List Char) := do
  let (negative, cs) := match cs with
    | '-' :: r => (true, r)
    | r => (false, r)
  let (whole, cs) := spanDigits cs
  if whole.isEmpty || (whole.head? == some '0' && 1 < whole.length) then none
  else
    let (frac, cs) ← fraction? cs
    let (exponent, cs) ← exponent? cs
    if frac.isEmpty && exponent.isNone then
      let n : Int := natOfText 10 whole
      some (.int (if negative then -n else n), cs)
    else
      let e := exponent.getD 0 - frac.length
      some (.float (.ofDecimal negative (natOfText 10 (whole ++ frac)) e), cs)

mutual

/-- Reads a value and the white space before it. -/
def value? : Nat → List Char → Option (Value × List Char)
  | 0, _ => none
  | fuel + 1, cs =>
    match skipSpace cs with
    | 'n' :: 'u' :: 'l' :: 'l' :: r => some (.null, r)
    | 't' :: 'r' :: 'u' :: 'e' :: r => some (.bool true, r)
    | 'f' :: 'a' :: 'l' :: 's' :: 'e' :: r => some (.bool false, r)
    | '"' :: r => (stringTail? (r.length + 1) [] r).map fun (s, r) => (.text s, r)
    | '[' :: r =>
      match skipSpace r with
      | ']' :: r => some (.list [], r)
      | r => (items? fuel r).map fun (vs, r) => (.list vs, r)
    | '{' :: r =>
      match skipSpace r with
      | '}' :: r => some (.map [], r)
      | r => (members? fuel [] r).map fun (es, r) => (.map es, r)
    | r => number? r

/-- Reads the items of an array up to its end. -/
def items? : Nat → List Char → Option (List Value × List Char)
  | 0, _ => none
  | fuel + 1, cs => do
    let (v, cs) ← value? fuel cs
    match skipSpace cs with
    | ',' :: r => (items? fuel r).map fun (vs, r) => (v :: vs, r)
    | ']' :: r => some ([v], r)
    | _ => none

/-- Reads the members of an object up to its end, after the given ones. -/
def members? : Nat → List (Value × Value) → List Char → Option (List (Value × Value) × List Char)
  | 0, _, _ => none
  | fuel + 1, done, cs =>
    match skipSpace cs with
    | '"' :: r => do
      let (key, r) ← stringTail? (r.length + 1) [] r
      match skipSpace r with
      | ':' :: r => do
        let (v, r) ← value? fuel r
        let done := Value.insertEntry (.text key) v done
        match skipSpace r with
        | ',' :: r => members? fuel done r
        | '}' :: r => some (done, r)
        | _ => none
      | _ => none
    | _ => none

end

/-- Reads a JSON text; `none` if it is not one. -/
def parse? (s : String) : Option Value :=
  let cs := s.toList
  match value? (cs.length + 1) cs with
  | some (v, rest) => if (skipSpace rest).isEmpty then some v else none
  | none => none

end Triage.Json
