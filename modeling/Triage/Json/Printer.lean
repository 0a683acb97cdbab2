import Triage.Value.Basic

/-!
# Writing JSON

`Json.render` writes a value on one line, with `, ` and `: ` as separators and ASCII characters only: any
other character is written by its number, as a surrogate pair beyond the basic plane.
-/

namespace Triage.Json

open Triage.Text (hexPadded)

/-- The escape of one unit of 16 bits. -/
def unitEscape (n : Nat) : List Char :=
  '\\' :: 'u' :: hexPadded 4 n

/-- A character inside a string. -/
def escapedChar (c : Char) : List Char :=
  if c == '"' || c == '\\' then ['\\', c]
  else if c == '\n' then ['\\', 'n']
  else if c == '\r' then ['\\', 'r']
  else if c == '\t' then ['\\', 't']
  else if c == '\x0c' then ['\\', 'f']
  else if c == '\x08' then ['\\', 'b']
  else if 0x20 ≤ c.toNat && c.toNat < 0x7f then [c]
  else if c.toNat < 0x10000 then unitEscape c.toNat
  else
    let n := c.toNat - 0x10000
    unitEscape (0xd800 + n / 0x400) ++ unitEscape (0xdc00 + n % 0x400)

/-- A text as a string of JSON. -/
def string (s : String) : String :=
  String.ofList ('"' :: (s.toList.flatMap escapedChar ++ ['"']))

mutual

/-- A value as JSON. What JSON has no form for is written as the text that it is shown as. -/
def render : Value → String
  | .null => "null"
  | .bool b => if b then "true" else "false"
  | .int n => toString n
  | .float x => x.render
  | .text s => string s
  | .list items => "[" ++ ", ".intercalate (renderItems items) ++ "]"
  | .map entries => "\x7b" ++ ", ".intercalate (renderEntries entries) ++ "\x7d"
  | v => string v.shown

/-- The items of an array. -/
def renderItems : List Value → List String
  | [] => []
  | v :: vs => render v :: renderItems vs

/-- The members of an object. -/
def renderEntries : List (Value × Value) → List String
  | [] => []
  | (k, v) :: es => (string k.toText ++ ": " ++ render v) :: renderEntries es

end

end Triage.Json
