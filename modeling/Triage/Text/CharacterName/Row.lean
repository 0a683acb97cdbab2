/-!
# Rows of named characters

The standard names characters one by one, and most names begin like those of the characters around.

* `NameRow`: characters in a row whose names begin alike.
* `NameRow.codePoint?`: the code point of a name in a row.
-/

namespace Triage.Text

/-- Characters in a row whose names begin alike. -/
structure NameRow where
  /-- The code point of the first one. -/
  first : Nat
  /-- What their names begin with. -/
  start : String
  /-- How their names go on, with bars between them; nothing stands for a code point without a name. -/
  ends : List String

/-- The text behind the given start of a name. -/
def afterStart? (start name : String) : Option (List Char) :=
  if start.toList.isPrefixOf name.toList then some (name.toList.drop start.length) else none

/-- The code point of the character with the name. -/
def NameRow.codePoint? (row : NameRow) (name : String) : Option Nat := do
  let rest ← afterStart? row.start name
  if rest.isEmpty then none
  else ((row.ends.flatMap (·.splitOn "|")).findIdx? (· == String.ofList rest)).map (row.first + ·)

end Triage.Text
