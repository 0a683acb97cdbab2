import Triage.Proofs.Json.Grammar
import Triage.Yaml.Source
import Triage.Yaml.Token.Stream

/-!
# JSON that is read as JSON

JSON is meant to be a part of YAML, but not every JSON text is. Here is what a text keeps to so that it is:

* white space without tabs, and in front of a colon nothing but spaces;
* keys that end with their colon within so many characters;
* in strings, no escape for a pair of surrogates, and as they are only characters that a document admits and that do
  not end a line;
* in numbers with an exponent, a point and the sign of the exponent, and in integers not more digits than are read.

`Json.Document.isPlain` puts these together.
-/

namespace Triage.Json

open Triage.Yaml (Source)

/-- The white space has no tab. -/
def Gap.isPlain (g : Gap) : Bool := g.1.all fun c => c != '\t'

/-- A character as it is that a document admits and that does not end a line, or an escape for one unit. -/
def Piece.isPlain : Piece → Bool
  | raw c _ => Source.admits c && !Yaml.isBreak c
  | escape body _ _ => body.length ≤ 5

/-- All characters of the string are plain. -/
def arePlain (ps : List Piece) : Bool := ps.all Piece.isPlain

/-- An integer whose digits are not too many, or a number with a point and a signed exponent or none. -/
def Numeral.isPlain (n : Numeral) : Bool :=
  if n.isInteger then n.whole.length ≤ Text.maxDigits
  else !n.fraction.isEmpty && n.exponent.all fun e => e.sign.isSome

/-- The key ends with its colon on its line and within so many characters. -/
def keyIsPlain (key : List Piece) (beforeColon : Gap) : Bool :=
  arePlain key && beforeColon.1.all (· == ' ') &&
    (quotedText key).length + beforeColon.1.length ≤ Yaml.Scanner.maxKeyLength

mutual

/-- The value is plain throughout. -/
def Term.isPlain : Term → Bool
  | .null | .bool _ => true
  | .number n => n.isPlain
  | .string ps => arePlain ps
  | .emptyArray g | .emptyObject g => g.isPlain
  | .array items => items.isPlain
  | .object members => members.isPlain

/-- The items are. -/
def Items.isPlain : Items → Bool
  | .last before t after => before.isPlain && t.isPlain && after.isPlain
  | .cons before t after rest => before.isPlain && t.isPlain && after.isPlain && rest.isPlain

/-- The members are. -/
def Members.isPlain : Members → Bool
  | .last before key beforeColon afterColon t after =>
    before.isPlain && keyIsPlain key beforeColon && afterColon.isPlain && t.isPlain && after.isPlain
  | .cons before key beforeColon afterColon t after rest =>
    before.isPlain && keyIsPlain key beforeColon && afterColon.isPlain && t.isPlain && after.isPlain && rest.isPlain

end

/-- The text is plain throughout. -/
def Document.isPlain (d : Document) : Bool := d.before.isPlain && d.root.isPlain && d.after.isPlain

/-- A text that is plain JSON. -/
def IsPlainText (s : String) : Prop := ∃ d : Document, d.text = s.toList ∧ d.isPlain = true

/-! ## Parts -/

variable {before beforeColon afterColon after : Gap} {key : List Piece} {t : Term}

theorem Items.isPlain_last : (Items.last before t after).isPlain = true ↔
    before.isPlain = true ∧ t.isPlain = true ∧ after.isPlain = true := by
  simp [Items.isPlain, and_assoc]

theorem Items.isPlain_cons {rest : Items} : (Items.cons before t after rest).isPlain = true ↔
    before.isPlain = true ∧ t.isPlain = true ∧ after.isPlain = true ∧ rest.isPlain = true := by
  simp [Items.isPlain, and_assoc]

theorem Members.isPlain_last : (Members.last before key beforeColon afterColon t after).isPlain = true ↔
    before.isPlain = true ∧ keyIsPlain key beforeColon = true ∧ afterColon.isPlain = true ∧ t.isPlain = true ∧
      after.isPlain = true := by
  simp [Members.isPlain, and_assoc]

theorem Members.isPlain_cons {rest : Members} :
    (Members.cons before key beforeColon afterColon t after rest).isPlain = true ↔
      before.isPlain = true ∧ keyIsPlain key beforeColon = true ∧ afterColon.isPlain = true ∧ t.isPlain = true ∧
        after.isPlain = true ∧ rest.isPlain = true := by
  simp [Members.isPlain, and_assoc]

theorem Document.isPlain_iff {d : Document} : d.isPlain = true ↔
    d.before.isPlain = true ∧ d.root.isPlain = true ∧ d.after.isPlain = true := by
  simp [Document.isPlain, and_assoc]

end Triage.Json
