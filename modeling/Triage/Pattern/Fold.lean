import Triage.Text.CaseMap

/-!
# Comparing characters without regard to case

Two characters are taken for the same if their lower cases agree, or if the lower cases have a common
upper case. The few sets of different lower-case characters with a common upper case are listed.

* `CaseRule.lower`: the representative of a code point under a rule.
* `CaseRule.variants`: the representatives that count as equal to one.
* `CaseRule.sources`: the code points with a given representative.
-/

namespace Triage.Pattern

open Triage.Text

/-- How characters are compared. -/
inductive CaseRule where
  | exact
  /-- ASCII letters are compared without regard to case. -/
  | ascii
  /-- All letters are compared without regard to case. -/
  | full
  deriving Repr, DecidableEq

/-- Lower-case characters that share an upper case. -/
def sharedUpper : List (List Nat) :=
  [[0x69, 0x131], [0x73, 0x17f], [0xb5, 0x3bc], [0x345, 0x3b9, 0x1fbe], [0x390, 0x1fd3],
    [0x3b0, 0x1fe3], [0x3b2, 0x3d0], [0x3b5, 0x3f5], [0x3b8, 0x3d1], [0x3ba, 0x3f0],
    [0x3c0, 0x3d6], [0x3c1, 0x3f1], [0x3c2, 0x3c3], [0x3c6, 0x3d5], [0x432, 0x1c80],
    [0x434, 0x1c81], [0x43e, 0x1c82], [0x441, 0x1c83], [0x442, 0x1c84, 0x1c85], [0x44a, 0x1c86],
    [0x463, 0x1c87], [0x1c88, 0xa64b], [0x1e61, 0x1e9b], [0xfb05, 0xfb06]]

/-- Applies a mapping of characters to a code point; surrogates stay as they are. -/
def onPoint (f : Char → Char) (n : Nat) : Nat :=
  if n.isValidChar then (f (Char.ofNat n)).toNat else n

/-- Whether a run of the case tables has a member between the bounds. -/
def meetsRun (first last : Nat) (r : CaseRun) : Bool :=
  let start := if first ≤ r.first then r.first
    else r.first + (first - r.first + r.step - 1) / r.step * r.step
  start ≤ r.last && start ≤ last

/-- Whether two ranges have a member in common. -/
def rangesMeet (a b c d : Nat) : Bool :=
  max a c ≤ min b d

namespace CaseRule

/-- The representative of a code point. -/
def lower : CaseRule → Nat → Nat
  | exact, n => n
  | ascii, n => if 0x41 ≤ n && n ≤ 0x5a then n + 32 else n
  | full, n => onPoint lowerChar n

/-- The other representatives that count as equal to the given one. -/
def variants : CaseRule → Nat → List Nat
  | full, n => ((sharedUpper.find? (·.contains n)).getD []).filter (· != n)
  | _, _ => []

/-- Whether the rule takes the code point together with another one. -/
def isSensitive : CaseRule → Nat → Bool
  | exact, _ => false
  | ascii, n => (0x41 ≤ n && n ≤ 0x5a) || (0x61 ≤ n && n ≤ 0x7a)
  | full, n => n.isValidChar && isCaseSensitive (Char.ofNat n)

/-- The code points with the given representative. -/
def sources (rule : CaseRule) (n : Nat) : List Nat :=
  (if rule.lower n == n then [n] else []) ++
    match rule with
    | exact => []
    | ascii => if 0x61 ≤ n && n ≤ 0x7a then [n - 32] else []
    | full =>
      (if 0x61 ≤ n && n ≤ 0x7a then [n - 32] else []) ++
        (lowerRuns.toList.filterMap fun r =>
          if r.image ≤ n && n - r.image ≤ r.last - r.first && (n - r.image) % r.step == 0
          then some (r.first + (n - r.image)) else none) ++
        (lowerSpecials.toList.filterMap fun s => if s.2.head? == some n then some s.1 else none)

/-- Whether a range of code points below U+10000 has a sensitive member. -/
def isSensitiveRange (rule : CaseRule) (first last : Nat) : Bool :=
  let letters := rangesMeet first last 0x41 0x5a || rangesMeet first last 0x61 0x7a
  match rule with
  | exact => false
  | ascii => letters
  | full =>
    letters || lowerRuns.any (meetsRun first last) || upperRuns.any (meetsRun first last) ||
      lowerSpecials.any (fun s => first ≤ s.1 && s.1 ≤ last) ||
      upperSpecials.any (fun s => first ≤ s.1 && s.1 ≤ last)

end CaseRule

end Triage.Pattern
