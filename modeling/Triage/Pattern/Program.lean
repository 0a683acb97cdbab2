import Triage.Pattern.Fold
import Triage.Pattern.Parser
import Triage.Text.Alphanumeric
import Triage.Text.Blank
import Triage.Text.Digit

/-!
# Patterns with their flags worked in

A program is what is left of a syntax tree once every node knows the flags that hold for it: tests of
one character, conditions on a place, and the nodes that steer the search.

* `CharTest.holds`: whether a character passes a test.
* `Step.ofNodes`: the program of a syntax tree. It fails on a lookbehind whose width is not fixed.
-/

namespace Triage.Pattern

open Triage.Text

/-- The characters that the two repertoires count to a class. -/
def Kind.holds (ascii : Bool) (k : Kind) (c : Char) : Bool :=
  match k, ascii with
  | .digit, true => c.isDigit
  | .digit, false => isDecimalDigit c
  | .space, true => isAsciiBlank c
  | .space, false => isBlank c
  | .word, true => isAsciiWordChar c
  | .word, false => isWordChar c

namespace SetItem

/-- Whether a character is a member. -/
def holds (ascii : Bool) (c : Char) : SetItem → Bool
  | literal n => c.toNat == n
  | range a b => a ≤ c.toNat && c.toNat ≤ b
  | kind k negated => k.holds ascii c != negated

/-- Whether the item makes a set depend on case. Code points from U+10000 on always do. -/
def isSensitive (rule : CaseRule) : SetItem → Bool
  | literal n => rule != .exact && n ≥ 0x10000 || rule.isSensitive n
  | range a b => rule != .exact && b ≥ 0x10000 || rule.isSensitiveRange a b
  | kind _ _ => false

/-- Whether the representative of a character is a member of a set that depends on case. Below U+10000 a
member stands for all its variants; above, a literal stands for itself alone and a range also for the
lower cases of its members. -/
def holdsFolded (rule : CaseRule) (ascii : Bool) (c : Char) : SetItem → Bool
  | literal n =>
    if n < 0x10000 then
      let m := rule.lower n
      c.toNat == m || (rule.variants m).contains c.toNat
    else c.toNat == n
  | range a b =>
    ((c.toNat :: rule.variants c.toNat).any fun m =>
      (rule.sources m).any fun n => a ≤ n && n ≤ b && n < 0x10000) ||
    (b ≥ 0x10000 &&
      ((a ≤ c.toNat && c.toNat ≤ b) || (a ≤ (upperChar c).toNat && (upperChar c).toNat ≤ b)))
  | kind k negated => k.holds ascii c != negated

end SetItem

/-- A test of one character. -/
inductive CharTest where
  | any
  | anyInLine
  | equals (n : Nat)
  | differs (n : Nat)
  /-- The representative under the rule is one of the members, or is none of them. -/
  | oneOf (rule : CaseRule) (members : List Nat) (negated : Bool)
  | inSet (ascii negated : Bool) (items : List SetItem)
  | inFoldedSet (rule : CaseRule) (ascii negated : Bool) (items : List SetItem)
  deriving Repr, DecidableEq

/-- The representative of a character. -/
def CaseRule.lowerChar (rule : CaseRule) (c : Char) : Char :=
  Char.ofNat (rule.lower c.toNat)

/-- Whether a character passes the test. -/
def CharTest.holds (c : Char) : CharTest → Bool
  | any => true
  | anyInLine => c != '\n'
  | equals n => c.toNat == n
  | differs n => c.toNat != n
  | oneOf rule members negated => members.contains (rule.lower c.toNat) != negated
  | inSet ascii negated items => items.any (·.holds ascii c) != negated
  | inFoldedSet rule ascii negated items =>
    items.any (·.holdsFolded rule ascii (rule.lowerChar c)) != negated

/-- A condition on a place in the text. -/
inductive Place where
  | textStart
  | lineStart
  | textEnd
  /-- The end of the text or before a line feed that ends it. -/
  | lastLineEnd
  | lineEnd
  | boundary (ascii negated : Bool)
  deriving Repr, DecidableEq

/-- A step of a program. -/
inductive Step where
  | one (test : CharTest)
  | place (p : Place)
  | branch (choices : List (List Step))
  | repeated (least : Nat) (most : Option Nat) (appetite : Appetite) (body : List Step)
  | group (index : Nat) (body : List Step)
  | atomic (body : List Step)
  | ahead (negated : Bool) (body : List Step)
  | behind (width : Nat) (negated : Bool) (body : List Step)
  | backref (rule : CaseRule) (group : Nat)
  | ifGroup (group : Nat) (yes no : List Step)
  deriving Repr

namespace Flags

/-- The rule that the flags ask for. -/
def rule (f : Flags) : CaseRule :=
  if !f.ignoreCase then .exact else if f.unicode then .full else .ascii

/-- The test for a literal. -/
def literal (f : Flags) (n : Nat) (negated : Bool) : CharTest :=
  if f.rule.isSensitive n then
    let m := f.rule.lower n
    .oneOf f.rule (m :: f.rule.variants m) negated
  else if negated then .differs n else .equals n

/-- The test for a set. -/
def set (f : Flags) (negated : Bool) (items : List SetItem) : CharTest :=
  if items.any (·.isSensitive f.rule) then .inFoldedSet f.rule (!f.unicode) negated items
  else .inSet (!f.unicode) negated items

/-- The place for an anchor. -/
def place (f : Flags) : Anchor → Place
  | .lineStart => if f.multiline then .lineStart else .textStart
  | .lineEnd => if f.multiline then .lineEnd else .lastLineEnd
  | .textStart => .textStart
  | .textEnd => .textEnd
  | .boundary => .boundary (!f.unicode) false
  | .notBoundary => .boundary (!f.unicode) true

end Flags

/-- The largest width of a lookbehind. -/
def lookbehindLimit : Nat := 4294967295

/-- The name of a repetition, for the one message that needs it. -/
def Appetite.name : Appetite → String
  | greedy => "MAX_REPEAT"
  | lazy => "MIN_REPEAT"
  | possessive => "POSSESSIVE_REPEAT"

mutual

/-- The steps of a node under the flags in force. `groups` gives the widths of groups. -/
def Step.ofNode (groups : Nat → Width) (f : Flags) : Node → Except Failure (List Step)
  | .literal n => return [.one (f.literal n false)]
  | .notLiteral n => return [.one (f.literal n true)]
  | .set negated items => return [.one (f.set negated items)]
  | .any => return [.one (if f.dotAll then .any else .anyInLine)]
  | .anchor a => return [.place (f.place a)]
  | .branch choices => return [.branch (← Step.ofChoices groups f choices)]
  | .repeated least most appetite body => do
    if f.template then throw (.malformed (.templateOperator appetite.name) none)
    return [.repeated least most appetite (← Step.ofNodes groups f body)]
  | .group index on off body => do
    let steps ← Step.ofNodes groups (f.enter on off) body
    match index with
    | some g => return [.group g steps]
    | none => return steps
  | .atomic body => return [.atomic (← Step.ofNodes groups f body)]
  | .look false negated body => return [.ahead negated (← Step.ofNodes groups f body)]
  | .look true negated body => do
    let w := Node.widthOfList groups body
    if w.least > lookbehindLimit then throw (.malformed .lookbehindTooWide none)
    if w.least != w.most then throw (.malformed .lookbehindWidth none)
    return [.behind w.least negated (← Step.ofNodes groups f body)]
  | .backref g => return [.backref f.rule g]
  | .ifGroup g yes no => do
    let yes ← Step.ofNodes groups f yes
    match no with
    | some nodes => return [.ifGroup g yes (← Step.ofNodes groups f nodes)]
    | none => return [.ifGroup g yes []]

/-- The steps of a sequence. -/
def Step.ofNodes (groups : Nat → Width) (f : Flags) : List Node → Except Failure (List Step)
  | [] => return []
  | n :: ns => do
    let steps ← Step.ofNode groups f n
    return steps ++ (← Step.ofNodes groups f ns)

/-- The steps of alternatives. -/
def Step.ofChoices (groups : Nat → Width) (f : Flags) :
    List (List Node) → Except Failure (List (List Step))
  | [] => return []
  | c :: cs => do
    let steps ← Step.ofNodes groups f c
    return steps :: (← Step.ofChoices groups f cs)

end

/-- A pattern ready to be matched. -/
structure Program where
  steps : List Step
  /-- The number of groups. -/
  groups : Nat
  deriving Repr

/-- The program of a pattern. -/
def Program.ofSource (source : String) : Except Failure Program := do
  let p ← parse source
  return ⟨← Step.ofNodes p.groupWidth p.flags p.nodes, p.widths.size⟩

end Triage.Pattern
