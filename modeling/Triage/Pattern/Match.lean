import Triage.Pattern.Program

/-!
# Matching

A step is matched by trying its ways in order and handing each resulting state to what comes after
it; the first way with which the rest succeeds is taken.

* `Step.run`: the state after a step and the continuation, if there is a way.
* `repeatGreedy`, `repeatLazy`, `repeatPossessive`: the three orders of trying counts. Beyond the least
  count a repetition does not start again where it last started, so it ends even if its body matches
  the empty text; `rounds` bounds the number of rounds.
* `Program.search`: whether the program matches somewhere in a text.
-/

namespace Triage.Pattern

/-- Where a match stands: the place in the text and where groups last began and ended. -/
structure State where
  position : Nat
  starts : Array (Option Nat)
  ends : Array (Option Nat)
  deriving Repr, DecidableEq

/-- What to do with a state that a step leads to. -/
abbrev Continuation := State → Option State

namespace State

/-- The start of a match at a place. -/
def init (groups position : Nat) : State :=
  ⟨position, Array.replicate groups none, Array.replicate groups none⟩

/-- Notes that a group begins here. -/
def openGroup (g : Nat) (s : State) : State :=
  { s with starts := s.starts.setIfInBounds (g - 1) (some s.position) }

/-- Notes that a group ends here. -/
def closeGroup (g : Nat) (s : State) : State :=
  { s with ends := s.ends.setIfInBounds (g - 1) (some s.position) }

/-- The extent of a group that has been matched. -/
def extent? (s : State) (g : Nat) : Option (Nat × Nat) :=
  match (s.starts[g - 1]?).join, (s.ends[g - 1]?).join with
  | some a, some b => if a ≤ b then some (a, b) else none
  | _, _ => none

end State

/-- Whether the condition holds at the place. -/
def Place.holds (text : Array Char) (i : Nat) : Place → Bool
  | textStart => i == 0
  | lineStart => i == 0 || text[i - 1]? == some '\n'
  | textEnd => i == text.size
  | lastLineEnd => i == text.size || (i + 1 == text.size && text[i]? == some '\n')
  | lineEnd => i == text.size || text[i]? == some '\n'
  | boundary ascii negated =>
    let before := i != 0 && (text[i - 1]?).any (Kind.word.holds ascii)
    let after := (text[i]?).any (Kind.word.holds ascii)
    text.size != 0 && ((before != after) != negated)

/-- Whether the text repeats at `i` the `n` characters from `from_` on. -/
def repeatsAt (text : Array Char) (rule : CaseRule) (source i n : Nat) : Bool :=
  (List.range n).all fun k =>
    match text[source + k]?, text[i + k]? with
    | some a, some b => rule.lower a.toNat == rule.lower b.toNat
    | _, _ => false

/-- A number of rounds that no repetition from the state exceeds. -/
def rounds (text : Array Char) (least : Nat) (s : State) : Nat :=
  least + (text.size - s.position) + 2

/-- Whether another round is allowed after `count`. -/
def belowMost (most : Option Nat) (count : Nat) : Bool :=
  most.all fun m => count < m

/-- Tries one more round before going on. `last` is where the last round beyond the least count
began. -/
def repeatGreedy (body : State → Continuation → Option State) (least : Nat) (most : Option Nat)
    (k : Continuation) : Nat → Nat → Option Nat → Continuation
  | 0, _, _, _ => none
  | fuel + 1, count, last, s =>
    if count < least then
      body s (repeatGreedy body least most k fuel (count + 1) last)
    else if belowMost most count && last != some s.position then
      (body s (repeatGreedy body least most k fuel (count + 1) (some s.position))).orElse fun _ => k s
    else k s

/-- Tries to go on before one more round. -/
def repeatLazy (body : State → Continuation → Option State) (least : Nat) (most : Option Nat)
    (k : Continuation) : Nat → Nat → Option Nat → Continuation
  | 0, _, _, _ => none
  | fuel + 1, count, last, s =>
    if count < least then
      body s (repeatLazy body least most k fuel (count + 1) last)
    else
      (k s).orElse fun _ =>
        if belowMost most count && last != some s.position then
          body s (repeatLazy body least most k fuel (count + 1) (some s.position))
        else none

/-- Makes as many rounds as possible, each in its first way, and then goes on. -/
def repeatPossessive (body : State → Continuation → Option State) (least : Nat) (most : Option Nat)
    (k : Continuation) : Nat → Nat → Option Nat → Continuation
  | 0, _, _, _ => none
  | fuel + 1, count, last, s =>
    if count < least then
      match body s some with
      | some s' => repeatPossessive body least most k fuel (count + 1) last s'
      | none => none
    else if belowMost most count && last != some s.position then
      match body s some with
      | some s' => repeatPossessive body least most k fuel (count + 1) (some s.position) s'
      | none => k s
    else k s

/-- The repetition with the given order. -/
def repeatWith (appetite : Appetite) (body : State → Continuation → Option State) (least : Nat)
    (most : Option Nat) (k : Continuation) : Nat → Nat → Option Nat → Continuation :=
  match appetite with
  | .greedy => repeatGreedy body least most k
  | .lazy => repeatLazy body least most k
  | .possessive => repeatPossessive body least most k

mutual

/-- Matches a step and then the continuation. -/
def Step.run (text : Array Char) : Step → State → Continuation → Option State
  | .one test, s, k =>
    if (text[s.position]?).any (test.holds ·) then k { s with position := s.position + 1 } else none
  | .place p, s, k => if p.holds text s.position then k s else none
  | .branch choices, s, k => Step.runChoices text choices s k
  | .repeated least most appetite body, s, k =>
    repeatWith appetite (fun s k => Step.runAll text body s k) least most k (rounds text least s) 0
      none s
  | .group g body, s, k => Step.runAll text body (s.openGroup g) fun s => k (s.closeGroup g)
  | .atomic body, s, k =>
    match Step.runAll text body s some with
    | some s' => k s'
    | none => none
  | .ahead negated body, s, k =>
    match Step.runAll text body s some, negated with
    | some s', false => k { s' with position := s.position }
    | none, true => k s
    | _, _ => none
  | .behind width negated body, s, k =>
    if s.position < width then if negated then k s else none
    else
      match Step.runAll text body { s with position := s.position - width } some, negated with
      | some s', false => k { s' with position := s.position }
      | none, true => k s
      | _, _ => none
  | .backref rule g, s, k =>
    match s.extent? g with
    | some (a, b) =>
      if repeatsAt text rule a s.position (b - a) then k { s with position := s.position + (b - a) }
      else none
    | none => none
  | .ifGroup g yes no, s, k =>
    if (s.extent? g).isSome then Step.runAll text yes s k else Step.runAll text no s k

/-- Matches steps one after the other and then the continuation. -/
def Step.runAll (text : Array Char) : List Step → State → Continuation → Option State
  | [], s, k => k s
  | p :: ps, s, k => Step.run text p s fun s => Step.runAll text ps s k

/-- Matches the first of some alternatives with which the continuation succeeds. -/
def Step.runChoices (text : Array Char) : List (List Step) → State → Continuation → Option State
  | [], _, _ => none
  | c :: cs, s, k => (Step.runAll text c s k).orElse fun _ => Step.runChoices text cs s k

end

/-- Whether the program matches at the place. -/
def Program.matchesAt (p : Program) (text : Array Char) (i : Nat) : Bool :=
  (Step.runAll text p.steps (.init p.groups i) some).isSome

/-- Whether the program matches somewhere in the text. -/
def Program.search (p : Program) (text : String) : Bool :=
  let chars := text.toList.toArray
  (List.range (chars.size + 1)).any (p.matchesAt chars)

end Triage.Pattern
