import Triage.Pattern.Match

/-!
# Patterns

A pattern is its source together with the program that the source compiles to, so that a pattern once
accepted always matches without failing.

* `Pattern.eq_iff`: two patterns are the same if their sources are.
-/

namespace Triage

/-- A regular expression that has been accepted. -/
structure Pattern where
  source : String
  program : Pattern.Program
  compiles : Pattern.Program.ofSource source = .ok program

namespace Pattern

/-- Accepts a regular expression, or says why not. -/
def compile (source : String) : Except Failure Pattern :=
  match h : Program.ofSource source with
  | .ok program => .ok ⟨source, program, h⟩
  | .error e => .error e

/-- Whether the pattern matches somewhere in the text. -/
def search (p : Pattern) (text : String) : Bool :=
  p.program.search text

/-- **A pattern is known by its source.** -/
theorem eq_iff {p q : Pattern} : p = q ↔ p.source = q.source := by
  refine ⟨fun h => h ▸ rfl, fun h => ?_⟩
  cases p with
  | mk s a ha =>
    cases q with
    | mk t b hb =>
      cases h
      cases Except.ok.inj (ha.symm.trans hb)
      rfl

instance : DecidableEq Pattern := fun p q =>
  if h : p.source = q.source then .isTrue (eq_iff.2 h) else .isFalse fun e => h (eq_iff.1 e)

end Pattern

end Triage
