import Triage.Proofs.Observer.Run

/-!
# The attempt to load

As long as an observer has not settled whether there is a taxonomy, preparing makes one more attempt to load it.

* `LoadFailure.told?`: the line that tells of a failure. Only a failure that is to be caught and can be told of has
  one, and only such a failure is counted and kept.
* `State.attempt?`: the outcome of the attempt that preparing makes in a state, if it makes one.
* `prepare_state`: **the state after preparing**, from that outcome alone.
-/

namespace Triage

/-- The line that tells of a failure, if it is to be caught and can be told of. -/
def LoadFailure.told? (f : LoadFailure) : Option String :=
  if f.isCaught then f.describe.toOption else none

theorem LoadFailure.told?_eq_some_iff {f : LoadFailure} {line : String} :
    f.told? = some line ↔ f.isCaught = true ∧ f.describe = .ok line := by
  unfold told?
  cases f.isCaught with
  | false => simp
  | true => cases f.describe <;> simp [Except.toOption]

namespace Observer

variable {o : Observer} {s : State} {α : Type}

/-- A failed attempt leaves a trace exactly if it can be told of. -/
theorem fail_state (o : Observer) (attempt : Nat) (f : LoadFailure) (s : State) :
    ((o.fail attempt f : Action α).on s).2 = f.told?.elim s fun line => s.failed ⟨attempt, f⟩ line := by
  rw [fail_on]
  unfold LoadFailure.told?
  cases f.isCaught with
  | false => rfl
  | true => cases f.describe <;> rfl

/-- A failed attempt is refused, whatever came of it. -/
theorem fail_refused (o : Observer) (attempt : Nat) (f : LoadFailure) (s : State) :
    ∃ e, ((o.fail attempt f : Action α).on s).1 = .error e := by
  rw [fail_on]
  cases f.isCaught with
  | false => exact ⟨_, rfl⟩
  | true => cases f.describe <;> exact ⟨_, rfl⟩

/-- The outcome of the attempt to load that preparing makes, if it makes one. -/
def State.attempt? (s : State) : Option LoadOutcome :=
  match s.stage with
  | .untried loader => some (loader s.attempts)
  | .ready _ | .failed _ => none

theorem State.attempt?_eq_some_iff {x : LoadOutcome} :
    s.attempt? = some x ↔ ∃ loader, s.stage = .untried loader ∧ loader s.attempts = x := by
  unfold attempt?
  cases s.stage <;> simp

/-- Where the matter is settled, no attempt is made. -/
theorem State.attempt?_eq_none_iff : s.attempt? = none ↔ ∀ loader, s.stage ≠ .untried loader := by
  unfold attempt?
  cases s.stage <;> simp

theorem prepare_of_settled (h : s.attempt? = none) (o : Observer) : (o.prepare.on s).2 = s := by
  cases hs : s.stage with
  | ready cl => rw [prepare_of_ready hs]
  | failed e => rw [prepare_of_failed hs]
  | untried loader => exact absurd hs (State.attempt?_eq_none_iff.1 h loader)

/-- **The state after preparing.** -/
theorem prepare_state (o : Observer) (s : State) :
    (o.prepare.on s).2 =
      match s.attempt? with
      | none => s
      | some (.ok (t, lines)) => s.loaded (o.classifierOf t) lines
      | some (.error f) =>
        f.told?.elim { s with attempts := s.attempts + 1 } fun line =>
          State.failed { s with attempts := s.attempts + 1 } ⟨s.attempts, f⟩ line := by
  rcases ha : s.attempt? with _ | x | f
  · exact prepare_of_settled ha o
  · obtain ⟨loader, hs, hl⟩ := State.attempt?_eq_some_iff.1 ha
    rw [prepare_of_untried hs, hl]
    exact fail_state o s.attempts x _
  · obtain ⟨loader, hs, hl⟩ := State.attempt?_eq_some_iff.1 ha
    rw [prepare_of_untried hs, hl]

end Observer

end Triage
