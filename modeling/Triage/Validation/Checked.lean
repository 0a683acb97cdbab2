import Triage.Validation.Issue

/-!
# Checks that collect issues

A check turns a value into what it stands for. Checks of independent parts are combined so that the
issues of all parts are reported, in order; a check that builds on the result of another one runs only
if that one succeeds.

* `Checked`: the outcome of a check. A pattern beyond a limit of the matcher ends the whole check at
  once, whatever issues are known by then.
* `Checked.ap`: the combination of independent parts.
* `Checked.ap_eq_ok`: a combination succeeds exactly if both parts do.
-/

namespace Triage

/-- Why a check fails. -/
inductive Rejection where
  | issues (list : List Issue)
  | beyondLimit (failure : Pattern.Failure)
  deriving DecidableEq, Repr

/-- The outcome of a check. -/
inductive Checked (α : Type) where
  | ok (a : α)
  | failed (r : Rejection)
  deriving DecidableEq

namespace Checked

variable {α β : Type}

/-- A check that fails with one complaint about the value itself. -/
def fail (c : Complaint) : Checked α := failed (.issues [⟨[], c⟩])

/-- Combines independent checks and collects their issues. -/
def ap (f : Checked (α → β)) (x : Unit → Checked α) : Checked β :=
  match f with
  | .ok g =>
    match x () with
    | .ok a => .ok (g a)
    | .failed r => .failed r
  | .failed (.beyondLimit l) => .failed (.beyondLimit l)
  | .failed (.issues is) =>
    match x () with
    | .ok _ => .failed (.issues is)
    | .failed (.issues js) => .failed (.issues (is ++ js))
    | .failed (.beyondLimit l) => .failed (.beyondLimit l)

instance : Applicative Checked where
  pure := ok
  seq := ap

/-- Runs a second check on the result of the first. -/
def andThen (x : Checked α) (f : α → Checked β) : Checked β :=
  match x with
  | .ok a => f a
  | .failed r => .failed r

/-- The outcome as seen from one level further out. -/
def inside (l : Locator) : Checked α → Checked α
  | .ok a => .ok a
  | .failed (.issues is) => .failed (.issues (is.map (Issue.inside l)))
  | .failed (.beyondLimit f) => .failed (.beyondLimit f)

/-- Checks every item of a list, each at its position. -/
def items (check : Value → Checked α) : Nat → List Value → Checked (List α)
  | _, [] => ok []
  | i, v :: vs => ap (ap (ok List.cons) fun _ => (check v).inside (.index i)) fun _ => items check (i + 1) vs

/-- Checks items one after the other up to the first that fails. -/
def untilFailure (check : β → Checked α) : List β → Checked (List α)
  | [] => ok []
  | b :: bs => (check b).andThen fun a => (untilFailure check bs).andThen fun as => ok (a :: as)

/-- A combination succeeds exactly if both parts do. -/
theorem ap_eq_ok {f : Checked (α → β)} {x : Unit → Checked α} {b : β} :
    f.ap x = ok b ↔ ∃ g a, f = ok g ∧ x () = ok a ∧ g a = b := by
  unfold ap
  split
  · split <;> simp_all
  · simp
  · split <;> simp

/-- A later check succeeds exactly if the first one does and it succeeds on that result. -/
theorem andThen_eq_ok {x : Checked α} {f : α → Checked β} {b : β} :
    x.andThen f = ok b ↔ ∃ a, x = ok a ∧ f a = ok b := by
  cases x <;> simp [andThen]

/-- Seen from further out, a success is the same success. -/
theorem inside_eq_ok {l : Locator} {x : Checked α} {a : α} : x.inside l = ok a ↔ x = ok a := by
  cases x with
  | ok b => simp [inside]
  | failed r => cases r <;> simp [inside]

end Checked

end Triage
