import Triage.Proofs.Observer.Attempt
import Triage.Proofs.Observer.Loading
import Triage.Proofs.Observer.Recording

/-!
# Failures to load that surface

A failed attempt to load is meant to surface: the error is raised with the failure behind it, counted once, and raised
again ever after without another attempt. On the way the failure is told of twice: before it is kept, with its message
and the fault behind it; and after it was counted, as the cause of the error.

* `Observer.Sticks`: from a state on, preparing raises the same error and makes no attempt.
* `Observer.Surfaces`: what is meant to come of a failed attempt.
* `LoadFailure.isShowable_iff`: the failures that can be told of both times.
* `prepare_of_untold`, `prepare_of_unshown`: what comes of the others, by the time at which they cannot be told of;
  `after_untold`: **an attempt that cannot be told of is made again** each time.
* `failure_surfaces_iff_showable`: **a failure surfaces exactly if it can be told of both times**.
-/

namespace Triage

/-- The failures that can be told of both times. -/
theorem LoadFailure.isShowable_iff {f : LoadFailure} :
    f.IsShowable ↔ f.isCaught = true ∧ (∃ line, f.describe = .ok line) ∧ ∃ text, f.outermost.shown = .text text := by
  refine ⟨fun h => ⟨h.caught, h.describe_eq_ok, h.shown⟩, fun ⟨hcaught, ⟨line, hline⟩, hshown⟩ => ?_⟩
  have hne (message : String) : ¬ f.describe = .error message := by
    rw [hline]
    simp
  simp only [LoadFailure.describe, Fault.describe_eq_error_iff, not_or] at hne
  have htext : ∃ text, f.outermost.message = .text text := by
    cases hm : f.outermost.message with
    | text text => exact ⟨text, rfl⟩
    | broken message => exact absurd hm (hne message).1
  refine ⟨hcaught, htext, hshown, fun p hp => ?_⟩
  cases hm : p.shown with
  | text text => exact ⟨text, rfl⟩
  | broken message => exact absurd ⟨htext, p, hp, hm⟩ (hne message).2

namespace Observer

variable {o : Observer} {s : State} {loader : Loader} {f : LoadFailure}

/-- From a state on, whatever is asked, preparing raises the same error and makes no attempt. -/
def Sticks (o : Observer) (e : ConfigError) (s : State) : Prop :=
  ∀ rs, o.prepare.on (o.after s rs) = (.error (.configuration e), o.after s rs) ∧
    (o.after s rs).attempts = s.attempts

/-- A failed attempt **surfaces**: preparing raises the error for this very failure, counts it once, and leaves a state
in which the error sticks. -/
structure Surfaces (o : Observer) (s : State) (f : LoadFailure) : Prop where
  raised : (o.prepare.on s).1 = .error (.configuration ⟨s.attempts, f⟩)
  counted : (o.prepare.on s).2.counter = s.counter.counting configurationSeries
  sticks : o.Sticks ⟨s.attempts, f⟩ (o.prepare.on s).2

/-- No request changes how far an observer has come once loading has failed. -/
theorem step_keeps_failed {e : ConfigError} (hs : s.stage = .failed e) (r : Request) :
    (o.step r s).2.stage = .failed e ∧ (o.step r s).2.attempts = s.attempts := by
  obtain ⟨hstage, hattempts⟩ := step_progress o r s
  rw [hstage, hattempts]
  cases o.needs r with
  | false => exact ⟨hs, rfl⟩
  | true =>
    rw [if_pos rfl, prepare_of_failed hs]
    exact ⟨hs, rfl⟩

/-- **A failure that was kept sticks.** -/
theorem sticks_of_failed {e : ConfigError} (hs : s.stage = .failed e) : o.Sticks e s := by
  intro rs
  induction rs generalizing s with
  | nil => exact ⟨prepare_of_failed hs, rfl⟩
  | cons r rs ih =>
    obtain ⟨hstage, hattempts⟩ := step_keeps_failed (o := o) hs r
    obtain ⟨hprepare, hrest⟩ := ih hstage
    exact ⟨hprepare, hrest.trans hattempts⟩

/-- A failure that can be told of both times **surfaces**. -/
theorem surfaces_of_isShowable (hs : s.stage = .untried loader) (hl : loader s.attempts = .error f)
    (hf : f.IsShowable) : o.Surfaces s f := by
  obtain ⟨line, hfail⟩ := fail_of_isShowable hf o s.attempts { s with attempts := s.attempts + 1 }
  have hprepare : o.prepare.on s = (.error (.configuration ⟨s.attempts, f⟩),
      State.failed { s with attempts := s.attempts + 1 } ⟨s.attempts, f⟩ line) := by
    rw [prepare_of_untried hs, hl]
    exact hfail
  refine ⟨by rw [hprepare], ?_, ?_⟩
  · rw [hprepare]
    exact State.failed_counter _ _ _
  · rw [hprepare]
    exact sticks_of_failed rfl

/-- A failure that **cannot be told of at first** is neither counted nor kept. What showing it gives is raised in its
place. -/
theorem prepare_of_untold (hs : s.stage = .untried loader) (hl : loader s.attempts = .error f)
    (hcaught : f.isCaught = true) {message : String} (hm : f.describe = .error message) :
    o.prepare.on s = (.error (.unprintable message), { s with attempts := s.attempts + 1 }) := by
  rw [prepare_of_untried hs, hl]
  dsimp only
  rw [fail_on, if_pos hcaught, hm]

/-- A failure that **cannot be shown as the cause of the error** is counted and kept. Still, what showing it gives is
raised this time. -/
theorem prepare_of_unshown (hs : s.stage = .untried loader) (hl : loader s.attempts = .error f)
    (hcaught : f.isCaught = true) {line message : String} (hline : f.describe = .ok line)
    (hm : f.outermost.shown = .broken message) :
    (o.prepare.on s).1 = .error (.unprintable message) ∧
      (o.prepare.on s).2.counter = s.counter.counting configurationSeries ∧
        o.Sticks ⟨s.attempts, f⟩ (o.prepare.on s).2 := by
  have hprepare : o.prepare.on s = (.error (.unprintable message),
      State.failed { s with attempts := s.attempts + 1 } ⟨s.attempts, f⟩ line) := by
    rw [prepare_of_untried hs, hl]
    dsimp only
    rw [fail_on, if_pos hcaught, hline]
    dsimp only
    unfold ConfigError.raised
    rw [hm]
  rw [hprepare]
  exact ⟨rfl, State.failed_counter _ _ _, sticks_of_failed rfl⟩

/-- The outcomes of some attempts are failures that cannot be told of at first. -/
def Untold (loader : Loader) (first count : Nat) : Prop :=
  ∀ k, first ≤ k → k < first + count →
    ∃ f message, loader k = .error f ∧ f.isCaught = true ∧ f.describe = .error message

/-- **An attempt that cannot be told of is made again**, as often as the classifier is asked for; nothing else changes. -/
theorem after_untold (hs : s.stage = .untried loader) (n : Nat) (hn : Untold loader s.attempts n) :
    o.after s (List.replicate n .prepare) = { s with attempts := s.attempts + n } := by
  induction n generalizing s with
  | zero => rfl
  | succ n ih =>
    obtain ⟨f, message, hl, hcaught, hm⟩ := hn s.attempts (Nat.le_refl _) (by omega)
    have hstep : (o.step .prepare s).2 = { s with attempts := s.attempts + 1 } := by
      unfold step serve
      rw [on_map, prepare_of_untold hs hl hcaught hm]
    have hrest : Untold loader (s.attempts + 1) n := fun k hfrom hbelow => hn k (by omega) (by omega)
    rw [List.replicate_succ, after, hstep, ih (s := { s with attempts := s.attempts + 1 }) hs hrest]
    simp only [Nat.add_assoc, Nat.add_comm 1 n]

/-- **A failure surfaces exactly if it can be told of both times.** Let the next attempt to load fail with a failure that
is to be caught.

* It surfaces exactly if its message, the fault behind it and the failure itself can be shown.
* If its message or the fault behind it cannot be shown, what showing it gives is raised, and the attempt leaves no other
  trace than that it was made. A loader that fails so again and again is asked again and again, and nothing is counted.
* If only the failure itself cannot be shown, it is counted and kept, and the error sticks; but what is raised this time
  is what showing it gives. -/
theorem failure_surfaces_iff_showable (o : Observer) (hs : s.stage = .untried loader)
    (hl : loader s.attempts = .error f) (hcaught : f.isCaught = true) :
    (o.Surfaces s f ↔ f.IsShowable) ∧
      (∀ message, f.describe = .error message →
        o.prepare.on s = (.error (.unprintable message), { s with attempts := s.attempts + 1 })) ∧
      (∀ n, Untold loader s.attempts n →
        o.after s (List.replicate n .prepare) = { s with attempts := s.attempts + n }) ∧
      ∀ line message, f.describe = .ok line → f.outermost.shown = .broken message →
        (o.prepare.on s).1 = .error (.unprintable message) ∧
          (o.prepare.on s).2.counter = s.counter.counting configurationSeries ∧
            o.Sticks ⟨s.attempts, f⟩ (o.prepare.on s).2 := by
  refine ⟨⟨fun h => ?_, surfaces_of_isShowable hs hl⟩, fun message => prepare_of_untold hs hl hcaught,
    after_untold hs, fun line message => prepare_of_unshown hs hl hcaught⟩
  have hraised := h.raised
  cases hline : f.describe with
  | error message =>
    rw [prepare_of_untold hs hl hcaught hline] at hraised
    cases hraised
  | ok line =>
    cases hshown : f.outermost.shown with
    | text text => exact LoadFailure.isShowable_iff.2 ⟨hcaught, ⟨line, hline⟩, text, hshown⟩
    | broken message =>
      rw [(prepare_of_unshown hs hl hcaught hline hshown).1] at hraised
      cases hraised

/-- A loader that always fails with a fault, which another one has caused. -/
def failingWith (fault cause : Fault) : Loader := fun _ =>
  .error (.fault ⟨#[{ fault with cause := some 1 }, cause]⟩)

/-- The first state of an observer that waits for a loader. -/
def State.waitingFor (loader : Loader) : State :=
  ⟨.untried loader, 0, ⟨.kept, "errors_total", "", .empty⟩, .empty⟩

/-- A fault that breaks where it is shown as a cause. -/
def unshownFault : Fault := { Fault.ofTexts "BrokenRepr" "bad data" "" with shown := .broken "broken repr" }

/-- An empty document surfaces. A failure that such a fault has caused does not, and the loader has been asked three
times after three attempts; nor does such a fault as the failure itself, although it is counted and kept. -/
theorem failure_surfaces_iff_showable_unshownFault :
    standard.Surfaces (.waitingFor emptyDocument) (.document (.emptyDocument "faults.yaml")) ∧
      (standard.prepare.on (.waitingFor (failingWith (.ofTexts "ValueError" "bad data" "") unshownFault))).1 =
        .error (.unprintable "broken repr") ∧
      standard.after (.waitingFor (failingWith (.ofTexts "ValueError" "bad data" "") unshownFault))
          (List.replicate 3 .prepare) =
        { State.waitingFor (failingWith (.ofTexts "ValueError" "bad data" "") unshownFault) with attempts := 3 } ∧
      (standard.prepare.on (.waitingFor (failingWith unshownFault (.ofTexts "ValueError" "" "")))).1 =
        .error (.unprintable "broken repr") ∧
      (standard.prepare.on (.waitingFor (failingWith unshownFault (.ofTexts "ValueError" "" "")))).2.counter.tally.count
        configurationSeries = 1 := by
  obtain ⟨hsurfaces, -⟩ := failure_surfaces_iff_showable standard (s := .waitingFor emptyDocument) rfl rfl rfl
  obtain ⟨-, huntold, hagain, -⟩ := failure_surfaces_iff_showable standard
    (s := .waitingFor (failingWith (.ofTexts "ValueError" "bad data" "") unshownFault)) rfl rfl rfl
  obtain ⟨-, -, -, hunshown⟩ := failure_surfaces_iff_showable standard
    (s := .waitingFor (failingWith unshownFault (.ofTexts "ValueError" "" ""))) rfl rfl rfl
  obtain ⟨hraised, hcounted, -⟩ := hunshown _ "broken repr" rfl rfl
  refine ⟨hsurfaces.2 (LoadFailure.isShowable_document _), by rw [huntold "broken repr" rfl],
    hagain 3 fun k _ _ => ⟨_, "broken repr", rfl, rfl, rfl⟩, hraised, ?_⟩
  rw [hcounted, Counter.count_counting (by decide), if_pos rfl]
  rfl

end Observer

end Triage
