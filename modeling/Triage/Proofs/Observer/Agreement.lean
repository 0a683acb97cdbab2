import Triage.Proofs.Observer.Recording

/-!
# Classifying tells what observing counts

Classifying and observing ask for the classifier and name a series alike; observing then counts it. So one of them
tells what the other one will do.

* `Hushed`: between two states nothing was counted and no record of an error was written.
* `hushed_classify`: **classifying is hushed**, unless it is the call for which the first attempt to load fails.
* `after_classify`: a run of classifying counts a first failure to load, if anything.
* `classify_observe_agree`: **observing counts the series that classifying answers**, and is refused as classifying
  is, with the same state left.
-/

namespace Triage

namespace Log

/-- The records of errors, and of what is worse. -/
def Book.errors (b : Book) : List Record := b.records.filter fun r => decide (LevelName.error.number ≤ r.level)

theorem errors_write {b : Book} {level : LevelName} {message : String} (h : level.number < LevelName.error.number) :
    (b.write level message).errors = b.errors := by
  have hlevel : decide (LevelName.error.number ≤ level.number) = false := by simpa using h
  simp only [Book.errors, Book.write, List.filter_append, List.filter_cons, hlevel, List.filter_nil, List.append_nil,
    Bool.false_eq_true, if_false]

theorem errors_writeAll {b : Book} {level : LevelName} {messages : List String}
    (h : level.number < LevelName.error.number) : (b.writeAll level messages).errors = b.errors := by
  induction messages generalizing b with
  | nil => rfl
  | cons m ms ih => exact (ih (b := b.write level m)).trans (errors_write h)

end Log

namespace Observer

variable {o : Observer} {s s' : State} {c : Call}

/-- Between two states nothing was counted and no record of an error was written. -/
structure Hushed (s s' : State) : Prop where
  counter : s'.counter = s.counter
  errors : s'.book.errors = s.book.errors

theorem Hushed.refl (s : State) : Hushed s s := ⟨rfl, rfl⟩

theorem Hushed.trans {s₁ s₂ : State} (h : Hushed s s₁) (h' : Hushed s₁ s₂) : Hushed s s₂ :=
  ⟨h'.counter.trans h.counter, h'.errors.trans h.errors⟩

theorem Hushed.tell (h : Hushed s s') (x : Option Selection) : Hushed s (s'.tell x) := by
  cases x with
  | none => exact h
  | some selection => exact ⟨h.counter, (Log.errors_write (by decide)).trans h.errors⟩

/-- Preparing is hushed, unless a first attempt to load fails and can be told of. -/
theorem hushed_prepare (o : Observer) (s : State) :
    Hushed s (o.prepare.on s).2 ∨ ∃ loader f line, s.stage = .untried loader ∧ loader s.attempts = .error f ∧
      f.isCaught = true ∧ f.describe = .ok line := by
  cases hs : s.stage with
  | ready cl =>
    rw [prepare_of_ready hs]
    exact .inl (.refl s)
  | failed e =>
    rw [prepare_of_failed hs]
    exact .inl (.refl s)
  | untried loader =>
    rw [prepare_of_untried hs]
    cases hl : loader s.attempts with
    | ok x => exact .inl ⟨rfl, Log.errors_writeAll (by decide)⟩
    | error f =>
      dsimp only
      rw [fail_on]
      -- a failure that passes through, or that cannot be told of, writes nothing at all
      cases hf : f.isCaught with
      | false => exact .inl ⟨rfl, rfl⟩
      | true =>
        cases hline : f.describe with
        | error message => exact .inl ⟨rfl, rfl⟩
        | ok line => exact .inr ⟨loader, f, line, rfl, hl, hf, hline⟩

/-- **Classifying is hushed**, unless it is the call for which a first attempt to load fails. -/
theorem hushed_classify (h : ¬ o.FirstFailure s c) : Hushed s ((o.classify c).on s).2 := by
  rw [classify_on]
  cases hc : c.check with
  | error e => exact .refl s
  | ok i =>
    have hclassifier : Hushed s (o.classifier?.on s).2 := by
      cases he : o.categorises with
      | false =>
        rw [classifier?_of_disabled he]
        exact .refl s
      | true =>
        rw [classifier?_of_enabled he]
        refine (hushed_prepare o s).resolve_right fun hfails => h ⟨?_, hfails⟩
        exact Bool.and_eq_true_iff.2 ⟨he, (check_eq_ok_iff.1 hc).1⟩
    dsimp only
    rcases hx : o.classifier?.on s with ⟨e | cl, s'⟩
    · rw [hx] at hclassifier
      exact hclassifier
    · rw [hx] at hclassifier
      dsimp only
      rw [series_on]
      exact hclassifier.tell _

/-- **A first failure is raised** by classifying, and is all that it counts. -/
theorem settled_classify (h : o.FirstFailure s c) :
    (∃ e, ((o.classify c).on s).1 = .error e) ∧ Settled s ((o.classify c).on s).2 := by
  have hsettled := settled_iff.2 h
  rw [observe_eq] at hsettled
  rcases hx : (o.classify c).on s with ⟨e | u, s'⟩
  · rw [hx] at hsettled
    exact ⟨⟨e, rfl⟩, hsettled⟩
  · -- a call that is answered has made no attempt fail, and counting it does not touch the stage
    rw [hx] at hsettled
    obtain ⟨loader, f, hs, -, hfailed⟩ := hsettled.failed
    have hspared := spared_of_named (o := o) (c := c) (s := s) (u := u) (by rw [hx])
    rw [hx] at hspared
    cases hs.symm.trans (hspared.stage _ hfailed)

/-- Once loading has failed, no first attempt is left to fail. -/
theorem not_firstFailure_of_failed {e : ConfigError} (hs : s.stage = .failed e) : ¬ o.FirstFailure s c := by
  rintro ⟨-, loader, f, line, hs', -⟩
  cases hs.symm.trans hs'

theorem step_classify (o : Observer) (c : Call) (s : State) :
    (o.step (.classify c) s).2 = ((o.classify c).on s).2 := by
  unfold step serve
  rw [on_map]

/-- After a failure a run of classifying is hushed. -/
theorem after_classify_of_failed {e : ConfigError} (hs : s.stage = .failed e) (cs : List Call) :
    Hushed s (o.after s (cs.map .classify)) := by
  induction cs generalizing s with
  | nil => exact .refl s
  | cons c cs ih =>
    have hstep : Hushed s (o.step (.classify c) s).2 := by
      rw [step_classify]
      exact hushed_classify (not_firstFailure_of_failed hs)
    refine hstep.trans (ih ?_)
    rcases step_stage_cases o (.classify c) s with h | ⟨_, _, _, h, -⟩ | ⟨_, _, h, -⟩
    · exact h.trans hs
    · cases hs.symm.trans h
    · cases hs.symm.trans h

/-- **A run of classifying** is hushed, or a first attempt to load has failed in it, and it has counted that. -/
theorem after_classify (o : Observer) (s : State) (cs : List Call) :
    Hushed s (o.after s (cs.map .classify)) ∨
      (o.after s (cs.map .classify)).counter = s.counter.counting configurationSeries := by
  induction cs generalizing s with
  | nil => exact .inl (.refl s)
  | cons c cs ih =>
    show Hushed s (o.after (o.step (.classify c) s).2 (cs.map .classify)) ∨ _ = _
    by_cases h : o.FirstFailure s c
    · -- the failure is settled, so that nothing is counted in the rest of the run
      obtain ⟨-, hsettled⟩ := settled_classify h
      rw [← step_classify] at hsettled
      obtain ⟨loader, f, -, -, hfailed⟩ := hsettled.failed
      exact .inr ((after_classify_of_failed hfailed cs).counter.trans hsettled.counter)
    · have hstep : Hushed s (o.step (.classify c) s).2 := by
        rw [step_classify]
        exact hushed_classify h
      rcases ih (o.step (.classify c) s).2 with hrest | hrest
      · exact .inl (hstep.trans hrest)
      · refine .inr (hrest.trans ?_)
        rw [hstep.counter]

/-- **Observing counts the series that classifying answers.** In every state and for every call:

* if classifying answers a series, observing adds one to it and nothing to any other, whether or not the fault can
  be shown afterwards;
* if classifying is refused, observing is refused with the same error and leaves the same state;
* classifying counts nothing and writes no record of an error, unless a first attempt to load fails; then it is
  refused, and the failure is all that is counted. -/
theorem classify_observe_agree (o : Observer) (s : State) (c : Call) :
    (∀ u, ((o.classify c).on s).1 = .ok u →
      ((o.observe c).on s).1 = counted c.described ∧
        ((o.observe c).on s).2.counter = s.counter.counting u ∧
          (s.counter.backend ≠ .discarded → ∀ v, ((o.observe c).on s).2.counter.tally.count v =
            s.counter.tally.count v + if v = u then 1 else 0)) ∧
      (∀ e, ((o.classify c).on s).1 = .error e →
        ((o.observe c).on s).1 = .error e ∧ ((o.observe c).on s).2 = ((o.classify c).on s).2) ∧
      (¬ o.FirstFailure s c → Hushed s ((o.classify c).on s).2) ∧
      (o.FirstFailure s c → (∃ e, ((o.classify c).on s).1 = .error e) ∧
        ((o.classify c).on s).2.counter = s.counter.counting configurationSeries) := by
  refine ⟨fun u hu => ?_, fun e he => ?_, hushed_classify, fun h => ?_⟩
  · have hobserve : (o.observe c).on s = (counted c.described, ((o.classify c).on s).2.enter u c.described) := by
      rw [observe_eq]
      rcases hx : (o.classify c).on s with ⟨_ | u', s'⟩ <;> rw [hx] at hu <;> cases hu
      rfl
    have hcounter : ((o.observe c).on s).2.counter = s.counter.counting u := by
      rw [hobserve, State.enter_counter, (spared_of_named hu).counter]
    refine ⟨by rw [hobserve], hcounter, fun hb v => ?_⟩
    rw [hcounter]
    exact Counter.count_counting hb u v
  · rw [observe_eq]
    rcases hx : (o.classify c).on s with ⟨e' | u, s'⟩
    · rw [hx] at he
      cases he
      exact ⟨rfl, rfl⟩
    · rw [hx] at he
      cases he
  · exact ⟨(settled_classify h).1, (settled_classify h).2.counter⟩

/-- A fault that cannot be shown is counted under the series that classifying it answers. -/
theorem classify_observe_agree_muteCall :
    ((standard.classify muteCall).on .bare).1 = .ok muteSeries ∧
      ((standard.observe muteCall).on .bare).1 = .error (.unprintable "broken str") ∧
      ((standard.observe muteCall).on .bare).2.counter.tally.count muteSeries = 1 := by
  have hnamed : ((standard.classify muteCall).on .bare).1 = .ok muteSeries := rfl
  obtain ⟨hagree, -⟩ := classify_observe_agree standard .bare muteCall
  obtain ⟨hanswer, -, hcount⟩ := hagree muteSeries hnamed
  refine ⟨hnamed, hanswer, ?_⟩
  rw [hcount (by decide), if_pos rfl]
  rfl

end Observer

end Triage
