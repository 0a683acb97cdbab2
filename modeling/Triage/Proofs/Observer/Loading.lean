import Triage.Proofs.Observer.Run

/-!
# Loading once

An observer without a taxonomy loads one when it first needs it, and never again. Whether that attempt gave a
taxonomy or failed is settled from then on.

* `Progress`: the three ways in which an observer can stand to its loader, by whether it was needed before.
* `progress_step`, `progress_after`: a request moves the observer on if it needs the classifier, and only then.
* `loading_settles_once`: **one attempt settles every run**. Its taxonomy serves every later request; its failure
  is counted once and raised as the same error ever after.
-/

namespace Triage

/-- A failure that is to be caught and can be told of: it and the fault behind it can be shown. -/
structure LoadFailure.IsShowable (f : LoadFailure) : Prop where
  caught : f.isCaught = true
  text : ∃ s, f.outermost.message = .text s
  shown : ∃ s, f.outermost.shown = .text s
  behind : ∀ p ∈ f.graph.causeFault? 0, ∃ s, p.shown = .text s

theorem LoadFailure.IsShowable.describe_eq_ok {f : LoadFailure} (h : f.IsShowable) :
    ∃ line, f.describe = .ok line := by
  obtain ⟨s, hs⟩ := h.text
  unfold LoadFailure.describe Fault.describe
  rw [hs]
  cases hc : f.graph.causeFault? 0 with
  | none => exact ⟨_, rfl⟩
  | some p =>
    obtain ⟨c, hp⟩ := h.behind p hc
    simp only [Option.map_some, hp]
    exact ⟨_, rfl⟩

/-- The fault that stands for a document is made from texts, whatever is behind it. -/
theorem LoadFailure.outermost_document (e : Taxonomy.LoadError) :
    ∃ cause, (LoadFailure.document e).outermost =
      { Fault.ofTexts e.name e.message e.shown with cause } := by
  show ∃ cause, (e.graph.fault? 0).getD _ = _
  unfold Taxonomy.LoadError.graph
  cases e.behind? with
  | none => exact ⟨none, rfl⟩
  | some shown => exact ⟨some 1, rfl⟩

/-- **A document that gives no taxonomy can always be told of.** -/
theorem LoadFailure.isShowable_document (e : Taxonomy.LoadError) : (LoadFailure.document e).IsShowable := by
  obtain ⟨cause, hout⟩ := outermost_document e
  refine ⟨?_, ⟨e.message, by rw [hout]; rfl⟩, ⟨e.shown, by rw [hout]; rfl⟩, fun p hp => ?_⟩
  · unfold isCaught
    rw [hout]
    rfl
  · have hp : e.graph.causeFault? 0 = some p := hp
    unfold Taxonomy.LoadError.graph at hp
    cases hb : e.behind? with
    | none =>
      rw [hb] at hp
      cases hp
    | some shown =>
      rw [hb] at hp
      cases hp
      exact ⟨_, rfl⟩

namespace Observer

variable {o : Observer} {s : State} {r : Request} {loader : Loader} {α : Type}

/-- A failure that can be told of is counted, kept and raised. -/
theorem fail_of_isShowable {f : LoadFailure} (h : f.IsShowable) (o : Observer) (attempt : Nat) (s : State) :
    ∃ line, (o.fail attempt f : Action α).on s =
      (.error (.configuration ⟨attempt, f⟩), s.failed ⟨attempt, f⟩ line) := by
  obtain ⟨line, hline⟩ := h.describe_eq_ok
  obtain ⟨c, hshown⟩ := h.shown
  refine ⟨line, ?_⟩
  rw [fail_on, if_pos h.caught, hline]
  dsimp only
  unfold ConfigError.raised
  dsimp only
  rw [hshown]

/-- The first attempt gives a taxonomy: the request is served with it. -/
theorem step_of_first_loaded {t : Taxonomy} {lines : List String} (hs : s.stage = .untried loader)
    (hl : loader s.attempts = .ok (t, lines)) (hn : o.needs r = true) :
    o.step r s = (o.serveWith (o.classifierOf t) r).on (s.loaded (o.classifierOf t) lines) := by
  rw [step_of_needed hn, prepare_of_untried hs, hl]

/-- The first attempt fails: the request is refused with the error. -/
theorem step_of_first_failed {f : LoadFailure} (hs : s.stage = .untried loader)
    (hl : loader s.attempts = .error f) (hf : f.IsShowable) (hn : o.needs r = true) :
    ∃ line, o.step r s = (.error (.configuration ⟨s.attempts, f⟩),
      State.failed { s with attempts := s.attempts + 1 } ⟨s.attempts, f⟩ line) := by
  obtain ⟨line, hfail⟩ := fail_of_isShowable hf o s.attempts { s with attempts := s.attempts + 1 }
  refine ⟨line, ?_⟩
  rw [step_of_needed hn, prepare_of_untried hs, hl]
  dsimp only
  rw [hfail]

/-- After a failure every request that needs the classifier is refused with the same error. -/
theorem step_of_failed {e : ConfigError} (hs : s.stage = .failed e) (hn : o.needs r = true) :
    o.step r s = (.error (.configuration e), s) := by
  rw [step_of_needed hn, prepare_of_failed hs]

/-- How an observer that started without a taxonomy stands to its loader: it has not needed one yet, or the
first attempt has given one, or it has failed. -/
inductive Progress (o : Observer) (loader : Loader) : Bool → State → Prop where
  | untried {s : State} (stage : s.stage = .untried loader) (attempts : s.attempts = 0) :
      Progress o loader false s
  | loaded {s : State} {t : Taxonomy} {lines : List String} (outcome : loader 0 = .ok (t, lines))
      (stage : s.stage = .ready (o.classifierOf t)) (attempts : s.attempts = 1) : Progress o loader true s
  | failed {s : State} {f : LoadFailure} (outcome : loader 0 = .error f)
      (stage : s.stage = .failed ⟨0, f⟩) (attempts : s.attempts = 1) : Progress o loader true s

/-- Only the stage and the number of attempts matter for the progress. -/
theorem Progress.congr {b : Bool} {s' : State} (h : Progress o loader b s) (hs : s'.stage = s.stage)
    (ha : s'.attempts = s.attempts) : Progress o loader b s' := by
  cases h with
  | untried stage attempts => exact .untried (hs.trans stage) (ha.trans attempts)
  | loaded outcome stage attempts => exact .loaded outcome (hs.trans stage) (ha.trans attempts)
  | failed outcome stage attempts => exact .failed outcome (hs.trans stage) (ha.trans attempts)

theorem Progress.attempts_eq {b : Bool} (h : Progress o loader b s) :
    s.attempts = if b then 1 else 0 := by
  cases h with
  | untried _ attempts => exact attempts
  | loaded _ _ attempts => exact attempts
  | failed _ _ attempts => exact attempts

/-- **One step**: a request moves the observer on if it needs the classifier, and only then. -/
theorem progress_step (hl : ∀ n f, loader n = .error f → f.IsShowable) {b : Bool}
    (h : Progress o loader b s) (r : Request) :
    Progress o loader (b || o.needs r) (o.step r s).2 := by
  cases hn : o.needs r with
  | false =>
    rw [Bool.or_false]
    exact h.congr (step_stage_of_unneeded hn s).1 (step_stage_of_unneeded hn s).2
  | true =>
    rw [Bool.or_true]
    cases h with
    | untried stage attempts =>
      -- this is the first request to need the classifier, and it makes the one attempt
      cases hload : loader 0 with
      | ok x =>
        have hstep := step_of_first_loaded (o := o) (r := r) stage (attempts ▸ hload) hn
        have hstage := serveWith_stage o (o.classifierOf x.1) r (s.loaded (o.classifierOf x.1) x.2)
        rw [hstep]
        refine .loaded hload hstage.1 (hstage.2.trans ?_)
        show s.attempts + 1 = 1
        rw [attempts]
      | error f =>
        obtain ⟨line, hstep⟩ := step_of_first_failed (o := o) (r := r) stage (attempts ▸ hload) (hl 0 f hload) hn
        rw [hstep, attempts]
        exact .failed hload rfl rfl
    | @loaded _ t _ outcome stage attempts =>
      have hstage := serveWith_stage o (o.classifierOf t) r s
      rw [step_of_ready stage]
      exact .loaded outcome (hstage.1.trans stage) (hstage.2.trans attempts)
    | failed outcome stage attempts =>
      rw [step_of_failed stage hn]
      exact .failed outcome stage attempts

/-- **A whole run** moves the observer on if any of its requests needs the classifier. -/
theorem progress_after (hl : ∀ n f, loader n = .error f → f.IsShowable) {b : Bool}
    (h : Progress o loader b s) (rs : List Request) :
    Progress o loader (b || rs.any o.needs) (o.after s rs) := by
  induction rs generalizing b s with
  | nil =>
    rw [List.any_nil, Bool.or_false]
    exact h
  | cons r rs ih =>
    have := ih (progress_step hl h r)
    rwa [Bool.or_assoc] at this

/-- By how much the count of a series changes over those requests of a run that need the classifier. -/
def changeByNeed (o : Observer) (u : Series) (s : State) : List Request → Int
  | [] => 0
  | r :: rs =>
    (if o.needs r then ((o.step r s).2.counter.tally.count u : Int) - s.counter.tally.count u else 0) +
      o.changeByNeed u (o.step r s).2 rs

/-- **A failure is counted once over a whole run**, by the first request that needs the classifier. -/
theorem changeByNeed_of_failure (hl : ∀ n f, loader n = .error f → f.IsShowable) {f : LoadFailure}
    (hf : loader 0 = .error f) {b : Bool} (h : Progress o loader b s)
    (hc : s.counter.backend ≠ .discarded) (u : Series) (rs : List Request) :
    o.changeByNeed u s rs = if (!b && rs.any o.needs) = true ∧ u = configurationSeries then 1 else 0 := by
  induction rs generalizing b s with
  | nil => simp [changeByNeed]
  | cons r rs ih =>
    have ih := ih (progress_step hl h r) (by rw [step_backend]; exact hc)
    rw [changeByNeed, ih]
    cases hn : o.needs r with
    | false => simp [hn]
    | true =>
      cases h with
      | untried stage attempts =>
        obtain ⟨line, hstep⟩ := step_of_first_failed (o := o) (r := r) stage (attempts ▸ hf) (hl 0 f hf) hn
        have hcount := Counter.count_counting hc configurationSeries u
        rw [hstep, if_pos rfl]
        dsimp only
        rw [State.failed_counter]
        dsimp only
        have hany : (r :: rs).any o.needs = true := by simp [hn]
        -- the rest of the run adds nothing, since the attempt has been made
        have hrest : ¬((!(false || true) && rs.any o.needs) = true ∧ u = configurationSeries) := by simp
        rw [hcount, if_neg hrest, hany]
        by_cases hu : u = configurationSeries
        · rw [if_pos hu, if_pos ⟨rfl, hu⟩]
          omega
        · rw [if_neg hu, if_neg fun h => hu h.2]
          omega
      | loaded outcome _ _ =>
        rw [outcome] at hf
        cases hf
      | failed _ stage _ =>
        rw [step_of_failed stage hn]
        simp

/-- An observer that is made with nothing but a loader has not tried it. -/
theorem progress_make {counter : Counter} {book : Log.Book} {limit : Int} {enabled : Bool}
    (h : make counter book none (some loader) limit enabled = .ok (o, s)) : Progress o loader false s := by
  unfold make at h
  split at h
  · cases h
  · split at h
    · cases h
      exact .untried rfl rfl
    · cases h

/-- **One attempt settles every run.** Take an observer that was made with nothing but a loader, whose failures
can be caught and shown, and any run of it. The loader was asked exactly if a request needed the classifier,
and then once. In the state after the run, let one more thing be asked:

* if it is the first one to need the classifier, the one attempt is made for it: with the taxonomy it is
  served, and a failure is counted once and raised;
* if the classifier was needed before, the same classifier serves it; or, if the attempt failed and it needs
  the classifier again, the very same error is raised and nothing is counted.

Over the whole run the requests that need the classifier count a failure once and nothing else. -/
theorem loading_settles_once {counter : Counter} {book : Log.Book} {limit : Int} {enabled : Bool}
    (h : make counter book none (some loader) limit enabled = .ok (o, s))
    (hl : ∀ n f, loader n = .error f → f.IsShowable) (rs : List Request) :
    (o.after s rs).attempts = (if rs.any o.needs then 1 else 0) ∧
      (∀ r, rs.any o.needs = false → o.needs r = true →
        (∀ t lines, loader 0 = .ok (t, lines) →
          o.step r (o.after s rs) =
            (o.serveWith (o.classifierOf t) r).on ((o.after s rs).loaded (o.classifierOf t) lines)) ∧
        ∀ f, loader 0 = .error f →
          (o.step r (o.after s rs)).1 = .error (.configuration ⟨0, f⟩) ∧
            (o.step r (o.after s rs)).2.counter = (o.after s rs).counter.counting configurationSeries) ∧
      (∀ r, rs.any o.needs = true →
        (∀ t lines, loader 0 = .ok (t, lines) →
          o.step r (o.after s rs) = (o.serveWith (o.classifierOf t) r).on (o.after s rs)) ∧
        ∀ f, loader 0 = .error f → o.needs r = true →
          (o.step r (o.after s rs)).1 = .error (.configuration ⟨0, f⟩) ∧
            (o.step r (o.after s rs)).2.counter = (o.after s rs).counter) ∧
      ∀ f, loader 0 = .error f → s.counter.backend ≠ .discarded → ∀ u,
        o.changeByNeed u s rs = if rs.any o.needs = true ∧ u = configurationSeries then 1 else 0 := by
  have hp : Progress o loader (rs.any o.needs) (o.after s rs) := progress_after hl (progress_make h) rs
  refine ⟨hp.attempts_eq, fun r hany hn => ?_, fun r hany => ?_, fun f hf hc u => ?_⟩
  · -- nothing has needed the classifier yet, so the loader was not asked
    rw [hany] at hp
    cases hp with
    | untried stage attempts =>
      refine ⟨fun t lines hload => step_of_first_loaded stage (attempts ▸ hload) hn, fun f hload => ?_⟩
      obtain ⟨line, hstep⟩ := step_of_first_failed (o := o) (r := r) stage (attempts ▸ hload) (hl 0 f hload) hn
      rw [hstep, attempts]
      exact ⟨rfl, State.failed_counter _ _ _⟩
  · -- something has, and what the loader gave then is what the observer has now
    rw [hany] at hp
    cases hp with
    | loaded outcome stage attempts =>
      refine ⟨fun t lines hload => ?_, fun f hload => ?_⟩
      · rw [outcome] at hload
        cases hload
        exact step_of_ready stage r
      · rw [outcome] at hload
        cases hload
    | failed outcome stage attempts =>
      refine ⟨fun t lines hload => ?_, fun f hload hn => ?_⟩
      · rw [outcome] at hload
        cases hload
      · rw [outcome] at hload
        cases hload
        rw [step_of_failed stage hn]
        exact ⟨rfl, rfl⟩
  · exact changeByNeed_of_failure hl hf (progress_make h) hc u rs

/-- A loader that finds an empty document each time. -/
def emptyDocument : Loader := fun _ => .error (.document (.emptyDocument "faults.yaml"))

/-- The first state of an observer that waits for it. -/
def State.waiting : State := ⟨.untried emptyDocument, 0, ⟨.kept, "errors_total", "", .empty⟩, .empty⟩

/-- A call without an origin, and then one with an origin and a fault. -/
def firstCalls : List Request :=
  [.observe ⟨.absent, ⟨#[Fault.ofTexts "ValueError" "late" ""]⟩, .fault 0, .null⟩,
    .observe ⟨.callSite .unrecognised, ⟨#[Fault.ofTexts "ValueError" "late" ""]⟩, .fault 0, .null⟩]

/-- The second call makes the attempt; asked to prepare after that, the observer raises the error of it. -/
theorem loading_settles_once_emptyDocument :
    make ⟨.kept, "errors_total", "", .empty⟩ .empty none (some emptyDocument) 5 true = .ok (standard, .waiting) ∧
      (∀ n f, emptyDocument n = .error f → f.IsShowable) ∧
      (standard.after .waiting firstCalls).attempts = 1 ∧
      (standard.step .prepare (standard.after .waiting firstCalls)).1 =
        .error (.configuration ⟨0, .document (.emptyDocument "faults.yaml")⟩) ∧
      standard.changeByNeed configurationSeries .waiting firstCalls = 1 := by
  have hshow : ∀ n f, emptyDocument n = .error f → f.IsShowable := by
    intro n f hf
    rw [← Except.error.inj hf]
    exact LoadFailure.isShowable_document _
  have hmake : make ⟨.kept, "errors_total", "", .empty⟩ .empty none (some emptyDocument) 5 true =
      .ok (standard, .waiting) := rfl
  obtain ⟨hattempts, -, hagain, hchange⟩ := loading_settles_once hmake hshow firstCalls
  have hany : firstCalls.any standard.needs = true := rfl
  refine ⟨hmake, hshow, ?_, ((hagain .prepare hany).2 _ rfl rfl).1, ?_⟩
  · rw [hattempts, hany]
    rfl
  · rw [hchange _ rfl (by decide), hany]
    rfl

end Observer

end Triage
