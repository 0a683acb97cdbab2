import Triage.Proofs.Observer.Run

/-!
# Counting as a whole

An observation is meant to be counted once and answered, or refused and not counted. The line that tells of the
fault is made after the fault was counted, so that a fault that cannot be shown is counted and refused.

* `observe_eq`: observing is classifying, and then counting what was named.
* `classify_cases`: **classifying counts nothing**, or a first failure to load that it then raises; `settled_iff`:
  when it does.
* `retry_of_showable`, `retry_of_unshowable`: what a caller counts that retries.
* `observe_whole_unless_unshowable`: **an observation is counted as a whole, unless its fault would be named a
  series and cannot be shown**.
-/

namespace Triage

/-- Showing the fault at a position, or its cause as it is shown behind it, gives a fault of its own. -/
def FaultGraph.Unshowable (g : FaultGraph) (i : Nat) (message : String) : Prop :=
  ∃ f, g.fault? i = some f ∧ (f.message = .broken message ∨
    (∃ s, f.message = .text s) ∧ ∃ p, g.causeFault? i = some p ∧ p.shown = .broken message)

theorem Fault.describe_eq_error_iff {f : Fault} {cause : Option Fault} {message : String} :
    f.describe cause = .error message ↔ f.message = .broken message ∨
      (∃ s, f.message = .text s) ∧ ∃ p, cause = some p ∧ p.shown = .broken message := by
  unfold describe
  cases f.message with
  | broken e => simp
  | text s =>
    cases cause with
    | none => simp
    | some p => cases hp : p.shown <;> simp [hp]

theorem FaultGraph.describe_eq_error_iff {g : FaultGraph} {i : Nat} {message : String} :
    g.describe i = .error message ↔ g.Unshowable i message := by
  unfold describe Unshowable
  cases hf : g.fault? i with
  | none => simp
  | some f =>
    show f.describe (g.causeFault? i) = .error message ↔ _
    rw [Fault.describe_eq_error_iff]
    simp

namespace Observer

variable {o : Observer} {s : State} {c : Call} {i : Nat}

/-- The line that tells of the fault of a call, or the message of the fault that showing it gives. -/
def Call.described (c : Call) : Except String String :=
  match c.subject with
  | .fault i => c.graph.describe i
  | .absent | .value _ => .ok ""

theorem described_of_check (h : c.check = .ok i) : c.described = c.graph.describe i := by
  unfold Call.described
  rw [(check_eq_ok_iff.1 h).2]

/-- **Observing is classifying**, and then counting the series that was named. -/
theorem observe_eq (o : Observer) (c : Call) (s : State) :
    (o.observe c).on s =
      match (o.classify c).on s with
      | (.ok u, s') => (counted c.described, s'.enter u c.described)
      | (.error e, s') => (.error e, s') := by
  rw [observe_on, classify_on]
  cases hc : c.check with
  | error e => rfl
  | ok i =>
    rw [described_of_check hc]
    rcases o.classifier?.on s with ⟨e | cl, s'⟩
    · rfl
    · dsimp only
      rw [record_on, series_on]
      cases o.seriesOf cl c.origin c.graph i c.service <;> rfl

/-- Between two states nothing was counted and no attempt has failed. -/
structure Spared (s s' : State) : Prop where
  counter : s'.counter = s.counter
  stage : ∀ e, s'.stage = .failed e → s.stage = .failed e

/-- Between two states the first attempt to load has failed, and was counted. -/
structure Settled (s s' : State) : Prop where
  failed : ∃ loader f, s.stage = .untried loader ∧ loader s.attempts = .error f ∧
    s'.stage = .failed ⟨s.attempts, f⟩
  counter : s'.counter = s.counter.counting configurationSeries

/-- Naming a series counts nothing. -/
theorem Spared.series {s' : State} (h : Spared s s') (o : Observer) (classifier : Option Classifier)
    (origin : Origin) (g : FaultGraph) (i : Nat) (service : Value) :
    Spared s ((o.series classifier origin g i service).on s').2 := by
  rw [series_on]
  refine ⟨(State.tell_counter _ _).trans h.counter, fun e he => h.stage e ?_⟩
  rwa [State.tell_stage] at he

/-- Asking for the classifier counts nothing, or a first failure that it then raises. -/
theorem classifier?_cases (o : Observer) (s : State) :
    Spared s (o.classifier?.on s).2 ∨
      (∃ e, (o.classifier?.on s).1 = .error e) ∧ Settled s (o.classifier?.on s).2 := by
  cases he : o.categorises with
  | false =>
    rw [classifier?_of_disabled he]
    exact .inl ⟨rfl, fun _ h => h⟩
  | true =>
    rw [classifier?_of_enabled he]
    rcases prepare_cases o s with
      ⟨hstage, hcounter⟩ | ⟨loader, t, lines, -, -, h⟩ | ⟨loader, f, line, hs, hl, h⟩
    · exact .inl ⟨hcounter, fun e h => hstage.symm.trans h⟩
    · rw [h]
      exact .inl ⟨rfl, fun e h => nomatch h⟩
    · rw [h]
      exact .inr ⟨⟨_, rfl⟩, ⟨loader, f, hs, hl, rfl⟩, State.failed_counter _ _ _⟩

/-- **Classifying counts nothing**, or a first failure that it then raises. -/
theorem classify_cases (o : Observer) (c : Call) (s : State) :
    Spared s ((o.classify c).on s).2 ∨
      (∃ e, ((o.classify c).on s).1 = .error e) ∧ Settled s ((o.classify c).on s).2 := by
  rw [classify_on]
  cases c.check with
  | error e => exact .inl ⟨rfl, fun _ h => h⟩
  | ok i =>
    have hcases := classifier?_cases o s
    dsimp only
    rcases hx : o.classifier?.on s with ⟨e | cl, s'⟩
    · rw [hx] at hcases
      rcases hcases with h | ⟨-, h⟩
      · exact .inl h
      · exact .inr ⟨⟨e, rfl⟩, h⟩
    · rw [hx] at hcases
      rcases hcases with h | ⟨⟨e, he⟩, -⟩
      · exact .inl (h.series o cl c.origin c.graph i c.service)
      · cases he

/-- A call that is answered with a series has counted nothing so far. -/
theorem spared_of_named {u : Series} (hu : ((o.classify c).on s).1 = .ok u) :
    Spared s ((o.classify c).on s).2 := by
  rcases classify_cases o c s with h | ⟨⟨e, he⟩, -⟩
  · exact h
  · rw [hu] at he
    cases he

/-- A series that classifying answers is the one of the call, for some classifier. -/
theorem exists_seriesOf_of_named {u : Series} (hu : ((o.classify c).on s).1 = .ok u) :
    ∃ i classifier, c.check = .ok i ∧ o.seriesOf classifier c.origin c.graph i c.service = .ok u := by
  rw [classify_on] at hu
  cases hc : c.check with
  | error e =>
    rw [hc] at hu
    cases hu
  | ok i =>
    rw [hc] at hu
    rcases hx : o.classifier?.on s with ⟨e | classifier, s'⟩
    · rw [hx] at hu
      cases hu
    · rw [hx] at hu
      dsimp only at hu
      rw [series_on] at hu
      exact ⟨i, classifier, rfl, hu⟩

/-- An observation for which the first attempt to load is made, fails, and can be told of. -/
structure FirstFailure (o : Observer) (s : State) (c : Call) : Prop where
  needs : o.needs (.observe c) = true
  failed : ∃ loader f line, s.stage = .untried loader ∧ loader s.attempts = .error f ∧ f.isCaught = true ∧
    f.describe = .ok line

/-- What a failed attempt does to an observation that needs the classifier. -/
theorem observe_of_failing {loader : Loader} {f : LoadFailure} (hn : o.needs (.observe c) = true)
    (hs : s.stage = .untried loader) (hl : loader s.attempts = .error f) :
    (o.observe c).on s = (o.fail s.attempts f).on { s with attempts := s.attempts + 1 } := by
  obtain ⟨he, hp⟩ := Bool.and_eq_true_iff.1 hn
  obtain ⟨i, hc⟩ := check_of_proper hp
  rw [observe_on, hc, classifier?_of_enabled he, prepare_of_untried hs, hl]
  dsimp only
  rw [fail_on, fail_on]
  cases f.isCaught with
  | false => rfl
  | true => cases f.describe <;> rfl

/-- **A first failure is counted exactly if it can be told of.** -/
theorem settled_iff : Settled s ((o.observe c).on s).2 ↔ o.FirstFailure s c := by
  constructor
  · intro h
    obtain ⟨loader, f, hs, hl, hfailed⟩ := h.failed
    cases hn : o.needs (.observe c) with
    | false =>
      have hstage := (step_stage_of_unneeded hn s).1
      unfold step serve at hstage
      rw [on_map, hfailed, hs] at hstage
      cases hstage
    | true =>
      refine ⟨hn, loader, f, ?_⟩
      rw [observe_of_failing hn hs hl, fail_on] at hfailed
      cases hf : f.isCaught with
      | false =>
        rw [hf] at hfailed
        cases hs.symm.trans hfailed
      | true =>
        rw [hf, if_pos rfl] at hfailed
        cases hline : f.describe with
        | error message =>
          rw [hline] at hfailed
          cases hs.symm.trans hfailed
        | ok line => exact ⟨line, hs, hl, rfl, rfl⟩
  · rintro ⟨hn, loader, f, line, hs, hl, hf, hline⟩
    rw [observe_of_failing hn hs hl, fail_on, if_pos hf, hline]
    exact ⟨⟨loader, f, hs, hl, rfl⟩, State.failed_counter _ _ _⟩

/-- An observation is counted **as a whole**: it is answered and one series was counted once, or it is refused
and nothing was counted; only the call for which the first attempt to load fails is refused and counts the
failure. -/
inductive Whole (s : State) : Except Error Unit → State → Prop where
  | answered {s' : State} {u : Series} (counter : s'.counter = s.counter.counting u) : Whole s (.ok ()) s'
  | refused {e : Error} {s' : State} (counter : s'.counter = s.counter) : Whole s (.error e) s'
  | settled {e : Error} {s' : State} (settled : Settled s s') : Whole s (.error e) s'

/-- The fault of a call would be named a series, and cannot be shown. -/
def NamedUnshowable (o : Observer) (s : State) (c : Call) : Prop :=
  ∃ i u message, c.subject = .fault i ∧ ((o.classify c).on s).1 = .ok u ∧ c.graph.Unshowable i message

/-- A fault that cannot be shown **is counted and refused**. -/
theorem observe_of_unshowable {u : Series} {message : String} (hi : c.subject = .fault i)
    (hu : ((o.classify c).on s).1 = .ok u) (hm : c.graph.Unshowable i message) :
    (o.observe c).on s =
      (.error (.unprintable message), ((o.classify c).on s).2.enter u (.error message)) := by
  have hd : c.described = .error message := by
    unfold Call.described
    rw [hi]
    exact FaultGraph.describe_eq_error_iff.2 hm
  rw [observe_eq, hd]
  rcases hx : (o.classify c).on s with ⟨a, s'⟩
  rw [hx] at hu
  obtain rfl : a = .ok u := hu
  rfl

/-- The line of a call whose fault can be shown. -/
theorem described_of_showable {u : Series} (h : ¬ o.NamedUnshowable s c)
    (hu : ((o.classify c).on s).1 = .ok u) : ∃ line, c.described = .ok line := by
  unfold Call.described
  cases hi : c.subject with
  | absent => exact ⟨_, rfl⟩
  | value v => exact ⟨_, rfl⟩
  | fault i =>
    dsimp only
    cases hd : c.graph.describe i with
    | ok line => exact ⟨line, rfl⟩
    | error message => exact absurd ⟨i, u, message, hi, hu, FaultGraph.describe_eq_error_iff.1 hd⟩ h

/-- Any other observation is counted as a whole. -/
theorem whole_of_showable (h : ¬ o.NamedUnshowable s c) :
    Whole s ((o.observe c).on s).1 ((o.observe c).on s).2 := by
  rw [observe_eq]
  have hcases := classify_cases o c s
  have hspared {u : Series} := spared_of_named (o := o) (c := c) (s := s) (u := u)
  have hline {u : Series} := described_of_showable (u := u) h
  rcases hx : (o.classify c).on s with ⟨e | u, s'⟩
  · rw [hx] at hcases
    rcases hcases with hsame | ⟨-, hsettled⟩
    · exact .refused hsame.counter
    · exact .settled hsettled
  · rw [hx] at hspared hline
    obtain ⟨line, hd⟩ := hline rfl
    rw [hd]
    refine .answered (u := u) ?_
    rw [State.enter_counter]
    exact congrArg (·.counting u) (hspared rfl).counter

/-- On a counter that counts, a fault that is counted and refused is not counted as a whole. -/
theorem not_whole_of_unshowable (hc : s.counter.backend ≠ .discarded) (h : o.NamedUnshowable s c) :
    ¬ Whole s ((o.observe c).on s).1 ((o.observe c).on s).2 := by
  obtain ⟨i, u, message, hi, hu, hm⟩ := h
  have hspared := spared_of_named hu
  rw [observe_of_unshowable hi hu hm]
  intro hw
  cases hw with
  | refused h =>
    rw [State.enter_counter, hspared.counter] at h
    exact Counter.counting_ne hc u h
  | settled h =>
    -- naming the series made no attempt fail, and counting it does not touch the stage
    obtain ⟨loader, f, hs, -, hfailed⟩ := h.failed
    have := hspared.stage _ hfailed
    rw [hs] at this
    cases this

/-! ## Retrying -/

/-- The state after a caller has retried a call until it was answered, with so many attempts at most. -/
def retry (o : Observer) (c : Call) : Nat → State → State
  | 0, s => s
  | n + 1, s =>
    match (o.observe c).on s with
    | (.ok _, s') => s'
    | (.error _, s') => o.retry c n s'

/-- Once loading has failed, an observer that categorises refuses every call and counts none. -/
theorem retry_of_failed {e : ConfigError} (he : o.categorises = true) (hs : s.stage = .failed e)
    (c : Call) (n : Nat) : o.retry c n s = s := by
  have hrefused : ∃ e', (o.observe c).on s = (.error e', s) := by
    rw [observe_on]
    cases c.check with
    | error e' => exact ⟨e', rfl⟩
    | ok i =>
      rw [classifier?_of_enabled he, prepare_of_failed hs]
      exact ⟨_, rfl⟩
  obtain ⟨e', hrefused⟩ := hrefused
  induction n with
  | zero => rfl
  | succ n ih =>
    rw [retry, hrefused]
    exact ih

/-- **A caller that retries counts one series at most**, as long as the fault can be shown. -/
theorem retry_of_showable (h : ∀ i message, c.subject = .fault i → ¬ c.graph.Unshowable i message)
    (n : Nat) (s : State) :
    (o.retry c n s).counter = s.counter ∨ ∃ u, (o.retry c n s).counter = s.counter.counting u := by
  induction n generalizing s with
  | zero => exact .inl rfl
  | succ n ih =>
    have hwhole : Whole s ((o.observe c).on s).1 ((o.observe c).on s).2 :=
      whole_of_showable fun ⟨i, u, message, hi, hu, hm⟩ => h i message hi hm
    have hfirst := (settled_iff (o := o) (c := c) (s := s)).1
    rw [retry]
    rcases hx : (o.observe c).on s with ⟨e | _, s'⟩
    · rw [hx] at hwhole hfirst
      dsimp only at hwhole hfirst ⊢
      cases hwhole with
      | refused hcounter => exact hcounter ▸ ih s'
      | settled hsettled =>
        -- the failure is settled, so no later attempt gets as far as counting
        obtain ⟨loader, f, -, -, hfailed⟩ := hsettled.failed
        have he := (Bool.and_eq_true_iff.1 (hfirst hsettled).needs).1
        rw [retry_of_failed he hfailed]
        exact .inr ⟨_, hsettled.counter⟩
    · rw [hx] at hwhole
      cases hwhole with
      | answered hcounter => exact .inr ⟨_, hcounter⟩

theorem classifier?_again {cl : Option Classifier} {s' : State} (h : (o.classifier?.on s).1 = .ok cl)
    (hs : s'.stage = (o.classifier?.on s).2.stage) : o.classifier?.on s' = (.ok cl, s') := by
  cases he : o.categorises with
  | false =>
    rw [classifier?_of_disabled he] at h ⊢
    rw [← Except.ok.inj h]
  | true =>
    rw [classifier?_of_enabled he] at h hs ⊢
    cases hp : (o.prepare.on s).1 with
    | error e =>
      rw [hp] at h
      cases h
    | ok classifier =>
      rw [hp] at h
      rw [prepare_of_ready (hs.trans (stage_of_prepare hp)), ← Except.ok.inj h]
      rfl

/-- **A series that was named is named again**, where the observer has come no further. -/
theorem classify_again {u : Series} {s' : State} (h : ((o.classify c).on s).1 = .ok u)
    (hs : s'.stage = ((o.classify c).on s).2.stage) : ((o.classify c).on s').1 = .ok u := by
  rw [classify_on] at h hs ⊢
  cases hc : c.check with
  | error e =>
    rw [hc] at h
    cases h
  | ok i =>
    rw [hc] at h hs
    have hagain (cl : Option Classifier) (hcl : (o.classifier?.on s).1 = .ok cl) :
        s'.stage = (o.classifier?.on s).2.stage → o.classifier?.on s' = (.ok cl, s') :=
      classifier?_again hcl
    rcases hx : o.classifier?.on s with ⟨e | cl, s₁⟩
    · rw [hx] at h
      cases h
    · rw [hx] at h hs hagain
      dsimp only at h hs ⊢
      rw [series_on] at h hs
      rw [hagain cl rfl (hs.trans (State.tell_stage _ _))]
      dsimp only
      rw [series_on]
      exact h

/-- **A caller that retries counts as often as it tries**, if the fault is named a series and cannot be shown. -/
theorem retry_of_unshowable {u : Series} {message : String} (hb : s.counter.backend ≠ .discarded)
    (hi : c.subject = .fault i) (hu : ((o.classify c).on s).1 = .ok u)
    (hm : c.graph.Unshowable i message) (n : Nat) (v : Series) :
    (o.retry c n s).counter.tally.count v = s.counter.tally.count v + if v = u then n else 0 := by
  induction n generalizing s with
  | zero => simp [retry]
  | succ n ih =>
    have hcounter : (((o.classify c).on s).2.enter u (.error message)).counter = s.counter.counting u := by
      rw [State.enter_counter, (spared_of_named hu).counter]
    have hagain := ih (s := ((o.classify c).on s).2.enter u (.error message))
      (by rwa [hcounter, Counter.counting_backend]) (classify_again hu (State.enter_stage _ _ _))
    rw [retry, observe_of_unshowable hi hu hm]
    dsimp only
    rw [hagain, hcounter, Counter.count_counting hb]
    by_cases hv : v = u
    · rw [if_pos hv, if_pos hv, if_pos hv]
      omega
    · rw [if_neg hv, if_neg hv, if_neg hv]

/-- **An observation is counted as a whole unless its fault would be named a series and cannot be shown.** This
holds in every state.

* Any other call is answered and counted once, or it is refused and nothing is counted. Only a first failure to
  load that can be told of is refused and counted, as what it is.
* The fault that cannot be shown is counted once and refused, with what showing it gives: not as a whole, on
  any counter that counts.
* Retrying a call whose fault can be shown counts one series at most. Retrying the other one counts as often as
  it is tried. -/
theorem observe_whole_unless_unshowable (o : Observer) (s : State) (c : Call) :
    (¬ o.NamedUnshowable s c → Whole s ((o.observe c).on s).1 ((o.observe c).on s).2) ∧
      (Settled s ((o.observe c).on s).2 ↔ o.FirstFailure s c) ∧
      (∀ i u message, c.subject = .fault i → ((o.classify c).on s).1 = .ok u → c.graph.Unshowable i message →
        ((o.observe c).on s).1 = .error (.unprintable message) ∧
          ((o.observe c).on s).2.counter = s.counter.counting u) ∧
      (s.counter.backend ≠ .discarded → o.NamedUnshowable s c →
        ¬ Whole s ((o.observe c).on s).1 ((o.observe c).on s).2) ∧
      ((∀ i message, c.subject = .fault i → ¬ c.graph.Unshowable i message) → ∀ n,
        (o.retry c n s).counter = s.counter ∨ ∃ u, (o.retry c n s).counter = s.counter.counting u) ∧
      (s.counter.backend ≠ .discarded → ∀ i u message, c.subject = .fault i →
        ((o.classify c).on s).1 = .ok u → c.graph.Unshowable i message → ∀ n v,
          (o.retry c n s).counter.tally.count v = s.counter.tally.count v + if v = u then n else 0) := by
  refine ⟨whole_of_showable, settled_iff, fun i u message hi hu hm => ?_, not_whole_of_unshowable,
    fun h n => retry_of_showable h n s, fun hb i u message hi hu hm n v => retry_of_unshowable hb hi hu hm n v⟩
  rw [observe_of_unshowable hi hu hm]
  refine ⟨rfl, ?_⟩
  rw [State.enter_counter, (spared_of_named hu).counter]

/-- The first state of an observer without any categories. -/
def State.bare : State :=
  ⟨.ready (standard.classifierOf .empty), 0, ⟨.kept, "errors_total", "", .empty⟩, .empty⟩

/-- A call with a fault that breaks when it is shown. -/
def muteCall : Call where
  origin := .callSite .unrecognised
  graph := ⟨#[{ Fault.ofTexts "BrokenStr" "" "" with message := .broken "broken str" }]⟩
  subject := .fault 0
  service := .null

/-- The series of it. -/
def muteSeries : Series := ⟨"BrokenStrError", "UnknownError", "Unrecognised", "N/A"⟩

/-- The call is refused and was counted all the same; the third attempt is counted for the third time. -/
theorem observe_whole_unless_unshowable_muteCall :
    make ⟨.kept, "errors_total", "", .empty⟩ .empty (some .empty) none 5 true = .ok (standard, .bare) ∧
      standard.NamedUnshowable .bare muteCall ∧
      ((standard.observe muteCall).on .bare).1 = .error (.unprintable "broken str") ∧
      ¬ Whole .bare ((standard.observe muteCall).on .bare).1 ((standard.observe muteCall).on .bare).2 ∧
      (standard.retry muteCall 3 .bare).counter.tally.count muteSeries = 3 := by
  have hnamed : ((standard.classify muteCall).on .bare).1 = .ok muteSeries := rfl
  have hmute : muteCall.graph.Unshowable 0 "broken str" := ⟨_, rfl, .inl rfl⟩
  have hunshowable : standard.NamedUnshowable .bare muteCall := ⟨0, muteSeries, _, rfl, hnamed, hmute⟩
  have hkept : State.bare.counter.backend ≠ .discarded := by decide
  obtain ⟨-, -, hrefused, hnot, -, hretry⟩ := observe_whole_unless_unshowable standard .bare muteCall
  refine ⟨rfl, hunshowable, (hrefused 0 _ _ rfl hnamed hmute).1, hnot hkept hunshowable, ?_⟩
  rw [hretry hkept 0 _ _ rfl hnamed hmute 3 muteSeries]
  rfl

end Observer

end Triage
