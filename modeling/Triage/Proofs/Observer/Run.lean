import Triage.Proofs.Observer.Effect

/-!
# Runs of an observer

An observer is asked one thing after another. Between two requests others may count on its counter and write
in its log book; nobody else touches how far it has come with its taxonomy.

* `step_of_unneeded`: a request that does not need the classifier leaves the stage alone.
* `step_of_needed`: any other one prepares first, and is then served with the classifier.
* `step_progress`: how far a request gets the observer.
* `step_stage_cases`: **all that a step can do to the stage**.
* `Reachable.classifier_eq`: in every reachable state the classifier looks as far as the observer.
-/

namespace Triage.Observer

/-- What may be asked of an observer. -/
inductive Request where
  | prepare
  | classify (c : Call)
  | observe (c : Call)

/-- What an observer answers. -/
inductive Reply where
  | classifier (c : Classifier)
  | series (u : Series)
  | done

/-- The action that a request asks for. -/
def serve (o : Observer) : Request → Action Reply
  | .prepare => .classifier <$> o.prepare
  | .classify c => .series <$> o.classify c
  | .observe c => (fun _ => .done) <$> o.observe c

/-- The answer to a request, and the state after it. -/
def step (o : Observer) (r : Request) (s : State) : Except Error Reply × State := (o.serve r).on s

/-- The state after several requests. -/
def after (o : Observer) (s : State) : List Request → State
  | [] => s
  | r :: rs => o.after (o.step r s).2 rs

/-- A call with an origin and a fault. -/
def Call.isProper (c : Call) : Bool :=
  match c.origin, c.subject with
  | .absent, _ => false
  | _, .fault _ => true
  | _, _ => false

/-- Whether a request needs the classifier. -/
def needs (o : Observer) : Request → Bool
  | .prepare => true
  | .classify c | .observe c => o.categorises && c.isProper

/-- What naming a series consults, given the classifier: nothing if patterns may not decide. -/
def consulted (o : Observer) (classifier : Classifier) : Option Classifier :=
  if o.categorises then some classifier else none

/-- What is asked for, once the classifier is there. -/
def serveWith (o : Observer) (classifier : Classifier) : Request → Action Reply
  | .prepare => pure (.classifier classifier)
  | .classify c => do
    let i ← ExceptT.mk (pure c.check)
    .series <$> o.series (o.consulted classifier) c.origin c.graph i c.service
  | .observe c => do
    let i ← ExceptT.mk (pure c.check)
    (fun _ => .done) <$> o.record (o.consulted classifier) c.origin c.graph i c.service

variable {o : Observer} {s : State} {r : Request} {c : Call} {i : Nat}

theorem check_eq_ok_iff : c.check = .ok i ↔ c.isProper = true ∧ c.subject = .fault i := by
  unfold Call.check Call.isProper
  rcases c with ⟨origin, g, subject, service⟩
  cases origin <;> cases subject <;> simp

theorem check_of_proper (h : c.isProper = true) : ∃ i, c.check = .ok i := by
  unfold Call.isProper at h
  rcases c with ⟨origin, g, subject, service⟩
  cases subject with
  | fault i => exact ⟨i, check_eq_ok_iff.2 ⟨h, rfl⟩⟩
  | absent => cases origin <;> cases h
  | value v => cases origin <;> cases h

theorem consulted_of_enabled (h : o.categorises = true) (classifier : Classifier) :
    o.consulted classifier = some classifier :=
  if_pos h

theorem consulted_of_disabled (h : o.categorises = false) (classifier : Classifier) :
    o.consulted classifier = none := by
  unfold consulted
  rw [h]
  rfl

/-- A proper call that does not need the classifier is one to an observer that does not categorise. -/
theorem categorises_of_unneeded (h : (o.categorises && c.isProper) = false) (hc : c.check = .ok i) :
    o.categorises = false := by
  rw [(check_eq_ok_iff.1 hc).1, Bool.and_true] at h
  exact h

/-- **A request that does not need the classifier** is served alike with any, and without one. -/
theorem step_of_unneeded (h : o.needs r = false) (classifier : Classifier) (s : State) :
    o.step r s = (o.serveWith classifier r).on s := by
  unfold step serve serveWith
  cases r with
  | prepare => cases h
  | classify c =>
    simp only [on_map, classify_on, on_bind, on_lift]
    cases hc : c.check with
    | error e => rfl
    | ok i =>
      have hd := categorises_of_unneeded h hc
      simp only [classifier?_of_disabled hd, consulted_of_disabled hd]
  | observe c =>
    simp only [on_map, observe_on, on_bind, on_lift]
    cases hc : c.check with
    | error e => rfl
    | ok i =>
      have hd := categorises_of_unneeded h hc
      simp only [classifier?_of_disabled hd, consulted_of_disabled hd]

/-- **A request that needs the classifier** prepares first. -/
theorem step_of_needed (h : o.needs r = true) (s : State) :
    o.step r s =
      match o.prepare.on s with
      | (.error e, s') => (.error e, s')
      | (.ok classifier, s') => (o.serveWith classifier r).on s' := by
  unfold step serve serveWith
  cases r with
  | prepare =>
    rw [on_map]
    rcases o.prepare.on s with ⟨_ | _, s'⟩ <;> rfl
  | classify c =>
    obtain ⟨he, hp⟩ := Bool.and_eq_true_iff.1 h
    obtain ⟨i, hc⟩ := check_of_proper hp
    simp only [on_map, classify_on, on_bind, on_lift, hc, classifier?_of_enabled he, consulted_of_enabled he]
    rcases o.prepare.on s with ⟨_ | _, s'⟩ <;> rfl
  | observe c =>
    obtain ⟨he, hp⟩ := Bool.and_eq_true_iff.1 h
    obtain ⟨i, hc⟩ := check_of_proper hp
    simp only [on_map, observe_on, on_bind, on_lift, hc, classifier?_of_enabled he, consulted_of_enabled he]
    rcases o.prepare.on s with ⟨_ | _, s'⟩ <;> rfl

/-- Where the classifier is there, every request is served with it. -/
theorem step_of_ready {classifier : Classifier} (h : s.stage = .ready classifier) (r : Request) :
    o.step r s = (o.serveWith classifier r).on s := by
  cases hn : o.needs r with
  | false => exact step_of_unneeded hn classifier s
  | true => rw [step_of_needed hn, prepare_of_ready h]

/-- Naming a series leaves alone how far the observer has come. -/
theorem series_stage (o : Observer) (classifier : Option Classifier) (origin : Origin) (g : FaultGraph)
    (i : Nat) (service : Value) (s : State) :
    ((o.series classifier origin g i service).on s).2.stage = s.stage ∧
      ((o.series classifier origin g i service).on s).2.attempts = s.attempts := by
  rw [series_on]
  exact ⟨State.tell_stage _ _, State.tell_attempts _ _⟩

/-- Counting a series leaves alone how far the observer has come. -/
theorem record_stage (o : Observer) (classifier : Option Classifier) (origin : Origin) (g : FaultGraph)
    (i : Nat) (service : Value) (s : State) :
    ((o.record classifier origin g i service).on s).2.stage = s.stage ∧
      ((o.record classifier origin g i service).on s).2.attempts = s.attempts := by
  rw [record_on]
  cases o.seriesOf classifier origin g i service with
  | error e => exact ⟨State.tell_stage _ _, State.tell_attempts _ _⟩
  | ok u => exact ⟨State.tell_stage _ _, State.tell_attempts _ _⟩

theorem serveWith_stage (o : Observer) (classifier : Classifier) (r : Request) (s : State) :
    ((o.serveWith classifier r).on s).2.stage = s.stage ∧
      ((o.serveWith classifier r).on s).2.attempts = s.attempts := by
  unfold serveWith
  cases r with
  | prepare => exact ⟨rfl, rfl⟩
  | classify c =>
    simp only [on_bind, on_lift, on_map]
    cases c.check with
    | error e => exact ⟨rfl, rfl⟩
    | ok i => exact series_stage o _ _ _ _ _ s
  | observe c =>
    simp only [on_bind, on_lift, on_map]
    cases c.check with
    | error e => exact ⟨rfl, rfl⟩
    | ok i => exact record_stage o _ _ _ _ _ s

theorem step_stage_of_unneeded (h : o.needs r = false) (s : State) :
    (o.step r s).2.stage = s.stage ∧ (o.step r s).2.attempts = s.attempts := by
  rw [step_of_unneeded h (o.classifierOf .empty)]
  exact serveWith_stage o _ r s

/-- How far a request gets the observer: as far as preparing does, if it needs the classifier. -/
theorem step_progress (o : Observer) (r : Request) (s : State) :
    (o.step r s).2.stage = (if o.needs r then (o.prepare.on s).2 else s).stage ∧
      (o.step r s).2.attempts = (if o.needs r then (o.prepare.on s).2 else s).attempts := by
  cases hn : o.needs r with
  | false => exact step_stage_of_unneeded hn s
  | true =>
    rw [step_of_needed hn, if_pos rfl]
    rcases o.prepare.on s with ⟨e | cl, s'⟩
    · exact ⟨rfl, rfl⟩
    · exact serveWith_stage o cl r s'

/-- **All that a step can do to the stage**: nothing, or to settle a first attempt. -/
theorem step_stage_cases (o : Observer) (r : Request) (s : State) :
    (o.step r s).2.stage = s.stage ∨
      (∃ loader t lines, s.stage = .untried loader ∧ loader s.attempts = .ok (t, lines) ∧
        (o.step r s).2.stage = .ready (o.classifierOf t)) ∨
      ∃ loader f, s.stage = .untried loader ∧ loader s.attempts = .error f ∧
        (o.step r s).2.stage = .failed ⟨s.attempts, f⟩ := by
  rw [(step_progress o r s).1]
  cases o.needs r with
  | false => exact .inl rfl
  | true =>
    rw [if_pos rfl]
    rcases prepare_cases o s with ⟨h, -⟩ | ⟨loader, t, lines, hs, hl, h⟩ | ⟨loader, f, line, hs, hl, h⟩
    · exact .inl h
    · exact .inr (.inl ⟨loader, t, lines, hs, hl, by rw [h]; rfl⟩)
    · exact .inr (.inr ⟨loader, f, hs, hl, by rw [h]; rfl⟩)

/-- Naming and counting change the counter by one series at most. -/
theorem serveWith_counter_cases (o : Observer) (classifier : Classifier) (r : Request) (s : State) :
    ((o.serveWith classifier r).on s).2.counter = s.counter ∨
      ∃ u, ((o.serveWith classifier r).on s).2.counter = s.counter.counting u := by
  unfold serveWith
  cases r with
  | prepare => exact .inl rfl
  | classify c =>
    simp only [on_bind, on_lift, on_map, series_on]
    cases c.check with
    | error e => exact .inl rfl
    | ok i => exact .inl (State.tell_counter _ _)
  | observe c =>
    simp only [on_bind, on_lift, on_map, record_on]
    cases c.check with
    | error e => exact .inl rfl
    | ok i =>
      dsimp only
      cases o.seriesOf (o.consulted classifier) c.origin c.graph i c.service with
      | error e => exact .inl (State.tell_counter _ _)
      | ok u =>
        refine .inr ⟨u, ?_⟩
        dsimp only
        rw [State.enter_counter, State.tell_counter]

/-- **All that a step can do to the counter**: it counts one series at most. -/
theorem step_counter_cases (o : Observer) (r : Request) (s : State) :
    (o.step r s).2.counter = s.counter ∨ ∃ u, (o.step r s).2.counter = s.counter.counting u := by
  cases hn : o.needs r with
  | false =>
    rw [step_of_unneeded hn (o.classifierOf .empty)]
    exact serveWith_counter_cases o _ r s
  | true =>
    rw [step_of_needed hn]
    -- preparing counts a first failure only, and then the request goes no further
    rcases prepare_cases o s with ⟨-, h⟩ | ⟨loader, t, lines, -, -, h⟩ | ⟨loader, f, line, -, -, h⟩
    · rcases hp : o.prepare.on s with ⟨e | cl, s'⟩
      · rw [hp] at h
        exact .inl h
      · rw [hp] at h
        rw [← show s'.counter = s.counter from h]
        exact serveWith_counter_cases o cl r s'
    · rw [h]
      exact serveWith_counter_cases o _ r _
    · rw [h]
      exact .inr ⟨configurationSeries, State.failed_counter _ _ _⟩

theorem step_backend (o : Observer) (r : Request) (s : State) :
    (o.step r s).2.counter.backend = s.counter.backend := by
  rcases step_counter_cases o r s with h | ⟨u, h⟩
  · rw [h]
  · rw [h, Counter.counting_backend]

/-- The states of an observer: its first one, those after a request, and those in which others have used its
counter and its log book. -/
inductive Reachable (o : Observer) : State → Prop where
  | start {counter : Counter} {book : Log.Book} {taxonomy : Option Taxonomy} {loader : Option Loader}
      {limit : Int} {enabled : Bool} {s : State}
      (h : make counter book taxonomy loader limit enabled = .ok (o, s)) : Reachable o s
  | step {s : State} (r : Request) (h : Reachable o s) : Reachable o (o.step r s).2
  | elsewhere {s : State} (counter : Counter) (book : Log.Book) (h : Reachable o s) :
      Reachable o { s with counter, book }

/-- The classifier of an observer at its start has the observer's limit. -/
theorem make_classifier {counter : Counter} {book : Log.Book} {taxonomy : Option Taxonomy}
    {loader : Option Loader} {limit : Int} {enabled : Bool} {cl : Classifier}
    (h : make counter book taxonomy loader limit enabled = .ok (o, s)) (hs : s.stage = .ready cl) :
    cl = o.classifierOf cl.taxonomy := by
  unfold make at h
  split at h
  · cases h
  · split at h
    · rcases taxonomy with _ | t <;> rcases loader with _ | l <;> cases h <;> cases hs <;> rfl
    · cases h

/-- **The classifier looks as far as the observer.** -/
theorem Reachable.classifier_eq {cl : Classifier} (h : Reachable o s) (hs : s.stage = .ready cl) :
    cl = o.classifierOf cl.taxonomy := by
  induction h generalizing cl with
  | start h => exact make_classifier h hs
  | elsewhere counter book _ ih => exact ih hs
  | @step s r _ ih =>
    rcases step_stage_cases o r s with h | ⟨loader, t, lines, -, -, h⟩ | ⟨loader, f, -, -, h⟩
    · exact ih (h ▸ hs)
    · rw [h] at hs
      cases hs
      rfl
    · rw [h] at hs
      cases hs

/-- An observer with the standard settings. -/
def standard : Observer := ⟨5, by decide, true⟩

end Triage.Observer
