import Triage.Observer.Action

/-!
# What an action answers and leaves behind

An action of an observer answers or refuses, and leaves a state behind. Each of them in closed form:

* `series_on`: naming a series does not look at the state and writes at most one record.
* `record_on`: counting changes the counter by the series that was named, and refuses only afterwards if the
  fault cannot be shown.
* `fail_on`: a failure to load is counted under `configurationSeries`, whatever it is, once it can be told of.
* `prepare_of_untried`, `prepare_of_ready`, `prepare_of_failed`: the classifier in the three stages;
  `prepare_cases`: **all that preparing can do**.
* `classify_on`, `observe_on`: both ask for the classifier and then go on with the same series.
-/

namespace Triage

/-- The line that tells of the fault at a position, or the message of the fault that showing it gives. -/
def FaultGraph.describe (g : FaultGraph) (i : Nat) : Except String String :=
  match g.fault? i with
  | some f => f.describe (g.causeFault? i)
  | none => .ok ""

/-- The counter after counting a series once. -/
def Counter.counting (c : Counter) (u : Series) : Counter :=
  match c.backend with
  | .kept | .exported => { c with tally := c.tally.add u }
  | .discarded => c

theorem Counter.increment_fst (c : Counter) (u : Series) (b : Log.Book) :
    (c.increment u b).1 = c.counting u := by
  unfold increment counting
  cases c.backend <;> rfl

/-- **Counting adds one to its own series** and nothing to any other. -/
theorem Counter.count_counting {c : Counter} (hc : c.backend ≠ .discarded) (u v : Series) :
    (c.counting u).tally.count v = c.tally.count v + if v = u then 1 else 0 := by
  unfold counting
  cases hb : c.backend with
  | discarded => exact absurd hb hc
  | kept => exact Tally.count_add c.tally u v
  | exported => exact Tally.count_add c.tally u v

@[simp] theorem Counter.counting_backend (c : Counter) (u : Series) :
    (c.counting u).backend = c.backend := by
  unfold counting
  cases h : c.backend <;> simp [h]

theorem Counter.counting_ne {c : Counter} (hc : c.backend ≠ .discarded) (u : Series) : c.counting u ≠ c := by
  intro h
  have := count_counting hc u u
  rw [h, if_pos rfl] at this
  omega

namespace Observer

variable {o : Observer} {s : State} {α β : Type}

/-- What an action answers in a state, and the state that it leaves. -/
def Action.on (x : Action α) (s : State) : Except Error α × State := StateT.run (ExceptT.run x) s

theorem on_bind (x : Action α) (f : α → Action β) (s : State) :
    Action.on (x >>= f) s =
      match x.on s with
      | (.ok a, s') => (f a).on s'
      | (.error e, s') => (.error e, s') := by
  unfold Action.on ExceptT.run StateT.run
  simp only [bind, ExceptT.bind, ExceptT.mk, StateT.bind]
  cases x s with
  | mk a s' => cases a <;> rfl

@[simp] theorem on_pure (a : α) (s : State) : Action.on (pure a) s = (.ok a, s) := rfl

@[simp] theorem on_throw (e : Error) (s : State) : Action.on (throw e : Action α) s = (.error e, s) := rfl

@[simp] theorem on_modify (f : State → State) (s : State) :
    Action.on (modify f : Action Unit) s = (.ok (), f s) := rfl

@[simp] theorem on_get (s : State) : Action.on (get : Action State) s = (.ok s, s) := rfl

@[simp] theorem on_lift (x : Except Error α) (s : State) :
    Action.on (ExceptT.mk (pure x) : Action α) s = (x, s) := rfl

@[simp] theorem on_write (level : Log.LevelName) (message : String) (s : State) :
    Action.on (write level message) s = (.ok (), s.write level message) := rfl

theorem on_map (x : Action α) (f : α → β) (s : State) :
    Action.on (f <$> x) s = ((x.on s).1.map f, (x.on s).2) := by
  rw [← bind_pure_comp, on_bind]
  rcases x.on s with ⟨a | a, s'⟩ <;> rfl

/-! ## Naming and counting a series -/

/-- The series of a fault. -/
def seriesOf (o : Observer) (classifier : Option Classifier) (origin : Origin) (g : FaultGraph) (i : Nat)
    (service : Value) : Except Error Series := do
  let source ← origin.source.mapError .unnamed
  let v ← (o.verdict classifier g i).mapError .illegalCategory
  let service ← checkService service
  return ⟨(g.label i source).getD "", v.category, source, service⟩

theorem mapError_bind_eq_ok_iff {ε : Type} {x : Except ε α} {f : ε → Error} {k : α → Except Error β} {b : β} :
    (x.mapError f >>= k) = .ok b ↔ ∃ a, x = .ok a ∧ k a = .ok b := by
  cases x with
  | error e => exact ⟨fun h => (nomatch h), fun ⟨_, h, _⟩ => (nomatch h)⟩
  | ok a => exact ⟨fun h => ⟨a, rfl, h⟩, fun ⟨_, h, hk⟩ => Except.ok.inj h ▸ hk⟩

/-- **A series is named** exactly if the origin, the category and the service each are. -/
theorem seriesOf_eq_ok_iff {classifier : Option Classifier} {origin : Origin} {g : FaultGraph} {i : Nat}
    {service : Value} {u : Series} :
    o.seriesOf classifier origin g i service = .ok u ↔ ∃ source v name, origin.source = .ok source ∧
      o.verdict classifier g i = .ok v ∧ checkService service = .ok name ∧
        u = ⟨(g.label i source).getD "", v.category, source, name⟩ := by
  unfold seriesOf
  simp only [mapError_bind_eq_ok_iff]
  constructor
  · rintro ⟨source, hsource, v, hv, h⟩
    cases hname : checkService service with
    | error e =>
      rw [hname] at h
      cases h
    | ok name =>
      rw [hname] at h
      exact ⟨source, v, name, hsource, hv, rfl, (Except.ok.inj h).symm⟩
  · rintro ⟨source, v, name, hsource, hv, hname, rfl⟩
    refine ⟨source, hsource, v, hv, ?_⟩
    rw [hname]
    rfl

/-- Where the verdict is known, it stands in the series, and all else is up to the origin and the service. -/
theorem seriesOf_of_verdict {classifier : Option Classifier} {g : FaultGraph} {i : Nat} {v : Taxonomy.Verdict}
    (h : o.verdict classifier g i = .ok v) (origin : Origin) (service : Value) :
    o.seriesOf classifier origin g i service =
      (origin.source.mapError .unnamed).bind fun source =>
        (checkService service).map fun name => ⟨(g.label i source).getD "", v.category, source, name⟩ := by
  unfold seriesOf
  rw [h]
  cases origin.source with
  | error e => rfl
  | ok source => cases checkService service <;> rfl

/-- For a fault of the same label, a verdict of another category gives the same series but for the category. -/
theorem seriesOf_of_verdicts {classifier classifier' : Option Classifier} {g g' : FaultGraph} {i : Nat}
    {v v' : Taxonomy.Verdict} (hlabel : ∀ token, g'.label i token = g.label i token)
    (h : o.verdict classifier g i = .ok v) (h' : o.verdict classifier' g' i = .ok v') (origin : Origin)
    (service : Value) :
    o.seriesOf classifier' origin g' i service =
      (o.seriesOf classifier origin g i service).map fun u => { u with category := v'.category } := by
  rw [seriesOf_of_verdict h, seriesOf_of_verdict h']
  simp only [hlabel]
  cases origin.source with
  | error e => rfl
  | ok source => cases checkService service <;> rfl

/-- The selection that a record tells of when a series is named. -/
def selectionOf (o : Observer) (classifier : Option Classifier) (origin : Origin) (g : FaultGraph)
    (i : Nat) : Option Selection :=
  match origin.source, o.verdict classifier g i with
  | .ok _, .ok v => v.selection
  | _, _ => none

/-- The state after telling of a selection, if there is one. -/
def State.tell (s : State) : Option Selection → State
  | some selection => s.write .debug selection.line
  | none => s

@[simp] theorem State.tell_counter (s : State) (x : Option Selection) : (s.tell x).counter = s.counter := by
  cases x <;> rfl

@[simp] theorem State.tell_stage (s : State) (x : Option Selection) : (s.tell x).stage = s.stage := by
  cases x <;> rfl

@[simp] theorem State.tell_attempts (s : State) (x : Option Selection) :
    (s.tell x).attempts = s.attempts := by
  cases x <;> rfl

@[simp] theorem State.enter_counter (s : State) (u : Series) (d : Except String String) :
    (s.enter u d).counter = s.counter.counting u :=
  Counter.increment_fst _ _ _

@[simp] theorem State.enter_stage (s : State) (u : Series) (d : Except String String) :
    (s.enter u d).stage = s.stage := rfl

/-- **Naming a series** does not look at the state. -/
theorem series_on (o : Observer) (classifier : Option Classifier) (origin : Origin) (g : FaultGraph)
    (i : Nat) (service : Value) (s : State) :
    (o.series classifier origin g i service).on s =
      (o.seriesOf classifier origin g i service, s.tell (o.selectionOf classifier origin g i)) := by
  unfold series seriesOf selectionOf
  cases origin.source with
  | error e => rfl
  | ok source =>
    cases o.verdict classifier g i with
    | error e => rfl
    | ok v =>
      obtain ⟨category, _ | selection⟩ := v <;> cases checkService service <;> rfl

/-- What an observer answers after counting, given the line that tells of the fault. -/
def counted : Except String String → Except Error Unit
  | .ok _ => .ok ()
  | .error message => .error (.unprintable message)

/-- **Counting a fault.** Whether it can be shown matters only after it was counted. -/
theorem record_on (o : Observer) (classifier : Option Classifier) (origin : Origin) (g : FaultGraph)
    (i : Nat) (service : Value) (s : State) :
    (o.record classifier origin g i service).on s =
      match o.seriesOf classifier origin g i service with
      | .ok u => (counted (g.describe i), (s.tell (o.selectionOf classifier origin g i)).enter u (g.describe i))
      | .error e => (.error e, s.tell (o.selectionOf classifier origin g i)) := by
  unfold record
  rw [on_bind, series_on]
  cases o.seriesOf classifier origin g i service with
  | error e => rfl
  | ok u =>
    show Action.on _ _ = (counted (g.describe i), _)
    unfold FaultGraph.describe
    cases g.fault? i with
    | none => rfl
    | some f =>
      dsimp only
      cases f.describe (g.causeFault? i) <;> rfl

/-! ## The classifier -/

/-- What every failure to load is counted under. -/
def configurationSeries : Series :=
  ⟨"ErrorManagementTaxonomyConfigError", "ConfigurationError", "ErrorManagement", "N/A"⟩

/-- The error was given the category of its own, so that nothing behind it is looked at. -/
theorem findExplicit_configuration (e : ConfigError) (limit : Int) (h : 1 ≤ limit) :
    findExplicit (e.graph.walkFaults 0 limit) = .ok (some .configuration) := by
  obtain ⟨n, hn⟩ : ∃ n, limit.toNat = n + 1 := ⟨limit.toNat - 1, by omega⟩
  unfold FaultGraph.walkFaults FaultGraph.walk
  rw [hn]
  rfl

theorem label_configuration (e : ConfigError) :
    e.graph.label 0 "ErrorManagement" = some configurationSeries.label := by
  show some (prettyLabel ("ErrorManagement" ++ FaultClass.taxonomyConfigError.name)) = _
  rfl

theorem seriesOf_configuration (o : Observer) (e : ConfigError) :
    o.seriesOf none (.callSite .errorManagement) e.graph 0 .null = .ok configurationSeries := by
  refine seriesOf_eq_ok_iff.2 ⟨"ErrorManagement", ⟨StandardCategory.configuration.name, none⟩, noService,
    rfl, ?_, rfl, ?_⟩
  · unfold verdict
    rw [findExplicit_configuration e o.depthLimit o.one_le]
  · rw [label_configuration]
    rfl

theorem selectionOf_configuration (o : Observer) (e : ConfigError) :
    o.selectionOf none (.callSite .errorManagement) e.graph 0 = none := by
  unfold selectionOf verdict
  rw [findExplicit_configuration e o.depthLimit o.one_le]
  rfl

/-- What the observer answers when a failure was counted: the error, unless the failure cannot be shown as
its cause. -/
def ConfigError.raised (e : ConfigError) : Error :=
  match e.failure.outermost.shown with
  | .text _ => .configuration e
  | .broken message => .unprintable message

/-- The state after a failure was told of, counted and kept. -/
def State.failed (s : State) (e : ConfigError) (line : String) : State :=
  State.enter
    { s.write .warning s!"Error reading exception categorisation data: {line}" with stage := .failed e }
    configurationSeries (e.graph.describe 0)

@[simp] theorem State.failed_counter (s : State) (e : ConfigError) (line : String) :
    (s.failed e line).counter = s.counter.counting configurationSeries :=
  State.enter_counter _ _ _

/-- The error itself can be shown exactly if the failure behind it can be. -/
theorem counted_configuration (e : ConfigError) :
    counted (e.graph.describe 0) =
      match e.failure.outermost.shown with
      | .text _ => .ok ()
      | .broken message => .error (.unprintable message) := by
  show counted (e.fault.describe (some { e.failure.outermost with cause := none, context := none })) = _
  unfold Fault.describe
  cases h : e.failure.outermost.shown with
  | text c => simp [ConfigError.fault, Fault.ofTexts, h, counted]
  | broken m => simp [ConfigError.fault, Fault.ofTexts, h, counted]

/-- **A failed attempt.** What is not to be caught passes through; what cannot be told of comes out as it is;
anything else is counted and kept. -/
theorem fail_on (o : Observer) (attempt : Nat) (f : LoadFailure) (s : State) :
    (o.fail attempt f : Action α).on s =
      if f.isCaught then
        match f.describe with
        | .ok line => (.error (ConfigError.raised ⟨attempt, f⟩), s.failed ⟨attempt, f⟩ line)
        | .error message => (.error (.unprintable message), s)
      else (.error (.passed f), s) := by
  unfold fail
  cases f.isCaught with
  | false => rfl
  | true =>
    rw [if_pos rfl]
    cases f.describe with
    | error message => rfl
    | ok line =>
      simp only [Bool.not_true, Bool.false_eq_true, if_false, on_bind, on_write, on_modify, record_on,
        seriesOf_configuration, selectionOf_configuration, State.tell, counted_configuration]
      unfold ConfigError.raised State.failed
      cases f.outermost.shown <;> rfl

/-- The classifier that a taxonomy gives an observer. -/
def classifierOf (o : Observer) (t : Taxonomy) : Classifier := ⟨t, o.depthLimit, o.one_le⟩

/-- The state after loading a taxonomy. -/
def State.loaded (s : State) (classifier : Classifier) (lines : List String) : State :=
  { s with stage := .ready classifier, attempts := s.attempts + 1, book := s.book.writeAll .info lines }

theorem prepare_of_ready {classifier : Classifier} (h : s.stage = .ready classifier) :
    o.prepare.on s = (.ok classifier, s) := by
  unfold prepare
  simp only [on_bind, on_get, h, on_pure]

theorem prepare_of_failed {e : ConfigError} (h : s.stage = .failed e) :
    o.prepare.on s = (.error (.configuration e), s) := by
  unfold prepare
  simp only [on_bind, on_get, h, on_throw]

/-- **The first attempt** that is made in a state without a taxonomy. -/
theorem prepare_of_untried {loader : Loader} (h : s.stage = .untried loader) :
    o.prepare.on s =
      match loader s.attempts with
      | .ok (t, lines) => (.ok (o.classifierOf t), s.loaded (o.classifierOf t) lines)
      | .error f => (o.fail s.attempts f).on { s with attempts := s.attempts + 1 } := by
  unfold prepare
  simp only [on_bind, on_get, h, on_modify]
  cases loader s.attempts with
  | error f => rfl
  | ok r => rfl

/-- **All that preparing can do.** It leaves alone how far the observer has come, and the counter; or the
first attempt gives a taxonomy; or the first attempt fails, and its failure is counted. -/
theorem prepare_cases (o : Observer) (s : State) :
    ((o.prepare.on s).2.stage = s.stage ∧ (o.prepare.on s).2.counter = s.counter) ∨
      (∃ loader t lines, s.stage = .untried loader ∧ loader s.attempts = .ok (t, lines) ∧
        o.prepare.on s = (.ok (o.classifierOf t), s.loaded (o.classifierOf t) lines)) ∨
      ∃ loader f line, s.stage = .untried loader ∧ loader s.attempts = .error f ∧
        o.prepare.on s = (.error (ConfigError.raised ⟨s.attempts, f⟩),
          State.failed { s with attempts := s.attempts + 1 } ⟨s.attempts, f⟩ line) := by
  cases hs : s.stage with
  | ready cl =>
    rw [prepare_of_ready hs]
    exact .inl ⟨hs, rfl⟩
  | failed e =>
    rw [prepare_of_failed hs]
    exact .inl ⟨hs, rfl⟩
  | untried loader =>
    rw [prepare_of_untried hs]
    cases hl : loader s.attempts with
    | ok x => exact .inr (.inl ⟨loader, x.1, x.2, rfl, hl, rfl⟩)
    | error f =>
      dsimp only
      rw [fail_on]
      -- only a failure that is caught and can be told of leaves a trace
      cases f.isCaught with
      | false => exact .inl ⟨hs, rfl⟩
      | true =>
        rw [if_pos rfl]
        cases f.describe with
        | error message => exact .inl ⟨hs, rfl⟩
        | ok line => exact .inr (.inr ⟨loader, f, line, rfl, hl, rfl⟩)

/-- **A classifier that was given is kept.** -/
theorem stage_of_prepare {classifier : Classifier} (h : (o.prepare.on s).1 = .ok classifier) :
    (o.prepare.on s).2.stage = .ready classifier := by
  cases hs : s.stage with
  | ready cl =>
    rw [prepare_of_ready hs] at h ⊢
    rw [← Except.ok.inj h]
    exact hs
  | failed e =>
    rw [prepare_of_failed hs] at h
    cases h
  | untried loader =>
    rw [prepare_of_untried hs] at h ⊢
    cases hl : loader s.attempts with
    | ok x =>
      rw [hl] at h
      rw [← Except.ok.inj h]
      rfl
    | error f =>
      rw [hl] at h
      dsimp only at h
      rw [fail_on] at h
      split at h
      · split at h <;> cases h
      · cases h

/-! ## The calls -/

theorem classifier?_of_disabled (h : o.categorises = false) : o.classifier?.on s = (.ok none, s) := by
  unfold classifier?
  rw [h]
  rfl

theorem classifier?_of_enabled (h : o.categorises = true) :
    o.classifier?.on s = ((o.prepare.on s).1.map some, (o.prepare.on s).2) := by
  unfold classifier?
  rw [if_pos h, on_map]

/-- A proper call waits for the classifier. -/
theorem consult_on (o : Observer) (c : Call) (k : Nat → Option Classifier → Action α) (s : State) :
    Action.on (do
      let i ← ExceptT.mk (pure c.check)
      let classifier ← o.classifier?
      k i classifier) s =
      match c.check with
      | .error e => (.error e, s)
      | .ok i =>
        match o.classifier?.on s with
        | (.error e, s') => (.error e, s')
        | (.ok classifier, s') => (k i classifier).on s' := by
  rw [on_bind, on_lift]
  cases c.check with
  | error e => rfl
  | ok i =>
    dsimp only
    rw [on_bind]
    rcases o.classifier?.on s with ⟨_ | _, s'⟩ <;> rfl

/-- **Classifying** names a series once the classifier is there. -/
theorem classify_on (o : Observer) (c : Call) (s : State) :
    (o.classify c).on s =
      match c.check with
      | .error e => (.error e, s)
      | .ok i =>
        match o.classifier?.on s with
        | (.error e, s') => (.error e, s')
        | (.ok classifier, s') => (o.series classifier c.origin c.graph i c.service).on s' :=
  o.consult_on c (fun i classifier => o.series classifier c.origin c.graph i c.service) s

/-- **Observing** counts under that series once the classifier is there. -/
theorem observe_on (o : Observer) (c : Call) (s : State) :
    (o.observe c).on s =
      match c.check with
      | .error e => (.error e, s)
      | .ok i =>
        match o.classifier?.on s with
        | (.error e, s') => (.error e, s')
        | (.ok classifier, s') => (o.record classifier c.origin c.graph i c.service).on s' :=
  o.consult_on c (fun i classifier => o.record classifier c.origin c.graph i c.service) s

end Observer

end Triage
