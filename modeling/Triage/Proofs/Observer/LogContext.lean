import Triage.Proofs.Observer.Attempt
import Triage.Proofs.Observer.Loading
import Triage.Proofs.Observer.Recording

/-!
# The context of what an observer writes

An observer works in the context of its caller, and only a recording step sets another one, which it puts back
whatever happens in between.

* `Recording`: a recording step, with the context of its series and the lines that it writes.
* `Wrote`: what was written between two states, and in which context; `Wrote.refl`, `Wrote.andThen`.
* `Observer.linesOf`, `Observer.recordingOf`: what a request writes in the context of its caller, and the recording
  step that it makes.
* `wrote_step`, `after_context`: one request, and a whole run.
* `step_keeps_context`: **every request leaves the context as it was**, and only the lines of its recording step
  are written in another one: the one of the series that it counts.
-/

namespace Triage

namespace Log

/-- Lines as the records of a context, each with its level. -/
def Context.stamp (c : Context) (lines : List (LevelName × String)) : List Record :=
  lines.map fun l => ⟨l.1.number, c.tags, l.2⟩

theorem Context.stamp_append (c : Context) (ls ms : List (LevelName × String)) :
    c.stamp (ls ++ ms) = c.stamp ls ++ c.stamp ms :=
  List.map_append

/-- Writing several records leaves everything else in a book alone. -/
theorem Book.writeAll_eq (b : Book) (level : LevelName) (messages : List String) :
    b.writeAll level messages = { b with
      records := b.records ++ b.context.stamp (messages.map fun m => (level, m)) } := by
  induction messages generalizing b with
  | nil => simp [writeAll, Context.stamp]
  | cons m ms ih =>
    show (b.write level m).writeAll level ms = _
    rw [ih]
    simp [write, Context.stamp]

end Log

namespace Observer

open Log (LevelName)

/-- A recording step: the series that is counted, and the line that tells of the fault, or the message of the fault
that showing it gives. -/
structure Recording where
  series : Series
  described : Except String String

namespace Recording

/-- The context of a recording step is the source and the service of its series. -/
def context (r : Recording) : Log.Context := ⟨r.series.source, r.series.service⟩

/-- The lines of a recording step: the one of a counter that keeps its counts, and the one of the fault if it can be
shown. -/
def lines (r : Recording) (c : Counter) : List (LevelName × String) :=
  (match c.backend with
    | .kept => [(.debug, c.incrementLine r.series)]
    | .exported | .discarded => []) ++
  match r.described with
  | .ok line => [(.error, countedLine r.series line)]
  | .error _ => []

end Recording

/-- What was written between two states: some lines in the context of the caller, and then perhaps the lines of a
recording step in the context of its series. The context is what it was, and nothing was counted but that series. -/
structure Wrote (s s' : State) (lines : List (LevelName × String)) (recording : Option Recording) : Prop where
  context : s'.book.context = s.book.context
  handouts : s'.book.handouts = s.book.handouts
  counter : s'.counter = recording.elim s.counter fun r => s.counter.counting r.series
  records : s'.book.records = s.book.records ++ s.book.context.stamp lines ++
    recording.elim [] fun r => r.context.stamp (r.lines s.counter)

variable {o : Observer} {s s₁ s₂ : State} {ls ms : List (LevelName × String)}

theorem Wrote.refl (s : State) : Wrote s s [] none :=
  ⟨rfl, rfl, rfl, by simp [Log.Context.stamp]⟩

/-- Before a recording step, lines add up. -/
theorem Wrote.andThen {recording : Option Recording} (h : Wrote s s₁ ls none) (h' : Wrote s₁ s₂ ms recording) :
    Wrote s s₂ (ls ++ ms) recording := by
  have hcounter : s₁.counter = s.counter := h.counter
  refine ⟨h'.context.trans h.context, h'.handouts.trans h.handouts, ?_, ?_⟩
  · rw [h'.counter, hcounter]
  · rw [h'.records, h.records, h.context, hcounter, Log.Context.stamp_append]
    simp

theorem wrote_write (s : State) (level : LevelName) (message : String) :
    Wrote s (s.write level message) [(level, message)] none :=
  ⟨rfl, rfl, rfl, by simp [State.write, Log.Book.write, Log.Context.stamp]⟩

theorem wrote_tell (s : State) (x : Option Selection) :
    Wrote s (s.tell x) (x.toList.map fun selection => (.debug, selection.line)) none := by
  cases x with
  | none => exact .refl s
  | some selection => exact wrote_write s _ _

/-- **A recording step** sets the context of its series and puts the other one back, also if the fault cannot be
shown. -/
theorem wrote_enter (s : State) (u : Series) (d : Except String String) :
    Wrote s (s.enter u d) [] (some ⟨u, d⟩) := by
  have hrestore := Log.restore_set s.book.context (some u.source) (some u.service)
  refine ⟨hrestore, ?_, State.enter_counter s u d, ?_⟩
  · unfold State.enter Counter.increment
    cases s.counter.backend <;> cases d <;> rfl
  · unfold State.enter Counter.increment Recording.lines
    cases s.counter.backend <;> cases d <;>
      simp [Log.Book.write, Log.Context.set, Log.Context.stamp, Recording.context]

/-! ## Loading -/

/-- What the attempt to load tells: the lines of the loader, or that it failed. -/
def State.loadingLines (s : State) : List (LevelName × String) :=
  match s.attempt? with
  | none => []
  | some (.ok (_, lines)) => lines.map fun line => (.info, line)
  | some (.error f) =>
    f.told?.toList.map fun line => (.warning, s!"Error reading exception categorisation data: {line}")

/-- The recording step of an attempt that fails and can be told of. -/
def State.failureRecording (s : State) : Option Recording :=
  match s.attempt? with
  | none | some (.ok _) => none
  | some (.error f) => f.told?.map fun _ => ⟨configurationSeries, (ConfigError.mk s.attempts f).graph.describe 0⟩

/-- A failure to load is recorded in a context of its own. -/
theorem series_of_failureRecording {r : Recording} (h : s.failureRecording = some r) :
    r.series = configurationSeries := by
  unfold State.failureRecording at h
  split at h
  · cases h
  · cases h
  · obtain ⟨line, -, rfl⟩ := Option.map_eq_some_iff.1 h
    rfl

/-- A taxonomy that was loaded is told of. -/
theorem wrote_loaded (s : State) (classifier : Classifier) (lines : List String) :
    Wrote s (s.loaded classifier lines) (lines.map fun line => (.info, line)) none := by
  have hbook : (s.loaded classifier lines).book = _ := s.book.writeAll_eq .info lines
  refine ⟨?_, ?_, rfl, ?_⟩
  · rw [hbook]
  · rw [hbook]
  · rw [hbook]
    simp

/-- A failure that was told of is recorded. -/
theorem wrote_failed (s : State) (e : ConfigError) (line : String) :
    Wrote s (s.failed e line) [(.warning, s!"Error reading exception categorisation data: {line}")]
      (some ⟨configurationSeries, e.graph.describe 0⟩) := by
  have hkept : Wrote s { s.write .warning s!"Error reading exception categorisation data: {line}" with
      stage := .failed e } [(.warning, s!"Error reading exception categorisation data: {line}")] none := by
    obtain ⟨hcontext, hhandouts, hcounter, hrecords⟩ :=
      wrote_write s .warning s!"Error reading exception categorisation data: {line}"
    exact ⟨hcontext, hhandouts, hcounter, hrecords⟩
  exact hkept.andThen (wrote_enter _ configurationSeries (e.graph.describe 0))

/-- How often loading was attempted has nothing to do with what was written. -/
theorem Wrote.ofAttempts {recording : Option Recording} {n : Nat} (h : Wrote { s with attempts := n } s₂ ls recording) :
    Wrote s s₂ ls recording :=
  ⟨h.context, h.handouts, h.counter, h.records⟩

/-- **Preparing** tells of its attempt in the context of the caller, and records its failure. -/
theorem wrote_prepare (o : Observer) (s : State) :
    Wrote s (o.prepare.on s).2 s.loadingLines s.failureRecording := by
  rw [prepare_state]
  unfold State.loadingLines State.failureRecording
  rcases s.attempt? with _ | f | ⟨t, lines⟩
  · exact .refl s
  · dsimp only
    cases f.told? with
    | none => exact .ofAttempts (n := s.attempts + 1) (.refl _)
    | some line => exact .ofAttempts (wrote_failed _ ⟨s.attempts, f⟩ line)
  · exact wrote_loaded s _ lines

/-! ## Requests -/

/-- What naming a series tells: by what the fault was selected, if patterns decided. -/
def matchLines (o : Observer) (classifier : Option Classifier) (c : Call) (i : Nat) : List (LevelName × String) :=
  (o.selectionOf classifier c.origin c.graph i).toList.map fun selection => (.debug, selection.line)

/-- What a call tells in the context of its caller: of the attempt to load, if it makes one, and by what the fault
was selected, if it comes so far. -/
def callLines (o : Observer) (s : State) (c : Call) : List (LevelName × String) :=
  match c.check with
  | .error _ => []
  | .ok i =>
    (if o.categorises then s.loadingLines else []) ++
      match (o.classifier?.on s).1 with
      | .error _ => []
      | .ok classifier => o.matchLines classifier c i

/-- What a request tells in the context of its caller. -/
def linesOf (o : Observer) (s : State) : Request → List (LevelName × String)
  | .prepare => s.loadingLines
  | .classify c | .observe c => o.callLines s c

/-- The recording step of the attempt to load that a request makes, if it fails. -/
def failureRecordingOf (o : Observer) (s : State) (r : Request) : Option Recording :=
  if o.needs r then s.failureRecording else none

/-- The recording step of a request: that of the series that an observation is answered with, or else that of a
failure to load. -/
def recordingOf (o : Observer) (s : State) (r : Request) : Option Recording :=
  match r with
  | .prepare | .classify _ => o.failureRecordingOf s r
  | .observe c =>
    match ((o.classify c).on s).1 with
    | .ok u => some ⟨u, c.described⟩
    | .error _ => o.failureRecordingOf s r

theorem series_of_failureRecordingOf {r : Request} {x : Recording} (h : o.failureRecordingOf s r = some x) :
    x.series = configurationSeries := by
  unfold failureRecordingOf at h
  split at h
  · exact series_of_failureRecording h
  · cases h

/-- **What a request counts** is a failure to load, or the series that an observation is answered with. -/
theorem recordingOf_cases {r : Request} {x : Recording} (h : o.recordingOf s r = some x) :
    x.series = configurationSeries ∨ ∃ c, r = .observe c ∧ ((o.classify c).on s).1 = .ok x.series := by
  cases r with
  | prepare => exact .inl (series_of_failureRecordingOf (r := .prepare) h)
  | classify c => exact .inl (series_of_failureRecordingOf (r := .classify c) h)
  | observe c =>
    simp only [recordingOf] at h
    cases hu : ((o.classify c).on s).1 with
    | error e =>
      rw [hu] at h
      exact .inl (series_of_failureRecordingOf h)
    | ok u =>
      rw [hu] at h
      obtain rfl := Option.some.inj h
      exact .inr ⟨c, rfl, hu⟩

/-- A call that is refused at once needs no classifier. -/
theorem needs_of_refused {c : Call} {e : Error} (h : c.check = .error e) : o.needs (.classify c) = false := by
  have hproper : c.isProper = false := by
    rw [← Bool.not_eq_true]
    intro hp
    obtain ⟨i, hi⟩ := check_of_proper hp
    cases h.symm.trans hi
  show (o.categorises && c.isProper) = false
  rw [hproper, Bool.and_false]

/-- Any other call needs it if patterns may decide. -/
theorem needs_of_check {c : Call} {i : Nat} (h : c.check = .ok i) : o.needs (.classify c) = o.categorises := by
  show (o.categorises && c.isProper) = _
  rw [(check_eq_ok_iff.1 h).1, Bool.and_true]

/-- Where the classifier was given, no failure was recorded. -/
theorem failureRecording_of_prepared {classifier : Classifier} (h : (o.prepare.on s).1 = .ok classifier) :
    s.failureRecording = none := by
  unfold State.failureRecording
  rcases ha : s.attempt? with _ | f | x
  · rfl
  · obtain ⟨loader, hs, hl⟩ := State.attempt?_eq_some_iff.1 ha
    rw [prepare_of_untried hs, hl] at h
    obtain ⟨e, he⟩ := fail_refused (α := Classifier) o s.attempts f { s with attempts := s.attempts + 1 }
    cases he.symm.trans h
  · rfl

/-- Asking for the classifier tells of the attempt that it makes, and records its failure. -/
theorem wrote_classifier? (o : Observer) (s : State) :
    Wrote s (o.classifier?.on s).2 (if o.categorises then s.loadingLines else [])
      (if o.categorises then s.failureRecording else none) := by
  cases he : o.categorises with
  | false =>
    rw [classifier?_of_disabled he]
    exact .refl s
  | true =>
    rw [classifier?_of_enabled he]
    exact wrote_prepare o s

theorem failureRecording_of_classifier? {classifier : Option Classifier}
    (h : (o.classifier?.on s).1 = .ok classifier) : (if o.categorises then s.failureRecording else none) = none := by
  cases he : o.categorises with
  | false => rfl
  | true =>
    rw [classifier?_of_enabled he] at h
    cases hp : (o.prepare.on s).1 with
    | error e =>
      rw [hp] at h
      cases h
    | ok cl => exact failureRecording_of_prepared hp

theorem wrote_series (o : Observer) (classifier : Option Classifier) (c : Call) (i : Nat) (s : State) :
    Wrote s ((o.series classifier c.origin c.graph i c.service).on s).2 (o.matchLines classifier c i) none := by
  rw [series_on]
  exact wrote_tell s _

/-- **Classifying** writes in the context of the caller, and records nothing but a failure to load. -/
theorem wrote_classify (o : Observer) (s : State) (c : Call) :
    Wrote s ((o.classify c).on s).2 (o.callLines s c) (o.failureRecordingOf s (.classify c)) := by
  rw [classify_on]
  unfold callLines failureRecordingOf
  cases hc : c.check with
  | error e =>
    rw [needs_of_refused hc]
    exact .refl s
  | ok i =>
    rw [needs_of_check hc]
    have hclassifier := wrote_classifier? o s
    have hnone (cl : Option Classifier) (h : (o.classifier?.on s).1 = .ok cl) := failureRecording_of_classifier? h
    rcases hx : o.classifier?.on s with ⟨e | cl, s'⟩
    · rw [hx] at hclassifier
      dsimp only
      rw [List.append_nil]
      exact hclassifier
    · -- with the classifier there, no failure was recorded, and naming the series may tell of a selection
      rw [hx] at hclassifier hnone
      rw [hnone cl rfl] at hclassifier ⊢
      exact hclassifier.andThen (wrote_series o cl c i s')

/-- A call that is answered with a series has recorded no failure. -/
theorem failureRecordingOf_of_named {c : Call} {u : Series} (h : ((o.classify c).on s).1 = .ok u) :
    o.failureRecordingOf s (.classify c) = none := by
  rw [classify_on] at h
  unfold failureRecordingOf
  cases hc : c.check with
  | error e =>
    rw [hc] at h
    cases h
  | ok i =>
    rw [needs_of_check hc]
    rw [hc] at h
    rcases hx : o.classifier?.on s with ⟨e | cl, s'⟩
    · rw [hx] at h
      cases h
    · have hprepared : (o.classifier?.on s).1 = .ok cl := by rw [hx]
      exact failureRecording_of_classifier? hprepared

/-- **Observing** records the series that classifying answers, or else no more than classifying does. -/
theorem wrote_observe (o : Observer) (s : State) (c : Call) :
    Wrote s ((o.observe c).on s).2 (o.callLines s c) (o.recordingOf s (.observe c)) := by
  have hclassify := wrote_classify o s c
  have hnone {u : Series} := failureRecordingOf_of_named (o := o) (s := s) (c := c) (u := u)
  rw [observe_eq]
  simp only [recordingOf]
  rcases hx : (o.classify c).on s with ⟨e | u, s'⟩
  · rw [hx] at hclassify
    exact hclassify
  · -- the series was named, so that its own recording step is the only one
    rw [hx] at hclassify hnone
    rw [hnone rfl] at hclassify
    have hrecorded := hclassify.andThen (wrote_enter s' u c.described)
    rwa [List.append_nil] at hrecorded

/-- **One request.** -/
theorem wrote_step (o : Observer) (s : State) (r : Request) :
    Wrote s (o.step r s).2 (o.linesOf s r) (o.recordingOf s r) := by
  unfold step serve
  cases r with
  | prepare =>
    rw [on_map]
    exact wrote_prepare o s
  | classify c =>
    rw [on_map]
    exact wrote_classify o s c
  | observe c =>
    rw [on_map]
    exact wrote_observe o s c

/-- **A whole run** leaves the context as it was, and only adds records. -/
theorem after_context (o : Observer) (s : State) (rs : List Request) :
    (o.after s rs).book.context = s.book.context ∧ s.book.records <+: (o.after s rs).book.records := by
  induction rs generalizing s with
  | nil => exact ⟨rfl, List.prefix_rfl⟩
  | cons r rs ih =>
    have hstep := wrote_step o s r
    obtain ⟨hcontext, hrecords⟩ := ih (o.step r s).2
    refine ⟨hcontext.trans hstep.context, List.IsPrefix.trans ?_ hrecords⟩
    rw [hstep.records, List.append_assoc]
    exact List.prefix_append _ _

/-- **Every request leaves the context as it was.** This holds in every state and context, and whether the request is
answered or refused:

* the origin and the service of the context are the ones from before;
* the records from before stay. What the attempt to load and the selection of a fault tell is written in the context
  of the caller, and then the lines of the recording step, if there is one, in the context of its series;
* the recording step is the one that counts its series, and nothing else is counted;
* a failure to load is recorded in a context of its own;
* a record shows a dash for an origin or a service that is empty.

So it goes for a whole run, too. -/
theorem step_keeps_context (o : Observer) (s : State) (r : Request) :
    (o.step r s).2.book.context = s.book.context ∧
      ((o.step r s).2.book.records = s.book.records ++ s.book.context.stamp (o.linesOf s r) ++
        (o.recordingOf s r).elim [] fun x => x.context.stamp (x.lines s.counter)) ∧
      ((o.step r s).2.counter = (o.recordingOf s r).elim s.counter fun x => s.counter.counting x.series) ∧
      (∀ x, o.failureRecordingOf s r = some x → x.context = ⟨"ErrorManagement", "N/A"⟩) ∧
      (∀ c : Log.Context, c.tags =
        ⟨if c.origin = "" then "-" else c.origin, if c.service = "" then "-" else c.service⟩) ∧
      ∀ rs, (o.after s rs).book.context = s.book.context ∧ s.book.records <+: (o.after s rs).book.records := by
  have hstep := wrote_step o s r
  refine ⟨hstep.context, hstep.records, hstep.counter, fun x hx => ?_, fun c => ?_, fun rs => after_context o s rs⟩
  · unfold failureRecordingOf at hx
    split at hx
    · unfold Recording.context
      rw [series_of_failureRecording hx]
      rfl
    · cases hx
  · simp [Log.Context.tags, Log.Context.tag, Log.Context.blank]

/-- The first state of an observer that waits for a taxonomy, in the context of a caller. -/
def State.called : State := { State.waiting with book := ⟨⟨"Caller", "worker"⟩, [], []⟩ }

/-- The attempt fails: the warning stands in the context of the caller, and the two lines that count it do not. -/
theorem step_keeps_context_emptyDocument :
    (standard.step .prepare .called).2.book.context = ⟨"Caller", "worker"⟩ ∧
      (standard.step .prepare .called).2.book.records.map (fun r => (r.level, r.tags)) =
        [(30, ⟨"Caller", "worker"⟩), (10, ⟨"ErrorManagement", "N/A"⟩), (40, ⟨"ErrorManagement", "N/A"⟩)] := by
  obtain ⟨hcontext, hrecords, -⟩ := step_keeps_context standard .called .prepare
  refine ⟨hcontext, ?_⟩
  rw [hrecords]
  decide +kernel

end Observer

end Triage
