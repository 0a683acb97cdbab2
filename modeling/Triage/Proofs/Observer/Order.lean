import Triage.Proofs.Counter.Samples
import Triage.Proofs.Observer.LogContext

/-!
# The order of observations

Observations may reach an observer in any order, and from several clients. The call that comes first makes the attempt
to load and takes another course than the rest. The samples do not tell which one it was.

* `Observer.counts`, `after_counter`: the series that a run counts.
* `Steady`: every attempt of an observer to get its classifier comes out alike; `steady_make`, `Steady.step`.
* `State.tells`: whether one of the next attempts to load fails and can be told of.
* `counts_perm`: **what a run of observations counts**: the series of each call, and such a failure once.
* `Served`: clients that share an observer and take turns.
* `samples_of_any_order`: **the samples are the same in any order of the calls**.
-/

namespace Triage

/-- The counter after counting several series, one after the other. -/
def Counter.countingAll (c : Counter) (us : List Series) : Counter := us.foldl counting c

theorem Counter.countingAll_of_discarded {c : Counter} (hc : c.backend = .discarded) (us : List Series) :
    c.countingAll us = c := by
  induction us with
  | nil => rfl
  | cons u us ih =>
    have hcounting : c.counting u = c := by
      unfold counting
      rw [hc]
    show (c.counting u).countingAll us = c
    rw [hcounting, ih]

theorem Counter.tally_countingAll {c : Counter} (hc : c.backend ≠ .discarded) (us : List Series) :
    (c.countingAll us).tally = c.tally.addAll us := by
  induction us generalizing c with
  | nil => rfl
  | cons u us ih =>
    have hcounting : (c.counting u).tally = c.tally.add u := by
      unfold counting
      cases hb : c.backend with
      | discarded => exact absurd hb hc
      | kept => rfl
      | exported => rfl
    show ((c.counting u).countingAll us).tally = (c.tally.add u).addAll us
    rw [ih (by rwa [counting_backend]), hcounting]

/-- A counter keeps one entry for each series. -/
theorem Counter.distinct_countingAll {c : Counter} (h : c.tally.Distinct) (us : List Series) :
    (c.countingAll us).tally.Distinct := by
  by_cases hc : c.backend = .discarded
  · rwa [countingAll_of_discarded hc]
  · rw [tally_countingAll hc]
    exact h.addAll us

/-- **In whatever order** series are counted, the samples are the same. -/
theorem Counter.sorted_countingAll_perm {c : Counter} (h : c.tally.Distinct) {us vs : List Series} (hp : us.Perm vs) :
    (c.countingAll us).tally.sorted = (c.countingAll vs).tally.sorted := by
  refine Tally.sorted_eq (distinct_countingAll h us) (distinct_countingAll h vs) fun u => ?_
  by_cases hc : c.backend = .discarded
  · rw [countingAll_of_discarded hc, countingAll_of_discarded hc]
  · rw [tally_countingAll hc, tally_countingAll hc]
    exact Tally.lookup_addAll_perm hp c.tally u

namespace Observer

variable {o : Observer} {s s' : State} {r : Request} {c : Call} {k : Option Classifier}

/-- The series that a run counts, one after the other. -/
def counts (o : Observer) (s : State) : List Request → List Series
  | [] => []
  | r :: rs => ((o.recordingOf s r).map (·.series)).toList ++ o.counts (o.step r s).2 rs

/-- **A run counts the series of its recording steps**, and nothing else. -/
theorem after_counter (o : Observer) (s : State) (rs : List Request) :
    (o.after s rs).counter = s.counter.countingAll (o.counts s rs) := by
  induction rs generalizing s with
  | nil => rfl
  | cons r rs ih =>
    show (o.after (o.step r s).2 rs).counter = _
    rw [ih, (wrote_step o s r).counter, counts]
    cases o.recordingOf s r <;> rfl

/-- The series of a call: the one that classifying answers, if it does. -/
def own? (o : Observer) (s : State) (c : Call) : Option Series := ((o.classify c).on s).1.toOption

/-! ## Attempts that all come out alike -/

/-- Every attempt of an observer to get its classifier comes out alike: it gets the same one each time, or none. -/
inductive Steady (o : Observer) : Option Classifier → State → Prop where
  | ready {s : State} {classifier : Classifier} (stage : s.stage = .ready classifier) : Steady o (some classifier) s
  | failed {s : State} {e : ConfigError} (stage : s.stage = .failed e) : Steady o none s
  | loads {s : State} {loader : Loader} {t : Taxonomy} (stage : s.stage = .untried loader)
      (outcome : ∀ n, ∃ lines, loader n = .ok (t, lines)) : Steady o (some (o.classifierOf t)) s
  | fails {s : State} {loader : Loader} (stage : s.stage = .untried loader)
      (outcome : ∀ n, ∃ f, loader n = .error f) : Steady o none s

/-- Only the stage matters. -/
theorem Steady.congr (h : Steady o k s) (hs : s'.stage = s.stage) : Steady o k s' := by
  cases h with
  | ready stage => exact .ready (hs.trans stage)
  | failed stage => exact .failed (hs.trans stage)
  | loads stage outcome => exact .loads (hs.trans stage) outcome
  | fails stage outcome => exact .fails (hs.trans stage) outcome

/-- An observer that was made with a taxonomy, or with a loader that always gives the same one or always fails. -/
theorem steady_make {counter : Counter} {book : Log.Book} {taxonomy : Option Taxonomy} {loader : Option Loader}
    {limit : Int} {enabled : Bool} (h : make counter book taxonomy loader limit enabled = .ok (o, s))
    (hl : ∀ l ∈ loader, taxonomy = none →
      (∃ t, ∀ n, ∃ lines, l n = .ok (t, lines)) ∨ ∀ n, ∃ f, l n = .error f) : ∃ k, Steady o k s := by
  unfold make at h
  split at h
  · cases h
  · split at h
    · rcases taxonomy with _ | t <;> rcases loader with _ | l <;> cases h
      · rcases hl l rfl rfl with ⟨t, ht⟩ | hf
        · exact ⟨_, .loads rfl ht⟩
        · exact ⟨_, .fails rfl hf⟩
      · exact ⟨_, .ready rfl⟩
      · exact ⟨_, .ready rfl⟩
    · cases h

/-- What preparing answers. -/
theorem Steady.prepare_answer (h : Steady o k s) : (o.prepare.on s).1.toOption = k := by
  cases h with
  | ready stage =>
    rw [prepare_of_ready stage]
    rfl
  | failed stage =>
    rw [prepare_of_failed stage]
    rfl
  | loads stage outcome =>
    obtain ⟨lines, hl⟩ := outcome s.attempts
    rw [prepare_of_untried stage, hl]
    rfl
  | fails stage outcome =>
    obtain ⟨f, hl⟩ := outcome s.attempts
    obtain ⟨e, he⟩ := fail_refused (α := Classifier) o s.attempts f { s with attempts := s.attempts + 1 }
    rw [prepare_of_untried stage, hl]
    dsimp only
    rw [he]
    rfl

/-- After an attempt the next one comes out alike. -/
theorem Steady.prepare (h : Steady o k s) : Steady o k (o.prepare.on s).2 := by
  cases h with
  | ready stage =>
    rw [prepare_of_ready stage]
    exact .ready stage
  | failed stage =>
    rw [prepare_of_failed stage]
    exact .failed stage
  | loads stage outcome =>
    obtain ⟨lines, hl⟩ := outcome s.attempts
    rw [prepare_of_untried stage, hl]
    exact .ready rfl
  | fails stage outcome =>
    -- a failure that can be told of is kept, and any other one leaves the loader to be asked again
    obtain ⟨f, hl⟩ := outcome s.attempts
    rw [prepare_state, State.attempt?_eq_some_iff.2 ⟨_, stage, hl⟩]
    dsimp only
    cases f.told? with
    | none => exact .fails stage outcome
    | some line => exact .failed rfl

theorem Steady.step (h : Steady o k s) (r : Request) : Steady o k (o.step r s).2 := by
  have hstage := (step_progress o r s).1
  cases hn : o.needs r with
  | false =>
    rw [hn, if_neg Bool.false_ne_true] at hstage
    exact h.congr hstage
  | true =>
    rw [hn, if_pos rfl] at hstage
    exact h.prepare.congr hstage

/-- The series of a call is up to the classifier that the observer gets. -/
theorem own?_eq (o : Observer) (s : State) (c : Call) :
    o.own? s c = c.check.toOption.bind fun i => (o.classifier?.on s).1.toOption.bind fun classifier =>
      (o.seriesOf classifier c.origin c.graph i c.service).toOption := by
  unfold own?
  rw [classify_on]
  cases c.check with
  | error e => rfl
  | ok i =>
    rcases o.classifier?.on s with ⟨e | cl, s'⟩
    · rfl
    · dsimp only
      rw [series_on]
      rfl

theorem classifier?_answer (o : Observer) (s : State) :
    (o.classifier?.on s).1.toOption = if o.categorises then (o.prepare.on s).1.toOption.map some else some none := by
  cases he : o.categorises with
  | false =>
    rw [classifier?_of_disabled he]
    rfl
  | true =>
    rw [classifier?_of_enabled he]
    cases (o.prepare.on s).1 <;> rfl

/-- **Two states in which the observer gets the same classifier** give every call the same series. -/
theorem Steady.own?_congr (h : Steady o k s) (h' : Steady o k s') (c : Call) : o.own? s' c = o.own? s c := by
  rw [own?_eq, own?_eq, classifier?_answer, classifier?_answer, h.prepare_answer, h'.prepare_answer]

/-! ## The failure that is counted -/

namespace State

/-- Whether an attempt to load would fail and could be told of, after so many others. -/
def tellsAt (s : State) (j : Nat) : Bool :=
  match s.stage with
  | .untried loader =>
    match loader (s.attempts + j) with
    | .ok _ => false
    | .error f => f.told?.isSome
  | .ready _ | .failed _ => false

/-- Whether one of so many attempts to load fails and can be told of. -/
def tells (s : State) (n : Nat) : Bool := (List.range n).any s.tellsAt

theorem tellsAt_iff {j : Nat} : s.tellsAt j = true ↔ ∃ loader f line, s.stage = .untried loader ∧
    loader (s.attempts + j) = .error f ∧ f.isCaught = true ∧ f.describe = .ok line := by
  unfold tellsAt
  cases hs : s.stage with
  | ready cl => simp
  | failed e => simp
  | untried loader =>
    cases hl : loader (s.attempts + j) with
    | ok x => simp [hl]
    | error f => simp [hl, Option.isSome_iff_exists, LoadFailure.told?_eq_some_iff]

theorem tells_iff {n : Nat} : s.tells n = true ↔ ∃ j < n, s.tellsAt j = true := by
  simp [tells]

theorem tells_congr (hs : s'.stage = s.stage) (ha : s'.attempts = s.attempts) (n : Nat) : s'.tells n = s.tells n := by
  have h : s'.tellsAt = s.tellsAt := by
    funext j
    unfold tellsAt
    rw [hs, ha]
  unfold tells
  rw [h]

/-- Where the matter is settled, no attempt fails any more. -/
theorem tells_of_settled (h : ∀ loader, s.stage ≠ .untried loader) (n : Nat) : s.tells n = false := by
  rw [Bool.eq_false_iff, Ne, tells_iff]
  rintro ⟨j, -, hj⟩
  obtain ⟨loader, _, _, hs, -⟩ := tellsAt_iff.1 hj
  exact h loader hs

theorem failureRecording_series (s : State) :
    s.failureRecording.map (·.series) = if s.tellsAt 0 then some configurationSeries else none := by
  cases hs : s.stage with
  | ready cl => simp [failureRecording, attempt?, tellsAt, hs]
  | failed e => simp [failureRecording, attempt?, tellsAt, hs]
  | untried loader =>
    cases hl : loader s.attempts with
    | ok x => simp [failureRecording, attempt?, tellsAt, hs, hl]
    | error f => cases hf : f.told? <;> simp [failureRecording, attempt?, tellsAt, hs, hl, hf]

end State

/-- Once a failure was told of, no other one is. -/
theorem tells_prepare_of_first (h : s.tellsAt 0 = true) (n : Nat) : (o.prepare.on s).2.tells n = false := by
  obtain ⟨loader, f, line, hs, hl, hf, hline⟩ := State.tellsAt_iff.1 h
  rw [prepare_state, State.attempt?_eq_some_iff.2 ⟨loader, hs, hl⟩]
  dsimp only
  rw [LoadFailure.told?_eq_some_iff.2 ⟨hf, hline⟩]
  exact State.tells_of_settled (fun _ hs => Stage.noConfusion hs) n

/-- Before that, an attempt leaves the others to be made. -/
theorem Steady.tells_prepare (h : Steady o k s) (hfirst : s.tellsAt 0 = false) (n : Nat) :
    (o.prepare.on s).2.tells n = s.tells (n + 1) := by
  have hsucc : s.tells (n + 1) = (List.range n).any fun j => s.tellsAt (j + 1) := by
    unfold State.tells
    rw [List.range_succ_eq_map, List.any_cons, hfirst, Bool.false_or, List.any_map]
    rfl
  cases h with
  | ready stage =>
    rw [prepare_of_ready stage, State.tells_of_settled (by simp [stage]), State.tells_of_settled (by simp [stage])]
  | failed stage =>
    rw [prepare_of_failed stage, State.tells_of_settled (by simp [stage]), State.tells_of_settled (by simp [stage])]
  | loads stage outcome =>
    -- no attempt of this loader fails, neither now nor later
    have hnever : ∀ j, s.tellsAt j = false := by
      intro j
      obtain ⟨lines, hl⟩ := outcome (s.attempts + j)
      unfold State.tellsAt
      simp only [stage, hl]
    obtain ⟨lines, hl⟩ := outcome s.attempts
    rw [prepare_of_untried stage, hl, hsucc, State.tells_of_settled (by simp [State.loaded])]
    simp [hnever]
  | fails stage outcome =>
    -- the attempt fails and leaves no trace but its number
    obtain ⟨f, hl⟩ := outcome s.attempts
    have htold : f.told? = none := by
      unfold State.tellsAt at hfirst
      simp only [stage, Nat.add_zero, hl] at hfirst
      simpa using hfirst
    rw [prepare_state, State.attempt?_eq_some_iff.2 ⟨_, stage, hl⟩]
    dsimp only
    rw [htold, hsucc]
    unfold State.tells State.tellsAt
    simp only [Option.elim_none, stage, Nat.add_right_comm, Nat.add_assoc]

/-- A request that meets such a failure leaves none to be told of. -/
theorem tells_step_of_failing (h : (o.needs r && s.tellsAt 0) = true) (n : Nat) : (o.step r s).2.tells n = false := by
  obtain ⟨hn, hfirst⟩ := Bool.and_eq_true_iff.1 h
  obtain ⟨hstage, hattempts⟩ := step_progress o r s
  rw [State.tells_congr hstage hattempts, hn, if_pos rfl]
  exact tells_prepare_of_first hfirst n

/-- Any other request leaves all of them, but for the attempt that it makes itself. -/
theorem Steady.tells_step (h : Steady o k s) (hr : (o.needs r && s.tellsAt 0) = false) (n : Nat) :
    (o.step r s).2.tells n = s.tells (n + if o.needs r then 1 else 0) := by
  obtain ⟨hstage, hattempts⟩ := step_progress o r s
  rw [State.tells_congr hstage hattempts]
  cases hn : o.needs r with
  | false => rfl
  | true =>
    rw [hn, Bool.true_and] at hr
    exact h.tells_prepare hr n

/-! ## What is counted -/

/-- **An observation counts the series of its call**, or else a failure to load that it meets and that can be told
of. -/
theorem recordingOf_observe_series (o : Observer) (s : State) (c : Call) :
    (o.recordingOf s (.observe c)).map (·.series) =
      (o.own? s c).or (if o.needs (.observe c) && s.tellsAt 0 then some configurationSeries else none) := by
  have hfailure : (o.failureRecordingOf s (.observe c)).map (·.series) =
      if o.needs (.observe c) && s.tellsAt 0 then some configurationSeries else none := by
    unfold failureRecordingOf
    cases o.needs (.observe c) with
    | false => rfl
    | true => exact s.failureRecording_series
  unfold own? recordingOf
  dsimp only
  cases ((o.classify c).on s).1 with
  | ok u => rfl
  | error e => exact hfailure

/-- A call that meets such a failure is answered with no series. -/
theorem own?_of_failing (h : (o.needs (.observe c) && s.tellsAt 0) = true) : o.own? s c = none := by
  obtain ⟨hn, hfirst⟩ := Bool.and_eq_true_iff.1 h
  unfold own?
  cases hu : ((o.classify c).on s).1 with
  | error e => rfl
  | ok u =>
    have hnone := failureRecordingOf_of_named hu
    unfold failureRecordingOf at hnone
    rw [if_pos (show o.needs (.classify c) = true from hn)] at hnone
    have hseries := s.failureRecording_series
    rw [hnone, hfirst] at hseries
    cases hseries

/-- **What a run of observations counts**: the series of each call that has one, and once a failure to load, if one
of the calls meets a failure that can be told of. -/
theorem counts_perm (h : Steady o k s) (cs : List Call) :
    (o.counts s (cs.map .observe)).Perm (cs.filterMap (o.own? s) ++
      if s.tells (cs.countP fun c => o.needs (.observe c)) then [configurationSeries] else []) := by
  induction cs generalizing s with
  | nil => exact .refl _
  | cons c cs ih =>
    have hrest := ih (h.step (.observe c))
    have hown : o.own? (o.step (.observe c) s).2 = o.own? s := funext (h.own?_congr (h.step _))
    rw [hown] at hrest
    rw [List.map_cons, counts, recordingOf_observe_series, List.countP_cons]
    cases hc : o.needs (.observe c) && s.tellsAt 0 with
    | true =>
      -- the call counts the failure in place of a series, so that the rest counts no failure
      have hn : o.needs (.observe c) = true := (Bool.and_eq_true_iff.1 hc).1
      have htells : s.tells (cs.countP (fun c => o.needs (.observe c)) + 1) = true :=
        State.tells_iff.2 ⟨0, by omega, (Bool.and_eq_true_iff.1 hc).2⟩
      rw [tells_step_of_failing hc] at hrest
      have hlast := (hrest.cons configurationSeries).trans (List.perm_append_singleton _ _).symm
      simpa [own?_of_failing hc, hn, htells] using hlast
    | false =>
      -- the call counts its own series, if it has one, and leaves the failure to the rest
      rw [h.tells_step hc] at hrest
      cases hu : o.own? s c with
      | none => simpa [hu] using hrest
      | some u => simpa [hu] using hrest.cons u

/-- **By how much a series grows.** -/
theorem count_after (h : Steady o k s) (hb : s.counter.backend ≠ .discarded) (cs : List Call) (u : Series) :
    (o.after s (cs.map .observe)).counter.tally.count u =
      s.counter.tally.count u + cs.countP (fun c => o.own? s c = some u) +
        if u = configurationSeries ∧ s.tells (cs.countP fun c => o.needs (.observe c)) then 1 else 0 := by
  have hown : (cs.filterMap (o.own? s)).count u = cs.countP fun c => o.own? s c = some u := by
    rw [List.count_filterMap]
    exact List.countP_congr fun c _ => by simp
  rw [after_counter, Counter.tally_countingAll hb, Tally.count_addAll, (counts_perm h cs).count_eq, List.count_append,
    hown, ← Nat.add_assoc]
  congr 1
  cases s.tells (cs.countP fun c => o.needs (.observe c)) with
  | false => simp
  | true =>
    by_cases hu : u = configurationSeries
    · simp [hu]
    · simp [hu, List.count_eq_zero_of_not_mem]

/-! ## Clients -/

/-- Several clients share an observer, each with some calls to make in their order. They take turns in whatever way,
one call at a time, until all calls are made. -/
inductive Served (o : Observer) : State → List (List Call) → State → Prop where
  | done {s : State} {clients : List (List Call)} (idle : ∀ calls ∈ clients, calls = []) : Served o s clients s
  | turn {s s' : State} {before after : List (List Call)} {c : Call} {calls : List Call}
      (rest : Served o (o.step (.observe c) s).2 (before ++ calls :: after) s') :
      Served o s (before ++ (c :: calls) :: after) s'

/-- However the clients take turns, their calls make one run. -/
theorem Served.exists_run {clients : List (List Call)} (h : Served o s clients s') :
    ∃ cs : List Call, cs.Perm clients.flatten ∧ s' = o.after s (cs.map .observe) := by
  induction h with
  | done idle => exact ⟨[], by rw [List.flatten_eq_nil_iff.2 idle], rfl⟩
  | @turn s s' before after c calls _ ih =>
    obtain ⟨cs, hperm, hafter⟩ := ih
    refine ⟨c :: cs, (hperm.cons c).trans ?_, hafter⟩
    simp only [List.flatten_append, List.flatten_cons, List.cons_append]
    exact List.perm_middle.symm

/-- **The samples are the same in any order of the calls.** Take an observer whose attempts to get its classifier all
come out alike, in whatever state, and any observations:

* made in another order they leave the same samples;
* so they do if several clients share them out, each with its own, and take turns in whatever way;
* each series has grown by the number of calls that classifying answers with it, and the one of a failure to load by
  one more if a call meets such a failure and it can be told of;
* the calls that need the classifier meet a failure that can be told of exactly if one of that many attempts gives
  one; so if every failure of the loader is one that can be shown, then as soon as there is such a call.

The counter keeps one entry for each series. -/
theorem samples_of_any_order (h : Steady o k s) (hd : s.counter.tally.Distinct) (cs : List Call) :
    (∀ ds : List Call, ds.Perm cs → (o.after s (ds.map .observe)).counter.tally.sorted =
        (o.after s (cs.map .observe)).counter.tally.sorted) ∧
      (∀ clients s', Served o s clients s' → clients.flatten.Perm cs →
        s'.counter.tally.sorted = (o.after s (cs.map .observe)).counter.tally.sorted) ∧
      (s.counter.backend ≠ .discarded → ∀ u, (o.after s (cs.map .observe)).counter.tally.count u =
        s.counter.tally.count u + cs.countP (fun c => o.own? s c = some u) +
          if u = configurationSeries ∧ s.tells (cs.countP fun c => o.needs (.observe c)) then 1 else 0) ∧
      (∀ n, s.tells n = true ↔ ∃ loader j f line, s.stage = .untried loader ∧ j < n ∧
        loader (s.attempts + j) = .error f ∧ f.isCaught = true ∧ f.describe = .ok line) ∧
      (∀ loader, s.stage = .untried loader → (∀ n, ∃ f, loader n = .error f ∧ f.IsShowable) →
        ∀ n, s.tells n = true ↔ 0 < n) ∧
      (o.after s (cs.map .observe)).counter.tally.Distinct := by
  have horder : ∀ ds : List Call, ds.Perm cs → (o.after s (ds.map .observe)).counter.tally.sorted =
      (o.after s (cs.map .observe)).counter.tally.sorted := by
    intro ds hds
    rw [after_counter, after_counter]
    refine Counter.sorted_countingAll_perm hd ((counts_perm h ds).trans (.trans ?_ (counts_perm h cs).symm))
    rw [hds.countP_eq]
    exact (hds.filterMap _).append_right _
  refine ⟨horder, fun clients s' hserved hcalls => ?_, fun hb u => ?_, fun n => ?_, fun loader hs hl n => ?_, ?_⟩
  · obtain ⟨ds, hds, rfl⟩ := hserved.exists_run
    exact horder ds (hds.trans hcalls)
  · exact count_after h hb cs u
  · rw [State.tells_iff]
    simp only [State.tellsAt_iff]
    exact ⟨fun ⟨j, hj, loader, f, line, hs, hf⟩ => ⟨loader, j, f, line, hs, hj, hf⟩,
      fun ⟨loader, j, f, line, hs, hj, hf⟩ => ⟨j, hj, loader, f, line, hs, hf⟩⟩
  · rw [State.tells_iff]
    refine ⟨fun ⟨j, hj, _⟩ => by omega, fun hn => ⟨0, hn, State.tellsAt_iff.2 ?_⟩⟩
    obtain ⟨f, hf, hshowable⟩ := hl (s.attempts + 0)
    obtain ⟨line, hline⟩ := hshowable.describe_eq_ok
    exact ⟨loader, f, line, hs, hf, hshowable.caught, hline⟩
  · rw [after_counter]
    exact Counter.distinct_countingAll hd _

/-- A loader whose failure has a cause that breaks when it is shown. -/
def muteCause : Loader := fun _ => .error (.fault ⟨
  #[{ Fault.ofTexts "ValueError" "bad data" "ValueError('bad data')" with cause := some 1 },
    { Fault.ofTexts "BrokenRepr" "" "" with shown := .broken "broken repr" }]⟩)

/-- The first state of an observer that waits for it. -/
def State.muted : State := ⟨.untried muteCause, 0, ⟨.kept, "errors_total", "", .empty⟩, .empty⟩

/-- A call with a fault that can be shown. -/
def plainCall : Call := ⟨.callSite .unrecognised, ⟨#[Fault.ofTexts "ValueError" "late" ""]⟩, .fault 0, .null⟩

/-- Two calls meet an empty document: whichever comes first, the failure is counted once. A failure whose cause cannot be
shown is met by both and counted by neither. -/
theorem samples_of_any_order_muteCause :
    (standard.after .waiting ([muteCall, plainCall].map .observe)).counter.tally.sorted =
        (standard.after .waiting ([plainCall, muteCall].map .observe)).counter.tally.sorted ∧
      (standard.after .waiting ([plainCall, muteCall].map .observe)).counter.tally.count configurationSeries = 1 ∧
      make ⟨.kept, "errors_total", "", .empty⟩ .empty none (some muteCause) 5 true = .ok (standard, .muted) ∧
      ((standard.observe plainCall).on .muted).1 = .error (.unprintable "broken repr") ∧
      (standard.after .muted ([plainCall, muteCall].map .observe)).counter.tally.count configurationSeries = 0 := by
  obtain ⟨_, hwaiting⟩ : ∃ k, Steady standard k .waiting :=
    steady_make (show make ⟨.kept, "errors_total", "", .empty⟩ .empty none (some emptyDocument) 5 true = _ from rfl)
      (by rintro _ ⟨⟩ -; exact .inr fun _ => ⟨_, rfl⟩)
  obtain ⟨_, hmuted⟩ : ∃ k, Steady standard k .muted :=
    steady_make (show make ⟨.kept, "errors_total", "", .empty⟩ .empty none (some muteCause) 5 true = _ from rfl)
      (by rintro _ ⟨⟩ -; exact .inr fun _ => ⟨_, rfl⟩)
  obtain ⟨horder, -, hcount, -⟩ := samples_of_any_order hwaiting Tally.distinct_empty [plainCall, muteCall]
  obtain ⟨-, -, hmute, -⟩ := samples_of_any_order hmuted Tally.distinct_empty [plainCall, muteCall]
  refine ⟨horder _ (.swap _ _ _), ?_, rfl, rfl, ?_⟩
  · rw [hcount (by decide)]
    decide +kernel
  · rw [hmute (by decide)]
    decide +kernel

end Observer

end Triage
