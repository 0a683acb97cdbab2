import Triage.Proofs.Fault.NormalLabel
import Triage.Proofs.Observer.Order

/-!
# Labels that are labelled again

Whoever takes a label from a series that was counted, and puts it in the form of a label once more, counts under the same
series. That is so for all that an observer counts, since it gives labels in normal form only.

* `Series.relabelled`: the series under the label of its label; `Series.relabelled_eq_self_iff`.
* `Tally.series`, `Counter.series_counting_cases`: the series that were counted, and the one that may come to them.
* `Counter.IsLabelled`: all of them have labels in normal form; `isLabelled_step`, `isLabelled_after`: **one request, and a
  whole run, keeps it so**.
* `relabelling_adds_no_series`: **a label is a normal form**, so that relabelling adds no series.
-/

namespace Triage

/-! ## Series -/

/-- The series under the label that its label is given. -/
def Series.relabelled (u : Series) : Series := { u with label := prettyLabel u.label }

theorem Series.relabelled_eq_self_iff {u : Series} : u.relabelled = u ↔ IsLabel u.label := by
  rw [← prettyLabel_eq_self_iff]
  constructor
  · intro h
    exact congrArg Series.label h
  · intro h
    unfold relabelled
    rw [h]

/-- The series that have a sample. -/
def Tally.series (t : Tally) : List Series := t.entries.map Prod.fst

/-- **Only a new series is added** when it is counted, and it comes last. -/
theorem Tally.series_add (t : Tally) (u : Series) :
    (t.add u).series = if u ∈ t.series then t.series else t.series ++ [u] := by
  obtain ⟨es⟩ := t
  show (addTo u es).map Prod.fst = if u ∈ es.map Prod.fst then es.map Prod.fst else es.map Prod.fst ++ [u]
  induction es with
  | nil => rfl
  | cons e es ih =>
    obtain ⟨v, n⟩ := e
    by_cases hu : u = v
    · simp [addTo, hu]
    · rw [addTo, if_neg hu, List.map_cons, ih]
      by_cases hmem : u ∈ es.map Prod.fst
      · simp [hmem]
      · simp [hmem, hu]

namespace Counter

variable {c : Counter} {u : Series} {us : List Series}

theorem series_counting_cases (c : Counter) (u : Series) :
    (c.counting u).tally.series = c.tally.series ∨
      (u ∉ c.tally.series ∧ (c.counting u).tally.series = c.tally.series ++ [u]) := by
  have hadd : (c.tally.add u).series = c.tally.series ∨
      (u ∉ c.tally.series ∧ (c.tally.add u).series = c.tally.series ++ [u]) := by
    rw [Tally.series_add]
    by_cases hu : u ∈ c.tally.series
    · exact .inl (if_pos hu)
    · exact .inr ⟨hu, if_neg hu⟩
  unfold counting
  cases c.backend with
  | kept => exact hadd
  | exported => exact hadd
  | discarded => exact .inl rfl

/-- **Series that were counted before add none**, however often they are counted again. -/
theorem series_countingAll (h : us ⊆ c.tally.series) : (c.countingAll us).tally.series = c.tally.series := by
  induction us generalizing c with
  | nil => rfl
  | cons u us ih =>
    obtain ⟨hu, hus⟩ := List.cons_subset.1 h
    have hsame : (c.counting u).tally.series = c.tally.series := by
      rcases series_counting_cases c u with hsame | ⟨hnew, -⟩
      · exact hsame
      · exact absurd hu hnew
    show ((c.counting u).countingAll us).tally.series = _
    rw [ih (by rwa [hsame]), hsame]

/-- All that was counted has a label in normal form. -/
def IsLabelled (c : Counter) : Prop := ∀ u ∈ c.tally.series, IsLabel u.label

theorem IsLabelled.counting (h : c.IsLabelled) (hu : IsLabel u.label) : (c.counting u).IsLabelled := by
  rcases series_counting_cases c u with hsame | ⟨-, hnew⟩
  · unfold IsLabelled
    rwa [hsame]
  · intro v hv
    rw [hnew, List.mem_append, List.mem_singleton] at hv
    rcases hv with hv | rfl
    · exact h v hv
    · exact hu

end Counter

namespace Observer

variable {o : Observer} {s : State} {c : Call} {r : Request} {x : Recording} {u : Series}

/-- The fault that the call shows, if it shows one, is a fault of its graph. -/
def Call.IsGrounded (c : Call) : Prop := ∀ i, c.subject = .fault i → ∃ f, c.graph.fault? i = some f

/-- A failure to load is counted under a label in normal form. -/
theorem isLabel_configuration : IsLabel configurationSeries.label := prettyLabel_eq_self_iff.1 (by decide)

/-- A call is answered under a label in normal form. -/
theorem isLabel_of_named (hc : c.IsGrounded) (hu : ((o.classify c).on s).1 = .ok u) : IsLabel u.label := by
  obtain ⟨i, classifier, hcheck, hseries⟩ := exists_seriesOf_of_named hu
  obtain ⟨source, v, name, -, -, -, rfl⟩ := seriesOf_eq_ok_iff.1 hseries
  obtain ⟨f, hf⟩ := hc i (check_eq_ok_iff.1 hcheck).2
  dsimp only
  rw [FaultGraph.label_of_fault hf, Option.getD_some, Fault.label_eq_prettyLabel]
  exact isLabel_prettyLabel _

theorem isLabel_of_recording (hr : ∀ c, r = .observe c → c.IsGrounded) (hx : o.recordingOf s r = some x) :
    IsLabel x.series.label := by
  rcases recordingOf_cases hx with hfailure | ⟨c, hc, hu⟩
  · rw [hfailure]
    exact isLabel_configuration
  · exact isLabel_of_named (hr c hc) hu

/-- **One request** counts under a label in normal form, if it counts at all. -/
theorem isLabelled_step (h : s.counter.IsLabelled) (hr : ∀ c, r = .observe c → c.IsGrounded) :
    (o.step r s).2.counter.IsLabelled := by
  rw [(wrote_step o s r).counter]
  cases hx : o.recordingOf s r with
  | none => exact h
  | some x => exact h.counting (isLabel_of_recording hr hx)

/-- **A whole run** counts under labels in normal form only. -/
theorem isLabelled_after {rs : List Request} (h : s.counter.IsLabelled) (hrs : ∀ c, .observe c ∈ rs → c.IsGrounded) :
    (o.after s rs).counter.IsLabelled := by
  induction rs generalizing s with
  | nil => exact h
  | cons r rs ih =>
    have hstep : (o.step r s).2.counter.IsLabelled :=
      isLabelled_step h fun c hc => hrs c (hc ▸ List.mem_cons_self)
    exact ih hstep fun c hc => hrs c (List.mem_cons_of_mem r hc)

/-- **A label is a normal form**, so that relabelling adds no series.

* Every name is given a label that ends in `Error` and whose first letter is its own upper case.
* The texts of this form are exactly those that are given themselves; so a label that is labelled again stays as it is.
* A label depends on nothing but the name with its first letter in upper case, and that text has the same label.
* Let all that a counter has counted be under labels of this form, as it is as long as nothing was counted. After any run
  of an observer on it, with calls that show faults of their graphs, every series that was counted stays as it is when it
  is relabelled. However often such series are relabelled and counted again, none comes to them. -/
theorem relabelling_adds_no_series :
    (∀ name, IsLabel (prettyLabel name)) ∧
      (∀ text, prettyLabel text = text ↔ IsLabel text) ∧
      (∀ name, prettyLabel (prettyLabel name) = prettyLabel name) ∧
      (∀ name, prettyLabel (capitalized name) = prettyLabel name) ∧
      (∀ name name', capitalized name = capitalized name' → prettyLabel name = prettyLabel name') ∧
      ∀ (o : Observer) (s : State) (rs : List Request), s.counter.IsLabelled →
        (∀ c, .observe c ∈ rs → c.IsGrounded) → ∀ us ⊆ (o.after s rs).counter.tally.series,
          us.map Series.relabelled = us ∧
            ((o.after s rs).counter.countingAll (us.map Series.relabelled)).tally.series =
              (o.after s rs).counter.tally.series := by
  refine ⟨isLabel_prettyLabel, fun _ => prettyLabel_eq_self_iff, fun name => ?_, prettyLabel_capitalized,
    fun name name' h => ?_, fun o s rs hs hrs us hus => ?_⟩
  · exact prettyLabel_eq_self_iff.2 (isLabel_prettyLabel name)
  · rw [← prettyLabel_capitalized name, h, prettyLabel_capitalized]
  · have hlabelled := isLabelled_after (o := o) hs hrs
    have hsame : us.map Series.relabelled = us := by
      calc us.map Series.relabelled
        _ = us.map id := List.map_congr_left fun u hu => Series.relabelled_eq_self_iff.2 (hlabelled u (hus hu))
        _ = us := List.map_id us
    rw [hsame]
    exact ⟨rfl, Counter.series_countingAll hus⟩

/-- An observation for a fault of a class with the given name. -/
def observationOf (name : String) : Request :=
  .observe ⟨.callSite .unrecognised, ⟨#[Fault.ofTexts name "late" ""]⟩, .fault 0, .null⟩

/-- The observations for a class whose name begins with a ligature, and for one whose endings are stacked. -/
def ligatureRun : List Request := [observationOf "ﬁleException", observationOf "JsonExceptionError"]

/-- A ligature becomes two letters, the first of which is a capital then; both labels that are recorded stay. -/
theorem relabelling_adds_no_series_ligature :
    (capitalized "ﬁleException" = capitalized "FIleException" ∧
        prettyLabel "ﬁleException" = prettyLabel "FIleException") ∧
      State.bare.counter.IsLabelled ∧ (∀ c, .observe c ∈ ligatureRun → c.IsGrounded) ∧
      (standard.after .bare ligatureRun).counter.tally.series.map (·.label) = ["FIleError", "JsonExceptionError"] ∧
      ((standard.after .bare ligatureRun).counter.countingAll
        ((standard.after .bare ligatureRun).counter.tally.series.map Series.relabelled)).tally.series.map (·.label) =
          ["FIleError", "JsonExceptionError"] := by
  have hfirst : capitalized "ﬁleException" = capitalized "FIleException" := by decide +kernel
  have hbare : State.bare.counter.IsLabelled := nofun
  have hgrounded : ∀ c, .observe c ∈ ligatureRun → c.IsGrounded := by
    intro c hc
    simp only [ligatureRun, observationOf, List.mem_cons, List.not_mem_nil, or_false, Request.observe.injEq] at hc
    rcases hc with rfl | rfl <;> rintro _ ⟨⟩ <;> exact ⟨_, rfl⟩
  have hlabels : (standard.after .bare ligatureRun).counter.tally.series.map (·.label) =
      ["FIleError", "JsonExceptionError"] := by decide +kernel
  obtain ⟨-, -, -, -, hcongr, hruns⟩ := relabelling_adds_no_series
  obtain ⟨-, hsame⟩ := hruns standard .bare ligatureRun hbare hgrounded _ (List.Subset.refl _)
  refine ⟨⟨hfirst, hcongr _ _ hfirst⟩, hbare, hgrounded, hlabels, ?_⟩
  rw [hsame, hlabels]

end Observer

end Triage
