import Triage.Proofs.Classification.FirstMatch
import Triage.Proofs.Observer.Run

/-!
# The category that an observer reports

An observer walks twice: first for a category that was given, then, if there is none, for one that patterns
select. Both walks go equally far, so that the second one meets no fault that was given a category.

* `Taxonomy.Resolves`: the category of a walk, said of the walk alone.
* `verdict_of_isLegal`: the two walks together give that category.
* `classify_resolves`: **an observer that categorises reports the category of the walk**, and the classifier
  that it consults sees nothing but faults without a category.
-/

namespace Triage

/-- The category of a walk: the first given one, or else the first selected one, or else the unknown one. -/
inductive Taxonomy.Resolves (t : Taxonomy) (walk : List Fault) : String → Prop where
  /-- A category was given on the walk, here for the first time, whatever the taxonomy selects. -/
  | given {before after : List Fault} {f : Fault} {c : StandardCategory} (split : walk = before ++ f :: after)
      (first : ∀ p ∈ before, p.explicitCategory = .ok none) (given : f.explicitCategory = .ok (some c)) :
      Resolves t walk c.name
  /-- None was given, and the taxonomy selects one, here for the first time. -/
  | selected {before after : List Fault} {f : Fault} {s : Selection}
      (ungiven : ∀ p ∈ walk, p.explicitCategory = .ok none) (split : walk = before ++ f :: after)
      (first : ∀ p ∈ before, t.matchFault p = none) (selects : t.matchFault f = some s) :
      Resolves t walk s.category
  /-- None was given and none is selected. -/
  | unknown (ungiven : ∀ p ∈ walk, p.explicitCategory = .ok none)
      (unselected : ∀ p ∈ walk, t.matchFault p = none) : Resolves t walk StandardCategory.unknown.name

/-- The category of a walk of legal faults. -/
def Taxonomy.resolution (t : Taxonomy) (walk : List Fault) : String :=
  match walk.findSome? Fault.givenCategory? with
  | some c => c.name
  | none => ((walk.findSome? t.matchFault).map (·.category)).getD StandardCategory.unknown.name

theorem resolution_of_given {t : Taxonomy} {walk : List Fault} {c : StandardCategory}
    (h : walk.findSome? Fault.givenCategory? = some c) : t.resolution walk = c.name := by
  unfold Taxonomy.resolution
  rw [h]

theorem resolution_of_ungiven {t : Taxonomy} {walk : List Fault}
    (h : walk.findSome? Fault.givenCategory? = none) :
    t.resolution walk =
      ((walk.findSome? t.matchFault).map (·.category)).getD StandardCategory.unknown.name := by
  unfold Taxonomy.resolution
  rw [h]

/-- No category was given on a walk exactly if every fault answers that it has none. -/
theorem findSome?_given_eq_none_iff {walk : List Fault} (hw : ∀ f ∈ walk, f.IsLegal) :
    walk.findSome? Fault.givenCategory? = none ↔ ∀ f ∈ walk, f.explicitCategory = .ok none := by
  rw [List.findSome?_eq_none_iff]
  exact ⟨fun h f hf => (hw f hf).givenCategory?_eq_none_iff.1 (h f hf),
    fun h f hf => (hw f hf).givenCategory?_eq_none_iff.2 (h f hf)⟩

/-- **A walk of legal faults has exactly one category.** -/
theorem resolves_iff {t : Taxonomy} {walk : List Fault} (hw : ∀ f ∈ walk, f.IsLegal) {name : String} :
    t.Resolves walk name ↔ name = t.resolution walk := by
  constructor
  · intro h
    cases h with
    | @given before after f c split first given =>
      subst split
      have hfirst : (before ++ f :: after).findSome? Fault.givenCategory? = some c := by
        refine List.findSome?_eq_some_iff.2 ⟨before, f, after, rfl, ?_, fun p hp => ?_⟩
        · exact (hw f (by simp)).givenCategory?_eq_some_iff.2 given
        · exact (hw p (by simp [hp])).givenCategory?_eq_none_iff.2 (first p hp)
      rw [resolution_of_given hfirst]
    | @selected before after f s ungiven split first selects =>
      rw [resolution_of_ungiven ((findSome?_given_eq_none_iff hw).2 ungiven),
        List.findSome?_eq_some_iff.2 ⟨before, f, after, split, selects, first⟩]
      rfl
    | unknown ungiven unselected =>
      rw [resolution_of_ungiven ((findSome?_given_eq_none_iff hw).2 ungiven),
        List.findSome?_eq_none_iff.2 unselected]
      rfl
  · rintro rfl
    cases hg : walk.findSome? Fault.givenCategory? with
    | some c =>
      rw [resolution_of_given hg]
      obtain ⟨before, f, after, rfl, hf, hbefore⟩ := List.findSome?_eq_some_iff.1 hg
      refine .given rfl (fun p hp => ?_) ((hw f (by simp)).givenCategory?_eq_some_iff.1 hf)
      exact (hw p (by simp [hp])).givenCategory?_eq_none_iff.1 (hbefore p hp)
    | none =>
      rw [resolution_of_ungiven hg]
      have hnone := (findSome?_given_eq_none_iff hw).1 hg
      cases hs : walk.findSome? t.matchFault with
      | none => exact .unknown hnone (List.findSome?_eq_none_iff.1 hs)
      | some s =>
        obtain ⟨before, f, after, hsplit, hf, hbefore⟩ := List.findSome?_eq_some_iff.1 hs
        exact .selected hnone hsplit hbefore hf

namespace Observer

variable {o : Observer} {s : State} {t : Taxonomy}

/-- **The two walks** of an observer give the category of the walk. -/
theorem verdict_of_isLegal (o : Observer) (t : Taxonomy) {g : FaultGraph} (hg : g.IsLegal) (i : Nat) :
    ∃ v, o.verdict (some (o.classifierOf t)) g i = .ok v ∧
      v.category = t.resolution (g.walkFaults i o.depthLimit) := by
  have hw := hg.walkFaults i o.depthLimit
  unfold verdict
  rw [findExplicit_eq hw]
  cases hgiven : (g.walkFaults i o.depthLimit).findSome? Fault.givenCategory? with
  | some c => exact ⟨_, rfl, (resolution_of_given hgiven).symm⟩
  | none =>
    -- the classifier walks as far as the observer, so it meets no category either
    have hnone := (findSome?_given_eq_none_iff hw).1 hgiven
    have hverdict := Taxonomy.firstVerdict_of_ungiven (t := t) hnone
    show ∃ v, (t.firstVerdict (g.walkFaults i o.depthLimit)).map _ = .ok v ∧ _
    rw [hverdict, resolution_of_ungiven hgiven]
    cases (g.walkFaults i o.depthLimit).findSome? t.matchFault with
    | none => exact ⟨_, rfl, rfl⟩
    | some x => exact ⟨_, rfl, rfl⟩

/-- The taxonomy that the observer has, or that its next attempt to load one will give. -/
def State.Offers (s : State) (t : Taxonomy) : Prop :=
  match s.stage with
  | .ready cl => cl.taxonomy = t
  | .untried loader => ∃ lines, loader s.attempts = .ok (t, lines)
  | .failed _ => False

/-- A reachable observer prepares the classifier of the taxonomy that it offers. -/
theorem prepare_of_offers (hr : Reachable o s) (ht : s.Offers t) :
    ∃ s', o.prepare.on s = (.ok (o.classifierOf t), s') := by
  unfold State.Offers at ht
  cases hs : s.stage with
  | ready cl =>
    rw [hs] at ht
    obtain rfl : cl.taxonomy = t := ht
    exact ⟨s, by rw [prepare_of_ready hs, ← hr.classifier_eq hs]⟩
  | untried loader =>
    rw [hs] at ht
    obtain ⟨lines, hl⟩ := ht
    exact ⟨_, by rw [prepare_of_untried hs, hl]⟩
  | failed e =>
    rw [hs] at ht
    cases ht

/-- A call with a fault is proper if its origin has a name. -/
theorem check_of_source {c : Call} {i : Nat} {source : String} (hi : c.subject = .fault i)
    (hs : c.origin.source = .ok source) : c.check = .ok i := by
  refine check_eq_ok_iff.2 ⟨?_, hi⟩
  unfold Call.isProper
  rw [hi]
  cases ho : c.origin with
  | absent => rw [ho] at hs; cases hs
  | _ => rfl

/-- What an observer that categorises answers to a proper call. -/
theorem classify_on_offers (hr : Reachable o s) (he : o.categorises = true) (ht : s.Offers t) {c : Call}
    {i : Nat} (hc : c.check = .ok i) :
    ((o.classify c).on s).1 = o.seriesOf (some (o.classifierOf t)) c.origin c.graph i c.service := by
  obtain ⟨s', hp⟩ := prepare_of_offers hr ht
  rw [classify_on, hc, classifier?_of_enabled he, hp]
  show ((o.series (some (o.classifierOf t)) c.origin c.graph i c.service).on s').1 = _
  rw [series_on]

/-- **An observer that categorises reports the category of the walk**, in every state that it can be in while
it has a taxonomy or can load one. It does so whenever origin and service are fit to be counted. The
classifier that it consults looks no further than the observer did, so that in it a given category never
decides: it is consulted only if none was given to any fault that it will see. -/
theorem classify_resolves (hr : Reachable o s) (he : o.categorises = true) (ht : s.Offers t) {c : Call}
    {i : Nat} (hi : c.subject = .fault i) (hg : c.graph.IsLegal) :
    ∃ category,
      (∀ name, t.Resolves (c.graph.walkFaults i o.depthLimit) name ↔ name = category) ∧
      (∀ source service, c.origin.source = .ok source → checkService c.service = .ok service →
        ∃ label, ((o.classify c).on s).1 = .ok ⟨label, category, source, service⟩) ∧
      (∀ u, ((o.classify c).on s).1 = .ok u → u.category = category) ∧
      ∀ cl, (o.prepare.on s).1 = .ok cl → cl.taxonomy = t ∧
        (findExplicit (c.graph.walkFaults i o.depthLimit) = .ok none →
          ∀ f ∈ c.graph.walkFaults i cl.depthLimit, f.explicitCategory = .ok none) := by
  have hw := hg.walkFaults i o.depthLimit
  obtain ⟨v, hv, hcategory⟩ := verdict_of_isLegal o t hg i
  refine ⟨v.category, fun name => ?_, fun source service hsource hservice => ?_, fun u hu => ?_,
    fun cl hcl => ?_⟩
  · rw [hcategory]
    exact resolves_iff hw
  · rw [classify_on_offers hr he ht (check_of_source hi hsource)]
    exact ⟨_, seriesOf_eq_ok_iff.2 ⟨source, v, service, hsource, hv, hservice, rfl⟩⟩
  · cases hc : c.check with
    | error e =>
      rw [classify_on, hc] at hu
      cases hu
    | ok j =>
      obtain rfl : i = j := by
        have := (check_eq_ok_iff.1 hc).2
        rw [hi] at this
        exact Subject.fault.inj this
      rw [classify_on_offers hr he ht hc] at hu
      obtain ⟨source, v', name, -, hv', -, rfl⟩ := seriesOf_eq_ok_iff.1 hu
      rw [hv] at hv'
      cases hv'
      rfl
  · obtain ⟨s', hp⟩ := prepare_of_offers hr ht
    rw [hp] at hcl
    obtain rfl : o.classifierOf t = cl := Except.ok.inj hcl
    refine ⟨rfl, fun hnone => ?_⟩
    rw [findExplicit_eq hw] at hnone
    exact (findSome?_given_eq_none_iff hw).1 (Except.ok.inj hnone)

/-- The first state of an observer that classifies with two rivals. -/
def State.rivals : State :=
  ⟨.ready (standard.classifierOf .rivals), 0, ⟨.kept, "errors_total", "", .empty⟩, .empty⟩

/-- A fault with a boom, caused by one that was given a category and that it has itself caused. -/
def givenBehind : FaultGraph where
  faults :=
    #[{ Fault.plain (.derive "ValueError" .exception) [.text "a boom"] with cause := some 1 },
      { Fault.plain .engineError [] with category := some (.checked .internalServer), cause := some 0 }]

/-- The category that was given to the cause beats the one that the taxonomy selects for the fault itself. -/
theorem classify_resolves_givenBehind :
    givenBehind.IsLegal ∧ (givenBehind.faults[0]?.bind Taxonomy.rivals.matchFault).isSome = true ∧
      ∃ label, ((standard.classify ⟨.callSite .unrecognised, givenBehind, .fault 0, .null⟩).on .rivals).1 =
        .ok ⟨label, "InternalServerError", "Unrecognised", "N/A"⟩ := by
  have hg : givenBehind.IsLegal := by decide +kernel
  have hstart : make ⟨.kept, "errors_total", "", .empty⟩ .empty (some .rivals) none 5 true =
      .ok (standard, .rivals) := rfl
  obtain ⟨category, hresolves, hreturns, -, -⟩ :=
    classify_resolves (t := .rivals) (c := ⟨.callSite .unrecognised, givenBehind, .fault 0, .null⟩)
      (.start hstart) rfl rfl rfl hg
  have hcategory : "InternalServerError" = category := by
    have hsplit : givenBehind.walkFaults 0 standard.depthLimit =
        [givenBehind.faults[0]] ++ givenBehind.faults[1] :: [] := rfl
    refine (hresolves _).1 (.given (c := .internalServer) hsplit ?_ rfl)
    intro p hp
    rw [List.mem_singleton.1 hp]
    rfl
  subst hcategory
  exact ⟨hg, by decide +kernel, hreturns _ _ rfl rfl⟩

end Observer

end Triage
