import Triage.Proofs.Fault.Walk
import Triage.Proofs.Observer.Answer

/-!
# Looking further

With a larger limit a walk goes on behind its end. What a classifier has found stays, since it takes what comes first.
An observer prefers a category that was given, wherever it stands, so that one that was out of reach may take the place
of a selected one.

* `FaultGraph.GivenAt`: a category was given to the fault at some place of a walk.
* `Taxonomy.classify_append`, `Taxonomy.resolution_append`: what a longer walk does to the category of a walk.
* `deeper_keeps_found`: **what was found is kept**, but for a given category that comes within reach.
-/

namespace Triage

namespace FaultGraph

variable {g : FaultGraph} {i : Nat} {limit limit' : Int}

/-- A category was given to the fault at a place of the walk. -/
def GivenAt (g : FaultGraph) (i : Nat) (limit : Int) (place : Nat) (c : StandardCategory) : Prop :=
  ∃ j f, (g.walk i limit)[place]? = some j ∧ g.fault? j = some f ∧ f.explicitCategory = .ok (some c)

/-- The faults that a larger limit brings within reach stand at the places from the smaller limit on. -/
theorem walkFaults_extends (g : FaultGraph) (i : Nat) (h : 1 ≤ limit) (hle : limit ≤ limit') :
    ∃ further, g.walkFaults i limit' = g.walkFaults i limit ++ further ∧
      ∀ f ∈ further, ∀ c, f.explicitCategory = .ok (some c) →
        ∃ place : Nat, limit ≤ place ∧ place < limit' ∧ g.GivenAt i limit' place c := by
  obtain ⟨rest, hrest, hlimit⟩ := g.walk_extends i hle
  refine ⟨rest.filterMap g.fault?, ?_, fun f hf c hc => ?_⟩
  · unfold walkFaults
    rw [hrest, List.filterMap_append]
  · obtain ⟨j, hj, hfault⟩ := List.mem_filterMap.1 hf
    obtain ⟨n, hn, rfl⟩ := List.mem_iff_getElem.1 hj
    have hlength := hlimit (List.ne_nil_of_mem hj)
    have hbound := g.walk_length_le i limit'
    rw [hrest, List.length_append] at hbound
    refine ⟨(g.walk i limit).length + n, by omega, by omega, rest[n], f, ?_, hfault, hc⟩
    rw [hrest, List.getElem?_append_right (by omega), Nat.add_sub_cancel_left, List.getElem?_eq_getElem hn]

end FaultGraph

namespace Taxonomy

variable {t : Taxonomy} {walk further : List Fault}

/-- **What a classifier finds on a walk, it finds on every longer one.** -/
theorem classify_append (hlegal : ∀ f ∈ walk ++ further, f.IsLegal) (hfound : ∃ f ∈ walk, t.Decides f) :
    ∃ v, t.classify walk = .ok v ∧ t.classify (walk ++ further) = .ok v := by
  have hwalk : ∀ f ∈ walk, f.IsLegal := fun f hf => hlegal f (List.mem_append_left _ hf)
  obtain ⟨f, hf, hdecides⟩ := hfound
  have hne : walk.findSome? t.verdict? ≠ none := by
    intro hnone
    exact (verdict?_eq_none_iff_not_decides (hwalk f hf)).1 (List.findSome?_eq_none_iff.1 hnone f hf) hdecides
  obtain ⟨v, hv⟩ := Option.ne_none_iff_exists'.1 hne
  have hlonger : (walk ++ further).findSome? t.verdict? = some v := by
    rw [List.findSome?_append, hv, Option.some_or]
  refine ⟨v, ?_, ?_⟩
  · unfold Taxonomy.classify
    rw [firstVerdict_eq hwalk, hv]
    rfl
  · unfold Taxonomy.classify
    rw [firstVerdict_eq hlegal, hlonger]
    rfl

/-- Where the taxonomy selects a fault of a walk, **a longer walk has the same category**, unless one was given to a fault
of the walk or to one of those that come after it. -/
theorem resolution_append {x : Selection} (hgiven : walk.findSome? Fault.givenCategory? = none)
    (hselected : walk.findSome? t.matchFault = some x) (further : List Fault) :
    t.resolution (walk ++ further) = x.category ∨
      ∃ f ∈ further, ∃ c, f.givenCategory? = some c ∧ t.resolution (walk ++ further) = c.name := by
  cases hfurther : further.findSome? Fault.givenCategory? with
  | none =>
    refine .inl ?_
    rw [resolution_of_ungiven (by rw [List.findSome?_append, hgiven, hfurther]; rfl), List.findSome?_append, hselected]
    rfl
  | some c =>
    obtain ⟨before, f, after, hsplit, hf, -⟩ := List.findSome?_eq_some_iff.1 hfurther
    refine .inr ⟨f, by rw [hsplit]; simp, c, hf, ?_⟩
    exact resolution_of_given (by rw [List.findSome?_append, hgiven, hfurther]; rfl)

end Taxonomy

/-- **A classifier with a larger limit** keeps what it has found. -/
theorem Classifier.classify_deeper {t : Taxonomy} {g : FaultGraph} {i : Nat} {limit limit' : Int} (hg : g.IsLegal)
    (h : 1 ≤ limit) (h' : 1 ≤ limit') (hle : limit ≤ limit') (hfound : ∃ f ∈ g.walkFaults i limit, t.Decides f) :
    ∃ v, (Classifier.mk t limit h).classify g i = .ok v ∧ (Classifier.mk t limit' h').classify g i = .ok v := by
  obtain ⟨further, hfurther, -⟩ := g.walkFaults_extends i h hle
  have hlegal := hg.walkFaults i limit'
  rw [hfurther] at hlegal
  unfold Classifier.classify
  rw [hfurther]
  exact Taxonomy.classify_append hlegal hfound

namespace Observer

variable {o o' : Observer} {s s' : State} {t : Taxonomy} {c : Call} {i : Nat}

/-- **An observer with a larger limit** keeps a category that was given. -/
theorem classify_deeper_of_given (hr : Reachable o s) (ht : s.Offers t) (hr' : Reachable o' s') (ht' : s'.Offers t)
    (hle : o.depthLimit ≤ o'.depthLimit) (hi : c.subject = .fault i) (hg : c.graph.IsLegal) {k : StandardCategory}
    (hgiven : findExplicit (c.graph.walkFaults i o.depthLimit) = .ok (some k)) :
    ((o.classify c).on s).1 = c.answer k.name ∧ ((o'.classify c).on s').1 = c.answer k.name := by
  have hgiven' : findExplicit (c.graph.walkFaults i o'.depthLimit) = .ok (some k) := by
    obtain ⟨further, hfurther, -⟩ := c.graph.walkFaults_extends i o.one_le hle
    rw [findExplicit_eq (hg.walkFaults i o.depthLimit)] at hgiven
    rw [findExplicit_eq (hg.walkFaults i o'.depthLimit), hfurther, List.findSome?_append, Except.ok.inj hgiven,
      Option.some_or]
  exact ⟨classify_on_verdict (classifier?_of_offers hr ht) hi (verdict_of_given hgiven _),
    classify_on_verdict (classifier?_of_offers hr' ht') hi (verdict_of_given hgiven' _)⟩

/-- **An observer with a larger limit** keeps a selected category, unless it comes to a given one behind the smaller
limit. -/
theorem classify_deeper_of_selected (hr : Reachable o s) (ht : s.Offers t) (hr' : Reachable o' s') (ht' : s'.Offers t)
    (he : o.categorises = true) (he' : o'.categorises = true) (hle : o.depthLimit ≤ o'.depthLimit)
    (hi : c.subject = .fault i) (hg : c.graph.IsLegal)
    (hungiven : findExplicit (c.graph.walkFaults i o.depthLimit) = .ok none) {x : Selection}
    (hselected : (c.graph.walkFaults i o.depthLimit).findSome? t.matchFault = some x) :
    ((o.classify c).on s).1 = c.answer x.category ∧
      (((o'.classify c).on s').1 = c.answer x.category ∨
        ∃ (place : Nat) (k : StandardCategory), o.depthLimit ≤ place ∧ place < o'.depthLimit ∧
          c.graph.GivenAt i o'.depthLimit place k ∧ ((o'.classify c).on s').1 = c.answer k.name) := by
  obtain ⟨further, hfurther, hplace⟩ := c.graph.walkFaults_extends i o.one_le hle
  rw [findExplicit_eq (hg.walkFaults i o.depthLimit)] at hungiven
  have hungiven := Except.ok.inj hungiven
  rw [classify_on_resolution hr he ht hi hg, classify_on_resolution hr' he' ht' hi hg, hfurther]
  refine ⟨?_, ?_⟩
  · rw [resolution_of_ungiven hungiven, hselected]
    rfl
  · rcases Taxonomy.resolution_append hungiven hselected further with hsame | ⟨f, hf, k, hk, hname⟩
    · exact .inl (by rw [hsame])
    · have hfault : f.IsLegal := by
        have hlegal := hg.walkFaults i o'.depthLimit
        rw [hfurther] at hlegal
        exact hlegal f (List.mem_append_right _ hf)
      obtain ⟨place, hfrom, hbelow, hgiven⟩ := hplace f hf k (hfault.givenCategory?_eq_some_iff.1 hk)
      exact .inr ⟨place, k, hfrom, hbelow, hgiven, by rw [hname]⟩

/-- **What was found is kept.** Let all categories that were given to the faults of a graph be legal, and compare a limit
with a larger one.

* If a fault within the smaller limit decides, a classifier gives the same answer with both limits. It also does so once
  the smaller limit has reached the number of faults on the sequence of causes.
* If a category was given to a fault within the smaller limit, the first such category stands in what the observer
  answers, and the observer with the larger limit answers the same.
* If none was given there and the taxonomy selects a fault, the observer answers with what it selects. The one with the
  larger limit answers the same, or the same but for a category that was given to a fault at a place beyond the smaller
  limit. -/
theorem deeper_keeps_found (t : Taxonomy) {c : Call} {i : Nat} (hi : c.subject = .fault i) (hg : c.graph.IsLegal) :
    (∀ (limit limit' : Int) (h : 1 ≤ limit) (h' : 1 ≤ limit'), limit ≤ limit' →
      ((∃ f ∈ c.graph.walkFaults i limit, t.Decides f) →
        ∃ v, (Classifier.mk t limit h).classify c.graph i = .ok v ∧
          (Classifier.mk t limit' h').classify c.graph i = .ok v) ∧
      (((c.graph.orbit i).ncard : Int) ≤ limit →
        (Classifier.mk t limit' h').classify c.graph i = (Classifier.mk t limit h).classify c.graph i)) ∧
      ∀ (o o' : Observer) (s s' : State), Reachable o s → s.Offers t → Reachable o' s' → s'.Offers t →
        o.categorises = o'.categorises → o.depthLimit ≤ o'.depthLimit →
          (∀ k, findExplicit (c.graph.walkFaults i o.depthLimit) = .ok (some k) →
            ((o'.classify c).on s').1 = ((o.classify c).on s).1 ∧
              ∀ u, ((o.classify c).on s).1 = .ok u → u.category = k.name) ∧
          (o.categorises = true → findExplicit (c.graph.walkFaults i o.depthLimit) = .ok none →
            ∀ x, (c.graph.walkFaults i o.depthLimit).findSome? t.matchFault = some x →
              (∀ u, ((o.classify c).on s).1 = .ok u → u.category = x.category) ∧
              (((o'.classify c).on s').1 = ((o.classify c).on s).1 ∨
                ∃ (place : Nat) (k : StandardCategory), o.depthLimit ≤ place ∧ place < o'.depthLimit ∧
                  c.graph.GivenAt i o'.depthLimit place k ∧
                    ((o'.classify c).on s').1 = ((o.classify c).on s).1.map fun u => { u with category := k.name })) := by
  refine ⟨fun limit limit' h h' hle => ⟨Classifier.classify_deeper hg h h' hle, fun hall => ?_⟩, ?_⟩
  · unfold Classifier.classify FaultGraph.walkFaults
    dsimp only
    rw [FaultGraph.walk_of_orbit_le hall hle]
  · intro o o' s s' hr ht hr' ht' henabled hle
    refine ⟨fun k hgiven => ?_, fun he hungiven x hselected => ?_⟩
    · obtain ⟨hanswer, hanswer'⟩ := classify_deeper_of_given hr ht hr' ht' hle hi hg hgiven
      rw [hanswer, hanswer']
      exact ⟨rfl, fun u hu => Call.category_of_answer hu⟩
    · obtain ⟨hanswer, hanswer'⟩ :=
        classify_deeper_of_selected hr ht hr' ht' he (henabled ▸ he) hle hi hg hungiven hselected
      rw [hanswer]
      refine ⟨fun u hu => Call.category_of_answer hu, ?_⟩
      rcases hanswer' with hsame | ⟨place, k, hfrom, hbelow, hgiven, hnew⟩
      · exact .inl hsame
      · exact .inr ⟨place, k, hfrom, hbelow, hgiven, by rw [hnew]; exact c.answer_map _ _⟩

/-- An observer that looks at the fault alone. -/
def shortsighted : Observer := ⟨1, by decide, true⟩

/-- The first state of it, with the two rivals. -/
def State.near : State :=
  ⟨.ready (shortsighted.classifierOf .rivals), 0, ⟨.kept, "errors_total", "", .empty⟩, .empty⟩

/-- A call with a fault that the rivals select, caused by one that was given a category. -/
def callGivenBehind : Call := ⟨.callSite .unrecognised, givenBehind, .fault 0, .null⟩

/-- A classifier keeps what it selects for the fault itself, and two faults are all there are. The observer that looks at
the fault alone reports what is selected; the one that looks further reports the category that was given to the cause,
and keeps it however far it looks. -/
theorem deeper_keeps_found_givenBehind :
    (∃ v, (Classifier.mk .rivals 1 (by decide)).classify givenBehind 0 = .ok v ∧
        (Classifier.mk .rivals 5 (by decide)).classify givenBehind 0 = .ok v) ∧
      (Classifier.mk .rivals 5 (by decide)).classify givenBehind 0 =
        (Classifier.mk .rivals 2 (by decide)).classify givenBehind 0 ∧
      (∃ u, ((shortsighted.classify callGivenBehind).on .near).1 = .ok u ∧ u.category = "LateError" ∧
        ((standard.classify callGivenBehind).on .rivals).1 = .ok { u with category := "InternalServerError" }) ∧
      ∀ u, ((standard.classify callGivenBehind).on .rivals).1 = .ok u → u.category = "InternalServerError" := by
  have hg : callGivenBehind.graph.IsLegal := by decide +kernel
  have hnear : Reachable shortsighted .near :=
    .start (show make ⟨.kept, "errors_total", "", .empty⟩ .empty (some .rivals) none 1 true = _ from rfl)
  have hrivals : Reachable standard .rivals :=
    .start (show make ⟨.kept, "errors_total", "", .empty⟩ .empty (some .rivals) none 5 true = _ from rfl)
  have hall : ((givenBehind.orbit 0).ncard : Int) ≤ 2 := by
    have hlength := givenBehind.walk_length 0 5
    have htwo : (givenBehind.walk 0 5).length = 2 := by decide
    omega
  obtain ⟨hclassifier, hobserver⟩ := deeper_keeps_found .rivals (c := callGivenBehind) rfl hg
  obtain ⟨-, hselected⟩ := hobserver shortsighted standard .near .rivals hnear rfl hrivals rfl rfl (by decide)
  obtain ⟨hgiven, -⟩ := hobserver standard standard .rivals .rivals hrivals rfl hrivals rfl rfl (by decide)
  have hdecides : Taxonomy.rivals.Decides givenBehind.faults[0] :=
    .inr ⟨Taxonomy.rivals.categories[0], List.getElem_mem _, by decide +kernel⟩
  have hfound : ∃ f ∈ callGivenBehind.graph.walkFaults 0 1, Taxonomy.rivals.Decides f :=
    ⟨givenBehind.faults[0], List.mem_singleton.2 rfl, hdecides⟩
  have hfirst : (callGivenBehind.graph.walkFaults 0 1).findSome? Taxonomy.rivals.matchFault =
      some ⟨"ValueError", "LateError", .outline⟩ := by decide +kernel
  have hbehind : findExplicit (callGivenBehind.graph.walkFaults 0 5) = .ok (some .internalServer) := rfl
  have hinternal := (hgiven .internalServer hbehind).2
  refine ⟨(hclassifier 1 5 (by decide) (by decide) (by decide)).1 hfound,
    (hclassifier 2 5 (by decide) (by decide) (by decide)).2 hall, ?_, hinternal⟩
  obtain ⟨hlate, hfurther⟩ := hselected rfl rfl _ hfirst
  have hanswer : ((shortsighted.classify callGivenBehind).on .near).1.toOption.isSome = true := by decide +kernel
  cases hu : ((shortsighted.classify callGivenBehind).on .near).1 with
  | error e =>
    rw [hu] at hanswer
    cases hanswer
  | ok u =>
    rw [hu] at hfurther
    refine ⟨u, rfl, hlate u hu, ?_⟩
    rcases hfurther with hsame | ⟨place, k, -, -, -, hnew⟩
    · -- the two answers cannot be the same, since the larger limit reaches the given category
      have hcategory := hinternal u hsame
      rw [hlate u hu] at hcategory
      exact absurd hcategory (by decide)
    · have hcategory : k.name = "InternalServerError" := hinternal _ hnew
      rw [hnew, ← hcategory]
      rfl

end Observer

end Triage
