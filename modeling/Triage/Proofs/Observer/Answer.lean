import Triage.Proofs.Observer.Category

/-!
# What a call is answered

Of all that an observer knows, a call that is classified depends on the category of its fault alone. So two observers
that come to the same category answer alike, whatever else they differ in.

* `Call.answer`: the answer to a call, given the category of its fault.
* `classifier?_of_ready`, `classifier?_of_offers`: the classifier that is consulted.
* `classify_on_verdict`: **the answer to a call** is the one for the category that the observer comes to.
-/

namespace Triage.Observer

/-- The answer to a call, given the category of its fault. -/
def Call.answer (c : Call) (category : String) : Except Error Series := do
  let i ← c.check
  let source ← c.origin.source.mapError .unnamed
  let service ← checkService c.service
  return ⟨(c.graph.label i source).getD "", category, source, service⟩

variable {o : Observer} {s : State} {t : Taxonomy} {c : Call} {i : Nat}

/-- For another category the answer is the same but for the category. -/
theorem Call.answer_map (c : Call) (category category' : String) :
    c.answer category' = (c.answer category).map fun u => { u with category := category' } := by
  unfold Call.answer
  cases c.check with
  | error e => rfl
  | ok i =>
    cases c.origin.source with
    | error e => rfl
    | ok source => cases checkService c.service <;> rfl

theorem Call.category_of_answer {category : String} {u : Series} (h : c.answer category = .ok u) :
    u.category = category := by
  have hmap := c.answer_map category category
  rw [h] at hmap
  exact congrArg Series.category (Except.ok.inj hmap)

/-- **A call is answered with a series** if its fault is one of the graph, and its origin and its service are fit to be
counted. -/
theorem Call.answer_eq_ok {source service : String} (hi : c.subject = .fault i) (hsource : c.origin.source = .ok source)
    (hservice : checkService c.service = .ok service) (category : String) :
    c.answer category = .ok ⟨(c.graph.label i source).getD "", category, source, service⟩ := by
  unfold Call.answer
  rw [check_of_source hi hsource, hsource, hservice]
  rfl

/-! ## The classifier that is consulted -/

theorem classifier?_of_ready {cl : Classifier} (hs : s.stage = .ready cl) :
    o.classifier?.on s = (.ok (o.consulted cl), s) := by
  cases he : o.categorises with
  | false => rw [classifier?_of_disabled he, consulted_of_disabled he]
  | true =>
    rw [classifier?_of_enabled he, prepare_of_ready hs, consulted_of_enabled he]
    rfl

theorem classifier?_of_offers (hr : Reachable o s) (ht : s.Offers t) :
    (o.classifier?.on s).1 = .ok (o.consulted (o.classifierOf t)) := by
  cases he : o.categorises with
  | false => rw [classifier?_of_disabled he, consulted_of_disabled he]
  | true =>
    obtain ⟨s', hp⟩ := prepare_of_offers hr ht
    rw [classifier?_of_enabled he, hp, consulted_of_enabled he]
    rfl

/-! ## The answer -/

/-- **The answer to a call** is the one for the category that the observer comes to. -/
theorem classify_on_verdict {classifier : Option Classifier} {v : Taxonomy.Verdict}
    (hcl : (o.classifier?.on s).1 = .ok classifier) (hi : c.subject = .fault i)
    (hv : o.verdict classifier c.graph i = .ok v) : ((o.classify c).on s).1 = c.answer v.category := by
  unfold Call.answer
  rw [classify_on]
  cases hc : c.check with
  | error e => rfl
  | ok j =>
    obtain rfl : i = j := by
      have hj := (check_eq_ok_iff.1 hc).2
      rw [hi] at hj
      exact Subject.fault.inj hj
    rcases hx : o.classifier?.on s with ⟨e | cl, s'⟩
    · rw [hx] at hcl
      cases hcl
    · rw [hx] at hcl
      obtain rfl : cl = classifier := Except.ok.inj hcl
      dsimp only
      rw [series_on]
      dsimp only
      rw [seriesOf_of_verdict hv]
      cases c.origin.source with
      | error e => rfl
      | ok source => cases checkService c.service <;> rfl

/-- Where the search for a given category finds one, it is the category, whatever the classifier. -/
theorem verdict_of_given {g : FaultGraph} {category : StandardCategory}
    (h : findExplicit (g.walkFaults i o.depthLimit) = .ok (some category)) (classifier : Option Classifier) :
    o.verdict classifier g i = .ok ⟨category.name, none⟩ := by
  unfold verdict
  rw [h]

/-- What an observer that categorises answers about legal faults: the category of the walk. -/
theorem classify_on_resolution (hr : Reachable o s) (he : o.categorises = true) (ht : s.Offers t)
    (hi : c.subject = .fault i) (hg : c.graph.IsLegal) :
    ((o.classify c).on s).1 = c.answer (t.resolution (c.graph.walkFaults i o.depthLimit)) := by
  obtain ⟨v, hv, hcategory⟩ := verdict_of_isLegal o t hg i
  rw [← consulted_of_enabled he (o.classifierOf t)] at hv
  rw [classify_on_verdict (classifier?_of_offers hr ht) hi hv, hcategory]

end Triage.Observer
