import Triage.Proofs.Observer.Category

/-!
# A further category

A category that is put into a taxonomy, at whatever place, may take faults away from the other categories. It never
moves a fault from one of them to another one.

* `Taxonomy.insertAt`: the taxonomy with one more category at a place.
* `find?_insert`, `findSome?_or`: what one more candidate does to a search, and how that passes through a search of
  searches.
* `matchFault_insertAt`, `verdict?_insertAt`, `resolution_insertAt`: what a further category does to a fault and to a
  walk.
* `insertAt_moves_none`: **an answer stays as it is or becomes the new category**, for a classifier and for every
  observer.
-/

namespace Triage

/-- A search that meets one more candidate finds what it found before, or that candidate. -/
theorem find?_insert {α : Type} (p : α → Bool) (before after : List α) (a : α) :
    (before ++ a :: after).find? p = (before ++ after).find? p ∨ (before ++ a :: after).find? p = some a := by
  rw [List.find?_append, List.find?_append]
  cases before.find? p with
  | some b => exact .inl rfl
  | none =>
    rw [List.find?_cons]
    cases p a with
    | true => exact .inr rfl
    | false => exact .inl rfl

/-- Where each step of a search answers as before, or something new that has the property, so does the search. -/
theorem findSome?_or {α β : Type} {p p' : α → Option β} {new : β → Prop} {l : List α}
    (h : ∀ a ∈ l, p' a = p a ∨ ∃ b, p' a = some b ∧ new b) :
    l.findSome? p' = l.findSome? p ∨ ∃ b, l.findSome? p' = some b ∧ new b := by
  induction l with
  | nil => exact .inl rfl
  | cons a l ih =>
    have ih := ih fun x hx => h x (by simp [hx])
    rw [List.findSome?_cons, List.findSome?_cons]
    rcases h a (by simp) with hsame | ⟨b, hb, hnew⟩
    · rw [hsame]
      cases p a with
      | none => exact ih
      | some b => exact .inl rfl
    · rw [hb]
      exact .inr ⟨b, rfl, hnew⟩

namespace Taxonomy

/-- The taxonomy with one more category at a place; behind the last one if there are not so many. -/
def insertAt (t : Taxonomy) (n : Nat) (c : Category) (new : c.name ∉ t.names) : Taxonomy where
  categories := t.categories.take n ++ c :: t.categories.drop n
  distinct := by
    have hperm : (t.categories.take n ++ c :: t.categories.drop n).Perm (c :: t.categories) := by
      have hfront : (t.categories.take n ++ c :: t.categories.drop n).Perm
          (c :: (t.categories.take n ++ t.categories.drop n)) := List.perm_middle
      rwa [List.take_append_drop] at hfront
    rw [(hperm.map Category.name).nodup_iff]
    exact List.nodup_cons.2 ⟨new, t.distinct⟩

variable {t : Taxonomy} {c : Category} (n : Nat) (new : c.name ∉ t.names)

theorem selectBy_insertAt (name message : String) (m : Method) :
    (t.insertAt n c new).selectBy name message m = t.selectBy name message m ∨
      (t.insertAt n c new).selectBy name message m = some ⟨name, c.name, m⟩ := by
  unfold selectBy insertAt
  have h := find?_insert (fun d => d.selects name message m) (t.categories.take n) (t.categories.drop n) c
  rw [List.take_append_drop] at h
  rcases h with h | h
  · exact .inl (by rw [h])
  · exact .inr (by rw [h]; rfl)

/-- **A single fault** is selected as before, or by the new category. -/
theorem matchFault_insertAt (f : Fault) :
    (t.insertAt n c new).matchFault f = t.matchFault f ∨
      ∃ s, (t.insertAt n c new).matchFault f = some s ∧ s.category = c.name := by
  refine findSome?_or fun m _ => ?_
  rcases selectBy_insertAt n new f.cls.name f.matchText m with h | h
  · exact .inl h
  · exact .inr ⟨_, h, rfl⟩

theorem verdict?_insertAt (f : Fault) :
    (t.insertAt n c new).verdict? f = t.verdict? f ∨
      ∃ v, (t.insertAt n c new).verdict? f = some v ∧ v.category = c.name := by
  cases hg : f.givenCategory? with
  | some d =>
    -- a category that was given leaves no say to the taxonomy
    exact .inl (by rw [verdict?_of_given hg, verdict?_of_given hg])
  | none =>
    rw [verdict?_of_ungiven hg, verdict?_of_ungiven hg]
    rcases matchFault_insertAt n new f with h | ⟨s, h, hs⟩
    · exact .inl (by rw [h])
    · exact .inr ⟨⟨s.category, some s⟩, by rw [h]; rfl, hs⟩

/-- **The category of a walk** stays as it is or becomes the new one. -/
theorem resolution_insertAt (walk : List Fault) :
    (t.insertAt n c new).resolution walk = t.resolution walk ∨
      (t.insertAt n c new).resolution walk = c.name := by
  unfold resolution
  cases walk.findSome? Fault.givenCategory? with
  | some d => exact .inl rfl
  | none =>
    have h : walk.findSome? (t.insertAt n c new).matchFault = walk.findSome? t.matchFault ∨
        ∃ s, walk.findSome? (t.insertAt n c new).matchFault = some s ∧ s.category = c.name :=
      findSome?_or fun f _ => matchFault_insertAt n new f
    rcases h with h | ⟨s, h, hs⟩
    · exact .inl (by rw [h])
    · refine .inr ?_
      rw [h]
      exact hs

/-- **The answer of a classifier** stays as it is or becomes the new category. -/
theorem classify_insertAt {g : FaultGraph} (hg : g.IsLegal) (i : Nat) (limit : Int) :
    ∃ v v', t.classify (g.walkFaults i limit) = .ok v ∧
      (t.insertAt n c new).classify (g.walkFaults i limit) = .ok v' ∧
        (v' = v ∨ v'.category = c.name) := by
  have hw := hg.walkFaults i limit
  unfold Taxonomy.classify
  rw [firstVerdict_eq hw, firstVerdict_eq hw]
  refine ⟨_, _, rfl, rfl, ?_⟩
  have h : (g.walkFaults i limit).findSome? (t.insertAt n c new).verdict? =
        (g.walkFaults i limit).findSome? t.verdict? ∨
      ∃ v, (g.walkFaults i limit).findSome? (t.insertAt n c new).verdict? = some v ∧ v.category = c.name :=
    findSome?_or fun f _ => verdict?_insertAt n new f
  rcases h with h | ⟨v, h, hv⟩
  · exact .inl (by rw [h])
  · refine .inr ?_
    rw [h]
    exact hv

end Taxonomy

namespace Observer

variable {o : Observer} {s s' : State} {t : Taxonomy} {c : Category}

/-- What an observer that does not categorise answers has nothing to do with its state. -/
theorem classify_on_disabled (he : o.categorises = false) (call : Call) (s s' : State) :
    ((o.classify call).on s).1 = ((o.classify call).on s').1 := by
  rw [classify_on, classify_on]
  cases call.check with
  | error e => rfl
  | ok i =>
    rw [classifier?_of_disabled he, classifier?_of_disabled he]
    dsimp only
    rw [series_on, series_on]

/-- **A further category moves no fault between the others.** Let a category be put into a taxonomy, at whatever
place, under a name that is not there yet, and let all categories that were given to the faults be legal.

* A classifier with any limit answers as before, or with the new category.
* Two observers alike, one of which has the larger taxonomy or will load it, answer alike to every call, or the one
  names the series that the other one names but for the category, which is the new one. -/
theorem insertAt_moves_none (new : c.name ∉ t.names) (n : Nat) {g : FaultGraph} (hg : g.IsLegal) (i : Nat) :
    (∀ (limit : Int) (h : 1 ≤ limit), ∃ v v', (Classifier.mk t limit h).classify g i = .ok v ∧
        (Classifier.mk (t.insertAt n c new) limit h).classify g i = .ok v' ∧
          (v' = v ∨ v'.category = c.name)) ∧
      ∀ (o : Observer) (s s' : State), Reachable o s → s.Offers t → Reachable o s' →
        s'.Offers (t.insertAt n c new) → ∀ (origin : Origin) (service : Value),
          ((o.classify ⟨origin, g, .fault i, service⟩).on s').1 =
              ((o.classify ⟨origin, g, .fault i, service⟩).on s).1 ∨
            ((o.classify ⟨origin, g, .fault i, service⟩).on s').1 =
              ((o.classify ⟨origin, g, .fault i, service⟩).on s).1.map fun u =>
                { u with category := c.name } := by
  refine ⟨fun limit h => Taxonomy.classify_insertAt n new hg i limit, ?_⟩
  intro o s s' hr ht hr' ht' origin service
  cases he : o.categorises with
  | false => exact .inl (classify_on_disabled he _ s' s)
  | true =>
    cases hc : Call.check ⟨origin, g, .fault i, service⟩ with
    | error e =>
      rw [classify_on, classify_on, hc]
      exact .inl rfl
    | ok j =>
      obtain rfl : i = j := Subject.fault.inj (check_eq_ok_iff.1 hc).2
      rw [classify_on_offers hr he ht hc, classify_on_offers hr' he ht' hc]
      obtain ⟨v, hv, hcategory⟩ := verdict_of_isLegal o t hg i
      obtain ⟨v', hv', hcategory'⟩ := verdict_of_isLegal o (t.insertAt n c new) hg i
      rw [seriesOf_of_verdicts (fun _ => rfl) hv hv' origin service, hcategory']
      rcases Taxonomy.resolution_insertAt n new (g.walkFaults i o.depthLimit) with h | h
      · rw [h, ← hcategory, ← seriesOf_of_verdicts (fun _ => rfl) hv hv origin service]
        exact .inl rfl
      · rw [h]
        exact .inr rfl

/-- A third category beside the two rivals: it selects every fault of class `ValueError` by an outline. -/
def thirdCategory : Category :=
  ⟨"ThirdError", [], [⟨"", none, [⟨"ValueError", (Pattern.compile "").toOption.get Pattern.isSome_compile_empty⟩]⟩]⟩

/-- The first state of an observer that classifies with the two rivals and the third category between them. -/
def State.threefold : State :=
  ⟨.ready (standard.classifierOf (Taxonomy.insertAt .rivals 1 thirdCategory (by decide))), 0,
    ⟨.kept, "errors_total", "", .empty⟩, .empty⟩

/-- Put between the two rivals, the third category takes the fault away from the later one, for which the classifier
had selected it; the earlier one does not get it. The observer with the larger taxonomy reports so, too. -/
theorem insertAt_moves_none_thirdCategory :
    thirdCategory.name ∉ Taxonomy.rivals.names ∧ FaultGraph.boomBehind.IsLegal ∧
      (∃ v v', (Classifier.mk .rivals 5 (by decide)).classify .boomBehind 0 = .ok v ∧
        (Classifier.mk (Taxonomy.insertAt .rivals 1 thirdCategory (by decide)) 5 (by decide)).classify .boomBehind 0 =
          .ok v' ∧ v.category = "LateError" ∧ v'.category = "ThirdError") ∧
      ∃ u, ((standard.classify ⟨.callSite .unrecognised, .boomBehind, .fault 0, .null⟩).on .rivals).1 = .ok u ∧
        u.category = "LateError" ∧
        ((standard.classify ⟨.callSite .unrecognised, .boomBehind, .fault 0, .null⟩).on .threefold).1 =
          .ok { u with category := "ThirdError" } := by
  have new : thirdCategory.name ∉ Taxonomy.rivals.names := by decide
  have hg : FaultGraph.boomBehind.IsLegal := by decide +kernel
  obtain ⟨hclassifier, hobserver⟩ := insertAt_moves_none new 1 hg 0
  refine ⟨new, hg, ?_, ?_⟩
  · obtain ⟨v, v', hv, hv', hthird⟩ := hclassifier 5 (by decide)
    have hlate : ((Classifier.mk .rivals 5 (by decide)).classify .boomBehind 0).toOption.map (·.category) =
        some "LateError" := by decide +kernel
    have hlost : ((Classifier.mk (Taxonomy.insertAt .rivals 1 thirdCategory (by decide)) 5 (by decide)).classify
        .boomBehind 0).toOption.map (·.category) ≠ some "LateError" := by decide +kernel
    rw [hv] at hlate
    rw [hv'] at hlost
    refine ⟨v, v', hv, hv', Option.some.inj hlate, hthird.resolve_left ?_⟩
    rintro rfl
    exact hlost hlate
  · have hrivals : Reachable standard .rivals :=
      .start (show make ⟨.kept, "errors_total", "", .empty⟩ .empty (some .rivals) none 5 true = _ from rfl)
    have hthreefold : Reachable standard .threefold :=
      .start (show make ⟨.kept, "errors_total", "", .empty⟩ .empty
        (some (Taxonomy.insertAt .rivals 1 thirdCategory new)) none 5 true = _ from rfl)
    have hreports := hobserver standard .rivals .threefold hrivals rfl hthreefold rfl (.callSite .unrecognised) .null
    have hlate : ((standard.classify ⟨.callSite .unrecognised, .boomBehind, .fault 0, .null⟩).on
        .rivals).1.toOption.map (·.category) = some "LateError" := by decide +kernel
    have hlost : ((standard.classify ⟨.callSite .unrecognised, .boomBehind, .fault 0, .null⟩).on
        .threefold).1.toOption.map (·.category) ≠ some "LateError" := by decide +kernel
    cases hu : ((standard.classify ⟨.callSite .unrecognised, .boomBehind, .fault 0, .null⟩).on .rivals).1 with
    | error e =>
      rw [hu] at hlate
      cases hlate
    | ok u =>
      rw [hu] at hlate hreports
      refine ⟨u, rfl, Option.some.inj hlate, hreports.resolve_left fun hsame => ?_⟩
      rw [hsame] at hlost
      exact hlost hlate

end Observer

end Triage
