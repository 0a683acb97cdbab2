import Triage.Fault.Build
import Triage.Proofs.Classification.Decision

/-!
# The first match on a walk

Three searches lie inside one another: for a fault of the walk, for a method, and for a category. Together
they find the least of all matches under one order: the position on the walk counts first, then the method,
then the place of the category in the taxonomy.

* `matchFault_eq_some_iff`: a taxonomy selects a fault by the leading pair of a method and a category.
* `matchFault_eq_none_iff`: it selects none exactly if no category selects the fault in any way.
* `classify_firstMatch`: **a classifier gives the first match**, and never fails on legal faults.
-/

namespace Triage

/-- The place of a method in the order of the methods. -/
def Method.rank : Method → Nat
  | .outline => 0
  | .keyword => 1
  | .typeName => 2

theorem Method.rank_inj {m m' : Method} (h : m.rank = m'.rank) : m = m' := by
  cases m <;> cases m' <;> first | rfl | cases h

/-- Trying the methods in turn finds the one of the least rank. -/
theorem Method.findSome?_all {α : Type} {p : Method → Option α} {a : α} :
    Method.all.findSome? p = some a ↔ ∃ m, p m = some a ∧ ∀ m', m'.rank < m.rank → p m' = none := by
  rw [List.findSome?_eq_some_iff]
  constructor
  · rintro ⟨before, m, after, hall, hm, hnone⟩
    refine ⟨m, hm, fun m' hlt => hnone m' ?_⟩
    -- the methods are listed by rank, so those of a lesser rank stand before `m`
    have hsorted : Method.all.Pairwise fun a b => a.rank < b.rank := by decide
    rw [hall, List.pairwise_append] at hsorted
    have hmem : m' ∈ before ++ m :: after := hall ▸ m'.mem_all
    rcases List.mem_append.1 hmem with h | h
    · exact h
    · rcases List.mem_cons.1 h with rfl | h
      · omega
      · have := (List.pairwise_cons.1 hsorted.2.1).1 m' h
        omega
  · rintro ⟨m, hm, hnone⟩
    cases m with
    | outline => exact ⟨[], _, _, rfl, hm, by simp⟩
    | keyword => exact ⟨[.outline], _, _, rfl, hm, by simpa using hnone .outline (by decide)⟩
    | typeName =>
      refine ⟨[.outline, .keyword], _, _, rfl, hm, ?_⟩
      simpa using ⟨hnone .outline (by decide), hnone .keyword (by decide)⟩

namespace Taxonomy

/-- The category at place `n` selects the fault by the method `m`. -/
def SelectsAt (t : Taxonomy) (f : Fault) (m : Method) (n : Nat) (c : Category) : Prop :=
  t.categories[n]? = some c ∧ c.selects f.cls.name f.matchText m = true

/-- The method `m` and the category at place `n` **lead** among all pairs that select the fault: the method
comes first, and among categories under the same method the place does. -/
structure Leads (t : Taxonomy) (f : Fault) (m : Method) (n : Nat) (c : Category) : Prop where
  selects : t.SelectsAt f m n c
  least : ∀ m' n' c', t.SelectsAt f m' n' c' → m.rank < m'.rank ∨ m = m' ∧ n ≤ n'

/-- A fault decides: it was given a category, or there is a category that selects it in some way. -/
def Decides (t : Taxonomy) (f : Fault) : Prop :=
  (∃ c, f.explicitCategory = .ok (some c)) ∨
    ∃ c ∈ t.categories, c.selectsAny f.cls.name f.matchText = true

/-- The category that the first match on a walk gives. -/
inductive FirstMatch (t : Taxonomy) (walk : List Fault) : String → Prop where
  /-- The first fault that decides was given a category. -/
  | given {before after : List Fault} {f : Fault} {c : StandardCategory} (split : walk = before ++ f :: after)
      (first : ∀ p ∈ before, ¬ t.Decides p) (given : f.explicitCategory = .ok (some c)) :
      FirstMatch t walk c.name
  /-- The first fault that decides was given none, and patterns select it. -/
  | selected {before after : List Fault} {f : Fault} {m : Method} {n : Nat} {c : Category}
      (split : walk = before ++ f :: after) (first : ∀ p ∈ before, ¬ t.Decides p)
      (ungiven : f.explicitCategory = .ok none) (leads : t.Leads f m n c) : FirstMatch t walk c.name
  /-- No fault decides. -/
  | unknown (none : ∀ p ∈ walk, ¬ t.Decides p) : FirstMatch t walk StandardCategory.unknown.name

variable {t : Taxonomy} {f : Fault}

/-- The first category by a given method. -/
theorem selectBy_eq_some_iff {name message : String} {m : Method} {s : Selection} :
    t.selectBy name message m = some s ↔ ∃ (n : Nat) (c : Category),
      (t.categories[n]? = some c ∧ c.selects name message m = true) ∧ s = ⟨name, c.name, m⟩ ∧
        ∀ (n' : Nat) (c' : Category),
          t.categories[n']? = some c' → c'.selects name message m = true → n ≤ n' := by
  unfold selectBy
  rw [Option.map_eq_some_iff]
  constructor
  · rintro ⟨c, hc, rfl⟩
    obtain ⟨hsel, n, hn, rfl, hfirst⟩ := List.find?_eq_some_iff_getElem.1 hc
    refine ⟨n, t.categories[n], ⟨List.getElem?_eq_getElem hn, hsel⟩, rfl, fun n' c' hn' hsel' => ?_⟩
    rcases Nat.lt_or_ge n' n with hlt | hge
    · obtain ⟨hlen, rfl⟩ := List.getElem?_eq_some_iff.1 hn'
      have := hfirst n' hlt
      simp [hsel'] at this
    · exact hge
  · rintro ⟨n, c, ⟨hn, hsel⟩, rfl, hleast⟩
    obtain ⟨hlen, rfl⟩ := List.getElem?_eq_some_iff.1 hn
    refine ⟨_, List.find?_eq_some_iff_getElem.2 ⟨hsel, n, hlen, rfl, fun j hj => ?_⟩, rfl⟩
    have hjlen : j < t.categories.length := by omega
    by_cases hs : t.categories[j].selects name message m = true
    · have := hleast j _ (List.getElem?_eq_getElem hjlen) hs
      omega
    · simpa using hs

theorem selectBy_eq_none_iff {name message : String} {m : Method} :
    t.selectBy name message m = none ↔ ∀ c ∈ t.categories, c.selects name message m = false := by
  simp [selectBy]

/-- **A taxonomy selects a fault by the leading pair.** -/
theorem matchFault_eq_some_iff {s : Selection} :
    t.matchFault f = some s ↔ ∃ m n c, t.Leads f m n c ∧ s = ⟨f.cls.name, c.name, m⟩ := by
  unfold matchFault
  rw [Method.findSome?_all]
  constructor
  · rintro ⟨m, hm, hless⟩
    obtain ⟨n, c, hsel, rfl, hleast⟩ := selectBy_eq_some_iff.1 hm
    refine ⟨m, n, c, ⟨hsel, fun m' n' c' h => ?_⟩, rfl⟩
    rcases Nat.lt_trichotomy m.rank m'.rank with hlt | heq | hgt
    · exact .inl hlt
    · obtain rfl := Method.rank_inj heq
      exact .inr ⟨rfl, hleast n' c' h.1 h.2⟩
    · have := selectBy_eq_none_iff.1 (hless m' hgt) c' (List.mem_of_getElem? h.1)
      rw [h.2] at this
      cases this
  · rintro ⟨m, n, c, ⟨hsel, hleast⟩, rfl⟩
    refine ⟨m, selectBy_eq_some_iff.2 ⟨n, c, hsel, rfl, fun n' c' hn' hs => ?_⟩, fun m' hlt => ?_⟩
    · rcases hleast m n' c' ⟨hn', hs⟩ with h | h
      · omega
      · exact h.2
    · refine selectBy_eq_none_iff.2 fun c' hc' => ?_
      obtain ⟨n', hn'⟩ := List.mem_iff_getElem?.1 hc'
      by_cases hs : c'.selects f.cls.name f.matchText m' = true
      · rcases hleast m' n' c' ⟨hn', hs⟩ with h | h
        · omega
        · rw [h.1] at hlt
          omega
      · simpa using hs

/-- **A taxonomy selects no category** for a fault exactly if none selects it in any way. -/
theorem matchFault_eq_none_iff :
    t.matchFault f = none ↔ ∀ c ∈ t.categories, c.selectsAny f.cls.name f.matchText = false := by
  unfold matchFault
  rw [List.findSome?_eq_none_iff]
  constructor
  · intro h c hc
    rw [Bool.eq_false_iff, Ne, Category.selectsAny_iff]
    rintro ⟨m, hm⟩
    have := selectBy_eq_none_iff.1 (h m m.mem_all) c hc
    rw [hm] at this
    cases this
  · intro h m _
    refine selectBy_eq_none_iff.2 fun c hc => ?_
    by_cases hm : c.selects f.cls.name f.matchText m = true
    · have := Category.selectsAny_iff.2 ⟨m, hm⟩
      rw [h c hc] at this
      cases this
    · simpa using hm

/-- A taxonomy says nothing of a legal fault exactly if the fault does not decide. -/
theorem verdict?_eq_none_iff_not_decides (hf : f.IsLegal) : t.verdict? f = none ↔ ¬ t.Decides f := by
  rw [verdict?_eq_none_iff, hf.givenCategory?_eq_none_iff, matchFault_eq_none_iff, Fault.isLegal_iff.1 hf]
  unfold Decides
  rw [Fault.isLegal_iff.1 hf]
  cases f.givenCategory? with
  | some c => simp
  | none => simp

/-- The first match is what the search of the taxonomy finds. -/
theorem firstMatch_iff {walk : List Fault} (hw : ∀ f ∈ walk, f.IsLegal) {name : String} :
    t.FirstMatch walk name ↔
      name = ((walk.findSome? t.verdict?).getD ⟨StandardCategory.unknown.name, none⟩).category := by
  constructor
  · intro h
    cases h with
    | @given before after f c split first given =>
      subst split
      have hv : t.verdict? f = some ⟨c.name, none⟩ :=
        verdict?_of_given ((hw f (by simp)).givenCategory?_eq_some_iff.2 given)
      rw [List.findSome?_eq_some_iff.2 ⟨before, f, after, rfl, hv, fun p hp =>
        (verdict?_eq_none_iff_not_decides (hw p (by simp [hp]))).2 (first p hp)⟩]
      rfl
    | @selected before after f m n c split first ungiven leads =>
      subst split
      have hm := matchFault_eq_some_iff.2 ⟨m, n, c, leads, rfl⟩
      have hv := verdict?_of_ungiven (t := t) ((hw f (by simp)).givenCategory?_eq_none_iff.2 ungiven)
      rw [hm] at hv
      rw [List.findSome?_eq_some_iff.2 ⟨before, f, after, rfl, hv, fun p hp =>
        (verdict?_eq_none_iff_not_decides (hw p (by simp [hp]))).2 (first p hp)⟩]
      rfl
    | unknown none =>
      rw [List.findSome?_eq_none_iff.2 fun p hp =>
        (verdict?_eq_none_iff_not_decides (hw p hp)).2 (none p hp)]
      rfl
  · rintro rfl
    cases hs : walk.findSome? t.verdict? with
    | none =>
      exact .unknown fun p hp =>
        (verdict?_eq_none_iff_not_decides (hw p hp)).1 (List.findSome?_eq_none_iff.1 hs p hp)
    | some v =>
      obtain ⟨before, f, after, rfl, hv, hbefore⟩ := List.findSome?_eq_some_iff.1 hs
      have hf : f.IsLegal := hw f (by simp)
      have hfirst : ∀ p ∈ before, ¬ t.Decides p := fun p hp =>
        (verdict?_eq_none_iff_not_decides (hw p (by simp [hp]))).1 (hbefore p hp)
      cases hg : f.givenCategory? with
      | some c =>
        rw [verdict?_of_given hg] at hv
        cases hv
        exact .given rfl hfirst (hf.givenCategory?_eq_some_iff.1 hg)
      | none =>
        rw [verdict?_of_ungiven hg, Option.map_eq_some_iff] at hv
        obtain ⟨s, hm, rfl⟩ := hv
        obtain ⟨m, n, c, hlead, rfl⟩ := matchFault_eq_some_iff.1 hm
        exact .selected rfl hfirst (hf.givenCategory?_eq_none_iff.1 hg) hlead

end Taxonomy

/-- **A classifier gives the first match.** On a graph of legal faults it always answers, the category it
answers is the one of the first match and no other one, and a single fault is left unmatched exactly if no
category selects it in any way. -/
theorem classify_firstMatch (cl : Classifier) {g : FaultGraph} (hg : g.IsLegal) (i : Nat) :
    ∃ v, cl.classify g i = .ok v ∧
      (∀ name, cl.taxonomy.FirstMatch (g.walkFaults i cl.depthLimit) name ↔ name = v.category) ∧
      ∀ f, cl.taxonomy.matchFault f = none ↔
        ∀ c ∈ cl.taxonomy.categories, c.selectsAny f.cls.name f.matchText = false := by
  have hw := hg.walkFaults i cl.depthLimit
  refine ⟨_, ?_, fun name => Taxonomy.firstMatch_iff hw, fun f => Taxonomy.matchFault_eq_none_iff⟩
  unfold Classifier.classify Taxonomy.classify
  rw [Taxonomy.firstVerdict_eq hw]
  rfl

/-- The pattern that every text matches is one. -/
theorem Pattern.isSome_compile_empty : (Pattern.compile "").toOption.isSome = true := by decide +kernel

/-- Two categories that select a fault of class `ValueError` with a boom in its message: the earlier one by a
keyword, the later one by an outline. -/
def Taxonomy.rivals : Taxonomy where
  categories :=
    [⟨"EarlyError", [(Pattern.compile "boom").toOption.get (by decide +kernel)], []⟩,
      ⟨"LateError", [],
        [⟨"", none, [⟨"ValueError", (Pattern.compile "").toOption.get Pattern.isSome_compile_empty⟩]⟩]⟩]
  distinct := by decide

/-- A fault that nothing selects, caused by one with a boom that it has itself caused. -/
def FaultGraph.boomBehind : FaultGraph where
  faults :=
    #[{ Fault.plain .engineError [.text "quiet"] with cause := some 1 },
      { Fault.plain (.derive "ValueError" .exception) [.text "a boom"] with cause := some 0 }]

/-- The outline of the later category beats the keyword of the earlier one, behind a fault that does not
decide and before the cycle closes. -/
theorem classify_firstMatch_rivals :
    FaultGraph.boomBehind.IsLegal ∧
      ∃ v, (Classifier.mk .rivals 5 (by decide)).classify .boomBehind 0 = .ok v ∧
        v.category = "LateError" ∧ Taxonomy.rivals.FirstMatch (FaultGraph.boomBehind.walkFaults 0 5) "LateError" := by
  have hg : FaultGraph.boomBehind.IsLegal := by decide +kernel
  obtain ⟨v, hv, hfirst, -⟩ := classify_firstMatch (Classifier.mk .rivals 5 (by decide)) hg 0
  have hlate : ((Classifier.mk .rivals 5 (by decide)).classify .boomBehind 0).toOption.map (·.category) =
      some "LateError" := by decide +kernel
  rw [hv] at hlate
  have hlate : v.category = "LateError" := Option.some.inj hlate
  exact ⟨hg, v, hv, hlate, (hfirst _).2 hlate.symm⟩

end Triage
