import Triage.Classification.Classifier

/-!
# What decides on a walk

Both searches along a walk ask every fault for something and stop at the first answer; only an illegal
category makes them fail. Where all categories are legal they are searches for a first element.

* `Fault.isLegal_iff`: the faults that can be asked for their category are the legal ones.
* `findExplicit_eq`: on legal faults the search for a given category is `List.findSome?` of
  `Fault.givenCategory?`.
* `firstVerdict_eq`: on legal faults the search of a taxonomy is `List.findSome?` of `Taxonomy.verdict?`.
* `firstVerdict_of_ungiven`: on faults that were given no category, patterns decide alone.
-/

namespace Triage

/-- A category that stands on a fault is one of the standard ones. -/
def AssignedCategory.IsLegal : AssignedCategory → Prop
  | .checked _ => True
  | .unchecked v => (StandardCategory.ofValue? v).isSome = true

instance : (a : AssignedCategory) → Decidable a.IsLegal
  | .checked _ => .isTrue trivial
  | .unchecked v => inferInstanceAs (Decidable ((StandardCategory.ofValue? v).isSome = true))

namespace Fault

/-- A structured fault has no category or a legal one. -/
def IsLegal (f : Fault) : Prop := f.cls.isEngine = true → ∀ a ∈ f.category, a.IsLegal

instance (f : Fault) : Decidable f.IsLegal :=
  inferInstanceAs (Decidable (f.cls.isEngine = true → ∀ a ∈ f.category, a.IsLegal))

/-- The category that counts as given to the fault. -/
def givenCategory? (f : Fault) : Option StandardCategory := f.explicitCategory.toOption.join

/-- **Asking for the category fails exactly on illegal faults.** -/
theorem isLegal_iff {f : Fault} : f.IsLegal ↔ f.explicitCategory = .ok f.givenCategory? := by
  unfold IsLegal givenCategory? explicitCategory
  by_cases he : f.cls.isEngine = true
  · rw [if_pos he]
    rcases f.category with _ | ⟨c | v⟩
    · simp [Except.toOption]
    · cases c <;> simp [AssignedCategory.IsLegal, Except.toOption]
    · rcases hv : StandardCategory.ofValue? v with _ | c <;>
        simp [AssignedCategory.IsLegal, Except.toOption, he, hv]
  · rw [if_neg he]
    exact ⟨fun _ => rfl, fun _ h => absurd h he⟩

theorem IsLegal.givenCategory?_eq_some_iff {f : Fault} (h : f.IsLegal) {c : StandardCategory} :
    f.givenCategory? = some c ↔ f.explicitCategory = .ok (some c) := by
  rw [isLegal_iff.1 h]
  exact ⟨fun e => by rw [e], fun e => Except.ok.inj e⟩

theorem IsLegal.givenCategory?_eq_none_iff {f : Fault} (h : f.IsLegal) :
    f.givenCategory? = none ↔ f.explicitCategory = .ok none := by
  rw [isLegal_iff.1 h]
  exact ⟨fun e => by rw [e], fun e => Except.ok.inj e⟩

end Fault

namespace FaultGraph

/-- All faults of the graph are legal. -/
def IsLegal (g : FaultGraph) : Prop := ∀ f ∈ g.faults, f.IsLegal

instance (g : FaultGraph) : Decidable g.IsLegal :=
  inferInstanceAs (Decidable (∀ f ∈ g.faults, f.IsLegal))

theorem IsLegal.walkFaults {g : FaultGraph} (h : g.IsLegal) (i : Nat) (limit : Int) :
    ∀ f ∈ g.walkFaults i limit, f.IsLegal := by
  intro f hf
  obtain ⟨j, -, hj⟩ := List.mem_filterMap.1 hf
  exact h f (Array.mem_of_getElem? hj)

end FaultGraph

/-- **The search for a given category** finds the first fault that was given one. -/
theorem findExplicit_eq {fs : List Fault} (h : ∀ f ∈ fs, f.IsLegal) :
    findExplicit fs = .ok (fs.findSome? Fault.givenCategory?) := by
  induction fs with
  | nil => rfl
  | cons f fs ih =>
    have hf := Fault.isLegal_iff.1 (h f (by simp))
    have ih := ih fun p hp => h p (by simp [hp])
    rw [findExplicit, hf, List.findSome?_cons]
    cases f.givenCategory? with
    | none => exact ih
    | some c => rfl

namespace Taxonomy

/-- What a taxonomy says of a single fault: the category that it was given, or the selected one. -/
def verdict? (t : Taxonomy) (f : Fault) : Option Verdict :=
  match f.givenCategory? with
  | some c => some ⟨c.name, none⟩
  | none => (t.matchFault f).map fun s => ⟨s.category, some s⟩

theorem verdict?_of_given {t : Taxonomy} {f : Fault} {c : StandardCategory} (h : f.givenCategory? = some c) :
    t.verdict? f = some ⟨c.name, none⟩ := by
  simp only [verdict?, h]

theorem verdict?_of_ungiven {t : Taxonomy} {f : Fault} (h : f.givenCategory? = none) :
    t.verdict? f = (t.matchFault f).map fun s => ⟨s.category, some s⟩ := by
  simp only [verdict?, h]

theorem verdict?_eq_none_iff {t : Taxonomy} {f : Fault} :
    t.verdict? f = none ↔ f.givenCategory? = none ∧ t.matchFault f = none := by
  cases hg : f.givenCategory? with
  | some c => simp [verdict?_of_given hg]
  | none => simp [verdict?_of_ungiven hg]

/-- **The search of a taxonomy** finds the first fault that it says something of. -/
theorem firstVerdict_eq {t : Taxonomy} {fs : List Fault} (h : ∀ f ∈ fs, f.IsLegal) :
    t.firstVerdict fs = .ok (fs.findSome? t.verdict?) := by
  induction fs with
  | nil => rfl
  | cons f fs ih =>
    have hf := Fault.isLegal_iff.1 (h f (by simp))
    have ih := ih fun p hp => h p (by simp [hp])
    rw [firstVerdict, hf, List.findSome?_cons]
    cases hg : f.givenCategory? with
    | some c => rw [verdict?_of_given hg]
    | none =>
      rw [verdict?_of_ungiven hg]
      cases t.matchFault f with
      | none => exact ih
      | some s => rfl

/-- **Patterns decide alone** where no fault was given a category. -/
theorem firstVerdict_of_ungiven {t : Taxonomy} {fs : List Fault}
    (h : ∀ f ∈ fs, f.explicitCategory = .ok none) :
    t.firstVerdict fs = .ok ((fs.findSome? t.matchFault).map fun s => ⟨s.category, some s⟩) := by
  induction fs with
  | nil => rfl
  | cons f fs ih =>
    have ih := ih fun p hp => h p (by simp [hp])
    rw [firstVerdict, h f (by simp), List.findSome?_cons]
    cases t.matchFault f with
    | none => exact ih
    | some s => rfl

end Taxonomy

end Triage
