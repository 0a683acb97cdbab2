import Mathlib.Data.List.Basic
import Mathlib.Data.List.Forall2
import Triage.Proofs.Classification.FirstMatch

/-!
# How the patterns of a category are grouped

A category keeps its keywords in a list, and its outlines and its patterns for class names in groups. All that counts
is which texts stand in it: their order, their number and their groups carry no meaning, and neither does a group
without outlines or with an empty pattern.

* `Category.keywordTexts`, `Category.outlineTexts`, `Category.classPatternTexts`: the texts that stand in a category.
* `Category.selects_keyword_iff`, `Category.selects_outline_iff`, `Category.selects_typeName_iff`: what a category
  selects, said of these texts alone.
* `Category.Regrouped`, `Taxonomy.Regrouped`: the same texts in the same categories, grouped in any way.
* `grouping_carries_no_meaning`: **regrouped taxonomies answer alike**.
-/

namespace Triage

theorem Pattern.source_injective : Function.Injective Pattern.source := fun _ _ => Pattern.eq_iff.2

/-- The two texts of an outline: the name of a class, and the pattern for the message. -/
def Outline.texts (o : Outline) : String × String := (o.className, o.message.source)

theorem Outline.texts_injective : Function.Injective Outline.texts := by
  rintro ⟨name, p⟩ ⟨name', p'⟩ h
  obtain ⟨hname, hsource⟩ := Prod.mk.inj h
  have hp : p = p' := Pattern.source_injective hsource
  rw [hp, show name = name' from hname]

theorem TypeGroup.selectsByName_iff {t : TypeGroup} {name : String} :
    t.selectsByName name = true ↔
      ∃ p, t.classPattern = some p ∧ p.source.isEmpty = false ∧ p.search name = true := by
  unfold selectsByName
  cases t.classPattern with
  | none => simp
  | some p => simp

namespace Category

variable {c c' : Category} {name message : String}

/-- The keywords of a category. -/
def keywordTexts (c : Category) : List String := c.keywords.map Pattern.source

/-- The outlines of a category, from all its groups. -/
def outlineTexts (c : Category) : List (String × String) := c.types.flatMap fun t => t.outlines.map Outline.texts

/-- The patterns of a category for class names, from all its groups. Empty ones do not count. -/
def classPatternTexts (c : Category) : List String :=
  (c.types.filterMap fun t => t.classPattern.map Pattern.source).filter fun text => !text.isEmpty

theorem source_mem_keywordTexts {p : Pattern} : p.source ∈ c.keywordTexts ↔ p ∈ c.keywords :=
  List.mem_map_of_injective Pattern.source_injective

theorem texts_mem_outlineTexts {o : Outline} : o.texts ∈ c.outlineTexts ↔ ∃ t ∈ c.types, o ∈ t.outlines := by
  unfold outlineTexts
  simp only [List.mem_flatMap, List.mem_map_of_injective Outline.texts_injective]

theorem source_mem_classPatternTexts {p : Pattern} :
    p.source ∈ c.classPatternTexts ↔ (∃ t ∈ c.types, t.classPattern = some p) ∧ p.source.isEmpty = false := by
  unfold classPatternTexts
  rw [List.mem_filter, List.mem_filterMap, Bool.not_eq_true']
  refine and_congr_left fun _ => exists_congr fun t => and_congr_right fun _ => ?_
  rw [Option.map_eq_some_iff]
  constructor
  · rintro ⟨q, hq, hsource⟩
    rw [hq, Pattern.source_injective hsource]
  · intro hp
    exact ⟨p, hp, rfl⟩

/-! ## What a category selects -/

theorem selects_keyword_iff :
    c.selects name message .keyword = true ↔
      ∃ p : Pattern, p.source ∈ c.keywordTexts ∧ (p.search message || p.search name) = true := by
  simp only [selects, List.any_eq_true, source_mem_keywordTexts]

/-- It does not matter which group an outline comes from. -/
theorem selects_outline_iff :
    c.selects name message .outline = true ↔
      ∃ o : Outline, o.texts ∈ c.outlineTexts ∧ o.selects name message = true := by
  simp only [selects, TypeGroup.selectsByOutline, List.any_eq_true, texts_mem_outlineTexts]
  constructor
  · rintro ⟨t, ht, o, ho, hsel⟩
    exact ⟨o, ⟨t, ht, ho⟩, hsel⟩
  · rintro ⟨o, ⟨t, ht, ho⟩, hsel⟩
    exact ⟨t, ht, o, ho, hsel⟩

/-- It does not matter which group a pattern for class names comes from, and an empty one selects nothing. -/
theorem selects_typeName_iff :
    c.selects name message .typeName = true ↔
      ∃ p : Pattern, p.source ∈ c.classPatternTexts ∧ p.search name = true := by
  simp only [selects, List.any_eq_true, TypeGroup.selectsByName_iff, source_mem_classPatternTexts]
  constructor
  · rintro ⟨t, ht, p, hp, hne, hsearch⟩
    exact ⟨p, ⟨⟨t, ht, hp⟩, hne⟩, hsearch⟩
  · rintro ⟨p, ⟨⟨t, ht, hp⟩, hne⟩, hsearch⟩
    exact ⟨t, ht, p, hp, hne, hsearch⟩

/-- Two categories of one name in which the same texts stand. -/
structure Regrouped (c c' : Category) : Prop where
  name : c.name = c'.name
  keywords : ∀ text, text ∈ c.keywordTexts ↔ text ∈ c'.keywordTexts
  outlines : ∀ texts, texts ∈ c.outlineTexts ↔ texts ∈ c'.outlineTexts
  classPatterns : ∀ text, text ∈ c.classPatternTexts ↔ text ∈ c'.classPatternTexts

/-- **Regrouped categories select alike**, by each method. -/
theorem Regrouped.selects_eq (h : c.Regrouped c') (name message : String) (m : Method) :
    c.selects name message m = c'.selects name message m := by
  rw [Bool.eq_iff_iff]
  cases m with
  | outline => simp only [selects_outline_iff, h.outlines]
  | keyword => simp only [selects_keyword_iff, h.keywords]
  | typeName => simp only [selects_typeName_iff, h.classPatterns]

/-- The first category that selects has the same name, wherever categories were regrouped. -/
theorem find?_regrouped {cs cs' : List Category} (h : List.Forall₂ Regrouped cs cs') (name message : String)
    (m : Method) :
    (cs.find? fun c => c.selects name message m).map Category.name =
      (cs'.find? fun c => c.selects name message m).map Category.name := by
  induction h with
  | nil => rfl
  | @cons c c' cs cs' hc _ ih =>
    rw [List.find?_cons, List.find?_cons, hc.selects_eq]
    cases c'.selects name message m with
    | true => exact congrArg some hc.name
    | false => exact ih

end Category

namespace Taxonomy

variable {t t' : Taxonomy}

/-- Two taxonomies that have the same categories in the same order, but for the grouping within each. -/
def Regrouped (t t' : Taxonomy) : Prop := List.Forall₂ Category.Regrouped t.categories t'.categories

namespace Regrouped

theorem selectBy_eq (h : t.Regrouped t') (name message : String) (m : Method) :
    t.selectBy name message m = t'.selectBy name message m := by
  have hname := Category.find?_regrouped h name message m
  -- a selection tells of its category by the name alone
  have hselection := congrArg (Option.map fun category : String => Selection.mk name category m) hname
  rwa [Option.map_map, Option.map_map] at hselection

/-- **A single fault** is selected alike. -/
theorem matchFault_eq (h : t.Regrouped t') (f : Fault) : t.matchFault f = t'.matchFault f := by
  have hselectBy : t.selectBy f.cls.name f.matchText = t'.selectBy f.cls.name f.matchText :=
    funext fun m => h.selectBy_eq _ _ m
  unfold matchFault
  rw [hselectBy]

theorem firstVerdict_eq (h : t.Regrouped t') (fs : List Fault) : t.firstVerdict fs = t'.firstVerdict fs := by
  induction fs with
  | nil => rfl
  | cons f fs ih => rw [firstVerdict, firstVerdict, h.matchFault_eq, ih]

end Regrouped

end Taxonomy

/-- **Grouping and order inside a category carry no meaning.** Let two taxonomies have the same categories in the same
order, and let the same keywords, the same outlines and the same patterns for class names stand in each, but for empty
ones, however they are grouped, ordered or repeated.

* Every fault is selected alike: by the same method, for the category of the same name, or not at all.
* Every classifier answers alike along every walk; on legal faults it does answer. -/
theorem grouping_carries_no_meaning {t t' : Taxonomy} (h : t.Regrouped t') :
    (∀ f, t.matchFault f = t'.matchFault f) ∧
      ∀ (limit : Int) (hl : 1 ≤ limit) (g : FaultGraph) (i : Nat),
        (Classifier.mk t limit hl).classify g i = (Classifier.mk t' limit hl).classify g i ∧
          (g.IsLegal → ∃ v, (Classifier.mk t limit hl).classify g i = .ok v ∧
            (Classifier.mk t' limit hl).classify g i = .ok v) := by
  refine ⟨h.matchFault_eq, fun limit hl g i => ?_⟩
  have hsame : (Classifier.mk t limit hl).classify g i = (Classifier.mk t' limit hl).classify g i := by
    unfold Classifier.classify Taxonomy.classify
    rw [h.firstVerdict_eq]
  refine ⟨hsame, fun hg => ?_⟩
  obtain ⟨v, hv, -⟩ := classify_firstMatch (Classifier.mk t limit hl) hg i
  exact ⟨v, hv, hsame ▸ hv⟩

/-- The pattern of a text, or the empty one if the text is none. -/
def Pattern.ofText (text : String) : Pattern :=
  (Pattern.compile text).toOption.getD ((Pattern.compile "").toOption.get Pattern.isSome_compile_empty)

/-- A category with two keywords and with two groups: one with two outlines and a pattern for class names, and one with
another outline. -/
def Category.asWritten : Category where
  name := "LateError"
  keywords := [.ofText "late", .ofText "slow"]
  types :=
    [⟨"values", some (.ofText "^Value"), [⟨"KeyError", .ofText ""⟩, ⟨"OSError", .ofText "disk"⟩]⟩,
      ⟨"rest", none, [⟨"ValueError", .ofText "boom"⟩]⟩]

/-- The same category with its keywords the other way round, and with its first group split up, renamed and moved behind
the other one, which is there twice and has taken over one of its outlines and an empty pattern. -/
def Category.asRewritten : Category where
  name := "LateError"
  keywords := [.ofText "slow", .ofText "late", .ofText "slow"]
  types :=
    [⟨"rest", some (.ofText ""), [⟨"OSError", .ofText "disk"⟩, ⟨"ValueError", .ofText "boom"⟩]⟩,
      ⟨"rest", some (.ofText ""), [⟨"ValueError", .ofText "boom"⟩]⟩,
      ⟨"", some (.ofText "^Value"), []⟩,
      ⟨"keys", none, [⟨"KeyError", .ofText ""⟩]⟩]

/-- The taxonomy of this category alone. -/
def Taxonomy.asWritten : Taxonomy := ⟨[.asWritten], by decide⟩

/-- The taxonomy of the rewritten one. -/
def Taxonomy.asRewritten : Taxonomy := ⟨[.asRewritten], by decide⟩

theorem Category.regrouped_asRewritten : Category.asWritten.Regrouped .asRewritten where
  name := rfl
  keywords text := by
    have hthere : Category.asWritten.keywordTexts ⊆ Category.asRewritten.keywordTexts := by decide +kernel
    have hback : Category.asRewritten.keywordTexts ⊆ Category.asWritten.keywordTexts := by decide +kernel
    exact ⟨@hthere text, @hback text⟩
  outlines texts := by
    have hthere : Category.asWritten.outlineTexts ⊆ Category.asRewritten.outlineTexts := by decide +kernel
    have hback : Category.asRewritten.outlineTexts ⊆ Category.asWritten.outlineTexts := by decide +kernel
    exact ⟨@hthere texts, @hback texts⟩
  classPatterns text := by
    have hthere : Category.asWritten.classPatternTexts ⊆ Category.asRewritten.classPatternTexts := by decide +kernel
    have hback : Category.asRewritten.classPatternTexts ⊆ Category.asWritten.classPatternTexts := by decide +kernel
    exact ⟨@hthere text, @hback text⟩

/-- The outline that selects the second fault has a group of its own in the one taxonomy. In the other one it stands
behind another outline, and then once more on its own. -/
theorem grouping_carries_no_meaning_asRewritten :
    Taxonomy.asWritten.Regrouped .asRewritten ∧ FaultGraph.boomBehind.IsLegal ∧
      ∃ v, (Classifier.mk .asWritten 5 (by decide)).classify .boomBehind 0 = .ok v ∧
        (Classifier.mk .asRewritten 5 (by decide)).classify .boomBehind 0 = .ok v ∧ v.category = "LateError" := by
  have hregrouped : Taxonomy.asWritten.Regrouped .asRewritten := .cons Category.regrouped_asRewritten .nil
  have hg : FaultGraph.boomBehind.IsLegal := by decide +kernel
  obtain ⟨-, hclassify⟩ := grouping_carries_no_meaning hregrouped
  obtain ⟨v, hv, hv'⟩ := (hclassify 5 (by decide) .boomBehind 0).2 hg
  have hlate : ((Classifier.mk .asWritten 5 (by decide)).classify .boomBehind 0).toOption.map (·.category) =
      some "LateError" := by decide +kernel
  rw [hv] at hlate
  exact ⟨hregrouped, hg, v, hv, hv', Option.some.inj hlate⟩

end Triage
