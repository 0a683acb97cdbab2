import Triage.Proofs.Classification.Grouping
import Triage.Proofs.Fault.Walk
import Triage.Proofs.Pattern.LetterCase

/-!
# Classifying without regard to case

Messages that differ at most in the case of ASCII letters are classified alike, and so are class names, except that an
outline asks for the very name of a class.

* `Taxonomy.patterns`: all patterns of a taxonomy, of whatever kind.
* `Category.selects_message_eq`, `Category.selects_name_eq`: what a category selects, under each method.
* `FaultGraph.Recased`: two graphs of faults whose messages differ in this way.
* `classify_ignores_case`: **a taxonomy classifies them alike**, unless a group of one of its patterns turns this off.
-/

namespace Triage

open Text (SameLetters)

/-! ## The patterns of a taxonomy -/

/-- The patterns of a group: the one for class names and those of the outlines. -/
def TypeGroup.patterns (t : TypeGroup) : List Pattern := t.classPattern.toList ++ t.outlines.map Outline.message

/-- The patterns of a category: the keywords and those of the groups. -/
def Category.patterns (c : Category) : List Pattern := c.keywords ++ c.types.flatMap TypeGroup.patterns

/-- All patterns of a taxonomy. -/
def Taxonomy.patterns (t : Taxonomy) : List Pattern := t.categories.flatMap Category.patterns

namespace Category

variable {c : Category} {t : TypeGroup} {o : Outline} {p : Pattern}

theorem keyword_mem_patterns (h : p ∈ c.keywords) : p ∈ c.patterns := List.mem_append_left _ h

theorem classPattern_mem_patterns (ht : t ∈ c.types) (hp : t.classPattern = some p) : p ∈ c.patterns := by
  have hmem : p ∈ t.patterns := List.mem_append_left _ (by simp [hp])
  exact List.mem_append_right _ (List.mem_flatMap.2 ⟨t, ht, hmem⟩)

theorem message_mem_patterns (ht : t ∈ c.types) (ho : o ∈ t.outlines) : o.message ∈ c.patterns := by
  have hmem : o.message ∈ t.patterns := List.mem_append_right _ (List.mem_map_of_mem ho)
  exact List.mem_append_right _ (List.mem_flatMap.2 ⟨t, ht, hmem⟩)

/-! ## What a category selects -/

variable {name name' message message' : String}

/-- Keywords do not tell the case of either text. -/
theorem selects_keyword_eq (hc : ∀ p ∈ c.patterns, ¬ p.RestoresCase) (hname : SameLetters name name')
    (hmessage : SameLetters message message') :
    c.selects name message .keyword = c.selects name' message' .keyword := by
  rw [Bool.eq_iff_iff]
  unfold selects
  rw [List.any_eq_true, List.any_eq_true]
  refine exists_congr fun p => and_congr_right fun hp => ?_
  have hblind := hc p (keyword_mem_patterns hp)
  rw [Pattern.search_eq hblind hname, Pattern.search_eq hblind hmessage]

/-- Patterns for class names do not tell its case; the message does not matter. -/
theorem selects_typeName_eq (hc : ∀ p ∈ c.patterns, ¬ p.RestoresCase) (hname : SameLetters name name') :
    c.selects name message .typeName = c.selects name' message' .typeName := by
  rw [Bool.eq_iff_iff]
  unfold selects
  rw [List.any_eq_true, List.any_eq_true]
  refine exists_congr fun t => and_congr_right fun ht => ?_
  rw [TypeGroup.selectsByName_iff, TypeGroup.selectsByName_iff]
  refine exists_congr fun p => and_congr_right fun hp => ?_
  rw [Pattern.search_eq (hc p (classPattern_mem_patterns ht hp)) hname]

/-- An outline does not tell the case of the message. -/
theorem selects_outline_eq (hc : ∀ p ∈ c.patterns, ¬ p.RestoresCase) (hmessage : SameLetters message message') :
    c.selects name message .outline = c.selects name message' .outline := by
  rw [Bool.eq_iff_iff]
  unfold selects TypeGroup.selectsByOutline Outline.selects
  simp only [List.any_eq_true, Bool.and_eq_true]
  refine exists_congr fun t => and_congr_right fun ht => exists_congr fun o => and_congr_right fun ho => ?_
  rw [Pattern.search_eq (hc _ (message_mem_patterns ht ho)) hmessage]

/-- **An outline asks for the very name** of a class. -/
theorem className_of_selects_outline (h : c.selects name message .outline = true) :
    ∃ t ∈ c.types, ∃ o ∈ t.outlines, name = o.className := by
  unfold selects TypeGroup.selectsByOutline Outline.selects at h
  obtain ⟨t, ht, h⟩ := List.any_eq_true.1 h
  obtain ⟨o, ho, h⟩ := List.any_eq_true.1 h
  have hname := (Bool.and_eq_true_iff.1 h).1
  exact ⟨t, ht, o, ho, beq_iff_eq.1 hname⟩

/-- **No method tells the case of the message.** -/
theorem selects_message_eq (hc : ∀ p ∈ c.patterns, ¬ p.RestoresCase) (hmessage : SameLetters message message')
    (m : Method) : c.selects name message m = c.selects name message' m := by
  cases m with
  | outline => exact selects_outline_eq hc hmessage
  | keyword => exact selects_keyword_eq hc (.refl name) hmessage
  | typeName => exact selects_typeName_eq hc (.refl name)

end Category

/-! ## Faults whose messages differ in case -/

/-- Messages that differ at most in the case of letters, or that cannot be shown for the same reason. -/
inductive Rendering.Recased : Rendering → Rendering → Prop where
  | text {s t : String} (letters : SameLetters s t) : Recased (.text s) (.text t)
  | broken (message : String) : Recased (.broken message) (.broken message)

/-- Two faults that are the same but for the case of letters in their messages. How they are shown where they are a
cause of another one is left open. -/
structure Fault.Recased (f f' : Fault) : Prop where
  rest : f' = { f with message := f'.message, shown := f'.shown }
  message : f.message.Recased f'.message

/-- Two graphs of such faults. -/
def FaultGraph.Recased (g g' : FaultGraph) : Prop := List.Forall₂ Fault.Recased g.faults.toList g'.faults.toList

namespace Fault.Recased

variable {f f' : Fault}

theorem matchText_letters (h : f.Recased f') : SameLetters f.matchText f'.matchText := by
  have hmessage := h.message
  unfold Fault.matchText
  generalize f.message = m, f'.message = m' at hmessage
  cases hmessage with
  | text letters => exact letters
  | broken message => exact .refl ""

theorem cls_eq (h : f.Recased f') : f'.cls = f.cls := by rw [h.rest]

theorem explicitCategory_eq (h : f.Recased f') : f'.explicitCategory = f.explicitCategory := by
  rw [h.rest]
  rfl

theorem causeLink_eq (h : f.Recased f') : FaultGraph.causeLink f' = FaultGraph.causeLink f := by
  rw [h.rest]
  rfl

end Fault.Recased

namespace FaultGraph.Recased

variable {g g' : FaultGraph}

/-- At each position there is such a pair of faults, or none. -/
theorem rel (h : g.Recased g') (i : Nat) : Option.Rel Fault.Recased (g.fault? i) (g'.fault? i) := by
  unfold FaultGraph.fault?
  rw [← Array.getElem?_toList, ← Array.getElem?_toList]
  unfold FaultGraph.Recased at h
  generalize g.faults.toList = fs, g'.faults.toList = fs' at h
  induction h generalizing i with
  | nil => exact .none
  | cons hf _ ih =>
    cases i with
    | zero => exact .some hf
    | succ i => exact ih i

theorem sameLinks (h : g.Recased g') : g.SameLinks g' where
  size := by
    have := h.length_eq
    simpa using this.symm
  link i := by
    have hrel := h.rel i
    generalize g.fault? i = o, g'.fault? i = o' at hrel
    cases hrel with
    | none => rfl
    | some hf => exact hf.causeLink_eq

/-- The walks meet such faults, one by one. -/
theorem walkFaults (h : g.Recased g') (i : Nat) (limit : Int) :
    List.Forall₂ Fault.Recased (g.walkFaults i limit) (g'.walkFaults i limit) := by
  unfold FaultGraph.walkFaults
  rw [h.sameLinks.walk_eq]
  induction g.walk i limit with
  | nil => exact .nil
  | cons j js ih =>
    have hrel := h.rel j
    rw [List.filterMap_cons, List.filterMap_cons]
    generalize g.fault? j = o, g'.fault? j = o' at hrel
    cases hrel with
    | none => exact ih
    | some hf => exact .cons hf ih

end FaultGraph.Recased

/-! ## Classifying -/

namespace Taxonomy

variable {t : Taxonomy}

theorem patterns_subset {c : Category} (hc : c ∈ t.categories) {p : Pattern} (hp : p ∈ c.patterns) : p ∈ t.patterns :=
  List.mem_flatMap.2 ⟨c, hc, hp⟩

theorem selectBy_recased (ht : ∀ p ∈ t.patterns, ¬ p.RestoresCase) (name : String) {message message' : String}
    (hmessage : SameLetters message message') (m : Method) : t.selectBy name message m = t.selectBy name message' m := by
  have hselects : ∀ c ∈ t.categories, c.selects name message m = c.selects name message' m :=
    fun c hc => Category.selects_message_eq (fun p hp => ht p (patterns_subset hc hp)) hmessage m
  unfold selectBy
  congr 1
  -- The first category that is selected is the same, since each is selected or not as before.
  generalize t.categories = cs at hselects
  induction cs with
  | nil => rfl
  | cons c cs ih =>
    rw [List.find?_cons, List.find?_cons, hselects c (by simp), ih fun d hd => hselects d (by simp [hd])]

theorem matchFault_recased (ht : ∀ p ∈ t.patterns, ¬ p.RestoresCase) {f f' : Fault} (h : f.Recased f') :
    t.matchFault f' = t.matchFault f := by
  unfold matchFault
  rw [h.cls_eq]
  congr 1
  funext m
  exact (selectBy_recased ht f.cls.name h.matchText_letters m).symm

/-- The search goes the same way along both walks: each fault has the same given category and the same selection. -/
theorem firstVerdict_recased (ht : ∀ p ∈ t.patterns, ¬ p.RestoresCase) {fs fs' : List Fault}
    (h : List.Forall₂ Fault.Recased fs fs') : t.firstVerdict fs' = t.firstVerdict fs := by
  induction h with
  | nil => rfl
  | cons hf _ ih => rw [firstVerdict, firstVerdict, hf.explicitCategory_eq, matchFault_recased ht hf, ih]

end Taxonomy

/-- **Case does not matter** in the messages that are searched, for a single fault and along the causes at every limit.
In class names it does not matter to keywords and patterns for class names, while an outline asks for the very name. -/
theorem classify_ignores_case {t : Taxonomy} (ht : ∀ p ∈ t.patterns, ¬ p.RestoresCase) :
    (∀ {g g' : FaultGraph}, g.Recased g' → ∀ i,
      (g'.fault? i).map t.matchFault = (g.fault? i).map t.matchFault ∧
        ∀ (limit : Int) (h : 1 ≤ limit), (Classifier.mk t limit h).classify g' i = (Classifier.mk t limit h).classify g i) ∧
      ∀ c ∈ t.categories, ∀ name message,
        (∀ name', SameLetters name name' →
          c.selects name' message .keyword = c.selects name message .keyword ∧
            c.selects name' message .typeName = c.selects name message .typeName) ∧
          (c.selects name message .outline = true → ∃ ty ∈ c.types, ∃ o ∈ ty.outlines, name = o.className) := by
  refine ⟨fun {g g'} hg i => ⟨?single, fun limit h => ?walk⟩, fun c hc name message => ⟨fun name' hname => ?_, ?_⟩⟩
  case single =>
    have hrel := hg.rel i
    generalize g.fault? i = o, g'.fault? i = o' at hrel
    cases hrel with
    | none => rfl
    | some hf => exact congrArg some (Taxonomy.matchFault_recased ht hf)
  case walk =>
    unfold Classifier.classify Taxonomy.classify
    rw [Taxonomy.firstVerdict_recased ht (hg.walkFaults i limit)]
  · have hpatterns := fun p hp => ht p (Taxonomy.patterns_subset hc hp)
    exact ⟨(Category.selects_keyword_eq hpatterns hname (.refl message)).symm,
      (Category.selects_typeName_eq hpatterns hname).symm⟩
  · exact Category.className_of_selects_outline

/-- A taxonomy with a keyword that uses a set, its complement and a repetition of what a group matched, and with an
outline. -/
def Taxonomy.diskAndFile : Taxonomy where
  categories :=
    [⟨"StorageError", [.ofText "(D[h-j]s[^L])-\\1"], [⟨"", some (.ofText "^io"), [⟨"EOFError", .ofText "File"⟩]⟩]⟩]
  distinct := by decide

/-- A fault of the given message and its cause. -/
def FaultGraph.diskBehind (first second : String) : FaultGraph where
  faults :=
    #[{ Fault.plain (.derive "ValueError" .exception) [.text first] with cause := some 1 },
      Fault.plain (.derive "OSError" .exception) [.text second]]

/-- The cause is selected by the keyword, in whatever case its message is written. -/
theorem classify_ignores_case_diskAndFile :
    (∀ p ∈ Taxonomy.diskAndFile.patterns, ¬ p.RestoresCase) ∧
      (FaultGraph.diskBehind "no file" "disk-Disk").Recased (.diskBehind "No FILE" "DISK-disk") ∧
      (Classifier.mk .diskAndFile 5 (by decide)).classify (.diskBehind "No FILE" "DISK-disk") 0 =
        (Classifier.mk .diskAndFile 5 (by decide)).classify (.diskBehind "no file" "disk-Disk") 0 ∧
      ((Classifier.mk .diskAndFile 5 (by decide)).classify (.diskBehind "no file" "disk-Disk") 0).toOption.map
        (·.category) = some "StorageError" := by
  have hpatterns : ∀ p ∈ Taxonomy.diskAndFile.patterns, ¬ p.RestoresCase := by
    decide +kernel
  have hgraphs : (FaultGraph.diskBehind "no file" "disk-Disk").Recased (.diskBehind "No FILE" "DISK-disk") :=
    .cons ⟨rfl, .text (by decide)⟩ (.cons ⟨rfl, .text (by decide)⟩ .nil)
  refine ⟨hpatterns, hgraphs, ?_, by decide +kernel⟩
  exact ((classify_ignores_case hpatterns).1 hgraphs 0).2 5 (by decide)

end Triage
