import Triage.Classification.Classifier
import Triage.Proofs.Taxonomy.Grammar

/-!
# Patterns that are compiled when they are needed

A pattern may be kept as its text alone, and compiled whenever a text is searched. This could fail in the middle of a
classification. It never does, since the text of every pattern of a taxonomy was compiled when it was accepted.

Here is the classification in which nothing but the texts of the patterns is used. At each step stands what it comes to:

* `Category.selectsAnew`: under each of the three methods, whether a category selects a fault.
* `Taxonomy.matchAnew`: the selection for a fault.
* `Taxonomy.firstVerdictAnew`, `Classifier.classifyAnew`: the search along a walk.
* `classifyAnew_eq`: **compiling never fails**, and the answer is that of the classifier.
-/

namespace Triage

namespace Pattern

/-- Searches a text for a pattern of which only the source is kept. -/
def searchAnew (source text : String) : Except Failure Bool :=
  (compile source).map fun p => p.search text

theorem searchAnew_source (p : Pattern) (text : String) : searchAnew p.source text = pure (p.search text) := by
  unfold searchAnew
  rw [compile_eq_ok_iff.2 rfl]
  rfl

end Pattern

open Pattern (Failure)

namespace Outline

/-- Whether an outline selects; its pattern is compiled only if the class name is the very one. -/
def selectsAnew (o : Outline) (name message : String) : Except Failure Bool :=
  if name == o.className then Pattern.searchAnew o.message.source message else pure false

theorem selectsAnew_eq (o : Outline) (name message : String) :
    o.selectsAnew name message = pure (o.selects name message) := by
  unfold selectsAnew selects
  cases name == o.className with
  | false => rfl
  | true => exact Pattern.searchAnew_source o.message message

end Outline

namespace TypeGroup

/-- Whether some outline of the group selects; those behind it are not compiled. -/
def selectsByOutlineAnew (t : TypeGroup) (name message : String) : Except Failure Bool :=
  t.outlines.anyM fun o => o.selectsAnew name message

theorem selectsByOutlineAnew_eq (t : TypeGroup) (name message : String) :
    t.selectsByOutlineAnew name message = pure (t.selectsByOutline name message) := by
  unfold selectsByOutlineAnew selectsByOutline
  simp only [Outline.selectsAnew_eq]
  exact List.anyM_pure

/-- Whether the group selects by its pattern for class names. An empty pattern is not compiled. -/
def selectsByNameAnew (t : TypeGroup) (name : String) : Except Failure Bool :=
  match t.classPattern with
  | some p => if p.source.isEmpty then pure false else Pattern.searchAnew p.source name
  | none => pure false

theorem selectsByNameAnew_eq (t : TypeGroup) (name : String) :
    t.selectsByNameAnew name = pure (t.selectsByName name) := by
  unfold selectsByNameAnew selectsByName
  cases t.classPattern with
  | none => rfl
  | some p =>
    dsimp only
    rw [Pattern.searchAnew_source]
    cases p.source.isEmpty <;> rfl

end TypeGroup

namespace Category

/-- Whether the category selects in the given way. The keywords are compiled all together, before the first one is
searched for. -/
def selectsAnew (c : Category) (name message : String) : Method → Except Failure Bool
  | .outline => c.types.anyM fun t => t.selectsByOutlineAnew name message
  | .keyword => do
    let keywords ← c.keywords.mapM fun p => Pattern.compile p.source
    return keywords.any fun p => p.search message || p.search name
  | .typeName => c.types.anyM fun t => t.selectsByNameAnew name

/-- **No method fails to compile a pattern.** -/
theorem selectsAnew_eq (c : Category) (name message : String) (m : Method) :
    c.selectsAnew name message m = pure (c.selects name message m) := by
  cases m with
  | outline =>
    show (c.types.anyM fun t => t.selectsByOutlineAnew name message) = _
    simp only [TypeGroup.selectsByOutlineAnew_eq]
    exact List.anyM_pure
  | keyword =>
    have hcompile : (fun p : Pattern => Pattern.compile p.source) = fun p => pure (id p) :=
      funext fun _ => Pattern.compile_eq_ok_iff.2 rfl
    have hkeywords : (c.keywords.mapM fun p => Pattern.compile p.source) = pure c.keywords := by
      rw [hcompile, List.mapM_pure, List.map_id]
    unfold selectsAnew
    dsimp only
    rw [hkeywords]
    rfl
  | typeName =>
    show (c.types.anyM fun t => t.selectsByNameAnew name) = _
    simp only [TypeGroup.selectsByNameAnew_eq]
    exact List.anyM_pure

end Category

namespace Taxonomy

variable (t : Taxonomy)

/-- The first category that selects a fault by the given method. -/
def selectByAnew (name message : String) (m : Method) : Except Failure (Option Selection) := do
  let c ← t.categories.findM? fun c => c.selectsAnew name message m
  return c.map fun c => ⟨name, c.name, m⟩

theorem selectByAnew_eq (name message : String) (m : Method) :
    t.selectByAnew name message m = pure (t.selectBy name message m) := by
  unfold selectByAnew selectBy
  simp only [Category.selectsAnew_eq]
  rw [List.findM?_pure]
  rfl

/-- The selection for a fault. -/
def matchAnew (f : Fault) : Except Failure (Option Selection) :=
  Method.all.findSomeM? (t.selectByAnew f.cls.name f.matchText)

theorem matchAnew_eq (f : Fault) : t.matchAnew f = pure (t.matchFault f) := by
  unfold matchAnew matchFault
  have hselect : t.selectByAnew f.cls.name f.matchText = fun m => pure (t.selectBy f.cls.name f.matchText m) :=
    funext fun m => t.selectByAnew_eq f.cls.name f.matchText m
  rw [hselect]
  exact List.findSomeM?_pure

/-- The category of the first fault that was given one or is selected. Compiling may fail on the way, and so may asking
for a category that was given. -/
def firstVerdictAnew : List Fault → Except Failure (Except IllegalCategory (Option Verdict))
  | [] => pure (.ok none)
  | f :: fs =>
    match f.explicitCategory with
    | .error e => pure (.error e)
    | .ok (some c) => pure (.ok (some ⟨c.name, none⟩))
    | .ok none => do
      match ← t.matchAnew f with
      | some s => return .ok (some ⟨s.category, some s⟩)
      | none => firstVerdictAnew fs

theorem firstVerdictAnew_eq (fs : List Fault) : t.firstVerdictAnew fs = pure (t.firstVerdict fs) := by
  induction fs with
  | nil => rfl
  | cons f fs ih =>
    rw [firstVerdictAnew, firstVerdict, matchAnew_eq, ih]
    rcases f.explicitCategory with e | _ | c
    · rfl
    · cases t.matchFault f <;> rfl
    · rfl

end Taxonomy

/-- The category of a fault of a graph. -/
def Classifier.classifyAnew (c : Classifier) (g : FaultGraph) (i : Nat) :
    Except Failure (Except IllegalCategory Taxonomy.Verdict) := do
  let v ← c.taxonomy.firstVerdictAnew (g.walkFaults i c.depthLimit)
  return v.map fun v => v.getD ⟨StandardCategory.unknown.name, none⟩

/-- **Compiling never fails in the middle of a classification**, and the answer is that of the classifier. -/
theorem Classifier.classifyAnew_eq (c : Classifier) (g : FaultGraph) (i : Nat) :
    c.classifyAnew g i = .ok (c.classify g i) := by
  unfold classifyAnew
  rw [Taxonomy.firstVerdictAnew_eq]
  rfl

end Triage
