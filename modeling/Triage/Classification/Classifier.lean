import Triage.Fault.Basic
import Triage.Fault.Label
import Triage.Taxonomy.Matching

/-!
# Classifying faults

A fault gets the category that it or one of its causes was given, or the one that a taxonomy selects it for.

* `Fault.explicitCategory`: the category that a structured fault was given.
* `findExplicit`: the first such category along a walk.
* `Taxonomy.matchFault`: the category that a taxonomy selects a fault for: the first category under the
  first method under which there is one.
* `Taxonomy.classify`: the category of the first fault of a walk that has one either way.
-/

namespace Triage

/-- A value stands on a fault as its category and is none. -/
structure IllegalCategory where
  value : Value
  deriving Repr

/-- The wording for it. -/
def IllegalCategory.message (e : IllegalCategory) : String :=
  s!"{e.value.shown} is not a valid ExceptionCategory"

namespace Fault

/-- The category that was given to a structured fault. The unknown category does not count if it was
given as such; put there as a plain value it does. -/
def explicitCategory (f : Fault) : Except IllegalCategory (Option StandardCategory) :=
  if f.cls.isEngine then
    match f.category with
    | none => .ok none
    | some (.checked .unknown) => .ok none
    | some (.checked c) => .ok (some c)
    | some (.unchecked v) =>
      match StandardCategory.ofValue? v with
      | some c => .ok (some c)
      | none => .error ⟨v⟩
  else .ok none

/-- Whether a structured fault has a category that counts. -/
def hasExplicitCategory (f : Fault) : Bool :=
  match f.category with
  | none => false
  | some (.checked c) => c != .unknown
  | some (.unchecked _) => true

end Fault

/-- The first category that was given to a fault of the list. -/
def findExplicit : List Fault → Except IllegalCategory (Option StandardCategory)
  | [] => .ok none
  | f :: fs =>
    match f.explicitCategory with
    | .error e => .error e
    | .ok (some c) => .ok (some c)
    | .ok none => findExplicit fs

/-- A category selected for a fault, and the method that selected it. -/
structure Selection where
  className : String
  category : String
  method : Method
  deriving DecidableEq, Repr

/-- The line that tells of a selection. -/
def Selection.line (s : Selection) : String :=
  s!"Matched {s.className} to {s.category} via {s.method.title}"

namespace Taxonomy

/-- The first category that selects a fault by the given method. -/
def selectBy (t : Taxonomy) (name message : String) (m : Method) : Option Selection :=
  (t.categories.find? fun c => c.selects name message m).map fun c => ⟨name, c.name, m⟩

/-- The selection for a fault: the first category under the first method that has one. -/
def matchFault (t : Taxonomy) (f : Fault) : Option Selection :=
  Method.all.findSome? (t.selectBy f.cls.name f.matchText)

/-- A category that was found, and the selection that found it, if it was not given to the fault. -/
structure Verdict where
  category : String
  selection : Option Selection
  deriving DecidableEq, Repr

/-- The category of the first fault that was given one or is selected. -/
def firstVerdict (t : Taxonomy) : List Fault → Except IllegalCategory (Option Verdict)
  | [] => .ok none
  | f :: fs =>
    match f.explicitCategory with
    | .error e => .error e
    | .ok (some c) => .ok (some ⟨c.name, none⟩)
    | .ok none =>
      match t.matchFault f with
      | some s => .ok (some ⟨s.category, some s⟩)
      | none => firstVerdict t fs

/-- The category along a walk; without any it is the unknown category. -/
def classify (t : Taxonomy) (walk : List Fault) : Except IllegalCategory Verdict :=
  (t.firstVerdict walk).map fun v => v.getD ⟨StandardCategory.unknown.name, none⟩

end Taxonomy

/-- A taxonomy together with the number of faults along a walk that are looked at. -/
structure Classifier where
  taxonomy : Taxonomy
  depthLimit : Int
  one_le : 1 ≤ depthLimit

namespace Classifier

/-- A classifier; the limit must let at least one fault through. -/
def make (t : Taxonomy) (depthLimit : Int) : Except String Classifier :=
  if h : 1 ≤ depthLimit then .ok ⟨t, depthLimit, h⟩
  else .error s!"depth_limit must be >= 1, got {depthLimit}"

/-- The category of a fault of a graph. -/
def classify (c : Classifier) (g : FaultGraph) (i : Nat) : Except IllegalCategory Taxonomy.Verdict :=
  c.taxonomy.classify (g.walkFaults i c.depthLimit)

end Classifier

end Triage
