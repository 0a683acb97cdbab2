import Triage.Taxonomy.Basic

/-!
# Matching a fault against a category

* `Method`: the three ways in which a category selects a fault, in `Method.all` by descending priority.
* `Category.selects`: whether a category selects a class name and message in the given way.
* `Category.selectsAny_iff`: a category selects in some way exactly if one of the three does.
-/

namespace Triage

/-- A way in which a category selects faults. -/
inductive Method where
  | outline
  | keyword
  | typeName
  deriving DecidableEq, Repr

namespace Method

/-- The methods by descending priority. -/
def all : List Method := [outline, keyword, typeName]

/-- The name of a method in messages. -/
def title : Method → String
  | outline => "EXCEPTION_OUTLINE_MATCHING"
  | keyword => "KEYWORDS_MATCHING"
  | typeName => "TYPE_NAME_MATCHING"

/-- The method of the given name in a request. -/
def ofName? : String → Option Method
  | "exception_outline" => some outline
  | "keywords" => some keyword
  | "type_name" => some typeName
  | _ => none

/-- The complaint about something else in place of a method. -/
def invalidMessage (shown : String) : String := s!"Invalid matching method: {shown}"

/-- Every method has its place in the order. -/
theorem mem_all (m : Method) : m ∈ all := by
  cases m <;> simp [all]

end Method

/-- The class name is the very one and the message contains the pattern. -/
def Outline.selects (o : Outline) (name message : String) : Bool :=
  name == o.className && o.message.search message

namespace TypeGroup

/-- Some outline of the group selects the fault. -/
def selectsByOutline (t : TypeGroup) (name message : String) : Bool :=
  t.outlines.any fun o => o.selects name message

/-- The pattern of the group is found in the class name. An empty pattern, which would be found in every
name, selects nothing. -/
def selectsByName (t : TypeGroup) (name : String) : Bool :=
  match t.classPattern with
  | some p => !p.source.isEmpty && p.search name
  | none => false

end TypeGroup

namespace Category

/-- Whether the category selects the class name and message in the given way. -/
def selects (c : Category) (name message : String) : Method → Bool
  | .outline => c.types.any fun t => t.selectsByOutline name message
  | .keyword => c.keywords.any fun p => p.search message || p.search name
  | .typeName => c.types.any fun t => t.selectsByName name

/-- Whether the category selects in any way. -/
def selectsAny (c : Category) (name message : String) : Bool :=
  Method.all.any (c.selects name message)

/-- A category selects in some way exactly if there is a method by which it does. -/
theorem selectsAny_iff {c : Category} {name message : String} :
    c.selectsAny name message = true ↔ ∃ m, c.selects name message m = true := by
  simp only [selectsAny, List.any_eq_true]
  exact ⟨fun ⟨m, _, h⟩ => ⟨m, h⟩, fun ⟨m, h⟩ => ⟨m, m.mem_all, h⟩⟩

end Category

end Triage
