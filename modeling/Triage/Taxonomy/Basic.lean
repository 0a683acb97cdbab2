import Triage.Pattern.Basic

/-!
# Taxonomies

A taxonomy is an ordered list of categories. A category selects faults in three ways: by an outline, which
is the exact name of a fault's class together with a pattern for its message; by a keyword, which is a
pattern for the message or the class name; and by a pattern for the class name alone.

* `Taxonomy.distinct`: no two categories of a taxonomy have the same name.
* `Taxonomy.get?`: a category by its name.
-/

namespace Triage

/-- The exact name of a class together with a pattern that the message has to contain. -/
structure Outline where
  className : String
  message : Pattern
  deriving DecidableEq

/-- A group of patterns within a category. -/
structure TypeGroup where
  name : String
  classPattern : Option Pattern
  outlines : List Outline
  deriving DecidableEq

/-- A category and the patterns that select it. -/
structure Category where
  name : String
  keywords : List Pattern
  types : List TypeGroup
  deriving DecidableEq

/-- An ordered list of categories of different names. -/
structure Taxonomy where
  categories : List Category
  distinct : (categories.map Category.name).Nodup
  deriving DecidableEq

namespace Taxonomy

/-- The names of the categories, in order. -/
def names (t : Taxonomy) : List String :=
  t.categories.map Category.name

/-- The taxonomy without categories. -/
def empty : Taxonomy := ⟨[], by simp⟩

/-- The category of the given name. -/
def get? (t : Taxonomy) (name : String) : Option Category :=
  t.categories.find? fun c => c.name == name

end Taxonomy

/-- The number of outlines of a category. -/
def Category.outlineCount (c : Category) : Nat :=
  c.types.foldr (fun t n => t.outlines.length + n) 0

end Triage
