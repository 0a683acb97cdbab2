import Triage.Taxonomy.Basic
import Triage.Validation.Field

/-!
# Reading a taxonomy

A taxonomy is written as a mapping whose `categories` are a list, or as that list alone. Every category,
group and outline is a mapping with known keys only.

* `Taxonomy.ofValue`: the taxonomy that a value describes, or the reason why there is none.
* `Taxonomy.Refusal`: those reasons; the outermost shape is looked at first, then all entries together.
-/

namespace Triage

namespace Outline

/-- The field of the class name. -/
def classNameField : FieldName := ⟨"ExceptionName", "exception_name"⟩

/-- The field of the message pattern. -/
def messageField : FieldName := ⟨"MessageRegex", "message_regex"⟩

/-- A message pattern; without one every message is right. -/
def checkMessage : Value → Checked Pattern
  | .null => checkPattern ""
  | v => (checkText v).andThen checkPattern

/-- Reads an outline. -/
def check : Value → Checked Outline
  | .map es =>
    let build n m (_ : Unit) : Outline := ⟨n, m⟩
    let className _ := classNameField.required checkNonEmptyText es
    let message _ := match messageField.find? es with
      | some (key, v) => (checkMessage v).inside (.key key)
      | none => checkPattern ""
    let known _ := checkNoUnknownKeys [classNameField, messageField] es
    .ap (.ap (.ap (.ok build) className) message) known
  | _ => .fail (.notRecord "ExceptionOutline")

end Outline

namespace TypeGroup

/-- The field of the group's name. -/
def nameField : FieldName := ⟨"TypeName", "type_name"⟩

/-- The field of the pattern for class names. -/
def classPatternField : FieldName := ⟨"TypeExceptionRegex", "type_name_regex"⟩

/-- The field of the outlines. -/
def outlinesField : FieldName := ⟨"Exceptions", "exceptions"⟩

/-- A pattern for class names, or nothing. -/
def checkClassPattern : Value → Checked (Option Pattern)
  | .null => .ok none
  | v => ((checkText v).andThen checkPattern).andThen fun p => .ok (some p)

/-- Reads a group. -/
def check : Value → Checked TypeGroup
  | .map es =>
    let build n p o (_ : Unit) : TypeGroup := ⟨n, p, o⟩
    let name _ := nameField.optional "" checkText es
    let classPattern _ := classPatternField.optional none checkClassPattern es
    let outlines _ := outlinesField.optional [] (checkOptionalList Outline.check) es
    let known _ := checkNoUnknownKeys [nameField, classPatternField, outlinesField] es
    .ap (.ap (.ap (.ap (.ok build) name) classPattern) outlines) known
  | _ => .fail (.notRecord "ErrorType")

end TypeGroup

namespace Category

/-- The field of the category's name. -/
def nameField : FieldName := ⟨"CategoryName", "name"⟩

/-- The field of the keywords. -/
def keywordsField : FieldName := ⟨"Keywords", "keywords"⟩

/-- The field of the groups. -/
def typesField : FieldName := ⟨"Types", "types"⟩

/-- Keywords: texts first, then patterns up to the first that is none. -/
def checkKeywords (v : Value) : Checked (List Pattern) :=
  (checkOptionalList checkText v).andThen (Checked.untilFailure checkPattern)

/-- Reads a category. -/
def check : Value → Checked Category
  | .map es =>
    let build n k t (_ : Unit) : Category := ⟨n, k, t⟩
    let name _ := nameField.required checkNonEmptyText es
    let keywords _ := keywordsField.optional [] checkKeywords es
    let types _ := typesField.optional [] (checkOptionalList TypeGroup.check) es
    let known _ := checkNoUnknownKeys [nameField, keywordsField, typesField] es
    .ap (.ap (.ap (.ap (.ok build) name) keywords) types) known
  | _ => .fail (.notRecord "Category")

end Category

namespace Taxonomy

/-- The names that occur more than once, in ascending order. -/
def duplicates (names : List String) : List String :=
  ((names.filter fun n => 1 < names.count n).eraseDups).mergeSort fun a b => decide (a ≤ b)

/-- A taxonomy of the given categories, if their names differ. -/
def ofCategories (cs : List Category) : Checked Taxonomy :=
  if h : (cs.map Category.name).Nodup then .ok ⟨cs, h⟩
  else .fail (.refused (.duplicateNames (duplicates (cs.map Category.name))))

/-- Reads the list of categories. -/
def checkCategories (vs : List Value) : Checked Taxonomy :=
  ((Checked.items Category.check 0 vs).andThen ofCategories).inside (.key "categories")

/-- Why a value describes no taxonomy. -/
inductive Refusal where
  | noCategories
  | categoriesNotList (kind : String)
  | categoryNotMapping (position : Nat) (kind : String)
  | invalid (issues : List Issue)
  | beyondLimit (failure : Pattern.Failure)
  deriving DecidableEq, Repr

/-- The wording of a refusal. -/
def Refusal.message : Refusal → String
  | noCategories => "exception data must define a 'categories' list"
  | categoriesNotList kind => s!"categories must be a list, got {kind}"
  | categoryNotMapping i kind => s!"category #{i} must be a mapping, got {kind}"
  | invalid issues => Issue.report "Taxonomy" issues
  | beyondLimit f => f.message ""

/-- The first entry that is no mapping, counted from `i`. -/
def firstNonMapping? (i : Nat) : List Value → Option Refusal
  | [] => none
  | .map _ :: vs => firstNonMapping? (i + 1) vs
  | v :: _ => some (.categoryNotMapping i v.kind)

/-- The part of a document that lists the categories. -/
def categoriesPart : Value → Except Refusal Value
  | .map es =>
    match Value.entry? "categories" es with
    | some v => .ok v
    | none => .error .noCategories
  | v => .ok v

/-- The taxonomy that a value describes. -/
def ofValue (v : Value) : Except Refusal Taxonomy :=
  match categoriesPart v with
  | .error r => .error r
  | .ok (.list vs) =>
    match firstNonMapping? 0 vs with
    | some r => .error r
    | none =>
      match checkCategories vs with
      | .ok t => .ok t
      | .failed (.issues is) => .error (.invalid is)
      | .failed (.beyondLimit f) => .error (.beyondLimit f)
  | .ok v => .error (.categoriesNotList v.kind)

end Taxonomy

end Triage
