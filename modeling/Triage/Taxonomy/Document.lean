import Triage.Files.Tree
import Triage.Taxonomy.Reading
import Triage.Taxonomy.Standard
import Triage.Yaml.Construction

/-!
# Taxonomy documents

* `Taxonomy.ofSource`: the taxonomy of a document.
* `Taxonomy.ofFile`: the taxonomy of a file, or the standard one if no file is named.
* `Taxonomy.LoadError`: why there is none.
-/

namespace Triage.Taxonomy

/-- Why a document gives no taxonomy. -/
inductive LoadError where
  | unreadable (path : String) (e : ReadError)
  | malformed (source : Yaml.Source) (e : Yaml.Error)
  | emptyDocument (name : String)
  | refused (r : Refusal)

namespace LoadError

/-- The message on a file that does not exist. -/
def notFound (path : String) : String := s!"Exception data file not found: {path}"

/-- The name of the error. -/
def name : LoadError → String
  | unreadable _ e => e.name
  | malformed _ e => e.name
  | emptyDocument _ => "ValueError"
  | refused (.invalid _) => "ValidationError"
  | refused (.beyondLimit _) => "OverflowError"
  | refused _ => "ValueError"

/-- The full text of the error. -/
def message : LoadError → String
  | unreadable path e => e.message (notFound path)
  | malformed source e => e.message source.name source.shownText
  | emptyDocument name => s!"Empty document: {name}"
  | refused r => r.message

/-- The error as it is shown as a cause. -/
def shown (e : LoadError) : String :=
  match e with
  | unreadable path r => r.shown (notFound path)
  | malformed _ y => y.shown
  | refused (.invalid _) => e.message
  | e => s!"{e.name}({Text.quoted e.message})"

/-- The fault behind the error as it is shown as a cause, where it has one. -/
def behind? : LoadError → Option String
  | malformed _ e => e.behind?
  | _ => none

/-- Whether the error is one of files, of the format or of values; other ones come from within. -/
def isExpected : LoadError → Bool
  | unreadable .. | emptyDocument _ => true
  | malformed _ e => e.isOfFormat || e.name == "ValueError"
  | refused (.beyondLimit _) => false
  | refused _ => true

end LoadError

/-- The taxonomy of a document; `name` is how messages call it. -/
def ofSource (source : Yaml.Source) (name : String) : Except LoadError Taxonomy :=
  match Yaml.load source with
  | .error e => .error (.malformed source e)
  | .ok .null => .error (.emptyDocument name)
  | .ok v => (ofValue v).mapError .refused

/-- The line that tells of a taxonomy that was read. -/
def loadedLine (name : String) (t : Taxonomy) : String :=
  s!"Successfully read exception data from {name} ({t.categories.length} categories)"

/-- The taxonomy of a file, or the standard one, with the line that tells of it. -/
def ofFile (tree : FileTree) (path : Option String) : Except LoadError (Taxonomy × String) :=
  match path with
  | none => (ofSource (.text standardText) standardName).map fun t => (t, loadedLine standardName t)
  | some p =>
    let name := normalPath p
    match tree.readText p with
    | .error e => .error (.unreadable name e)
    | .ok text => (ofSource (.text text) name).map fun t => (t, loadedLine name t)

end Triage.Taxonomy
