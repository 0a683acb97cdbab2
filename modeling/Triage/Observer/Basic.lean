import Triage.Classification.Classifier
import Triage.Counter.Basic
import Triage.Fault.Origin
import Triage.Observer.Failure

/-!
# Observers

An observer gives every fault that it is shown a series, counts it, and writes a record. It classifies
with a taxonomy, which it has from the start or loads when it first needs it.

* `Observer.Stage`: whether the taxonomy is there, has not been asked for yet, or cannot be had.
* `Observer.State`: the stage together with the counter and the log book.
* `Observer.Error`: why an observer refuses.
* `Observer.make`: an observer with its first state.
-/

namespace Triage

/-- An observer: how many faults of a walk it looks at, and whether patterns may decide. -/
structure Observer where
  depthLimit : Int
  one_le : 1 ≤ depthLimit
  categorises : Bool

namespace Observer

/-- How far an observer has come with its taxonomy. -/
inductive Stage where
  | untried (loader : Loader)
  | ready (classifier : Classifier)
  | failed (e : ConfigError)

/-- What an observer keeps from call to call. -/
structure State where
  stage : Stage
  /-- How often loading was attempted. -/
  attempts : Nat
  counter : Counter
  book : Log.Book

namespace State

/-- Writes a record in the current context. -/
def write (s : State) (level : Log.LevelName) (message : String) : State :=
  { s with book := s.book.write level message }

/-- Whether the taxonomy is there. -/
def isReady (s : State) : Bool :=
  match s.stage with
  | .ready _ => true
  | .untried _ | .failed _ => false

end State

/-- Why an observer refuses. -/
inductive Error where
  | noOrigin
  | noFault
  | notFault (kind : String)
  | unnamed (e : Origin.NameError)
  | illegalCategory (e : IllegalCategory)
  /-- The service is not a text. -/
  | malformed (issues : List Issue)
  /-- Showing a fault gave a fault. -/
  | unprintable (message : String)
  | configuration (e : ConfigError)
  /-- A failure that is not to be caught. -/
  | passed (f : LoadFailure)

/-- The wording of such a reason. -/
def Error.message : Error → String
  | noOrigin => "Exception origin must not be None"
  | noFault => "Exception must not be None"
  | notFault kind => s!"Expected an exception instance, got {kind}"
  | unnamed e => e.message
  | illegalCategory e => e.message
  | malformed issues => Issue.report "ErrorObservation" issues
  | unprintable message => message
  | configuration e => e.message
  | passed f => f.outermost.matchText

/-- Why there is no observer. -/
inductive MakeError where
  | noTaxonomy
  | depthLimit (n : Int)
  deriving DecidableEq, Repr

/-- The wording of such a reason. -/
def MakeError.message : MakeError → String
  | noTaxonomy => "Either taxonomy or taxonomy_loader is required"
  | depthLimit n => s!"depth_limit must be >= 1, got {n}"

/-- An observer that may have a taxonomy or a way to load one, or both; then nothing is loaded. -/
def make (counter : Counter) (book : Log.Book) (taxonomy : Option Taxonomy) (loader : Option Loader)
    (depthLimit : Int) (categorises : Bool) : Except MakeError (Observer × State) :=
  if taxonomy.isNone && loader.isNone then .error .noTaxonomy
  else if h : 1 ≤ depthLimit then
    let o : Observer := ⟨depthLimit, h, categorises⟩
    match taxonomy, loader with
    | some t, _ => .ok (o, ⟨.ready ⟨t, depthLimit, h⟩, 0, counter, book⟩)
    | none, some l => .ok (o, ⟨.untried l, 0, counter, book⟩)
    | none, none => .error .noTaxonomy
  else .error (.depthLimit depthLimit)

/-- Loads the taxonomy of a file of the tree, or the standard one. -/
def fileLoader (tree : FileTree) (path : Option String) : Loader := fun _ =>
  match Taxonomy.ofFile tree path with
  | .ok (t, line) => .ok (t, [line])
  | .error e => .error (.document e)

/-- The record that an observer was set up. -/
def setupLine (s : Settings) (c : Counter) : String :=
  s!"Error observer configured (metric={c.metric}, categorisation={(Value.bool s.categorisationEnabled).toText}, depth_limit={s.depthLimit})"

/-- The observer that settings ask for, with the given counter. -/
def ofSettings (s : Settings) (tree : FileTree) (counter : Counter) (book : Log.Book) :
    Except MakeError (Observer × State) :=
  make counter (book.write .info (setupLine s counter)) none (some (fileLoader tree s.taxonomyFile))
    s.depthLimit s.categorisationEnabled

end Observer

end Triage
