import Triage.Fault.Label
import Triage.Taxonomy.Document

/-!
# Failing to load a taxonomy

* `LoadFailure`: what came of an attempt that gave no taxonomy.
* `LoadFailure.describe`: the line that tells of it.
* `ConfigError`: the error that is raised from then on, with the faults that stand for it.
-/

namespace Triage

/-- A fault of the given texts, without links. -/
def Fault.ofTexts (name message shown : String) : Fault where
  cls := .derive name .exception
  message := .text message
  shown := .text shown
  category := none
  errorType := none
  cause := none
  context := none
  suppressesContext := false

/-- The faults that stand for a document without a taxonomy, the outermost first. -/
def Taxonomy.LoadError.graph (e : Taxonomy.LoadError) : FaultGraph :=
  let fault := Fault.ofTexts e.name e.message e.shown
  match e.behind? with
  | none => ⟨#[fault]⟩
  | some shown => ⟨#[{ fault with cause := some 1 }, .ofTexts FaultClass.exception.name shown shown]⟩

/-- Why an attempt gave no taxonomy. -/
inductive LoadFailure where
  /-- A document gives none. -/
  | document (e : Taxonomy.LoadError)
  /-- A fault came up, the first one of the graph. -/
  | fault (g : FaultGraph)

namespace LoadFailure

/-- The faults of the failure, the outermost first. -/
def graph : LoadFailure → FaultGraph
  | document e => e.graph
  | fault g => g

/-- The outermost fault. -/
def outermost (f : LoadFailure) : Fault :=
  (f.graph.fault? 0).getD (.ofTexts FaultClass.exception.name "" "")

/-- Whether the failure is one to be caught; others pass through. -/
def isCaught (f : LoadFailure) : Bool := f.outermost.cls.isCatchable

/-- The line that tells of the failure, or the message of the fault that showing it gives. -/
def describe (f : LoadFailure) : Except String String :=
  f.outermost.describe (f.graph.causeFault? 0)

end LoadFailure

/-- What one attempt to load a taxonomy gives: the taxonomy, with the lines that tell of it. -/
abbrev LoadOutcome := Except LoadFailure (Taxonomy × List String)

/-- The outcomes of the attempts to load a taxonomy, by their number. -/
abbrev Loader := Nat → LoadOutcome

/-- No taxonomy could be loaded. The attempt tells two such errors apart. -/
structure ConfigError where
  attempt : Nat
  failure : LoadFailure

namespace ConfigError

/-- The message of the error. -/
def message (e : ConfigError) : String :=
  s!"Cannot read exception data: {e.failure.outermost.matchText}"

/-- The error as a fault. -/
def fault (e : ConfigError) : Fault :=
  let name := FaultClass.taxonomyConfigError.name
  { Fault.ofTexts name e.message name with
    cls := .taxonomyConfigError
    category := some (.checked .configuration)
    cause := some 1
    suppressesContext := true }

/-- The error and the failure behind it. -/
def graph (e : ConfigError) : FaultGraph :=
  ⟨#[e.fault, { e.failure.outermost with cause := none, context := none }]⟩

end ConfigError

end Triage
