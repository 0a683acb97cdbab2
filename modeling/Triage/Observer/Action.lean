import Triage.Observer.Basic

/-!
# What observers do

An action answers or refuses, and changes the state either way.

* `Observer.prepare`: the classifier, after loading the taxonomy if that has not been tried yet.
* `Observer.classify`: the series of a fault.
* `Observer.observe`: counts the fault under that series and writes a record.
-/

namespace Triage.Observer

/-- An action on the state that answers or refuses. -/
abbrev Action := ExceptT Error (StateM State)

/-- What may be passed as a fault. -/
inductive Subject where
  | absent
  /-- A plain value, which is no fault. -/
  | value (v : Value)
  /-- A fault of the graph by its position. -/
  | fault (i : Nat)

/-- What an observer is shown: a fault, where it came up, and in whose service. -/
structure Call where
  origin : Origin
  graph : FaultGraph
  subject : Subject
  service : Value

/-- The service of faults that came up without one. -/
def noService : String := "N/A"

/-- The position of the fault; both an origin and a fault must be given. -/
def Call.check (c : Call) : Except Error Nat :=
  match c.origin, c.subject with
  | .absent, _ => .error .noOrigin
  | _, .absent => .error .noFault
  | _, .value v => .error (.notFault v.kind)
  | _, .fault i => .ok i

/-- The service as a text. -/
def checkService : Value → Except Error String
  | .null => .ok noService
  | v =>
    match (checkText v).inside (.key "service") with
    | .ok s => .ok s
    | .failed (.issues is) => .error (.malformed is)
    | .failed (.beyondLimit _) => .error (.malformed [])

/-- The category of a fault. A category that was given anywhere along the walk wins; otherwise patterns
decide, if there is a classifier. -/
def verdict (o : Observer) (classifier : Option Classifier) (g : FaultGraph) (i : Nat) :
    Except IllegalCategory Taxonomy.Verdict :=
  match findExplicit (g.walkFaults i o.depthLimit) with
  | .error e => .error e
  | .ok (some c) => .ok ⟨c.name, none⟩
  | .ok none =>
    match classifier with
    | some c => c.classify g i
    | none => .ok ⟨StandardCategory.unknown.name, none⟩

/-- Writes a record in the current context. -/
def write (level : Log.LevelName) (message : String) : Action Unit :=
  modify (·.write level message)

/-- The series of a fault. A category that a pattern decided is told of in a record. -/
def series (o : Observer) (classifier : Option Classifier) (origin : Origin) (g : FaultGraph) (i : Nat)
    (service : Value) : Action Series := do
  let source ← liftExcept (origin.source.mapError .unnamed)
  let v ← liftExcept ((o.verdict classifier g i).mapError .illegalCategory)
  if let some s := v.selection then
    write .debug s.line
  let service ← liftExcept (checkService service)
  return ⟨(g.label i source).getD "", v.category, source, service⟩
where
  /-- An action that changes nothing. -/
  liftExcept {α : Type} (x : Except Error α) : Action α := ExceptT.mk (pure x)

/-- The record of a counted fault. -/
def countedLine (s : Series) (described : String) : String :=
  s!"Exception added to metric - Label: {s.label}. Category: {s.category}. Source: {s.source}. Service: {s.service}. {described}."

/-- The state after counting a series and writing the record of it, in the context of the series. A fault
that cannot be shown is counted all the same, and its record is left out. -/
def State.enter (s : State) (series : Series) (described : Except String String) : State :=
  let (context, receipt) := s.book.context.set (some series.source) (some series.service)
  let (counter, book) := s.counter.increment series { s.book with context }
  let book := match described with
    | .ok line => book.write .error (countedLine series line)
    | .error _ => book
  { s with counter, book := { book with context := receipt.restore book.context } }

/-- Counts a fault under its series and writes a record. -/
def record (o : Observer) (classifier : Option Classifier) (origin : Origin) (g : FaultGraph) (i : Nat)
    (service : Value) : Action Unit := do
  let s ← o.series classifier origin g i service
  let described := match g.fault? i with
    | some f => f.describe (g.causeFault? i)
    | none => .ok ""
  modify (·.enter s described)
  match described with
  | .ok _ => return ()
  | .error message => throw (.unprintable message)

/-- The end of a failed attempt: the failure is told of, counted and kept, and raised as an error. -/
def fail {α : Type} (o : Observer) (attempt : Nat) (f : LoadFailure) : Action α := do
  if !f.isCaught then throw (.passed f)
  match f.describe with
  | .error message => throw (.unprintable message)
  | .ok line =>
    write .warning s!"Error reading exception categorisation data: {line}"
    let e : ConfigError := ⟨attempt, f⟩
    modify fun s => { s with stage := .failed e }
    o.record none (.callSite .errorManagement) e.graph 0 .null
    throw (.configuration e)

/-- The classifier. The first attempt to load the taxonomy settles whether there is one, unless its
failure passes through. -/
def prepare (o : Observer) : Action Classifier := do
  let s ← get
  match s.stage with
  | .ready c => return c
  | .failed e => throw (.configuration e)
  | .untried loader =>
    modify fun s => { s with attempts := s.attempts + 1 }
    match loader s.attempts with
    | .error f => o.fail s.attempts f
    | .ok (t, lines) =>
      let c : Classifier := ⟨t, o.depthLimit, o.one_le⟩
      modify fun s => { s with stage := .ready c, book := s.book.writeAll .info lines }
      return c

/-- The classifier, if patterns may decide. -/
def classifier? (o : Observer) : Action (Option Classifier) :=
  if o.categorises then some <$> o.prepare else pure none

/-- The series of a fault, without counting it. -/
def classify (o : Observer) (c : Call) : Action Series := do
  let i ← ExceptT.mk (pure c.check)
  let classifier ← o.classifier?
  o.series classifier c.origin c.graph i c.service

/-- Counts a fault and writes a record. -/
def observe (o : Observer) (c : Call) : Action Unit := do
  let i ← ExceptT.mk (pure c.check)
  let classifier ← o.classifier?
  o.record classifier c.origin c.graph i c.service

end Triage.Observer
