import Triage.Command.Options
import Triage.Fault.Build
import Triage.Log.Output
import Triage.Observer.Action
import Triage.Settings.EnvironmentFile

/-!
# Running commands

A command is run on a tree of files and an environment.

* `Options.environment`: the environment with the variables of the environment file.
* `Options.settings`: the settings: a flag goes before the environment, the environment before its file,
  that before the settings file, and that before the standard.
* `Options.run`: what the command prints, and its exit code.
-/

namespace Triage.Command

/-- What a command prints, and its exit code. -/
structure Report where
  exit : Nat
  /-- The lines of the answer. -/
  answer : List String
  /-- What is told before logging is set up. -/
  warnings : List String
  log : List Log.Line
  /-- What is wrong with the taxonomy. -/
  complaint : Option String
  deriving DecidableEq, Repr

namespace Report

/-- Lines as text. -/
def textOf (lines : List String) : String := String.join (lines.map (· ++ "\n"))

/-- The text of the answer. -/
def output (r : Report) : String := textOf r.answer

/-- The text beside the answer, with the given time in the log. -/
def errors (r : Report) (time : String) : String :=
  textOf r.warnings ++ Log.textOfLines time r.log ++ textOf r.complaint.toList

end Report

/-- Why a command ends without a report. -/
inductive Failure where
  | environmentFile (e : ReadError)
  | environment (e : VariableError)
  | settings (e : Settings.LoadError)
  | taxonomy (e : Taxonomy.LoadError)
  | fault (e : Fault.BuildError)
  | setup (e : Observer.MakeError)
  | observer (e : Observer.Error)

/-- The wording of such a reason. -/
def Failure.message : Failure → String
  | environmentFile e => e.message ""
  | environment e => e.message
  | settings e => e.message
  | taxonomy e => e.message
  | fault e => e.message
  | setup e => e.message
  | observer e => e.message

namespace Options

/-- The environment with the variables of the environment file, if there is one; and the lines at which
statements of it start that cannot be read. -/
def environment (o : Options) (tree : FileTree) (env : Environment) :
    Except Failure (Environment × List Nat) :=
  match tree.find? o.environmentFile with
  | some (.file _) => do
    let text ← (tree.readText o.environmentFile).mapError .environmentFile
    let contents := EnvironmentFile.statements text
    let env ← (env.extend contents.assignments).mapError .environment
    return (env, contents.faultyLines)
  | _ => .ok (env, [])

/-- The settings of a file and an environment, with what the flags say. -/
def settings (o : Options) (tree : FileTree) (env : Environment) : Except Failure Settings := do
  let s ← (Settings.ofFile tree o.settingsFile env).mapError .settings
  return { s with
    logLevel := o.consoleLevel.getD s.logLevel
    taxonomyFile := o.taxonomyFile.or s.taxonomyFile }

end Options

/-- The line that tells of a faulty statement. -/
def faultyLineWarning (line : Nat) : String :=
  s!"python-dotenv could not parse statement starting at line {line}"

/-- The line for one category of a list. -/
def categoryLine (number : Nat) (c : Category) : String :=
  s!"{number}. {c.name}: {c.keywords.length} keywords, {c.types.length} types, {c.outlineCount} exception outlines"

/-- The lines for the categories of a taxonomy. -/
def taxonomyLines (t : Taxonomy) : List String :=
  t.categories.zipIdx.map fun (c, i) => categoryLine (i + 1) c

/-- The lines for a classified fault. -/
def seriesLines (s : Series) : List String :=
  [s!"label:    {s.label}", s!"category: {s.category}", s!"source:   {s.source}",
    s!"service:  {s.service}"]

/-- The complaint about a taxonomy. -/
def complaintLine (message : String) : String := s!"Invalid exception data: {message}"

/-- What a request comes to: its answer, or what is wrong with the taxonomy; and the log book. -/
abbrev Result := Except String (List String) × Log.Book

/-- Checks the taxonomy. -/
def check (s : Settings) (tree : FileTree) : Except Failure Result :=
  match Taxonomy.ofFile tree s.taxonomyFile with
  | .ok (t, line) => .ok (.ok (taxonomyLines t), Log.Book.empty.write .info line)
  | .error e => if e.isExpected then .ok (.error e.message, .empty) else .error (.taxonomy e)

/-- The book before a fault is classified. It tells if the fault is not of the class that is known under
the name. -/
def bookBefore (className : RawText) : Log.Book :=
  match className.toText with
  | .error _ => .empty
  | .ok name =>
    if Fault.isUnbuildable name then
      Log.Book.empty.write .debug
        s!"Cannot build builtin {name} from a message, using a synthetic class"
    else .empty

/-- Classifies a fault of the named class. -/
def classify (s : Settings) (tree : FileTree) (className : RawText) (message : Option String)
    (origin : CallSite) (service : Option String) : Except Failure Result := do
  let counter : Counter := ⟨.kept, s.metricName, s.metricDescription, .empty⟩
  let (o, state) ← (Observer.make counter (bookBefore className) none
    (some (Observer.fileLoader tree s.taxonomyFile)) s.depthLimit s.categorisationEnabled).mapError .setup
  let fault ← (Fault.ofName className message).mapError .fault
  let service := match service with
    | some s => Value.text s
    | none => .null
  let (result, state) := (o.classify ⟨.callSite origin, ⟨#[fault]⟩, .fault 0, service⟩).run.run state
  match result with
  | .ok series => return (.ok (seriesLines series), state.book)
  | .error (.configuration e) => return (.error e.message, state.book)
  | .error e => .error (.observer e)

/-- Does what is requested. -/
def Request.run (r : Request) (s : Settings) (tree : FileTree) : Except Failure Result :=
  match r with
  | .check => Command.check s tree
  | .classify className message origin service =>
    Command.classify s tree className message origin service

/-- The lines that the console shows of a book, after the one that logging was set up. -/
def consoleLines (level : Log.LevelName) (b : Log.Book) : List Log.Line :=
  let start := Log.Output.empty.configure { Log.Setup.standard with consoleLevel := level.number } .unset
  (b.records.foldl (fun out r => out.emit programName r) start).console

/-- Runs a command. -/
def Options.run (o : Options) (tree : FileTree) (env : Environment) : Except Failure Report := do
  let (env, faultyLines) ← o.environment tree env
  let s ← o.settings tree env
  let (result, book) ← o.request.run s tree
  let warnings := faultyLines.map faultyLineWarning
  let log := consoleLines s.logLevel book
  match result with
  | .ok answer => return ⟨0, answer, warnings, log, none⟩
  | .error message => return ⟨1, [], warnings, log, some (complaintLine message)⟩

end Triage.Command
