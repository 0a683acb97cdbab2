import Triage.Settings.Scalar
import Triage.Yaml.Construction

/-!
# Settings

* `Settings`: how faults are classified, counted and logged. At least one fault of a walk is looked at.
* `Settings.ofEntries`: settings from the entries of a document; unknown keys do not matter.
* `Environment.overlay`: the entries with those that the environment overrides.
* `Settings.ofFile`: settings from a file and the environment.
-/

namespace Triage

/-- How faults are classified, counted and logged. -/
structure Settings where
  taxonomyFile : Option String
  categorisationEnabled : Bool
  depthLimit : Int
  metricName : String
  metricDescription : String
  meterName : String
  logLevel : Log.LevelName
  deriving DecidableEq, Repr

/-- How many faults of a walk are looked at if nothing else is said. -/
def standardDepthLimit : Int := 5

namespace Settings

/-- The settings without any document. -/
def standard : Settings where
  taxonomyFile := none
  categorisationEnabled := true
  depthLimit := standardDepthLimit
  metricName := "engine_error_total"
  metricDescription := "Count errors in the engine"
  meterName := "faultline"
  logLevel := .info

/-- A field of the settings, which has one name only. -/
def field (name : String) : FieldName := ⟨name, name⟩

/-- Settings from the entries of a document. -/
def ofEntries (es : List (Value × Value)) : Checked Settings :=
  let build t c d n s m l : Settings := ⟨t, c, d, n, s, m, l⟩
  let taxonomyFile _ := (field "taxonomy_file").optional standard.taxonomyFile checkPath es
  let enabled _ :=
    (field "categorisation_enabled").optional standard.categorisationEnabled checkBool es
  let depthLimit _ := (field "depth_limit").optional standard.depthLimit (checkIntegerFrom 1) es
  let metricName _ := (field "metric_name").optional standard.metricName checkNonEmptyText es
  let description _ :=
    (field "metric_description").optional standard.metricDescription checkText es
  let meterName _ := (field "meter_name").optional standard.meterName checkNonEmptyText es
  let logLevel _ := (field "log_level").optional standard.logLevel checkLevel es
  .ap (.ap (.ap (.ap (.ap (.ap (.ap (.ok build) taxonomyFile) enabled) depthLimit) metricName)
    description) meterName) logLevel

/-- Why settings cannot be had. -/
inductive LoadError where
  | unreadable (path : String) (e : ReadError)
  | malformed (source : Yaml.Source) (e : Yaml.Error)
  | notMapping (path kind : String)
  | keyNotText
  | rejected (r : Rejection)

namespace LoadError

/-- The name of the error. -/
def name : LoadError → String
  | unreadable _ e => e.name
  | malformed _ e => e.name
  | notMapping .. => "ValueError"
  | keyNotText => "TypeError"
  | rejected (.issues _) => "ValidationError"
  | rejected (.beyondLimit _) => "OverflowError"

/-- The full text of the error. -/
def message : LoadError → String
  | unreadable path e => e.message s!"Config file not found: {path}"
  | malformed source e => e.message source.name source.shownText
  | notMapping path kind => s!"Expected YAML dict in {path}, got <class '{kind}'>"
  | keyNotText => "keywords must be strings"
  | rejected (.issues is) => Issue.report "ErrorHandlingConfig" is
  | rejected (.beyondLimit f) => f.message ""

end LoadError

end Settings

/-- Environment variables by name. -/
abbrev Environment := List (String × String)

namespace Environment

/-- The fields that the environment may override, with the names of the variables. -/
def overrides : List (String × String) :=
  [("taxonomy_file", "FAULTLINE_TAXONOMY_FILE"),
    ("categorisation_enabled", "FAULTLINE_CATEGORISATION_ENABLED"),
    ("depth_limit", "FAULTLINE_DEPTH_LIMIT"),
    ("metric_name", "FAULTLINE_METRIC_NAME"),
    ("log_level", "FAULTLINE_LOG_LEVEL")]

/-- The value of a variable without the white space around it, unless nothing is left. -/
def value? (env : Environment) (name : String) : Option String :=
  (env.lookup name).bind fun v => if Text.isBlankText v then none else some (Text.trim v)

/-- The entries of a document with those that the environment overrides. -/
def overlay (env : Environment) (entries : List (Value × Value)) : List (Value × Value) :=
  overrides.foldl (fun es o =>
    match env.value? o.2 with
    | some v => Value.insertEntry (.text o.1) (.text v) es
    | none => es) entries

end Environment

namespace Settings

/-- A fault of a text that is read in pieces: one in the last piece is placed from its start on. -/
def inLastPiece (e : ReadError) : ReadError :=
  match e with
  | .undecodable bytes f =>
    if f.reason == "unexpected end of data" then
      .undecodable (bytes.drop f.start) { f with start := 0, stop := f.stop - f.start }
    else e
  | e => e

/-- The entries of the document at a path. -/
def entriesOfFile (tree : FileTree) (path : String) : Except LoadError (List (Value × Value)) :=
  let name := normalPath path
  match tree.readText path with
  | .error e => .error (.unreadable name (inLastPiece e))
  | .ok text =>
    let source := Yaml.Source.file name text
    match Yaml.load source with
    | .error e => .error (.malformed source e)
    | .ok (.map es) => .ok es
    | .ok v => .error (.notMapping name v.qualifiedKind)

/-- Where settings are looked for if no file is named. -/
def standardPath : String := "configs/error_handling.yaml"

/-- The entries of the named file, or of the standard one if there is one. -/
def entriesOf (tree : FileTree) (path : Option String) : Except LoadError (List (Value × Value)) :=
  match path with
  | some p => entriesOfFile tree p
  | none => if tree.exists standardPath then entriesOfFile tree standardPath else .ok []

/-- Whether a key is a text. -/
def isTextKey : Value → Bool
  | .text _ => true
  | _ => false

/-- Settings from entries that may have any keys. -/
def ofAnyEntries (es : List (Value × Value)) : Except LoadError Settings :=
  if !es.all fun e => isTextKey e.1 then .error .keyNotText
  else
    match ofEntries es with
    | .ok s => .ok s
    | .failed r => .error (.rejected r)

/-- Settings from a file and the environment. -/
def ofFile (tree : FileTree) (path : Option String) (env : Environment) : Except LoadError Settings :=
  match entriesOf tree path with
  | .error e => .error e
  | .ok es => ofAnyEntries (env.overlay es)

end Settings

end Triage
