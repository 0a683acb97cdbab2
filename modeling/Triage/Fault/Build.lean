import Triage.Fault.Basic
import Triage.Text.Raw

/-!
# Making faults

A fault is made from a class and arguments, which decide its message and how it is shown.

* `Fault.build`: a fault of a class from its arguments; structured classes also take a category and an
  error type, which must be known ones.
* `Fault.BuildError`: why no fault can be made.
* `Fault.ofClassName`: a fault of a class that is known by name only, with at most a message.
* `Fault.ofName`: the same for a name from outside, which may be no text.
-/

namespace Triage

/-- The phase in which a structured fault came up. -/
inductive EnginePhase where
  | compilation
  | parser
  | execution
  deriving DecidableEq, Repr

namespace EnginePhase

/-- The name of a phase. -/
def name : EnginePhase → String
  | compilation => "COMPILATION"
  | parser => "PARSER"
  | execution => "EXECUTION"

/-- The phase that a value names. -/
def ofValue? : Value → Option EnginePhase
  | .text "COMPILATION" => some compilation
  | .text "PARSER" => some parser
  | .text "EXECUTION" => some execution
  | _ => none

end EnginePhase

namespace Fault

/-- Why no fault can be made. -/
inductive BuildError where
  | unknownCategory (value : Value)
  | unknownPhase (value : Value)
  | tooManyArguments (given : Nat)
  | missingMessage
  | tooManyMessages (given : Nat)
  | unexpectedKeyword (keyword : String)
  | takesNoKeywords (className : String)
  | needsFiveArguments (given : Nat)
  | nulInName
  | notText (e : SurrogateError)
  deriving Repr

/-- The wording of such a reason. -/
def BuildError.message : BuildError → String
  | unknownCategory v => s!"{v.shown} is not a valid ExceptionCategory"
  | unknownPhase v => s!"{v.shown} is not a valid EngineErrorType"
  | tooManyArguments n =>
    s!"EngineError.__init__() takes from 1 to 2 positional arguments but {n + 1} were given"
  | missingMessage => "TaxonomyConfigError.__init__() missing 1 required positional argument: 'message'"
  | tooManyMessages n =>
    s!"TaxonomyConfigError.__init__() takes 2 positional arguments but {n + 1} were given"
  | unexpectedKeyword k =>
    s!"TaxonomyConfigError.__init__() got an unexpected keyword argument {Text.quoted k}"
  | takesNoKeywords name => s!"{name}() takes no keyword arguments"
  | needsFiveArguments n => s!"function takes exactly 5 arguments ({n} given)"
  | nulInName => "type name must not contain null characters"
  | notText e => e.message

/-- Several arguments as they are shown together. -/
def shownTuple (args : List Value) : String :=
  match args with
  | [a] => "(" ++ a.shown ++ ",)"
  | _ => "(" ++ ", ".intercalate (args.map Value.shown) ++ ")"

/-- The arguments of a system failure: number, text, and perhaps a file and a second one. -/
structure SystemDetail where
  number : Value
  text : Value
  file : Option Value
  second : Option Value

/-- A value unless it is null. -/
def given? : Value → Option Value
  | .null => none
  | v => some v

/-- The detail of a system failure, which needs at least number and text. -/
def systemDetail? : List Value → Option SystemDetail
  | [n, t] => some ⟨n, t, none, none⟩
  | [n, t, f] | [n, t, f, _] => some ⟨n, t, given? f, none⟩
  | [n, t, f, _, s] => some ⟨n, t, given? f, (given? f).bind fun _ => given? s⟩
  | _ => none

/-- The text of arguments: nothing, the only one, or all of them as shown. -/
def plainText : List Value → String
  | [] => ""
  | [a] => a.toText
  | args => shownTuple args

/-- The text of a system failure. -/
def systemText (args : List Value) : String :=
  match systemDetail? args with
  | none => plainText args
  | some d =>
    let base := s!"[Errno {d.number.toText}] {d.text.toText}"
    match d.file, d.second with
    | none, _ => base
    | some f, none => s!"{base}: {f.shown}"
    | some f, some s => s!"{base}: {f.shown} -> {s.shown}"

/-- The text of a fault of the given lineage. -/
def textOf (lineage : Lineage) (args : List Value) : String :=
  match lineage, args with
  | .lookup, [a] => a.shown
  | .system, args => systemText args
  | .grammar, [] => Value.null.toText
  | .grammar, a :: _ => a.toText
  | _, args => plainText args

/-- The arguments that a fault keeps: a system failure that names a file keeps number and text only. -/
def keptArguments (lineage : Lineage) (args : List Value) : List Value :=
  if lineage == .system && ((systemDetail? args).bind (·.file)).isSome then args.take 2 else args

/-- The part of a name after its last dot. -/
def lastPart (name : String) : String :=
  String.ofList (name.toList.reverse.takeWhile (· != '.')).reverse

/-- A fault as it is shown: the last part of its class's name and its arguments. -/
def shownAs (className : String) (args : List Value) : String :=
  match args with
  | [a] => lastPart className ++ "(" ++ a.shown ++ ")"
  | args => lastPart className ++ shownTuple args

/-- A fault without links. -/
def plain (cls : FaultClass) (args : List Value) : Fault where
  cls := cls
  message := .text (textOf cls.lineage args)
  shown := .text (shownAs cls.name (keptArguments cls.lineage args))
  category := none
  errorType := none
  cause := none
  context := none
  suppressesContext := false

/-- The integer that a value equals. -/
def integer? (v : Value) : Option Int :=
  match v.number? with
  | some (.inl n) => some n
  | _ => none

/-- The class of a system failure: the general class becomes the one of the failure's number. -/
def refineClass (cls : FaultClass) (args : List Value) : FaultClass :=
  if cls == ⟨"OSError", .system, none⟩ then
    match (systemDetail? args).bind fun d => integer? d.number with
    | some n => ⟨FaultClass.ofErrorNumber n, .system, none⟩
    | none => cls
  else cls

/-- The optional arguments of structured faults; `none` where one is not given at all. -/
structure Keywords where
  category : Option Value
  errorType : Option Value

/-- Whether no optional argument is given. -/
def Keywords.isEmpty (k : Keywords) : Bool :=
  k.category.isNone && k.errorType.isNone

/-- A structured fault. -/
def buildEngine (cls : FaultClass) (args : List Value) (k : Keywords) : Except BuildError Fault :=
  if 1 < args.length then .error (.tooManyArguments args.length)
  else do
    let category ← match k.category with
      | none | some .null => pure none
      | some v =>
        match StandardCategory.ofValue? v with
        | some c => pure (some (.checked c))
        | none => .error (.unknownCategory v)
    let errorType ← match k.errorType with
      | none | some .null => pure none
      | some v =>
        match EnginePhase.ofValue? v with
        | some p => pure (some p.name)
        | none => .error (.unknownPhase v)
    let kept := args.filter fun v => (given? v).isSome
    return { plain cls kept with category, errorType }

/-- A fault of the class for a faulty taxonomy. -/
def buildTaxonomyConfig (cls : FaultClass) (args : List Value) (k : Keywords) :
    Except BuildError Fault :=
  if k.category.isSome then .error (.unexpectedKeyword "category")
  else if k.errorType.isSome then .error (.unexpectedKeyword "error_type")
  else
    match args with
    | [] => .error .missingMessage
    | [_] => buildEngine cls args ⟨some (.text StandardCategory.configuration.name), none⟩
    | _ => .error (.tooManyMessages args.length)

/-- The class under a name, for faults that are made on request. -/
def baseClass? (name : String) : Option FaultClass :=
  if name == "EngineError" then some .engineError
  else if name == "TaxonomyConfigError" then some .taxonomyConfigError
  else FaultClass.known? name

/-- Makes a fault from arguments: one of the class known as `base`, or, with a name given, one of a new
class of that name that inherits from it. Only a fault of the known class itself gets the class that fits
its number. -/
def build (base : String) (declared : Option String) (args : List Value) (k : Keywords) :
    Except BuildError Fault :=
  let known := (baseClass? base).getD .exception
  let cls := match declared with
    | some name => FaultClass.derive name known
    | none => refineClass known args
  if cls.name.toList.contains '\x00' then .error .nulInName
  else if base == "TaxonomyConfigError" then buildTaxonomyConfig cls args k
  else if base == "EngineError" then buildEngine cls args k
  else if !k.isEmpty then .error (.takesNoKeywords cls.name)
  else if base.startsWith "Unicode" && FaultClass.unbuildableNames.contains base then
    .error (.needsFiveArguments args.length)
  else .ok (plain cls args)

/-- The arguments that a message stands for. -/
def messageArguments : Option String → List Value
  | none => []
  | some m => [.text m]

/-- A fault of the class under a name, with a message or without. A name under which no class is known
gives a new class of that name. -/
def ofClassName (name : String) (message : Option String) : Except BuildError Fault :=
  match FaultClass.known? name with
  | some cls => .ok (plain cls (messageArguments message))
  | none =>
    if name.toList.contains '\x00' then .error .nulInName
    else .ok (plain (.derive name .exception) (messageArguments message))

/-- A fault of the class under a name that comes from outside. There is no class, known or new, whose name is no
text. -/
def ofName (name : RawText) (message : Option String) : Except BuildError Fault :=
  match name.toText with
  | .ok text => ofClassName text message
  | .error e => .error (.notText e)

@[simp] theorem ofName_ofString (name : String) (message : Option String) :
    ofName name message = ofClassName name message := by
  unfold ofName
  rw [RawText.toText_ofString]

theorem ofName_of_error {name : RawText} {e : SurrogateError} (h : name.toText = .error e) (message : Option String) :
    ofName name message = .error (.notText e) := by
  unfold ofName
  rw [h]

/-- Whether a name is that of a class whose faults cannot be made from a message. -/
def isUnbuildable (name : String) : Bool :=
  FaultClass.unbuildableNames.contains name

end Fault

end Triage
