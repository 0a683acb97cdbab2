import Triage.Fault.Label

/-!
# Origins

The origin of an observation is the call site that observed the fault. Known call sites have a name; any
other object with a name may stand for one, too, and may say how it wants to be called.

* `Origin.friendlyName`: the name of an origin for readers.
* `Origin.source`: that name without `Error` at its end, under which the observation is counted.
-/

namespace Triage

/-- The known call sites. -/
inductive CallSite where
  | pureQueryExecution
  | generatePlan
  | lambdaReturnType
  | compileModel
  | modelResolve
  | serviceTestExecute
  | serviceExecute
  | tdsProtocol
  | tdsExecute
  | tdsGenerateCode
  | tdsSchema
  | tdsLambda
  | tdsMetadata
  | tdsInputs
  | dsbExecute
  | errorManagement
  | unrecognised
  deriving DecidableEq, Repr

namespace CallSite

/-- The name of a call site. -/
def name : CallSite → String
  | pureQueryExecution => "PURE_QUERY_EXECUTION"
  | generatePlan => "GENERATE_PLAN"
  | lambdaReturnType => "LAMBDA_RETURN_TYPE"
  | compileModel => "COMPILE_MODEL"
  | modelResolve => "MODEL_RESOLVE"
  | serviceTestExecute => "SERVICE_TEST_EXECUTE"
  | serviceExecute => "SERVICE_EXECUTE"
  | tdsProtocol => "TDS_PROTOCOL"
  | tdsExecute => "TDS_EXECUTE"
  | tdsGenerateCode => "TDS_GENERATE_CODE"
  | tdsSchema => "TDS_SCHEMA"
  | tdsLambda => "TDS_LAMBDA"
  | tdsMetadata => "TDS_METADATA"
  | tdsInputs => "TDS_INPUTS"
  | dsbExecute => "DSB_EXECUTE"
  | errorManagement => "ERROR_MANAGEMENT"
  | unrecognised => "UNRECOGNISED"

/-- All call sites, in the order in which they are listed. -/
def all : List CallSite :=
  [pureQueryExecution, generatePlan, lambdaReturnType, compileModel, modelResolve,
    serviceTestExecute, serviceExecute, tdsProtocol, tdsExecute, tdsGenerateCode, tdsSchema, tdsLambda,
    tdsMetadata, tdsInputs, dsbExecute, errorManagement, unrecognised]

/-- The call site of the given name. -/
def ofName? (name : String) : Option CallSite :=
  all.find? fun c => c.name == name

end CallSite

/-- What may be passed as an origin. -/
inductive Origin where
  /-- No origin at all. -/
  | absent
  /-- A plain value, which has no name. -/
  | value (v : Value)
  | callSite (c : CallSite)
  /-- A named member of some other enumeration. -/
  | member (name : String)
  /-- An object that may have a name and may say how it wants to be called. -/
  | object (name friendly : Option Value)
  /-- An object that may have a name, and gives a fault of the message when it is asked how it wants to be called. -/
  | broken (name : Option Value) (message : String)
  deriving Repr

namespace Origin

/-- Why an origin has no name for readers. -/
inductive NameError where
  | noName (shown : String)
  /-- Asking for it gave a fault. -/
  | raised (message : String)
  deriving DecidableEq, Repr

/-- The wording of such a reason. -/
def NameError.message : NameError → String
  | noName shown => s!"origin must have a non-empty 'name', got {shown}"
  | raised message => message

/-- Whether the origin has a name, of whatever kind. -/
def hasName : Origin → Bool
  | absent | value _ => false
  | callSite _ | member _ => true
  | object name _ | broken name _ => name.isSome

/-- The origin as it is shown in a message. -/
def shown : Origin → String
  | absent => Value.null.shown
  | value v => v.shown
  | callSite c => s!"<ErrorOrigin.{c.name}: {Text.quoted (Text.lower c.name)}>"
  | member name => s!"<{name}>"
  | object _ _ | broken _ _ => "<origin>"

/-- A text that is not empty. -/
def nonEmptyText? : Value → Option String
  | .text s => if s.isEmpty then none else some s
  | _ => none

/-- How the origin wants to be called, if it says so. -/
def ownFriendlyName : Origin → Except NameError (Option String)
  | absent | value _ | member _ => .ok none
  | callSite c => .ok (nonEmptyText? (.text (camelCase c.name)))
  | object _ friendly => .ok (friendly.bind nonEmptyText?)
  | broken _ message => .error (.raised message)

/-- The name of the origin, if it is a text that is not empty. -/
def name? : Origin → Option String
  | absent | value _ => none
  | callSite c => some c.name
  | member name => nonEmptyText? (.text name)
  | object name _ | broken name _ => name.bind nonEmptyText?

/-- The name of an origin for readers: what it wants to be called, or its name as one word. -/
def friendlyName (o : Origin) : Except NameError String :=
  match o.ownFriendlyName with
  | .error e => .error e
  | .ok (some s) => .ok s
  | .ok none =>
    match o.name? with
    | some n => .ok (camelCase n)
    | none => .error (.noName o.shown)

/-- The name under which observations of the origin are counted. -/
def source (o : Origin) : Except NameError String :=
  o.friendlyName.map withoutError

end Origin

end Triage
