/-!
# The standard taxonomy

The document of the taxonomy that is used when no other one is given.
-/

namespace Triage.Taxonomy

/-- The name of the document in messages. -/
def standardName : String := "faultline:resources/exception_data.yaml"

/-- The lines of the document. -/
def standardLines : List String := [
  "categories:",
  "  - CategoryName: UserAuthenticationError",
  "    Keywords:",
  "      - \"kerberos\"",
  "      - \"unauthori[sz]ed\"",
  "      - \"authentication failed\"",
  "      - \"invalid credentials\"",
  "      - \"access denied\"",
  "    Types:",
  "      - TypeName: Credentials",
  "        TypeExceptionRegex: \"^(IllegalAccess|Permission)\"",
  "        Exceptions:",
  "          - ExceptionName: NotImplementedError",
  "            MessageRegex: \"credentials issues\"",
  "          - ExceptionName: EngineError",
  "            MessageRegex: \"(unable|failed) to (obtain|acquire) (a )?(token|ticket)\"",
  "",
  "  - CategoryName: UserExecutionError",
  "    Keywords:",
  "      - \"database schema '.*' not found\"",
  "      - \"table '.*' does not exist\"",
  "      - \"syntax error\"",
  "    Types:",
  "      - TypeName: InvalidInput",
  "        TypeExceptionRegex: \"\"",
  "        Exceptions:",
  "          - ExceptionName: ValueError",
  "            MessageRegex: \"invalid (user )?input\"",
  "",
  "  - CategoryName: InternalServerError",
  "    Keywords:",
  "      - \"overloaded servers?\"",
  "      - \"out of memory\"",
  "      - \"connection pool exhausted\"",
  "    Types:",
  "      - TypeName: Misconfiguration",
  "        TypeExceptionRegex: \"^(Memory|Recursion)Error$\"",
  "        Exceptions:",
  "          - ExceptionName: RuntimeError",
  "            MessageRegex: \"has not been configured properly\"",
  "",
  "  - CategoryName: ServerExecutionError",
  "    Keywords:",
  "      - \"Error in '.*': Couldn't resolve\"",
  "      - \"can't find the (class|enumeration)\"",
  "    Types:",
  "      - TypeName: Serialization",
  "        TypeExceptionRegex: \"^(JSONDecode|Json|Pickling|Unpickling)\"",
  "        Exceptions:",
  "          - ExceptionName: ValueError",
  "            MessageRegex: \"invalid hexadecimal representation of an ObjectId\"",
  "      - TypeName: Resolution",
  "        TypeExceptionRegex: \"\"",
  "        Exceptions:",
  "          - ExceptionName: EngineError",
  "            MessageRegex: \"Can't find the profile\"",
  "          - ExceptionName: EngineError",
  "            MessageRegex: \"Can't resolve the builder for function\"",
  "",
  "  - CategoryName: OtherError",
  "    Keywords:",
  "      - \"tests? (have|has) failed\"",
  "      - \"could ?not ?be ?skipped\"",
  "    Types:",
  "      - TypeName: Connectivity",
  "        TypeExceptionRegex: \"Timeout|ConnectionClosed|ConnectionAborted|BrokenPipe\"",
  "        Exceptions:",
  "          - ExceptionName: ValueError",
  "            MessageRegex: \"Tests Failed! Error running tests for service\""]

/-- The document. -/
def standardText : String := String.join (standardLines.map (· ++ "\n"))

end Triage.Taxonomy
