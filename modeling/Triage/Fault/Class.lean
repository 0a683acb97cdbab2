/-!
# Classes of faults

A fault belongs to a class. Of a class only its name matters and what it inherits.

* `Lineage`: the ancestor that decides how a fault of the class is shown.
* `FaultClass.generic`: whether the class is one of the three that say nothing about a failure.
* `FaultClass.known?`: the classes that exist without being declared.
-/

namespace Triage

/-- The nearest ancestor that decides how a fault behaves. -/
inductive Lineage where
  /-- Not meant to be caught. -/
  | exit
  | ordinary
  /-- A failed look-up, whose text is its key as shown. -/
  | lookup
  /-- A failure of the system with a number, a text and perhaps a file. -/
  | system
  /-- A fault in program text, which without a message has the text of no value. -/
  | grammar
  /-- A structured fault, which may have a category and an error type. -/
  | engine
  deriving DecidableEq, Repr

/-- The classes that say nothing about the failure itself. -/
inductive Generic where
  | exception
  | runtime
  | engine
  deriving DecidableEq, Repr

/-- A class of faults. -/
structure FaultClass where
  name : String
  lineage : Lineage
  generic : Option Generic
  deriving DecidableEq, Repr

namespace FaultClass

/-- A class of the given name that inherits from another one. It is no generic class, whatever its
name. -/
def derive (name : String) (base : FaultClass) : FaultClass := ⟨name, base.lineage, none⟩

/-- The class of all faults that may be caught. -/
def exception : FaultClass := ⟨"Exception", .ordinary, some .exception⟩

/-- The structured class. -/
def engineError : FaultClass := ⟨"EngineError", .engine, some .engine⟩

/-- The class of faults in the taxonomy or its document. -/
def taxonomyConfigError : FaultClass := ⟨"TaxonomyConfigError", .engine, none⟩

/-- Names of classes that are not meant to be caught. -/
def exitNames : List String := ["BaseException", "GeneratorExit", "KeyboardInterrupt", "SystemExit"]

/-- Names of the classes of system failures. -/
def systemNames : List String :=
  ["OSError", "BlockingIOError", "BrokenPipeError", "ChildProcessError", "ConnectionAbortedError",
    "ConnectionError", "ConnectionRefusedError", "ConnectionResetError", "FileExistsError",
    "FileNotFoundError", "InterruptedError", "IsADirectoryError", "NotADirectoryError",
    "PermissionError", "ProcessLookupError", "TimeoutError"]

/-- Names of the classes of faults in program text. -/
def grammarNames : List String := ["SyntaxError", "IndentationError", "TabError"]

/-- Names of the other classes that take a message. -/
def ordinaryNames : List String :=
  ["ArithmeticError", "AssertionError", "AttributeError", "BufferError", "BytesWarning",
    "DeprecationWarning", "EOFError", "EncodingWarning", "FloatingPointError", "FutureWarning",
    "ImportError", "ImportWarning", "IndexError", "LookupError", "MemoryError", "ModuleNotFoundError",
    "NameError", "NotImplementedError", "OverflowError", "PendingDeprecationWarning", "RecursionError",
    "ReferenceError", "ResourceWarning", "RuntimeWarning", "StopAsyncIteration", "StopIteration",
    "SyntaxWarning", "SystemError", "TypeError", "UnboundLocalError", "UnicodeError",
    "UnicodeWarning", "UserWarning", "ValueError", "Warning", "ZeroDivisionError"]

/-- Names of the classes whose faults cannot be made from a message. -/
def unbuildableNames : List String :=
  ["BaseExceptionGroup", "ExceptionGroup", "UnicodeDecodeError", "UnicodeEncodeError",
    "UnicodeTranslateError"]

/-- The class known under a name. Two older names mean the class of all system failures. -/
def known? (name : String) : Option FaultClass :=
  if name == "IOError" || name == "EnvironmentError" then some ⟨"OSError", .system, none⟩
  else if name == "Exception" then some exception
  else if name == "RuntimeError" then some ⟨name, .ordinary, some .runtime⟩
  else if name == "KeyError" then some ⟨name, .lookup, none⟩
  else if exitNames.contains name then some ⟨name, .exit, none⟩
  else if systemNames.contains name then some ⟨name, .system, none⟩
  else if grammarNames.contains name then some ⟨name, .grammar, none⟩
  else if ordinaryNames.contains name then some ⟨name, .ordinary, none⟩
  else none

/-- The class of a system failure of the given number. -/
def ofErrorNumber : Int → String
  | 1 | 13 => "PermissionError"
  | 2 => "FileNotFoundError"
  | 3 => "ProcessLookupError"
  | 4 => "InterruptedError"
  | 10 => "ChildProcessError"
  | 11 | 114 | 115 => "BlockingIOError"
  | 17 => "FileExistsError"
  | 20 => "NotADirectoryError"
  | 21 => "IsADirectoryError"
  | 32 | 108 => "BrokenPipeError"
  | 103 => "ConnectionAbortedError"
  | 104 => "ConnectionResetError"
  | 110 => "TimeoutError"
  | 111 => "ConnectionRefusedError"
  | _ => "OSError"

/-- Whether faults of the class are meant to be caught. -/
def isCatchable (c : FaultClass) : Bool := c.lineage != .exit

/-- Whether faults of the class are structured. -/
def isEngine (c : FaultClass) : Bool := c.lineage == .engine

end FaultClass

end Triage
