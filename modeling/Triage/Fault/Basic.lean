import Triage.Fault.Class
import Triage.Value.Basic

/-!
# Faults and what caused them

A fault may name another one as its cause, or have come up while another one was handled. Faults and
these links form a finite graph, which may have cycles.

* `FaultGraph.causeOf`: the fault that caused a fault. A named cause wins; otherwise it is the fault being
  handled, unless that link is suppressed.
* `FaultGraph.walk`: a fault, its cause, the cause of that, and so on, up to a limit and to the first fault
  that was there before.
* `FaultGraph.walk_nodup`, `FaultGraph.walk_length_le`: no fault twice, and not more than the limit.
-/

namespace Triage

/-- The standard categories that may be given to a structured fault. -/
inductive StandardCategory where
  | userAuthentication
  | userExecution
  | internalServer
  | serverExecution
  | other
  | configuration
  | unknown
  deriving DecidableEq, Repr

namespace StandardCategory

/-- The name of a standard category. -/
def name : StandardCategory → String
  | userAuthentication => "UserAuthenticationError"
  | userExecution => "UserExecutionError"
  | internalServer => "InternalServerError"
  | serverExecution => "ServerExecutionError"
  | other => "OtherError"
  | configuration => "ConfigurationError"
  | unknown => "UnknownError"

/-- All standard categories. -/
def all : List StandardCategory :=
  [userAuthentication, userExecution, internalServer, serverExecution, other, configuration, unknown]

/-- The standard category of the given name. -/
def ofName? (name : String) : Option StandardCategory :=
  all.find? fun c => c.name == name

/-- The standard category that a value names. -/
def ofValue? : Value → Option StandardCategory
  | .text s => ofName? s
  | _ => none

end StandardCategory

/-- A category as it stands on a fault: checked when it was given, or put there afterwards as it is. -/
inductive AssignedCategory where
  | checked (category : StandardCategory)
  | unchecked (value : Value)
  deriving Repr

/-- What showing a fault gives: a text, or a fault of its own with a message. -/
inductive Rendering where
  | text (s : String)
  | broken (message : String)
  deriving DecidableEq, Repr

/-- A fault. Links are positions in the graph that it belongs to. -/
structure Fault where
  cls : FaultClass
  /-- The message. -/
  message : Rendering
  /-- The fault as it is shown where it is the cause of another one. -/
  shown : Rendering
  category : Option AssignedCategory
  /-- The text of the error type of a structured fault. -/
  errorType : Option String
  /-- The named cause. -/
  cause : Option Nat
  /-- The fault that was being handled. -/
  context : Option Nat
  suppressesContext : Bool
  deriving Repr

/-- Faults that link to one another. -/
structure FaultGraph where
  faults : Array Fault
  deriving Repr

namespace FaultGraph

/-- The fault at a position. -/
def fault? (g : FaultGraph) (i : Nat) : Option Fault := g.faults[i]?

/-- The link from a fault to its cause. -/
def causeLink (f : Fault) : Option Nat :=
  match f.cause with
  | some j => some j
  | none => if f.suppressesContext then none else f.context

/-- The fault that caused the fault at a position. -/
def causeOf (g : FaultGraph) (i : Nat) : Option Nat :=
  ((g.fault? i).bind causeLink).filter (· < g.faults.size)

/-- The cause itself. -/
def causeFault? (g : FaultGraph) (i : Nat) : Option Fault :=
  (g.causeOf i).bind g.fault?

/-- The walk from a position, with `limit` faults to go and some visited before. -/
def walkFrom (g : FaultGraph) : Nat → List Nat → Option Nat → List Nat
  | 0, _, _ => []
  | _ + 1, _, none => []
  | limit + 1, visited, some i =>
    if visited.contains i then [] else i :: walkFrom g limit (i :: visited) (g.causeOf i)

/-- A fault and what caused it, at most `limit` faults and none of them twice. -/
def walk (g : FaultGraph) (i : Nat) (limit : Int) : List Nat :=
  g.walkFrom limit.toNat [] (some i)

/-- The faults of a walk. -/
def walkFaults (g : FaultGraph) (i : Nat) (limit : Int) : List Fault :=
  (g.walk i limit).filterMap g.fault?

theorem walkFrom_length_le (g : FaultGraph) (limit : Nat) (visited : List Nat) (i : Option Nat) :
    (g.walkFrom limit visited i).length ≤ limit := by
  fun_induction walkFrom g limit visited i with
  | case1 => simp
  | case2 => simp
  | case3 => simp
  | case4 limit visited i _ ih => simpa using ih

theorem walkFrom_nodup (g : FaultGraph) (limit : Nat) (visited : List Nat) (i : Option Nat) :
    (g.walkFrom limit visited i).Nodup ∧ ∀ j ∈ g.walkFrom limit visited i, j ∉ visited := by
  fun_induction walkFrom g limit visited i with
  | case1 => simp
  | case2 => simp
  | case3 => simp
  | case4 limit visited i h ih =>
    refine ⟨List.nodup_cons.2 ⟨fun hm => ih.2 i hm (by simp), ih.1⟩, fun j hj => ?_⟩
    rcases List.mem_cons.1 hj with rfl | hj
    · simpa using h
    · exact fun hv => ih.2 j hj (List.mem_cons_of_mem _ hv)

/-- **No fault comes up twice.** -/
theorem walk_nodup (g : FaultGraph) (i : Nat) (limit : Int) : (g.walk i limit).Nodup :=
  (g.walkFrom_nodup _ _ _).1

/-- **A walk keeps to its limit**; a limit below zero lets nothing through. -/
theorem walk_length_le (g : FaultGraph) (i : Nat) (limit : Int) :
    (g.walk i limit).length ≤ limit.toNat :=
  g.walkFrom_length_le _ _ _

end FaultGraph

end Triage
