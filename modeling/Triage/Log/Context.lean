/-!
# The context of log records

Every record is tagged with an origin and a service. Both can be set, singly or together, and put back.

* `Context.set`: sets parts of the context and gives a receipt for what they were.
* `Receipt.restore`: puts back what the receipt is for, and nothing else.
* `Context.tags`: the context as records show it.
* `restore_set`: **a receipt undoes its set**; `restore_frame`: it leaves the other part as it is.
-/

namespace Triage.Log

/-- An origin and a service. -/
structure Context where
  origin : String
  service : String
  deriving DecidableEq, Repr

/-- What is replaced by setting parts of a context: for each part that was set, what it was before. -/
structure Receipt where
  origin : Option String
  service : Option String
  deriving DecidableEq, Repr

namespace Context

/-- What stands for a part that says nothing. -/
def blank : String := "-"

/-- The context without any origin or service. -/
def unset : Context := ⟨blank, blank⟩

/-- Sets the given parts. -/
def set (c : Context) (origin service : Option String) : Context × Receipt :=
  (⟨origin.getD c.origin, service.getD c.service⟩,
    ⟨origin.map fun _ => c.origin, service.map fun _ => c.service⟩)

/-- A part as records show it. -/
def tag (part : String) : String := if part.isEmpty then blank else part

/-- The context as records show it. -/
def tags (c : Context) : Context := ⟨tag c.origin, tag c.service⟩

end Context

namespace Receipt

/-- How many parts the receipt is for. -/
def size (r : Receipt) : Nat := r.origin.toList.length + r.service.toList.length

/-- Puts back what the receipt is for. -/
def restore (r : Receipt) (c : Context) : Context :=
  ⟨r.origin.getD c.origin, r.service.getD c.service⟩

end Receipt

/-- A receipt undoes its set. -/
theorem restore_set (c : Context) (origin service : Option String) :
    (c.set origin service).2.restore (c.set origin service).1 = c := by
  cases origin <;> cases service <;> rfl

/-- Restoring leaves a part alone that the set did not cover. -/
theorem restore_frame (c d : Context) (origin service : Option String) :
    (origin = none → ((c.set origin service).2.restore d).origin = d.origin) ∧
      (service = none → ((c.set origin service).2.restore d).service = d.service) := by
  constructor <;> rintro rfl <;> rfl

end Triage.Log
