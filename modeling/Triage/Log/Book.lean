import Triage.Log.Context
import Triage.Log.Level

/-!
# The log book

* `Record`: a message with its level, tagged with the context in which it was written.
* `Book`: the current context, the receipts that were handed out, and the records so far.
* `Book.restore`: takes a receipt back; each is good for one time, unless it is for nothing.
-/

namespace Triage.Log

/-- A log record. -/
structure Record where
  level : Int
  tags : Context
  message : String
  deriving DecidableEq, Repr

/-- A receipt that was handed out, and whether it has been used. -/
structure Handout where
  receipt : Receipt
  used : Bool
  deriving DecidableEq, Repr

/-- The current context, the receipts handed out, and the records, oldest first. -/
structure Book where
  context : Context
  handouts : List Handout
  records : List Record
  deriving DecidableEq, Repr

/-- Why a receipt is not taken. -/
inductive RestoreError where
  | unknown (position : Nat)
  | used
  deriving DecidableEq, Repr

/-- The wording of such a reason. -/
def RestoreError.message : RestoreError → String
  | unknown _ => "list index out of range"
  | used => "token already used"

namespace Book

/-- A book without records. -/
def empty : Book := ⟨.unset, [], []⟩

/-- Writes a record in the current context. -/
def write (b : Book) (level : LevelName) (message : String) : Book :=
  { b with records := b.records ++ [⟨level.number, b.context.tags, message⟩] }

/-- Writes several records. -/
def writeAll (b : Book) (level : LevelName) (messages : List String) : Book :=
  messages.foldl (fun b m => b.write level m) b

/-- Sets parts of the context and hands out a receipt. -/
def set (b : Book) (origin service : Option String) : Book :=
  let (context, receipt) := b.context.set origin service
  { b with context, handouts := b.handouts ++ [⟨receipt, false⟩] }

/-- Takes back the receipt at a position. -/
def restore (b : Book) (i : Nat) : Except RestoreError Book :=
  match b.handouts[i]? with
  | none => .error (.unknown i)
  | some h =>
    if h.used && h.receipt.size != 0 then .error .used
    else .ok { b with
      context := h.receipt.restore b.context
      handouts := b.handouts.set i { h with used := true } }

/-- Takes every part of the context away. -/
def clear (b : Book) : Book := { b with context := .unset }

end Book

end Triage.Log
