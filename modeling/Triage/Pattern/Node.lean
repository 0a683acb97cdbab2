/-!
# The syntax tree of a pattern

A pattern is a list of nodes, matched one after the other. Flags are kept where they are written;
they take effect when the tree is turned into a `Program`.

* `Node.width`: the least and the largest number of characters a node can match, capped at `maxWidth`.
-/

namespace Triage.Pattern

/-- The inline flags of a pattern. -/
structure Flags where
  ignoreCase : Bool := false
  multiline : Bool := false
  dotAll : Bool := false
  verbose : Bool := false
  ascii : Bool := false
  unicode : Bool := false
  template : Bool := false
  deriving Repr, DecidableEq, Inhabited

namespace Flags

/-- No flag. -/
def none : Flags := {}

/-- The flags of either set. -/
def union (f g : Flags) : Flags where
  ignoreCase := f.ignoreCase || g.ignoreCase
  multiline := f.multiline || g.multiline
  dotAll := f.dotAll || g.dotAll
  verbose := f.verbose || g.verbose
  ascii := f.ascii || g.ascii
  unicode := f.unicode || g.unicode
  template := f.template || g.template

/-- The flags of the first set that are not in the second. -/
def diff (f g : Flags) : Flags where
  ignoreCase := f.ignoreCase && !g.ignoreCase
  multiline := f.multiline && !g.multiline
  dotAll := f.dotAll && !g.dotAll
  verbose := f.verbose && !g.verbose
  ascii := f.ascii && !g.ascii
  unicode := f.unicode && !g.unicode
  template := f.template && !g.template

/-- Whether two sets share a flag. -/
def meets (f g : Flags) : Bool :=
  f.diff g != f

/-- Whether one of the two flags is set that choose a character repertoire. -/
def hasType (f : Flags) : Bool :=
  f.ascii || f.unicode

/-- The flags inside a group that turns some on and some off; a repertoire flag replaces the one in
force. -/
def enter (f add del : Flags) : Flags :=
  let f := if add.hasType then { f with ascii := false, unicode := false } else f
  (f.union add).diff del

end Flags

/-- The character classes with a letter of their own. -/
inductive Kind where
  | digit
  | space
  | word
  deriving Repr, DecidableEq

/-- A member of a character set. Code points include those of surrogates, which no text holds. -/
inductive SetItem where
  | literal (n : Nat)
  | range (first last : Nat)
  | kind (k : Kind) (negated : Bool)
  deriving Repr, DecidableEq

/-- A condition on a place in the text. -/
inductive Anchor where
  | lineStart
  | lineEnd
  | textStart
  | textEnd
  | boundary
  | notBoundary
  deriving Repr, DecidableEq

/-- In what order a repetition tries its counts. A possessive one keeps the first that matches. -/
inductive Appetite where
  | greedy
  | lazy
  | possessive
  deriving Repr, DecidableEq

/-- A node of the syntax tree. -/
inductive Node where
  | literal (n : Nat)
  | notLiteral (n : Nat)
  | set (negated : Bool) (items : List SetItem)
  | any
  | anchor (a : Anchor)
  | branch (choices : List (List Node))
  | repeated (least : Nat) (most : Option Nat) (appetite : Appetite) (body : List Node)
  | group (index : Option Nat) (add del : Flags) (body : List Node)
  | atomic (body : List Node)
  | look (behind negated : Bool) (body : List Node)
  | backref (group : Nat)
  | ifGroup (group : Nat) (yes : List Node) (no : Option (List Node))
  deriving Repr

/-- The largest width that is told apart. -/
def maxWidth : Nat := 0x10000000000000000

/-- Bounds on the number of characters that can be matched. -/
structure Width where
  least : Nat
  most : Nat
  deriving Repr, DecidableEq

namespace Width

/-- The width of something that consumes nothing. -/
def zero : Width := ⟨0, 0⟩

/-- One thing after the other. -/
def add (v w : Width) : Width := ⟨v.least + w.least, v.most + w.most⟩

/-- One thing or the other. -/
def sup (v w : Width) : Width := ⟨min v.least w.least, max v.most w.most⟩

/-- Both bounds cut down to `maxWidth`. -/
def cap (w : Width) : Width := ⟨min w.least maxWidth, min w.most maxWidth⟩

end Width

mutual

/-- The width of a node, given the widths of the groups closed before it. -/
def Node.width (groups : Nat → Width) : Node → Width
  | .literal _ | .notLiteral _ | .set _ _ | .any => ⟨1, 1⟩
  | .anchor _ | .look _ _ _ => .zero
  | .branch choices => Node.widthOfChoices groups choices
  | .repeated least most _ body =>
    let w := Node.widthOfList groups body
    ⟨w.least * least,
      match most with
      | some m => w.most * m
      | none => if w.most == 0 then 0 else maxWidth⟩
  | .group _ _ _ body => Node.widthOfList groups body
  | .atomic body => Node.widthOfList groups body
  | .backref g => groups g
  | .ifGroup _ yes no =>
    let w := Node.widthOfList groups yes
    match no with
    | some nodes => w.sup (Node.widthOfList groups nodes)
    | none => ⟨0, w.most⟩

/-- The width of a sequence, capped. -/
def Node.widthOfList (groups : Nat → Width) (nodes : List Node) : Width :=
  (Node.widthOfNodes groups nodes).cap

/-- The sum of the widths of a sequence. -/
def Node.widthOfNodes (groups : Nat → Width) : List Node → Width
  | [] => .zero
  | n :: ns => (n.width groups).add (Node.widthOfNodes groups ns)

/-- The joint width of alternatives. -/
def Node.widthOfChoices (groups : Nat → Width) : List (List Node) → Width
  | [] => ⟨maxWidth, 0⟩
  | c :: cs => (Node.widthOfList groups c).sup (Node.widthOfChoices groups cs)

end

/-- Whether two nodes are the same leaf. Nodes with parts of their own never are. -/
def Node.sameLeaf : Node → Node → Bool
  | .literal a, .literal b => a == b
  | .notLiteral a, .notLiteral b => a == b
  | .set n xs, .set m ys => n == m && xs == ys
  | .any, .any => true
  | .anchor a, .anchor b => a == b
  | .backref a, .backref b => a == b
  | _, _ => false

end Triage.Pattern
