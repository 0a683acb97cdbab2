import Triage.Yaml.Node
import Triage.Yaml.Scalar
import Triage.Yaml.Source

/-!
# Values of documents

The value of a node by its tag. The parts of a collection are looked at only after all nodes of its level,
so that of several faults the one nearest to the root counts, and among those of one level the first.

* `Yaml.load`: the value of a document; without a document there is none.
-/

namespace Triage.Yaml

/-- A result, or the fault that counts together with its level. -/
abbrev Leveled (α : Type) := Except (Nat × Error) α

namespace Leveled

variable {α β γ : Type}

/-- Combines two results; of two faults the nearer one to the root counts, or else the first. -/
def both (x : Leveled α) (y : Leveled β) (f : α → β → γ) : Leveled γ :=
  match x, y with
  | .ok a, .ok b => .ok (f a b)
  | .error e, .ok _ => .error e
  | .ok _, .error e => .error e
  | .error (m, d), .error (n, e) => if n < m then .error (n, e) else .error (m, d)

end Leveled

/-- A problem with a node. -/
def nodeError {α : Type} (level : Nat) (activity : Option Activity) (start : Option Mark) (p : Problem)
    (m : Mark) : Leveled α :=
  .error (level, .located ⟨.constructor, activity, start, p, m⟩)

/-- The entries of a mapping after merging: those of other mappings come first, and the key that stands for
the whole becomes a text. -/
def renameValueKeys (entries : List (Node × Node)) : List (Node × Node) :=
  entries.map fun (k, v) =>
    match k with
    | .scalar h s => if h.tag == Tag.value then (.scalar { h with tag := Tag.text } s, v) else (k, v)
    | k => (k, v)

/-- The entries of a mapping with those of the mappings that it merges. `m` is the place of the mapping for
whose sake this is done. -/
def mergedEntries (level : Nat) (m : Mark) : Nat → List (Node × Node) → Leveled (List (Node × Node))
  | 0, entries => .ok entries
  | fuel + 1, entries => do
    let merges := entries.filter fun e => e.1.tag == Tag.merge
    let own := entries.filter fun e => e.1.tag != Tag.merge
    let merged ← merges.mapM fun e =>
      match e.2 with
      | .mapping h es => mergedEntries level h.mark fuel es
      | .sequence _ items => do
        let parts ← items.mapM fun item =>
          match item with
          | .mapping h es => mergedEntries level h.mark fuel es
          | .enclosing _ true => .ok []
          | item => nodeError level (some .mapping) (some m) (.itemNotMergeable item.kind) item.mark
        return parts.reverse.flatten
      | .enclosing _ true => .ok []
      | v => nodeError level (some .mapping) (some m) (.notMergeable v.kind) v.mark
    return merged.flatten ++ renameValueKeys own

/-- The text of a scalar. A mapping has the text of the value under its value key. -/
def scalarText (level : Nat) : Nat → Node → Leveled String
  | _, .scalar _ s => .ok s
  | 0, n => nodeError level none none (.notScalar n.kind) n.mark
  | fuel + 1, .mapping h es =>
    match es.find? fun e => e.1.tag == Tag.value with
    | some e => scalarText level fuel e.2
    | none => nodeError level none none (.notScalar "mapping") h.mark
  | _, n => nodeError level none none (.notScalar n.kind) n.mark

/-- The value of a scalar tag. -/
def scalarValue (level : Nat) (tag : String) (n : Node) (fuel : Nat) : Leveled Value := do
  let lift (x : Except Misfit Value) : Leveled Value := x.mapError fun e => (level, .misfit e)
  let s ← scalarText level fuel n
  if tag == Tag.core "null" then return .null
  else if tag == Tag.core "bool" then lift (boolOf s)
  else if tag == Tag.core "int" then lift (integerOf s)
  else if tag == Tag.core "float" then lift (floatOf s)
  else if tag == Tag.core "timestamp" then
    match n with
    | .mapping _ _ => lift (.error .timestampOfMapping)
    | _ => lift (timestampOf s)
  else if tag == Tag.core "binary" then
    match bytesOf s with
    | .ok v => return v
    | .error p => nodeError level none none p n.mark
  else return .text s

/-- The tags of scalars. -/
def scalarTags : List String := ["null", "bool", "int", "float", "binary", "timestamp", "str"].map Tag.core

mutual

/-- Whether a node contains a reference to the node of an anchor that it stands in. -/
def refersTo (anchor : String) : Node → Bool
  | .scalar _ _ => false
  | .sequence _ items => anyRefersTo anchor items
  | .mapping _ entries => anyEntryRefersTo anchor entries
  | .enclosing h _ => h.anchor == some anchor

/-- The same of the items of a sequence. -/
def anyRefersTo (anchor : String) : List Node → Bool
  | [] => false
  | n :: ns => refersTo anchor n || anyRefersTo anchor ns

/-- The same of the entries of a mapping. -/
def anyEntryRefersTo (anchor : String) : List (Node × Node) → Bool
  | [] => false
  | (k, v) :: es => refersTo anchor k || refersTo anchor v || anyEntryRefersTo anchor es

end

/-- The nodes around a node, by anchor, with their values as far as references to them are followed. -/
abbrev Around := List (String × Value)

/-- How often a reference to a node around it is followed. -/
def referenceDepth : Nat := 8

mutual

/-- The value of a node at a level. -/
def valueOf (around : Around) (level : Nat) : Nat → Node → Leveled Value
  | 0, _ => .ok .null
  | fuel + 1, n =>
    match n with
    | .enclosing h _ => .ok ((h.anchor.bind fun a => List.lookup a around).getD .null)
    | n =>
      if scalarTags.contains n.tag then scalarValue level n.tag n fuel
      else
        let isKnown := ["seq", "map", "omap", "pairs", "set"].any fun k => n.tag == Tag.core k
        if !isKnown then nodeError level none none (.unknownTag n.tag) n.mark
        else
          match n.head.anchor with
          | none => collectionOf around (level + 1) fuel n
          | some a => unrolled around a (level + 1) fuel n referenceDepth
termination_by structural fuel => fuel

/-- The value of a collection with an anchor, whose references to itself are followed some times. -/
def unrolled (around : Around) (anchor : String) (level : Nat) : Nat → Node → Nat → Leveled Value
  | 0, _, _ => .ok .null
  | fuel + 1, n, depth =>
    match depth with
    | 0 => .ok .null
    | depth + 1 =>
      if !refersTo anchor n then collectionOf around level fuel n
      else do
        let inner := (unrolled around anchor level fuel n depth).toOption.getD .null
        collectionOf ((anchor, inner) :: around) level fuel n
termination_by structural fuel => fuel

/-- The value of a collection, whose parts are at the given level. -/
def collectionOf (around : Around) (level : Nat) : Nat → Node → Leveled Value
  | 0, _ => .ok .null
  | fuel + 1, n =>
    if n.tag == Tag.sequence then
      match n with
      | .sequence _ items => (itemsOf around level fuel items).map Value.list
      | n => nodeError level none none (.notSequence n.kind) n.mark
    else if n.tag == Tag.core "omap" then
      (pairsOf around level fuel .orderedMap n).map Value.list
    else if n.tag == Tag.core "pairs" then
      (pairsOf around level fuel .pairs n).map Value.list
    else
      match n with
      | .mapping h es => do
        let entries ← mergedEntries level h.mark fuel es
        let built ← entriesOf around level h.mark fuel entries
        let map := built.foldl (fun acc e => Value.insertEntry e.1 e.2 acc) []
        if n.tag == Tag.core "set" then return .set (map.map (·.1)) else return .map map
      | n => nodeError level none none (.notMapping n.kind) n.mark
termination_by structural fuel => fuel

/-- The values of the items of a sequence. -/
def itemsOf (around : Around) (level : Nat) : Nat → List Node → Leveled (List Value)
  | 0, _ => .ok []
  | _ + 1, [] => .ok []
  | fuel + 1, n :: ns =>
    Leveled.both (valueOf around level fuel n) (itemsOf around level fuel ns) List.cons
termination_by structural fuel => fuel

/-- The values of the entries of a mapping that starts at `m`. A collection is no key. -/
def entriesOf (around : Around) (level : Nat) (m : Mark) :
    Nat → List (Node × Node) → Leveled (List (Value × Value))
  | 0, _ => .ok []
  | _ + 1, [] => .ok []
  | fuel + 1, (k, v) :: es =>
    let noKey : Leveled Value := nodeError level (some .mapping) (some m) .keyIsCollection k.mark
    let key : Leveled Value :=
      match valueOf around level fuel k with
      | .error (l, e) => if l ≤ level then .error (l, e) else noKey
      | .ok key => if key.isKey then .ok key else noKey
    let entry := Leveled.both key (valueOf around level fuel v) Prod.mk
    Leveled.both entry (entriesOf around level m fuel es) List.cons
termination_by structural fuel => fuel

/-- The values of an ordered map or of pairs. -/
def pairsOf (around : Around) (level : Nat) : Nat → Activity → Node → Leveled (List Value)
  | 0, _, _ => .ok []
  | fuel + 1, activity, n =>
    match n with
    | .sequence h items => pairItemsOf around level fuel activity h.mark items
    | n => nodeError level (some activity) (some n.mark) (.notOrderedItems n.kind) n.mark
termination_by structural fuel => fuel

/-- The values of the items of an ordered map or of pairs, each a mapping of one entry. -/
def pairItemsOf (around : Around) (level : Nat) :
    Nat → Activity → Mark → List Node → Leveled (List Value)
  | 0, _, _, _ => .ok []
  | _ + 1, _, _, [] => .ok []
  | fuel + 1, activity, m, n :: ns =>
    let item : Leveled Value :=
      match n with
      | .mapping _ [(k, v)] =>
        Leveled.both (valueOf around level fuel k) (valueOf around level fuel v) Value.pair
      | .mapping _ es =>
        nodeError level (some activity) (some m) (.notSingleItem es.length) n.mark
      | n => nodeError level (some activity) (some m) (.notSingleMapping n.kind) n.mark
    Leveled.both item (pairItemsOf around level fuel activity m ns) List.cons
termination_by structural fuel => fuel

end

/-- The value of a document, which is null if there is none, or why it cannot be read. -/
def load (s : Source) : Except Error Value := do
  let text ← s.characters
  let run := tokenRun text
  match ← Node.ofTokens run with
  | none => return .null
  | some n => (valueOf [] 0 (8 * run.tokens.length + 64) n).mapError (·.2)

end Triage.Yaml
