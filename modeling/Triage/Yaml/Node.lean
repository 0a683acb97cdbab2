import Triage.Yaml.Tag
import Triage.Yaml.Token.Stream

/-!
# Nodes

A document is a tree of nodes. A reference to an anchor is replaced by the node that has the anchor, except
inside of that node itself, where it stays a reference.

* `Node.ofTokens`: the node of the only document of a run of tokens, if there is a document.
-/

namespace Triage.Yaml

/-- The tag and anchor of a node, and where it starts. -/
structure Head where
  tag : String
  anchor : Option String
  mark : Mark
  deriving DecidableEq, Repr

/-- A node. -/
inductive Node where
  | scalar (head : Head) (text : String)
  | sequence (head : Head) (items : List Node)
  | mapping (head : Head) (entries : List (Node × Node))
  /-- A reference to the node that it stands in; `isMapping` tells the kind of that node. -/
  | enclosing (head : Head) (isMapping : Bool)
  deriving Repr

namespace Node

/-- Tag, anchor and place of a node. -/
def head : Node → Head
  | scalar h _ | sequence h _ | mapping h _ | enclosing h _ => h

/-- The tag of a node. -/
def tag (n : Node) : String := n.head.tag

/-- Where a node starts. -/
def mark (n : Node) : Mark := n.head.mark

/-- The name of a node's kind in messages. -/
def kind : Node → String
  | scalar .. => "scalar"
  | sequence .. => "sequence"
  | mapping .. => "mapping"
  | enclosing _ isMapping => if isMapping then "mapping" else "sequence"

end Node

/-- What is known while nodes are made from tokens. -/
structure Composer where
  tokens : List Token
  /-- What ended the tokens. -/
  error : Option Error
  /-- The meaning of tag handles. -/
  handles : List (String × String)
  /-- The nodes with anchors; an unfinished one stands as a reference to itself. -/
  anchors : List (String × Node)

/-- A step that makes nodes. -/
abbrev Compose := StateT Composer (Except Error)

namespace Compose

/-- The handles that are known without a directive. -/
def standardHandles : List (String × String) := [("!", "!"), ("!!", Tag.core "")]

/-- Fails with a problem. -/
def fail {α : Type} (stage : Stage) (activity : Option Activity) (start : Option Mark) (p : Problem)
    (place : Mark) : Compose α :=
  throw (.located ⟨stage, activity, start, p, place⟩)

/-- The next token. Past the last one stands what ended the tokens. -/
def peek : Compose Token := do
  match (← get).tokens with
  | t :: _ => return t
  | [] =>
    match (← get).error with
    | some e => throw e
    | none => return ⟨.streamEnd, ⟨0, 0, 0⟩, ⟨0, 0, 0⟩⟩

/-- The kind of the next token. -/
def peekKind : Compose TokenKind := return (← peek).kind

/-- Takes the next token. -/
def take : Compose Token := do
  let t ← peek
  modify fun s => { s with tokens := s.tokens.drop 1 }
  return t

/-- An empty scalar at a place. -/
def emptyScalar (m : Mark) : Node :=
  .scalar ⟨Tag.ofPlain "", none, m⟩ ""

/-- Anchor and tag before a node, the place of the first of them, and that of the tag. -/
structure Properties where
  anchor : Option String
  tag : Option (Option String × String)
  start : Option Mark
  tagMark : Mark

/-- Reads a tag token, if one is next. -/
def takeTag? : Compose (Option ((Option String × String) × Mark)) := do
  let t ← peek
  match t.kind with
  | .tag handle suffix =>
    let _ ← take
    return some ((handle, suffix), t.start)
  | _ => return none

/-- Reads an anchor token, if one is next. -/
def takeAnchor? : Compose (Option (String × Mark)) := do
  let t ← peek
  match t.kind with
  | .anchor name =>
    let _ ← take
    return some (name, t.start)
  | _ => return none

/-- Reads anchor and tag, in either order. -/
def properties : Compose Properties := do
  match ← takeAnchor? with
  | some (name, m) =>
    match ← takeTag? with
    | some (tag, tm) => return ⟨some name, some tag, some m, tm⟩
    | none => return ⟨some name, none, some m, m⟩
  | none =>
    match ← takeTag? with
    | some (tag, tm) =>
      match ← takeAnchor? with
      | some (name, _) => return ⟨some name, some tag, some tm, tm⟩
      | none => return ⟨none, some tag, some tm, tm⟩
    | none => return ⟨none, none, none, ⟨0, 0, 0⟩⟩

/-- The full tag that was written. -/
def fullTag (p : Properties) : Compose (Option String) := do
  match p.tag with
  | none => return none
  | some (none, suffix) => return some suffix
  | some (some handle, suffix) =>
    match (← get).handles.lookup handle with
    | some expansion => return some (expansion ++ suffix)
    | none => fail .parser (some .node) p.start (.unknownHandle handle) p.tagMark

/-- A tag that says something about the node. -/
def specificTag? : Option String → Option String
  | some "!" => none
  | t => t

/-- The tag of a scalar: the one given, or else the one of its form if it is plain or marked as such. -/
def scalarTag (given : Option String) (plain : Bool) (text : String) : String :=
  match given with
  | none => if plain then Tag.ofPlain text else Tag.text
  | some "!" => Tag.ofPlain text
  | some t => t

/-- Refuses an anchor that was given before. -/
def checkAnchor (anchor : Option String) (m : Mark) : Compose Unit := do
  match anchor with
  | none => return ()
  | some name =>
    match (← get).anchors.lookup name with
    | some first =>
      fail .composer (some (.firstAnchor name)) (some first.mark) .secondAnchor m
    | none => return ()

/-- Remembers the node of an anchor. -/
def remember (anchor : Option String) (n : Node) : Compose Unit :=
  match anchor with
  | none => return ()
  | some name => modify fun s => { s with anchors := (name, n) :: s.anchors }

/-- The node of a reference. -/
def referred (name : String) (m : Mark) : Compose Node := do
  match (← get).anchors.lookup name with
  | some n => return n
  | none => fail .composer none none (.unknownAlias name) m

/-- Makes a collection: its anchor refers to itself while its parts are made. -/
def collection (head : Head) (isMapping : Bool) (parts : Compose Node) : Compose Node := do
  checkAnchor head.anchor head.mark
  remember head.anchor (.enclosing head isMapping)
  let n ← parts
  remember head.anchor n
  return n

mutual

/-- A node. `block` admits block collections, and `indentless` sequences at the column of their mapping. -/
def node (block indentless : Bool) : Nat → Compose Node
  | 0 => do fail .parser none none (.noContent "") (← peek).start
  | fuel + 1 => do
    let t ← peek
    match t.kind with
    | .reference name =>
      let _ ← take
      referred name t.start
    | _ =>
      let p ← properties
      let given ← fullTag p
      let t ← peek
      let start := p.start.getD t.start
      let head (default : String) : Head := ⟨(specificTag? given).getD default, p.anchor, start⟩
      match t.kind with
      | .blockEntry =>
        if indentless then
          collection (head Tag.sequence) false do
            return .sequence (head Tag.sequence) (← indentlessItems fuel)
        else content block p given start t
      | .flowSequenceStart =>
        collection (head Tag.sequence) false do
          let t ← take
          return .sequence (head Tag.sequence) (← flowItems t.start true fuel)
      | .flowMappingStart =>
        collection (head Tag.mapping) true do
          let t ← take
          return .mapping (head Tag.mapping) (← flowEntries t.start true fuel)
      | .blockSequenceStart =>
        if block then
          collection (head Tag.sequence) false do
            let t ← take
            return .sequence (head Tag.sequence) (← blockItems t.start fuel)
        else content block p given start t
      | .blockMappingStart =>
        if block then
          collection (head Tag.mapping) true do
            let t ← take
            return .mapping (head Tag.mapping) (← blockEntries t.start fuel)
        else content block p given start t
      | _ => content block p given start t
where
  /-- A scalar; an anchor or tag alone makes an empty one. -/
  content (block : Bool) (p : Properties) (given : Option String) (start : Mark) (t : Token) :
      Compose Node := do
    match t.kind with
    | .scalar text plain =>
      let _ ← take
      scalar p.anchor (scalarTag given plain text) start text
    | _ =>
      if p.anchor.isSome || given.isSome then
        scalar p.anchor (scalarTag given true "") start ""
      else
        fail .parser (some (if block then .blockNode else .flowNode)) (some start)
          (.noContent t.kind.title) t.start
  /-- A scalar node. -/
  scalar (anchor : Option String) (tag : String) (start : Mark) (text : String) : Compose Node := do
    checkAnchor anchor start
    let n := Node.scalar ⟨tag, anchor, start⟩ text
    remember anchor n
    return n

/-- The items of a block sequence, up to its end. -/
def blockItems (m : Mark) : Nat → Compose (List Node)
  | 0 => return []
  | fuel + 1 => do
    let t ← peek
    match t.kind with
    | .blockEntry =>
      let _ ← take
      let item ← match ← peekKind with
        | .blockEntry | .blockEnd => pure (emptyScalar t.stop)
        | _ => node true false fuel
      return item :: (← blockItems m fuel)
    | .blockEnd =>
      let _ ← take
      return []
    | k => fail .parser (some .blockCollection) (some m) (.noBlockEnd k.title) t.start

/-- The items of a sequence at the column of the mapping around it. -/
def indentlessItems : Nat → Compose (List Node)
  | 0 => return []
  | fuel + 1 => do
    let t ← peek
    match t.kind with
    | .blockEntry =>
      let _ ← take
      let item ← match ← peekKind with
        | .blockEntry | .key | .value | .blockEnd => pure (emptyScalar t.stop)
        | _ => node true false fuel
      return item :: (← indentlessItems fuel)
    | _ => return []

/-- The entries of a block mapping, up to its end. -/
def blockEntries (m : Mark) : Nat → Compose (List (Node × Node))
  | 0 => return []
  | fuel + 1 => do
    let t ← peek
    match t.kind with
    | .blockEnd =>
      let _ ← take
      return []
    | .key =>
      let _ ← take
      let key ← blockPart t.stop fuel
      let value ← blockValue fuel
      return (key, value) :: (← blockEntries m fuel)
    | k => fail .parser (some .blockMapping) (some m) (.noBlockEnd k.title) t.start

/-- A key or value of a block mapping after its indicator, which ends at `m`. -/
def blockPart (m : Mark) : Nat → Compose Node
  | 0 => return emptyScalar m
  | fuel + 1 => do
    match ← peekKind with
    | .key | .value | .blockEnd => return emptyScalar m
    | _ => node true true fuel

/-- The value of a block mapping, with its indicator. -/
def blockValue : Nat → Compose Node
  | 0 => do return emptyScalar (← peek).start
  | fuel + 1 => do
    let t ← peek
    match t.kind with
    | .value =>
      let _ ← take
      blockPart t.stop fuel
    | _ => return emptyScalar t.start

/-- The items of a flow sequence, up to its end. -/
def flowItems (m : Mark) (first : Bool) : Nat → Compose (List Node)
  | 0 => return []
  | fuel + 1 => do
    let t ← peek
    match t.kind with
    | .flowSequenceEnd =>
      let _ ← take
      return []
    | k =>
      if !first then
        if k != .flowEntry then
          fail .parser (some .flowSequence) (some m) (.noSequenceEnd k.title) t.start
        let _ ← take
      let t ← peek
      match t.kind with
      | .flowSequenceEnd =>
        let _ ← take
        return []
      | .key =>
        let _ ← take
        let key ← match ← peekKind with
          | .value | .flowEntry | .flowSequenceEnd => pure (emptyScalar t.stop)
          | _ => node false false fuel
        let value ← flowValue .flowSequenceEnd fuel
        let item := Node.mapping ⟨Tag.mapping, none, t.start⟩ [(key, value)]
        return item :: (← flowItems m false fuel)
      | _ =>
        let item ← node false false fuel
        return item :: (← flowItems m false fuel)

/-- The value of an entry between brackets, with its indicator; `closing` is the bracket that ends the
collection. -/
def flowValue (closing : TokenKind) : Nat → Compose Node
  | 0 => do return emptyScalar (← peek).start
  | fuel + 1 => do
    let t ← peek
    match t.kind with
    | .value =>
      let _ ← take
      let k ← peekKind
      if k == .flowEntry || k == closing then return emptyScalar t.stop
      else node false false fuel
    | _ => return emptyScalar t.start

/-- The entries of a flow mapping, up to its end. -/
def flowEntries (m : Mark) (first : Bool) : Nat → Compose (List (Node × Node))
  | 0 => return []
  | fuel + 1 => do
    let t ← peek
    match t.kind with
    | .flowMappingEnd =>
      let _ ← take
      return []
    | k =>
      if !first then
        if k != .flowEntry then
          fail .parser (some .flowMapping) (some m) (.noMappingEnd k.title) t.start
        let _ ← take
      let t ← peek
      match t.kind with
      | .flowMappingEnd =>
        let _ ← take
        return []
      | .key =>
        let _ ← take
        let key ← match ← peekKind with
          | .value | .flowEntry | .flowMappingEnd => pure (emptyScalar t.stop)
          | _ => node false false fuel
        let value ← flowValue .flowMappingEnd fuel
        return (key, value) :: (← flowEntries m false fuel)
      | _ =>
        let key ← node false false fuel
        let value := emptyScalar (← peek).start
        return (key, value) :: (← flowEntries m false fuel)

end

/-! ## Documents -/

/-- What the directives before a document say. -/
structure Preamble where
  version : Bool
  handles : List (String × String)

/-- Reads the directives before a document. -/
def directives (p : Preamble) : Nat → Compose Preamble
  | 0 => return p
  | fuel + 1 => do
    let t ← peek
    match t.kind with
    | .directive d =>
      let _ ← take
      match d with
      | .version major _ =>
        if p.version then fail .parser none none .secondVersion t.start
        else if major != 1 then fail .parser none none .wrongVersion t.start
        else directives { p with version := true } fuel
      | .handle h expansion =>
        if (p.handles.lookup h).isSome then fail .parser none none (.secondHandle h) t.start
        else directives { p with handles := p.handles ++ [(h, expansion)] } fuel
      | .other => directives p fuel
    | _ => return p

/-- Steps over the lines that end a document. -/
def skipDocumentEnds : Nat → Compose Unit
  | 0 => return ()
  | fuel + 1 => do
    match ← peekKind with
    | .documentEnd =>
      let _ ← take
      skipDocumentEnds fuel
    | _ => return ()

/-- Reads the start of an explicit document. The answer is its place, or nothing at the end of the
stream. -/
def documentStart? (fuel : Nat) : Compose (Option Mark) := do
  skipDocumentEnds fuel
  let t ← peek
  if t.kind == .streamEnd then return none
  else
    let p ← directives ⟨false, []⟩ fuel
    let next ← peek
    if next.kind != .documentStart then
      fail .parser none none (.noDocumentStart next.kind.title) next.start
    else
      let _ ← take
      modify fun s => { s with handles := p.handles ++ standardHandles }
      return some t.start

/-- The content of an explicit document. -/
def documentContent (fuel : Nat) : Compose Node := do
  let t ← peek
  match t.kind with
  | .directive _ | .documentStart | .documentEnd | .streamEnd => return emptyScalar t.start
  | _ => node true false fuel

/-- Reads the line that ends a document, if there is one. -/
def documentEnd : Compose Unit := do
  match ← peekKind with
  | .documentEnd =>
    let _ ← take
    return ()
  | _ => return ()

/-- The only document of a stream, or nothing if there is none. -/
def onlyDocument (fuel : Nat) : Compose (Option Node) := do
  let root? ← match ← peekKind with
    | .directive _ | .documentStart | .streamEnd => do
      match ← documentStart? fuel with
      | none => pure none
      | some _ => pure (some (← documentContent fuel))
    | _ => pure (some (← node true false fuel))
  match root? with
  | none => return none
  | some root =>
    documentEnd
    match ← documentStart? fuel with
    | none => return some root
    | some m => fail .composer (some .onlyDocument) (some root.mark) .secondDocument m

end Compose

/-- The node of the only document of a run of tokens, or nothing if there is no document. Each call consumes
a token or stands directly before one that does, so that some calls per token are fuel enough. -/
def Node.ofTokens (run : TokenRun) : Except Error (Option Node) :=
  ((Compose.onlyDocument (4 * run.tokens.length + 8)).run
    ⟨run.tokens, run.error, Compose.standardHandles, []⟩).map (·.1)

end Triage.Yaml
