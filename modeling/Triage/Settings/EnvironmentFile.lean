import Triage.Settings.Basic

/-!
# Environment files

A file of statements `NAME=value` adds variables to the environment.

* `readStatement`: one statement. Values may stand in single or double quotes, over several lines, and a
  number sign starts a comment.
* `statements`: all statements of a text, with the lines at which those start that cannot be read.
* `expand`: a value with the variables filled in that it mentions.
* `Environment.extend`: the environment with the variables of a text that it does not have yet.
-/

namespace Triage

namespace EnvironmentFile

open Triage.Text (isBlank)

/-- White space that ends no line. -/
def isInlineBlank (c : Char) : Bool := isBlank c && c != '\n' && c != '\r'

/-- A statement: a variable with its value, if it has one. -/
structure Assignment where
  name : String
  value : Option String
  deriving DecidableEq, Repr

/-- What a reader gives: a result and the rest of the text, or the rest from where it got stuck. -/
abbrev Reading (α : Type) := Except (List Char) (α × List Char)

/-- The text after the word `export` and white space, if it starts so. -/
def skipExport (cs : List Char) : List Char :=
  let word := "export".toList
  let rest := cs.drop word.length
  if word.isPrefixOf cs && (rest.head?.map isInlineBlank).getD false then rest.dropWhile isInlineBlank
  else cs

/-- Whether a character may stand in a plain name. -/
def isNameChar (c : Char) : Bool := c != '=' && c != '#' && !isBlank c

/-- A name in single quotes or a plain one; there is none before a comment. -/
def readName (cs : List Char) : Reading (Option String) :=
  match cs with
  | '#' :: _ => .ok (none, cs)
  | '\'' :: rest =>
    let name := rest.takeWhile (· != '\'')
    match rest.drop name.length with
    | '\'' :: after => if name.isEmpty then .error cs else .ok (some (String.ofList name), after)
    | _ => .error cs
  | cs =>
    let name := cs.takeWhile isNameChar
    if name.isEmpty then .error cs else .ok (some (String.ofList name), cs.drop name.length)

/-- The text up to the closing quote and the text after it. A quote after a backslash closes only if no
later one does. -/
def closeQuote (quote : Char) (cs : List Char) : Option (List Char × List Char) := go none [] none cs
where
  /-- Looks for the quote; `done` holds the text before in reverse, `candidate` what an earlier quote after
  a backslash would give. -/
  go (previous : Option Char) (done : List Char) (candidate : Option (List Char × List Char)) :
      List Char → Option (List Char × List Char)
    | [] => candidate
    | c :: cs =>
      if c != quote then go (some c) (c :: done) candidate cs
      else if previous == some '\\' then go (some c) (c :: done) (some (done.reverse, cs)) cs
      else some (done.reverse, cs)

/-- What a character stands for after a backslash in double quotes. -/
def doubleEscape? : Char → Option Char
  | '\\' => some '\\'
  | '\'' => some '\''
  | '"' => some '"'
  | 'a' => some '\x07'
  | 'b' => some '\x08'
  | 'f' => some '\x0c'
  | 'n' => some '\n'
  | 'r' => some '\r'
  | 't' => some '\t'
  | 'v' => some '\x0b'
  | _ => none

/-- What a character stands for after a backslash in single quotes. -/
def singleEscape? : Char → Option Char
  | '\\' => some '\\'
  | '\'' => some '\''
  | _ => none

/-- The text with its escapes replaced. -/
def unescape (escape? : Char → Option Char) : List Char → List Char
  | '\\' :: c :: cs =>
    match escape? c with
    | some d => d :: unescape escape? cs
    | none => '\\' :: unescape escape? (c :: cs)
  | c :: cs => c :: unescape escape? cs
  | [] => []

/-- A plain value without a comment, which needs white space before it, and without white space at its
end. -/
def plainValue (cs : List Char) : String := String.ofList (trimEnd (cut cs))
where
  /-- The text before white space that a number sign follows. -/
  cut : List Char → List Char
    | [] => []
    | c :: cs =>
      if isBlank c && (cs.dropWhile isBlank).head? == some '#' then [] else c :: cut cs
  /-- The text without white space at its end. -/
  trimEnd (cs : List Char) : List Char := (cs.reverse.dropWhile isBlank).reverse

/-- Whether a character is part of a line. -/
def isInLine (c : Char) : Bool := c != '\n' && c != '\r'

/-- The value after an equals sign. -/
def readValue (cs : List Char) : Reading String :=
  match cs with
  | '\'' :: rest =>
    match closeQuote '\'' rest with
    | some (v, after) => .ok (String.ofList (unescape singleEscape? v), after)
    | none => .error cs
  | '"' :: rest =>
    match closeQuote '"' rest with
    | some (v, after) => .ok (String.ofList (unescape doubleEscape? v), after)
    | none => .error cs
  | cs => .ok (plainValue (cs.takeWhile isInLine), cs.dropWhile isInLine)

/-- The value, if there is an equals sign. -/
def readOptionalValue (cs : List Char) : Reading (Option String) :=
  match cs with
  | '=' :: rest => (readValue (rest.dropWhile isInlineBlank)).map fun (v, after) => (some v, after)
  | cs => .ok (none, cs)

/-- The text after a comment, if there is one. -/
def skipComment (cs : List Char) : List Char :=
  match cs.dropWhile isInlineBlank with
  | '#' :: rest => rest.dropWhile isInLine
  | _ => cs

/-- The text after the end of the line, before which there may only be white space. -/
def endLine (cs : List Char) : Reading Unit :=
  match cs.dropWhile isInlineBlank with
  | [] => .ok ((), [])
  | '\r' :: '\n' :: rest => .ok ((), rest)
  | '\r' :: rest | '\n' :: rest => .ok ((), rest)
  | _ => .error cs

/-- The text after the line. -/
def skipLine (cs : List Char) : List Char :=
  match cs.dropWhile isInLine with
  | _ :: rest => rest
  | [] => []

/-- One statement, which may be empty or a comment. -/
def readStatement (cs : List Char) : Except (List Char) (Option Assignment × List Char) :=
  match cs.dropWhile isBlank with
  | [] => .ok (none, [])
  | cs => do
    let (name, cs) ← readName (skipExport cs)
    let (value, cs) ← readOptionalValue (cs.dropWhile isInlineBlank)
    let (_, cs) ← endLine (skipComment cs)
    return (name.map fun n => ⟨n, value⟩, cs)

/-- What a text says. -/
structure Contents where
  assignments : List Assignment
  /-- The lines at which statements start that cannot be read. -/
  faultyLines : List Nat
  deriving DecidableEq, Repr

/-- The number of line feeds. -/
def lineFeeds (cs : List Char) : Nat := cs.count '\n'

/-- The statements of a text, given the number of line feeds of the whole and a bound on the number of
statements. -/
def statementsFrom (feeds : Nat) : Nat → List Char → Contents
  | 0, _ | _, [] => ⟨[], []⟩
  | fuel + 1, cs =>
    match readStatement cs with
    | .ok (a, rest) =>
      let more := statementsFrom feeds fuel rest
      ⟨a.toList ++ more.assignments, more.faultyLines⟩
    | .error rest =>
      let more := statementsFrom feeds fuel (skipLine rest)
      ⟨more.assignments, (feeds - lineFeeds cs + 1) :: more.faultyLines⟩

/-- The statements of a text. -/
def statements (text : String) : Contents :=
  statementsFrom (lineFeeds text.toList) text.length text.toList

/-! ## Variables in values -/

/-- A mention of a variable, and what stands for it if it is not set; and the text after it. -/
def readMention (cs : List Char) : Option ((String × String) × List Char) :=
  let name := cs.takeWhile fun c => c != '}' && c != ':'
  match cs.drop name.length with
  | '}' :: rest => some ((String.ofList name, ""), rest)
  | ':' :: '-' :: rest =>
    let other := rest.takeWhile (· != '}')
    match rest.drop other.length with
    | '}' :: after => some ((String.ofList name, String.ofList other), after)
    | _ => none
  | _ => none

/-- A value with the variables filled in that it mentions. -/
def expandList (value? : String → Option String) : Nat → List Char → List Char
  | 0, cs => cs
  | _, [] => []
  | fuel + 1, '$' :: '{' :: cs =>
    match readMention cs with
    | some ((name, other), rest) => ((value? name).getD other).toList ++ expandList value? fuel rest
    | none => '$' :: expandList value? fuel ('{' :: cs)
  | fuel + 1, c :: cs => c :: expandList value? fuel cs

/-- A value with the variables filled in that it mentions. -/
def expand (value? : String → Option String) (value : String) : String :=
  String.ofList (expandList value? value.length value.toList)

/-- The names of the variables that a value mentions. -/
def mentionedNames : Nat → List Char → List String
  | 0, _ | _, [] => []
  | fuel + 1, '$' :: '{' :: cs =>
    match readMention cs with
    | some ((name, _), rest) => name :: mentionedNames fuel rest
    | none => mentionedNames fuel ('{' :: cs)
  | fuel + 1, _ :: cs => mentionedNames fuel cs

/-- The names of the variables that are set or mentioned. -/
def Contents.names (c : Contents) : List String :=
  c.assignments.flatMap fun a =>
    let value := a.value.getD ""
    a.name :: mentionedNames value.length value.toList

/-- Sets a variable to its last value, in the place of its first one. -/
def setVariable (name : String) (value : Option String) :
    List (String × Option String) → List (String × Option String)
  | [] => [(name, value)]
  | v :: vs => if v.1 == name then (name, value) :: vs else v :: setVariable name value vs

/-- The values of the variables. A variable may be mentioned after it has been set; what the environment
says of it wins. One that was set to nothing counts as empty. -/
def resolve (env : Environment) (as : List Assignment) : List (String × Option String) :=
  as.foldl (fun vs a =>
    let value? (name : String) : Option String :=
      (env.lookup name).orElse fun _ => (vs.lookup name).map (·.getD "")
    setVariable a.name (a.value.map (expand value?)) vs) []

end EnvironmentFile

/-- Why a variable cannot be set. -/
inductive VariableError where
  | nul
  | name
  deriving DecidableEq, Repr

/-- The wording of such a reason. -/
def VariableError.message : VariableError → String
  | nul => "embedded null byte"
  | name => "illegal environment variable name"

namespace Environment

/-- Sets a variable. -/
def set (env : Environment) (name value : String) : Except VariableError Environment :=
  if name.toList.contains '\x00' || value.toList.contains '\x00' then .error .nul
  else if name.toList.contains '=' then .error .name
  else .ok (env ++ [(name, value)])

/-- Sets the variables of a text that the environment does not have yet. -/
def extend (env : Environment) (as : List EnvironmentFile.Assignment) :
    Except VariableError Environment :=
  (EnvironmentFile.resolve env as).foldlM (fun e (v : String × Option String) =>
    match v.2 with
    | some value => if (env.lookup v.1).isSome then .ok e else e.set v.1 value
    | none => .ok e) env

end Environment

end Triage
