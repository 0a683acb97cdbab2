import Triage.Text.Digit
import Triage.Text.Quoted

/-!
# Command line arguments

A command line is read by a grammar: flags that each take a value, a flag for help, and at most one
positional argument, which may be a command with arguments of its own.

* `Grammar.token`: what an argument is by its form alone. A flag may be shortened as long as it is the
  only one that starts so, and its value may follow an equals sign.
* `Grammar.read`: the values of a command line, and the arguments that nobody wants.
* `Stop`: why there are none: the command line is at fault, or asks for help.
-/

namespace Triage.Command

/-- A flag that takes a value. -/
structure Flag where
  name : String
  /-- The values that are possible; none are named if all are. -/
  choices : List String
  deriving DecidableEq, Repr

/-- The positional argument. -/
inductive Positional where
  | none
  | value (name : String)
  /-- A command, with all arguments that follow it. -/
  | command (name : String) (choices : List String)
  deriving DecidableEq, Repr

/-- What a program or a command of it understands. -/
structure Grammar where
  program : String
  flags : List Flag
  positional : Positional
  deriving DecidableEq, Repr

/-- Why a command line gives no values. -/
inductive Stop where
  | fault (program message : String)
  | help (program : String)
  deriving DecidableEq, Repr

/-- The line that tells of a faulty command line. -/
def Stop.line : Stop → String
  | fault program message => s!"{program}: error: {message}"
  | help program => s!"usage: {program}"

/-! ## The form of arguments -/

/-- What an argument names that starts with a hyphen. -/
inductive Target where
  /-- The help flag, as it is written. -/
  | help (spelled : String)
  | flag (f : Flag)
  deriving DecidableEq, Repr

/-- A value that is written together with its flag, and whether an equals sign is between them. -/
structure Attached where
  equals : Bool
  value : String
  deriving DecidableEq, Repr

/-- What an argument is by its form. -/
inductive Token where
  | argument
  /-- The first argument of two hyphens; all that follow are plain arguments. -/
  | separator
  | unknownFlag
  | flag (target : Target) (attached : Option Attached)
  deriving DecidableEq, Repr

/-- The text before and after the first equals sign. -/
def splitEquals (s : String) : Option (String × String) :=
  let name := s.toList.takeWhile (· != '=')
  match s.toList.drop name.length with
  | [] => none
  | _ :: value => some (String.ofList name, String.ofList value)

/-- Whether a text is a negative number: digits, and perhaps a point with digits after it. A line feed may
follow. -/
def isNegativeNumber (s : String) : Bool :=
  match s.toList with
  | '-' :: cs =>
    let cs := if cs.getLast? == some '\n' then cs.dropLast else cs
    let digits := cs.takeWhile Text.isDecimalDigit
    match cs.drop digits.length with
    | [] => !digits.isEmpty
    | '.' :: fraction => !fraction.isEmpty && fraction.all Text.isDecimalDigit
    | _ => false
  | _ => false

namespace Grammar

/-- Everything that a flag may be called, with what it names. -/
def targets (g : Grammar) : List (String × Target) :=
  [("-h", .help "-h"), ("--help", .help "--help")] ++ g.flags.map fun f => (f.name, .flag f)

/-- The flags that a text with one or two hyphens may be short for. -/
def candidates (g : Grammar) (s : String) : List (String × Target × Option Attached) :=
  if "--".toList.isPrefixOf s.toList then
    let split := splitEquals s
    let start := (split.map (·.1)).getD s
    let attached := split.map fun p => Attached.mk true p.2
    (g.targets.filter fun t => t.1.startsWith start).map fun t => (t.1, t.2, attached)
  else
    let short := String.ofList (s.toList.take 2)
    let rest := String.ofList (s.toList.drop 2)
    g.targets.filterMap fun t =>
      if t.1 == short then some (t.1, t.2, some ⟨false, rest⟩)
      else if t.1.startsWith s then some (t.1, t.2, none)
      else none

/-- What an argument is by its form. -/
def token (g : Grammar) (s : String) : Except Stop Token :=
  if s.toList.head? != some '-' then .ok .argument
  else
    match g.targets.lookup s with
    | some t => .ok (.flag t none)
    | none =>
      if s.length == 1 then .ok .argument
      else
        let exact := (splitEquals s).bind fun (name, value) =>
          (g.targets.lookup name).map fun t => Token.flag t (some ⟨true, value⟩)
        match exact with
        | some t => .ok t
        | none =>
          match g.candidates s with
          | [(_, t, attached)] => .ok (.flag t attached)
          | [] =>
            if isNegativeNumber s || s.toList.contains ' ' then .ok .argument else .ok .unknownFlag
          | several =>
            let matching := ", ".intercalate (several.map (·.1))
            .error (.fault g.program s!"ambiguous option: {s} could match {matching}")

/-- The arguments with what they are by their form. -/
def tokens (g : Grammar) : List String → Except Stop (List (String × Token))
  | [] => .ok []
  | s :: ss =>
    if s == "--" then .ok ((s, .separator) :: ss.map (·, .argument))
    else do return (s, ← g.token s) :: (← tokens g ss)

end Grammar

/-! ## Values -/

/-- The values of a command line. -/
structure Values where
  flags : List (String × String)
  /-- The words of the positional argument. -/
  words : Option (List String)
  /-- The arguments that nobody wants. -/
  unwanted : List String
  deriving DecidableEq, Repr

namespace Values

/-- No values. -/
def empty : Values := ⟨[], none, []⟩

/-- The value of a flag; the last one given counts. -/
def flag? (v : Values) (name : String) : Option String := v.flags.reverse.lookup name

end Values

namespace Grammar

/-- A fault of one argument. -/
def argumentFault (g : Grammar) (argument message : String) : Stop :=
  .fault g.program s!"argument {argument}: {message}"

/-- How messages call the help flag. -/
def helpTitle : String := "-h/--help"

/-- Refuses a value that is none of the choices, if there are any. -/
def checkChoice (g : Grammar) (argument : String) (choices : List String) (value : String) :
    Except Stop Unit :=
  if choices.isEmpty || choices.contains value then .ok ()
  else
    let listed := ", ".intercalate (choices.map Text.quoted)
    .error (g.argumentFault argument s!"invalid choice: {Text.quoted value} (choose from {listed})")

/-- What comes of the help flag with something attached to it. One hyphen may carry several flags; two
may not, and neither takes a value. -/
def attachedHelp (g : Grammar) (spelled : String) (attached : Attached) : Stop :=
  let ignored (v : String) := g.argumentFault helpTitle s!"ignored explicit argument {Text.quoted v}"
  if spelled != "-h" || attached.value.isEmpty then ignored attached.value
  else if attached.equals then ignored attached.value
  else
    match attached.value.toList.dropWhile (· == 'h') with
    | '-' :: cs => ignored (String.ofList ('-' :: cs))
    | '=' :: cs =>
      if attached.value.toList.head? == some 'h' then ignored (String.ofList cs) else .help g.program
    | _ => .help g.program

/-- Takes a flag, with its value from what follows unless one is attached. -/
def takeFlag (g : Grammar) (target : Target) (attached : Option Attached)
    (rest : List (String × Token)) : Except Stop ((String × String) × List (String × Token)) :=
  match target with
  | .help spelled =>
    match attached with
    | none => .error (.help g.program)
    | some a => .error (g.attachedHelp spelled a)
  | .flag f =>
    match attached, rest with
    | some a, rest => (g.checkChoice f.name f.choices a.value).map fun _ => ((f.name, a.value), rest)
    | none, (s, .argument) :: rest => (g.checkChoice f.name f.choices s).map fun _ => ((f.name, s), rest)
    | none, _ => .error (g.argumentFault f.name "expected one argument")

/-- Whether a token is the separator. -/
def isSeparator (t : String × Token) : Bool := t.2 == .separator

/-- Takes the positional argument, if it comes next, perhaps with the separator at its side. -/
def takePositional (g : Grammar) (ts : List (String × Token)) :
    Except Stop (Option (List String × List (String × Token))) :=
  let before := ts.takeWhile isSeparator
  match g.positional, ts.drop before.length with
  | .value _, (s, .argument) :: rest =>
    let after := rest.takeWhile isSeparator
    let words := (before.map (·.1) ++ s :: after.map (·.1)).erase "--"
    .ok (some (words, rest.drop after.length))
  | .command name choices, (s, .argument) :: rest =>
    let words := before.map (·.1) ++ s :: rest.map (·.1)
    (g.checkChoice name choices (words.head?.getD s)).map fun _ => some (words, [])
  | _, _ => .ok none

/-- Whether a token is a flag, known or not. -/
def isFlag (t : String × Token) : Bool :=
  match t.2 with
  | .unknownFlag | .flag _ _ => true
  | .argument | .separator => false

/-- Takes the positional argument if it has not been taken yet. -/
def takeOpenPositional (g : Grammar) (v : Values) (ts : List (String × Token)) :
    Except Stop (Option (Values × List (String × Token))) :=
  if v.words.isSome then .ok none
  else (g.takePositional ts).map fun r => r.map fun (words, rest) => ({ v with words }, rest)

/-- Reads tokens from the left, given a bound on their number. -/
def readTokens (g : Grammar) : Nat → Values → List (String × Token) → Except Stop Values
  | 0, v, _ => .ok v
  | fuel + 1, v, ts =>
    if !ts.any isFlag then
      (g.takeOpenPositional v ts).map fun
        | some (v, rest) => { v with unwanted := v.unwanted ++ rest.map (·.1) }
        | none => { v with unwanted := v.unwanted ++ ts.map (·.1) }
    else
      match ts with
      | (s, .unknownFlag) :: rest => readTokens g fuel { v with unwanted := v.unwanted ++ [s] } rest
      | (_, .flag target attached) :: rest =>
        match g.takeFlag target attached rest with
        | .error e => .error e
        | .ok (value, rest) => readTokens g fuel { v with flags := v.flags ++ [value] } rest
      | ts =>
        match g.takeOpenPositional v ts with
        | .error e => .error e
        | .ok (some (v, rest)) => readTokens g fuel v rest
        | .ok none =>
          let skipped := (ts.takeWhile fun t => !isFlag t).map (·.1)
          readTokens g fuel { v with unwanted := v.unwanted ++ skipped } (ts.dropWhile fun t => !isFlag t)

/-- The name of the positional argument, which must be given if there is one. -/
def required? (g : Grammar) : Option String :=
  match g.positional with
  | .none => none
  | .value name | .command name _ => some name

/-- Reads a command line. -/
def read (g : Grammar) (args : List String) : Except Stop Values := do
  let ts ← g.tokens args
  let v ← g.readTokens (2 * ts.length + 1) .empty ts
  match g.required?, v.words with
  | some name, none =>
    .error (.fault g.program s!"the following arguments are required: {name}")
  | _, _ => return v

/-- Refuses a command line with arguments that nobody wants. -/
def checkUnwanted (g : Grammar) (unwanted : List String) : Except Stop Unit :=
  if unwanted.isEmpty then .ok ()
  else .error (.fault g.program ("unrecognized arguments: " ++ " ".intercalate unwanted))

end Grammar

end Triage.Command
