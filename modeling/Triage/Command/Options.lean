import Triage.Command.Arguments
import Triage.Fault.Origin
import Triage.Log.Level
import Triage.Text.Raw

/-!
# The commands

There are two commands: one checks a taxonomy and lists its categories, the other classifies a fault that
is made from the name of its class.

* `Options`: what a command line asks for.
* `Options.ofArguments`: reads a command line.
-/

namespace Triage.Command

/-- What is to be done. The name of a class is as it comes from outside. A message and a service are texts: ones with
surrogates are left out here. -/
inductive Request where
  | check
  | classify (className : RawText) (message : Option String) (origin : CallSite) (service : Option String)
  deriving DecidableEq, Repr

/-- What a command line asks for. Its files are named by texts: names with surrogates are left out here. -/
structure Options where
  settingsFile : Option String
  environmentFile : String
  consoleLevel : Option Log.LevelName
  taxonomyFile : Option String
  request : Request
  deriving DecidableEq, Repr

/-- The levels that may be asked for. -/
def consoleLevels : List Log.LevelName := [.debug, .info, .warning, .error, .critical]

/-- The name of the program. -/
def programName : String := "faultline"

/-- What the program understands before its command. -/
def programGrammar : Grammar where
  program := programName
  flags := [⟨"--config", []⟩, ⟨"--env", []⟩, ⟨"--console-level", consoleLevels.map (·.text)⟩,
    ⟨"--taxonomy", []⟩]
  positional := .command "command" ["check", "classify"]

/-- What the command that checks a taxonomy understands. -/
def checkGrammar : Grammar where
  program := s!"{programName} check"
  flags := []
  positional := .none

/-- What the command that classifies a fault understands. -/
def classifyGrammar : Grammar where
  program := s!"{programName} classify"
  flags := [⟨"--message", []⟩, ⟨"--origin", CallSite.all.map (·.name)⟩, ⟨"--service", []⟩]
  positional := .value "exception_name"

/-- Reads the arguments of a command, and gives the unwanted ones, too. -/
def Request.ofArguments (command : String) (args : List String) : Except Stop (Request × List String) :=
  if command == "check" then
    (checkGrammar.read args).map fun v => (.check, v.unwanted)
  else
    (classifyGrammar.read args).map fun v =>
      let className := (v.words.bind List.head?).getD ""
      let origin := ((v.flag? "--origin").bind CallSite.ofName?).getD .unrecognised
      (.classify (.ofString className) (v.flag? "--message") origin (v.flag? "--service"), v.unwanted)

/-- A text unless it is empty. -/
def nonEmpty? (s : Option String) : Option String := s.filter fun s => !s.isEmpty

/-- Where variables are looked for if no file is named. -/
def standardEnvironmentFile : String := ".env"

/-- Reads a command line, all of it text. An empty name of a settings file or a taxonomy file counts as none. -/
def Options.ofArguments (args : List String) : Except Stop Options := do
  let v ← programGrammar.read args
  let words := v.words.getD []
  let (request, unwanted) ← Request.ofArguments (words.head?.getD "") words.tail
  programGrammar.checkUnwanted (v.unwanted ++ unwanted)
  return {
    settingsFile := nonEmpty? (v.flag? "--config")
    environmentFile := (v.flag? "--env").getD standardEnvironmentFile
    consoleLevel := (v.flag? "--console-level").bind Log.LevelName.ofText?
    taxonomyFile := nonEmpty? (v.flag? "--taxonomy")
    request }

end Triage.Command
