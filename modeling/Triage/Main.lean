import Triage.Command.Run
import Std.Time.DateTime.Timestamp

/-!
# The program

Reads the files and variables that a command line is about, runs the command, and prints what it says.
-/

namespace Triage.Program

open Command

/-- Reads the file at a path into a tree. -/
def readInto (tree : FileTree) (path : String) : IO FileTree := do
  try
    return tree.insert path (← IO.FS.readBinFile path).toList
  catch
    | .noFileOrDirectory .. => return tree
    | .inappropriateType .. => return tree.insert (path ++ "/contents") []
    | e => throw e

/-- The variables that matter: those that override settings, and those of the environment file. -/
def variableNames (o : Options) (tree : FileTree) : List String :=
  let named := match tree.readText o.environmentFile with
    | .ok text => (EnvironmentFile.statements text).names
    | .error _ => []
  Environment.overrides.map (·.2) ++ named

/-- The values of variables that are set. -/
def readVariables (names : List String) : IO Environment :=
  names.eraseDups.filterMapM fun name => return (← IO.getEnv name).map (name, ·)

/-- The time of day, of the zone of reference. -/
def timeOfDay : IO String := do
  let seconds := (← Std.Time.Timestamp.now).toSecondsSinceUnixEpoch.val % 86400
  let two (n : Int) := (if n < 10 then "0" else "") ++ toString n
  return s!"{two (seconds / 3600)}:{two (seconds / 60 % 60)}:{two (seconds % 60)}"

/-- Runs what a command line asks for, and gives the exit code. -/
def run (o : Options) : IO UInt32 := do
  let files := [o.environmentFile, o.settingsFile.getD Settings.standardPath]
  let tree ← files.foldlM readInto .empty
  let env ← readVariables (variableNames o tree)
  let settings := do o.settings tree (← o.environment tree env).1
  let taxonomyFile := (settings.toOption.bind (·.taxonomyFile)).toList
  let tree ← taxonomyFile.foldlM readInto tree
  match o.run tree env with
  | .error e =>
    IO.eprintln e.message
    return 1
  | .ok r =>
    IO.print r.output
    IO.eprint (r.errors (← timeOfDay))
    return r.exit.toUInt32

end Triage.Program

open Triage in
/-- Runs the program. -/
def main (args : List String) : IO UInt32 := do
  match Command.Options.ofArguments args with
  | .ok o => Program.run o
  | .error stop =>
    match stop with
    | .help _ =>
      IO.println stop.line
      return 0
    | .fault _ _ =>
      IO.eprintln stop.line
      return 2
