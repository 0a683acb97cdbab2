import Triage.Files.Tree
import Triage.Log.Book
import Triage.Value.Basic

/-!
# Where records go

Records go to the console and, if asked for, to a file that is put aside when it gets too large.

* `Line`: a line of a log without its time, which is not kept.
* `Handler`: a place for records, with the level from which on it takes them.
* `Output`: the handlers with the lines that they have written.
* `Output.configure`: replaces the handlers; nothing is written twice, however often that is done.
* `Output.emit`: hands a record to every handler.
-/

namespace Triage.Log

/-- A line without its time, which stands before it. -/
abbrev Line := String

/-- How many characters the time takes in a file. -/
def fileTimeWidth : Nat := "2000-01-01 00:00:00".length

/-- What follows the time on the console. -/
def consoleLine (r : Record) : Line :=
  s!" [{levelTitle r.level}] o={r.tags.origin} s={r.tags.service} | {r.message}"

/-- What follows the time in a file. -/
def fileLine (logger : String) (r : Record) : Line :=
  s!" [{levelTitle r.level}] {logger} | o={r.tags.origin} s={r.tags.service} | {r.message}"

/-- The text of lines, with the given time before each. -/
def textOfLines (time : String) (lines : List Line) : String :=
  String.join (lines.map fun l => time ++ l ++ "\n")

/-! ## Files of lines -/

/-- Files of lines by path. -/
abbrev Files := List (String × List Line)

namespace Files

/-- The files without the one at a path. -/
def erase (fs : Files) (path : String) : Files := fs.filter fun f => f.1 != path

/-- Moves a file, if there is one, in place of whatever is there. -/
def rename (fs : Files) (source target : String) : Files :=
  match fs.lookup source with
  | none => fs
  | some lines => (erase (erase fs source) target) ++ [(target, lines)]

/-- Makes sure that there is a file; a new one is empty. -/
def ensure (fs : Files) (path : String) : Files :=
  if (fs.lookup path).isSome then fs else fs ++ [(path, [])]

/-- Writes a line at the end of a file. -/
def append (fs : Files) (path : String) (line : Line) : Files :=
  fs.map fun f => if f.1 == path then (f.1, f.2 ++ [line]) else f

/-- The size of a file in bytes. -/
def size (fs : Files) (path : String) : Nat :=
  ((fs.lookup path).getD []).foldr (fun l n => fileTimeWidth + l.utf8ByteSize + 1 + n) 0

/-- The name of a file that was put aside. -/
def asidePath (path : String) (i : Nat) : String := s!"{path}.{i}"

/-- Moves the files with the numbers from `n` down to one to the next number each. -/
def shift (fs : Files) (path : String) : Nat → Files
  | 0 => fs
  | n + 1 => (fs.rename (asidePath path (n + 1)) (asidePath path (n + 2))).shift path n

/-- Puts a file aside and starts a new one, keeping so many old ones. -/
def rotate (fs : Files) (path : String) (backups : Nat) : Files :=
  match backups with
  | 0 => fs
  | n + 1 => ((fs.shift path n).rename path (asidePath path 1)).ensure path

end Files

/-! ## Handlers -/

/-- When a file is put aside: from a size on, if it is positive; and how many old ones are kept. -/
structure Rotation where
  maxBytes : Int
  backups : Int
  deriving DecidableEq, Repr

/-- Whether one more line would make the file too large. The line counts by its characters. -/
def Rotation.isDue (r : Rotation) (size : Nat) (line : Line) : Bool :=
  0 < r.maxBytes && r.maxBytes ≤ size + fileTimeWidth + line.length + 1

/-- A place for records. -/
inductive Place where
  | console
  | file (path : String) (rotation : Rotation)
  deriving DecidableEq, Repr

/-- A place together with the level from which on it takes records. -/
structure Handler where
  place : Place
  level : Int
  deriving DecidableEq, Repr

/-- How logging is to be configured. -/
structure Setup where
  file : Option String
  consoleLevel : Int
  fileLevel : Int
  rotation : Rotation
  deriving DecidableEq, Repr

namespace Setup

/-- Only the console, from informative records on. -/
def standard : Setup where
  file := none
  consoleLevel := LevelName.info.number
  fileLevel := LevelName.debug.number
  rotation := ⟨10000000, 5⟩

/-- The handlers that a setup asks for. -/
def handlers (s : Setup) : List Handler :=
  ⟨.console, s.consoleLevel⟩ ::
    (s.file.map fun p => ⟨.file (normalPath p) s.rotation, s.fileLevel⟩).toList

/-- The message that logging was configured. -/
def message (s : Setup) : String :=
  s!"Logging configured (console_level={levelTitle s.consoleLevel}, file={(s.file.map normalPath).getD Value.null.toText})"

end Setup

/-- The handlers, and what they have written. -/
structure Output where
  handlers : List Handler
  console : List Line
  files : Files
  deriving DecidableEq, Repr

namespace Output

/-- No handlers, and nothing written. -/
def empty : Output := ⟨[], [], []⟩

/-- The logger that tells of the configuration. -/
def setupLogger : String := "faultline.infrastructure.observability.logging"

/-- Whether a logger is the named one or below it. -/
def isWithin (tree logger : String) : Bool := logger == tree || logger.startsWith (tree ++ ".")

/-- The level from which on a logger takes records. -/
def threshold (logger : String) : LevelName :=
  if isWithin "opentelemetry" logger then .warning else .debug

/-- How a logger is called in a line. -/
def loggerTitle (logger : String) : String := if logger.isEmpty then "root" else logger

/-- Hands a record to one handler. -/
def deliver (o : Output) (logger : String) (r : Record) (h : Handler) : Output :=
  if r.level < h.level then o
  else
    match h.place with
    | .console => { o with console := o.console ++ [consoleLine r] }
    | .file path rotation =>
      let line := fileLine (loggerTitle logger) r
      let files :=
        if rotation.isDue (o.files.size path) line then o.files.rotate path rotation.backups.toNat
        else o.files
      { o with files := files.append path line }

/-- Hands a record to every handler, unless its logger is not interested. -/
def emit (o : Output) (logger : String) (r : Record) : Output :=
  if r.level < (threshold logger).number then o
  else o.handlers.foldl (fun o h => o.deliver logger r h) o

/-- Replaces the handlers, opens the file, and writes that it was done. -/
def configure (o : Output) (s : Setup) (c : Context) : Output :=
  let files := match s.file with
    | none => o.files
    | some p => o.files.ensure (normalPath p)
  emit { o with handlers := s.handlers, files } setupLogger
    ⟨LevelName.info.number, c.tags, s.message⟩

end Output

end Triage.Log
