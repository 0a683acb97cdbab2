/-!
# Levels

* `LevelName`: the names of levels, two of which are known under two names.
* `levelTitle`: how the level of a number is called in a line.
-/

namespace Triage.Log

/-- The names of levels. -/
inductive LevelName where
  | critical
  | fatal
  | error
  | warn
  | warning
  | info
  | debug
  | notset
  deriving DecidableEq, Repr

namespace LevelName

/-- The name as it is written. -/
def text : LevelName → String
  | critical => "CRITICAL"
  | fatal => "FATAL"
  | error => "ERROR"
  | warn => "WARN"
  | warning => "WARNING"
  | info => "INFO"
  | debug => "DEBUG"
  | notset => "NOTSET"

/-- All names. -/
def all : List LevelName := [critical, fatal, error, warn, warning, info, debug, notset]

/-- The name that is written so. -/
def ofText? (s : String) : Option LevelName :=
  all.find? fun l => l.text == s

/-- The number of the level. -/
def number : LevelName → Int
  | critical | fatal => 50
  | error => 40
  | warn | warning => 30
  | info => 20
  | debug => 10
  | notset => 0

end LevelName

/-- How the level of a number is called in a line. -/
def levelTitle (n : Int) : String :=
  if n == 50 then "CRITICAL"
  else if n == 40 then "ERROR"
  else if n == 30 then "WARNING"
  else if n == 20 then "INFO"
  else if n == 10 then "DEBUG"
  else if n == 0 then "NOTSET"
  else s!"Level {n}"

end Triage.Log
