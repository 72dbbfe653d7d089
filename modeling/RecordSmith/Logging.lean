import RecordSmith.Text.Casing
import RecordSmith.Value.Basic

/-!
# Loggers

Names of loggers and levels of logging.  Every logger of the program has the program's name or is
below it.
-/

namespace RecordSmith.Logging

/-- The name of the logger above all others. -/
def rootName : Text := "avsc_codegen"

/-- The name of the logger that stands for a name. -/
def loggerName (name : Option Text) : Text :=
  match name with
  | none => rootName
  | some t =>
    if t == rootName || (rootName ++ ".").isPrefixOf t then t else rootName ++ "." ++ t

/-- The levels by name. -/
def levels : List (Text × Int) :=
  [("CRITICAL", 50), ("FATAL", 50), ("ERROR", 40), ("WARN", 30), ("WARNING", 30), ("INFO", 20),
    ("DEBUG", 10), ("NOTSET", 0)]

/-- Why a level is refused. -/
inductive LevelError where
  | unknownName (name : Text)
  | notALevel (value : Value)
  deriving Repr

/-- The level that a value stands for: a number stands for itself, and a name in any case for the
level with that name. -/
def level (value : Value) : Except LevelError Value :=
  match value with
  | .text name =>
    match levels.lookup (Text.toUpper name) with
    | some number => .ok (.integer number)
    | none => .error (.unknownName name)
  | .integer number => .ok (.integer number)
  | .boolean b => .ok (.boolean b)
  | other => .error (.notALevel other)

end RecordSmith.Logging
