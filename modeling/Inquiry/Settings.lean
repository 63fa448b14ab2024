import Inquiry.Fault
import Inquiry.Text.Case

/-!
# Settings

Settings come from environment variables, whose names are compared without
regard to case.  The last of several spellings of one name counts.
-/

namespace Inquiry

/-- The settings of a process. -/
structure Settings where
  paramStyle : ParamStyle := .dollar
  /-- The path of the vocabulary file; empty for the bundled vocabulary. -/
  vocabularyPath : Text := []
  logLevel : Text := "INFO"
  deriving Repr, DecidableEq

/-- The variables of an environment, in the order in which they were set. -/
abbrev Environment := List (Text × Text)

/-- The value of a variable, whose name is given in small letters. -/
def Environment.get? (environment : Environment) (name : Text) : Option Text :=
  (environment.reverse.find? fun setting => Text.lower setting.1 == name).map (·.2)

namespace Settings

/-- Reads the settings from an environment. -/
def read (environment : Environment) : Except Fault Settings := do
  let paramStyle ←
    match environment.get? "param_style" with
    | none => pure ParamStyle.dollar
    | some given =>
        (Validation.tagged ParamStyle (.text given)).under (.field "param_style")
          |>.mapError Fault.invalid
  return {
    paramStyle
    vocabularyPath := (environment.get? "vocabulary_path").getD []
    logLevel := (environment.get? "log_level").getD "INFO" }

/-- The numbers of the log levels. -/
def levels : List (Text × Nat) :=
  [("DEBUG", 10), ("INFO", 20), ("WARNING", 30), ("WARN", 30), ("ERROR", 40),
   ("CRITICAL", 50), ("FATAL", 50), ("NOTSET", 0)]

/-- The number of the log level; an unknown level counts as `INFO`. -/
def levelNumber (settings : Settings) : Nat :=
  (levels.lookup (Text.upper settings.logLevel)).getD 20

end Settings

/-- The name that every logger stands under. -/
def rootLogger : Text := "src"

/-- The full name of a logger: names already under the root are kept. -/
def loggerName (name : Text) : Text :=
  if name = rootLogger ∨ (rootLogger ++ ".").isPrefixOf name then name
  else rootLogger ++ "." ++ name

end Inquiry
