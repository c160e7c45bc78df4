import BotScript.Text.LowerCase

/-! Levels of the log. -/

namespace BotScript

/-- How much is logged. -/
inductive LogLevel
  | trace
  | debug
  | info
  | warn
  | error
  deriving DecidableEq

namespace LogLevel

/-- The level that a text names, whatever the case of the letters.  Other texts name `info`. -/
def ofText (s : String) : LogLevel :=
  let name := lowerCase s
  if name = "trace" then trace
  else if name = "debug" then debug
  else if name = "warn" || name = "warning" then warn
  else if name = "error" then error
  else info

def name : LogLevel → String
  | trace => "TRACE"
  | debug => "DEBUG"
  | info => "INFO"
  | warn => "WARN"
  | error => "ERROR"

end LogLevel

end BotScript
