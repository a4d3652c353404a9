/-!
# The progress log

Lines for a human reader, each with its weight.
-/

namespace PageScript

/-- How much a line of the log matters. -/
inductive Weight where
  | info
  /-- Something went wrong and the run goes on. -/
  | warn
  | error
  deriving DecidableEq, Repr

/-- A line of the log. -/
structure LogLine where
  weight : Weight
  message : String
  deriving DecidableEq, Repr

namespace LogLine

/-- A line that tells what is going on. -/
def info (message : String) : LogLine := ⟨.info, message⟩

/-- A line about something that went wrong while the run goes on. -/
def warning (message : String) : LogLine := ⟨.warn, "🟠 Warning: " ++ message⟩

/-- A line about something that went wrong for good. -/
def failure (message : String) : LogLine := ⟨.error, "🛑 " ++ message⟩

/-- The line with its weight in front. -/
def render (line : LogLine) : String :=
  (match line.weight with
    | .info => "INFO "
    | .warn => "WARN "
    | .error => "ERROR ") ++ line.message

end LogLine

end PageScript
