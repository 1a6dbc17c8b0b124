import Searchlight.Display.Style

/-!
# Outcomes

What a command leaves behind: its exit status, the text on standard output, and what goes to standard
error. That is what is logged, and the report of an error. A command ends with its first error, so the
report stands behind all of the log.
-/

namespace Searchlight

namespace Command

structure Outcome where
  status : Nat := 0
  out : String := ""
  /-- The messages that are logged as warnings, in order. What a verbose log has below that level is
  left out. -/
  warnings : List String := []
  /-- The report of an error, without the log. -/
  err : String := ""
  deriving DecidableEq

namespace Outcome

/-- Prints lines and succeeds. -/
def lines (ls : List String) : Outcome where
  out := String.join (ls.map (· ++ "\n"))

def failure (message : String) : Outcome where
  status := 1
  err := "error: " ++ message ++ "\n"

/-- An outcome after a text has been printed. -/
def after (text : String) (o : Outcome) : Outcome := { o with out := text ++ o.out }

/-- An outcome after warnings have been logged. -/
def warned (messages : List String) (o : Outcome) : Outcome :=
  { o with warnings := messages ++ o.warnings }

/-- A line of the log. -/
def warningLine (message : String) : String :=
  "[WARN  ftq_rewrite::rewrite] " ++ message ++ "\n"

/-- The text on standard error, if the log takes warnings and nothing below them. -/
def errorOutput (o : Outcome) : String := String.join (o.warnings.map warningLine) ++ o.err

/-- The outcome of a computation that may fail. -/
def ofExcept {α : Type} (succeed : α → Outcome) : Except String α → Outcome
  | .ok v => succeed v
  | .error message => failure message

end Outcome

/-- Dimmed text, as for what is secondary. -/
def dim (s : String) : String := Display.Tone.dim.paint s

def strong (s : String) : String := Display.Tone.strong.paint s

end Command

end Searchlight
