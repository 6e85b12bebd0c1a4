/-!
# Log lines

A log line has a level, a topic and a text. A threshold lets through every level up to one, or
none at all. Lines pass two thresholds on their way out: a ceiling that holds for the whole
program, and the threshold of the one logger installed in it.
-/

namespace SpiEthernet

/-! ## Levels and thresholds -/

/-- How serious a log line is. -/
inductive Level where
  | error
  | warn
  | info
  | debug
  | trace
deriving DecidableEq, Repr

namespace Level

/-- All levels, the most serious first. -/
def all : List Level := [error, warn, info, debug, trace]

/-- The place of a level in `all`, counted from one. -/
def rank : Level → Nat
  | error => 1
  | warn => 2
  | info => 3
  | debug => 4
  | trace => 5

/-- The name of a level as log lines show it. -/
def name : Level → String
  | error => "ERROR"
  | warn => "WARN"
  | info => "INFO"
  | debug => "DEBUG"
  | trace => "TRACE"

end Level

/-- The least serious level that is let through, or `off` where nothing is. -/
inductive Threshold where
  | off
  | upTo (level : Level)
deriving DecidableEq, Repr

namespace Threshold

/-- All thresholds, the strictest first. -/
def all : List Threshold := off :: Level.all.map upTo

/-- Whether a line of the given level passes. -/
def allows : Threshold → Level → Bool
  | off, _ => false
  | upTo limit, level => level.rank ≤ limit.rank

/-- The name of a threshold. -/
def name : Threshold → String
  | off => "OFF"
  | upTo level => level.name

/-- The threshold with the given name, in upper or lower case. -/
def ofName? (name : String) : Option Threshold := all.find? (·.name == name.toUpper)

end Threshold

/-! ## Lines -/

/-- One line of the log. -/
structure LogLine where
  level : Level
  topic : String
  text : String
deriving DecidableEq, Repr

/-- The text of a whole line. -/
def LogLine.render (line : LogLine) : String := s!"[{line.level.name}] {line.topic}: {line.text}"

/-- What a logger with the given threshold hands to its output for a line. -/
def LogLine.renderWithin (threshold : Threshold) (line : LogLine) : Option String :=
  if threshold.allows line.level then some line.render else none

/-! ## The program's logging -/

/-- The logging state of a program: the installed logger's threshold, if there is a logger, and
the ceiling for all lines. -/
structure Logging where
  logger : Option Threshold
  ceiling : Threshold
deriving DecidableEq, Repr

namespace Logging

/-- What is put out for a line. -/
def emit (logging : Logging) (line : LogLine) : Option String :=
  match logging.logger with
  | some threshold =>
    if logging.ceiling.allows line.level then line.renderWithin threshold else none
  | none => none

/-- The complaint about a second logger. -/
def alreadyInstalled : LogLine := ⟨.warn, "w5100::logger", "logger already installed"⟩

/-- Installs a logger unless there is one, and sets the ceiling in either case. The lines put
out by the attempt itself come first in the result. -/
def install (logging : Logging) (threshold : Threshold) : List String × Logging :=
  match logging.logger with
  | none => ([], ⟨some threshold, threshold⟩)
  | some _ => ((logging.emit alreadyInstalled).toList, { logging with ceiling := threshold })

/-- The lines put out for one line at every level, the most serious first. -/
def emitEach (logging : Logging) (topic text : String) : List String :=
  Level.all.filterMap fun level => logging.emit ⟨level, topic, text⟩

end Logging

end SpiEthernet
