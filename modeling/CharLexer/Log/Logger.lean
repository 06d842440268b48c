import CharLexer.Log.Event
import CharLexer.Preferences

/-!
# Loggers

A logger writes the events that its level admits, one line each. The logger of a program is
installed once: the first preferences that ask for output decide, and a later request is refused.
Before that, events leave no trace.
-/
namespace CharLexer.Log

/-- How a logger writes an event. -/
inductive Sink
  /-- As a line of text. -/
  | console
  /-- As a line of JSON. -/
  | structured
  deriving DecidableEq

/-- The line of an event, without its end. -/
def Sink.line (sink : Sink) (moment : Timestamp) (event : Event) : String :=
  match sink with
  | .console => event.toText moment
  | .structured => (event.toJson moment).compact

/-- The sink that preferences ask for, JSON before text. -/
def Sink.ofPreferences? (preferences : LoggingPreferences) : Option Sink :=
  if preferences.useStructuredLogging then some .structured
  else if preferences.enableConsoleLogging then some .console
  else none

/-- A sink and the level at which the log is kept. -/
structure Logger where
  sink : Sink
  level : Level
  deriving DecidableEq

/-- Why no logger was installed. -/
inductive InstallError
  | alreadyInstalled
  deriving DecidableEq

/-- The text of an error. -/
def InstallError.message : InstallError → String
  | .alreadyInstalled => "global logger already initialized"

namespace Logger

/-- Whether the logger writes events of a level. -/
def enabled (logger : Logger) (level : Level) : Bool := logger.level.admits level

/-- What the logger writes of an event that it is given: its line, if the level admits it. -/
def log (logger : Logger) (moment : Timestamp) (event : Event) : String :=
  if logger.enabled event.level then logger.sink.line moment event ++ "\n" else ""

/-- What is written of an event that is raised. Where an event is raised, the logger is asked first
whether it writes events of the level, and is given the event only then. -/
def raised (logger : Logger) (moment : Timestamp) (event : Event) : String :=
  if logger.enabled event.level then logger.log moment event else ""

/-- What is written of some events, each raised at its moment, one after another. -/
def lines (logger : Logger) (stamped : List (Timestamp × Event)) : String :=
  String.join (stamped.map fun entry => logger.raised entry.1 entry.2)

/-- The logger after preferences were put to a program that may have one. -/
def install (held : Option Logger) (preferences : LoggingPreferences) :
    Except InstallError (Option Logger) :=
  match Sink.ofPreferences? preferences, held with
  | none, held => .ok held
  | some sink, none => .ok (some ⟨sink, preferences.minLogLevel⟩)
  | some _, some _ => .error .alreadyInstalled

end Logger

/-- The moments at which events are raised, one after another. -/
abbrev Clock := Nat → Timestamp

/-- Events with the moments at which they are raised: the clock is read for each of them. -/
def stamp (clock : Clock) (events : List Event) : List (Timestamp × Event) :=
  events.mapIdx fun index event => (clock index, event)

/-- What is written of some events by the logger of a program, if it has one. -/
def written (held : Option Logger) (stamped : List (Timestamp × Event)) : String :=
  (held.map fun logger => logger.lines stamped).getD ""

/-- A log that is kept in memory, oldest event first. -/
structure Journal where
  level : Level
  events : List Event := []

namespace Journal

/-- Whether the journal keeps events of a level. -/
def enabled (journal : Journal) (level : Level) : Bool := journal.level.admits level

/-- Keep an event if the level admits it. -/
def log (journal : Journal) (event : Event) : Journal :=
  if journal.enabled event.level then { journal with events := journal.events ++ [event] }
  else journal

end Journal

end CharLexer.Log
