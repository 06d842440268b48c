import CharLexer.Log.Logger
import CharLexer.Source

/-!
# Sessions

A session is what one program does, as far as its log can tell of it. It starts without a logger,
and at most one of its actions installs one. The events of an action are written as they are raised,
each with the moment at which it is, by the logger that the actions before it have left; what the
action gives does not depend on them.
-/
namespace CharLexer

open Log (Clock Event InstallError Level Logger)

/-- Something that a program does. -/
inductive Action
  /-- Put preferences to the log. -/
  | install (preferences : LoggingPreferences)
  /-- Ask whether events of a level are written. -/
  | ask (level : Level)
  /-- Raise an event. -/
  | raise (event : Event)
  /-- Scan what a lexer has not yet read. -/
  | scan (lexer : Lexer) (compress : Bool)
  /-- Scan what a lexer has not yet read, by line. -/
  | scanLines (lexer : Lexer) (compress : Bool)
  /-- Load the source at a path, which takes some microseconds. -/
  | load (preferences : LoaderPreferences) (tree : FileTree) (path : Path) (micros : Nat)

/-- What an action gives. -/
inductive ActionResult
  /-- Nothing but its effect on the log. -/
  | done
  | refused (error : InstallError)
  /-- Whether events are written, if there is a logger. -/
  | answer (enabled? : Option Bool)
  | tokens (tokens : List Token)
  | lines (lines : Lines)
  | loaded (outcome : Except LoadError Source)

/-- What an action leaves behind. -/
structure Performed where
  result : ActionResult
  /-- What was written to the log. -/
  written : String
  /-- The logger of the program from now on. -/
  logger? : Option Logger

namespace Action

/-- Perform an action in a program that may have a logger, by a clock that is read for each event. -/
def perform (clock : Clock) (logger? : Option Logger) : Action → Performed
  | .install preferences =>
    match Logger.install logger? preferences with
    | .ok after? => ⟨.done, "", after?⟩
    | .error error => ⟨.refused error, "", logger?⟩
  | .ask level => ⟨.answer (logger?.map fun logger => logger.enabled level), "", logger?⟩
  | .raise event => ⟨.done, Log.written logger? (Log.stamp clock [event]), logger?⟩
  | .scan lexer compress =>
    let scanned := (lexer.scan compress).1
    ⟨.tokens scanned.result, Log.written logger? (Log.stamp clock scanned.events), logger?⟩
  | .scanLines lexer compress =>
    let scanned := (lexer.scanLines compress).1
    ⟨.lines scanned.result, Log.written logger? (Log.stamp clock scanned.events), logger?⟩
  | .load preferences tree path micros =>
    let outcome := Source.load preferences tree path
    let events := Source.loadEvents preferences path micros outcome
    ⟨.loaded outcome, Log.written logger? (Log.stamp clock events), logger?⟩

end Action

/-- An action with its clock: the moments at which the events that it raises are raised. -/
structure TimedAction where
  clock : Clock
  action : Action

namespace TimedAction

/-- Perform an action by its clock in a program that may have a logger. -/
def perform (logger? : Option Logger) (timed : TimedAction) : Performed :=
  timed.action.perform timed.clock logger?

/-- Perform actions one after another in a program that may have a logger. -/
def performAll (logger? : Option Logger) : List TimedAction → List Performed
  | [] => []
  | timed :: rest =>
    let performed := timed.perform logger?
    performed :: performAll performed.logger? rest

end TimedAction

/-- What the actions of a program leave behind, each in turn. -/
def session (actions : List TimedAction) : List Performed :=
  TimedAction.performAll none actions

end CharLexer
