import CharLexer.Log.Level

/-!
# Preferences

What a user may choose without changing any result: what is counted and logged while scanning,
whether empty files are accepted and loading is timed, and where the log goes.
-/
namespace CharLexer

/-- Preferences of a scan. -/
structure LexicalPreferences where
  /-- Count the tokens of each scan. -/
  collectMetrics : Bool := true
  /-- Log the figures of each scan. -/
  logScanStatistics : Bool := true
  /-- Log a string that runs to the end of the text. -/
  logUnterminatedStrings : Bool := false
  deriving DecidableEq

/-- Preferences of loading a source. -/
structure LoaderPreferences where
  /-- Log every source loaded and the time it took. -/
  logTiming : Bool := true
  /-- Accept files without a byte. -/
  allowEmptyFiles : Bool := true
  deriving DecidableEq

/-- Preferences of the log. -/
structure LoggingPreferences where
  /-- Write events as JSON. -/
  useStructuredLogging : Bool := false
  /-- Write events as text. -/
  enableConsoleLogging : Bool := false
  /-- The level at which the log is kept. -/
  minLogLevel : Log.Level := .info
  deriving DecidableEq

/-- All preferences. -/
structure Preferences where
  loader : LoaderPreferences := {}
  lexical : LexicalPreferences := {}
  logging : LoggingPreferences := {}
  deriving DecidableEq

end CharLexer
