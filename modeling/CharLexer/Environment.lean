import CharLexer.Preferences
import CharLexer.Text.Blank
import CharLexer.Text.Utf8

/-!
# Preferences from the environment

Eight variables set one preference each. A value counts when its bytes are a text that, without
blank characters at its ends and with its ASCII letters in lower case, is one of the known words.
Any other value is as good as none.
-/
namespace CharLexer

/-- The variables of an environment, each with the bytes of its value. -/
structure Environment where
  value? : String → Option ByteArray

namespace Environment

/-- The environment of the listed variables. -/
def ofList (values : List (String × ByteArray)) : Environment :=
  ⟨fun name => values.lookup name⟩

/-- The value of a variable as a text. -/
def text? (environment : Environment) (name : String) : Option String :=
  (environment.value? name).bind fun bytes => (textOfBytes bytes).toOption

end Environment

/-- A word without blank characters at its ends and with its ASCII letters in lower case. -/
def plainWord (text : String) : String := (trimBlank text).toLower

/-- The level that a word names. -/
def Log.Level.parse? (text : String) : Option Log.Level :=
  match plainWord text with
  | "error" => some .error
  | "info" => some .info
  | "debug" => some .debug
  | _ => none

/-- The answer that a word gives to a question of yes or no. -/
def parseFlag? (text : String) : Option Bool :=
  let word := plainWord text
  if ["1", "true", "yes", "on"].contains word then some true
  else if ["0", "false", "no", "off"].contains word then some false
  else none

namespace Environment

/-- The flag that a variable sets. -/
def flag (environment : Environment) (name : String) (default : Bool) : Bool :=
  ((environment.text? name).bind parseFlag?).getD default

/-- The level that a variable sets. -/
def level (environment : Environment) (name : String) (default : Log.Level) : Log.Level :=
  ((environment.text? name).bind Log.Level.parse?).getD default

/-- The variables that set preferences. -/
def known : List String :=
  ["LUTHOR_LOADER_LOG_TIMING", "LUTHOR_LOADER_ALLOW_EMPTY", "LUTHOR_LEXICAL_COLLECT_METRICS",
    "LUTHOR_LEXICAL_LOG_SCAN_STATISTICS", "LUTHOR_LEXICAL_LOG_UNTERMINATED",
    "LUTHOR_LOGGING_STRUCTURED", "LUTHOR_LOGGING_CONSOLE", "LUTHOR_LOGGING_MIN_LEVEL"]

end Environment

/-- The preferences that an environment sets. -/
def Preferences.ofEnvironment (environment : Environment) : Preferences :=
  let default : Preferences := {}
  { loader := {
      logTiming := environment.flag "LUTHOR_LOADER_LOG_TIMING" default.loader.logTiming
      allowEmptyFiles :=
        environment.flag "LUTHOR_LOADER_ALLOW_EMPTY" default.loader.allowEmptyFiles }
    lexical := {
      collectMetrics :=
        environment.flag "LUTHOR_LEXICAL_COLLECT_METRICS" default.lexical.collectMetrics
      logScanStatistics :=
        environment.flag "LUTHOR_LEXICAL_LOG_SCAN_STATISTICS" default.lexical.logScanStatistics
      logUnterminatedStrings :=
        environment.flag "LUTHOR_LEXICAL_LOG_UNTERMINATED"
          default.lexical.logUnterminatedStrings }
    logging := {
      useStructuredLogging :=
        environment.flag "LUTHOR_LOGGING_STRUCTURED" default.logging.useStructuredLogging
      enableConsoleLogging :=
        environment.flag "LUTHOR_LOGGING_CONSOLE" default.logging.enableConsoleLogging
      minLogLevel :=
        environment.level "LUTHOR_LOGGING_MIN_LEVEL" default.logging.minLogLevel } }

end CharLexer
