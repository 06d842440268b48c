import CharLexer.Limits
import CharLexer.Text.Quoted
import CharLexer.Toml.Parser

/-!
# Profiles of limits

A profile is a configuration file of three tables with one number each. Its numbers are checked
against bounds, one of which only the profile named `production` has; each bound that is broken is
a problem with a text of its own. A profile without problems is written out as constants of a
program text in which its name stands twice between quotes.
-/
namespace CharLexer.Limits

/-- The limits that a document gives; whatever else it holds does not count. -/
def ofDocument? (document : Toml.Value) : Option Limits := do
  let fileProcessing ← document.field? "file_processing" 0
  let lexical ← document.field? "lexical" 1
  let logging ← document.field? "logging" 2
  let maxFileSize ← (← fileProcessing.field? "max_file_size" 0).nat?
  let tokenCapacityDivisor ← (← lexical.field? "token_capacity_divisor" 0).nat?
  let maxLogMessageLength ← (← logging.field? "max_log_message_length" 0).nat?
  return ⟨maxFileSize, tokenCapacityDivisor, maxLogMessageLength⟩

/-- A bound that limits break. -/
inductive Problem
  | fileSizeOutside (size : Nat)
  | fileSizeAboveProduction
  | noCapacityDivisor
  | messagesTooShort
  deriving DecidableEq

/-- The text of a problem. -/
def Problem.message : Problem → String
  | .fileSizeOutside size => s!"max_file_size {size} outside 1..=1e9"
  | .fileSizeAboveProduction => "max_file_size above 50MB in production"
  | .noCapacityDivisor => "token_capacity_divisor must be at least 1"
  | .messagesTooShort => "max_log_message_length must be at least 64"

/-- The bounds that the limits of a profile break, in a fixed order. -/
def problems (limits : Limits) (profile : String) : List Problem :=
  (if limits.maxFileSize = 0 ∨ 1000000000 < limits.maxFileSize then
    [.fileSizeOutside limits.maxFileSize] else []) ++
  (if profile = "production" ∧ 50000000 < limits.maxFileSize then
    [.fileSizeAboveProduction] else []) ++
  (if limits.tokenCapacityDivisor = 0 then [.noCapacityDivisor] else []) ++
  (if limits.maxLogMessageLength < 64 then [.messagesTooShort] else [])

/-- The lines of the constants of a profile. -/
def constantLines (limits : Limits) (profile : String) : List String :=
  ["// Generated by build.rs from the " ++ quoted profile ++ " profile",
    "pub mod compile_time \x7b",
    "    pub const PROFILE: &str = " ++ quoted profile ++ ";",
    "    pub mod file_processing \x7b",
    "        pub const MAX_FILE_SIZE: u64 = " ++ toString limits.maxFileSize ++ ";",
    "    \x7d",
    "    pub mod lexical \x7b",
    "        pub const TOKEN_CAPACITY_DIVISOR: usize = " ++
      toString limits.tokenCapacityDivisor ++ ";",
    "    \x7d",
    "    pub mod logging \x7b",
    "        pub const MAX_LOG_MESSAGE_LENGTH: usize = " ++
      toString limits.maxLogMessageLength ++ ";",
    "    \x7d",
    "\x7d"]

/-- The constants of a profile, each line ended. -/
def constants (limits : Limits) (profile : String) : String :=
  String.join ((constantLines limits profile).map (· ++ "\n"))

end CharLexer.Limits
