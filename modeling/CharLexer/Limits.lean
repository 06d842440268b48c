/-!
# Limits

Three numbers bound what the lexer takes on: the size of a source, the number of characters for
which room for one token is made, and the length of a message in the log. A profile is a named
choice of them; the library is built with the one named `development`.
-/
namespace CharLexer

/-- The numbers that bound the lexer. -/
structure Limits where
  /-- The most bytes of a source file. -/
  maxFileSize : Nat
  /-- The number of characters for which room for one token is made. -/
  tokenCapacityDivisor : Nat
  /-- The most characters of a log message. -/
  maxLogMessageLength : Nat
  deriving DecidableEq

namespace Limits

/-- The name of the profile the library is built with. -/
def profile : String := "development"

/-- The limits of the profile the library is built with. -/
def current : Limits := ⟨10485760, 4, 4096⟩

/-- The number of tokens for which room is made in a text of some length. -/
def tokenCapacity (limits : Limits) (length : Nat) : Nat :=
  length / limits.tokenCapacityDivisor + 1

end Limits

end CharLexer
