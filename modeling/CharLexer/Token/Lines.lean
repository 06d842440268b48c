import CharLexer.Token.Basic
import Std.Data.TreeMap

/-!
# Tokens by line

Tokens are grouped by the line on which they start. The lines stand in ascending order, and the
tokens of one line in the order in which they were given.
-/
namespace CharLexer

/-- Tokens grouped by line. The tokens of a line are held newest first. -/
structure Lines where
  /-- The tokens of each line that has any. -/
  newestFirst : Std.TreeMap Nat (List Token)

namespace Lines

/-- No line at all. -/
def empty : Lines := ⟨∅⟩

/-- Put a token behind those of its line. -/
def add (lines : Lines) (token : Token) : Lines :=
  ⟨lines.newestFirst.alter token.location.line fun held => some (token :: held.getD [])⟩

/-- Group tokens by line. -/
def ofTokens (tokens : List Token) : Lines :=
  tokens.foldl add empty

/-- The tokens of a line, if it has any. -/
def tokensOf? (lines : Lines) (line : Nat) : Option (List Token) :=
  lines.newestFirst[line]?.map List.reverse

/-- The lines in ascending order, each with its tokens. -/
def toList (lines : Lines) : List (Nat × List Token) :=
  lines.newestFirst.toList.map fun entry => (entry.1, entry.2.reverse)

/-- The lines that have tokens, in ascending order. -/
def numbers (lines : Lines) : List Nat :=
  lines.toList.map (·.1)

/-- How many lines have tokens. -/
def count (lines : Lines) : Nat :=
  lines.newestFirst.size

/-- Whether no line has a token. -/
def isEmpty (lines : Lines) : Bool :=
  lines.newestFirst.isEmpty

/-- Two groupings are equal when they hold the same lines with the same tokens. -/
instance : BEq Lines where
  beq first second := first.toList == second.toList

end Lines

end CharLexer
