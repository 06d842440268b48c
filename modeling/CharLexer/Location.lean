/-!
# Locations in a source text

A location is the place of one character: how many characters stand before it in the whole text,
and the line and column a reader counts from one. Reading a character moves a location in one of
three ways, and each moves the offset by one.

A line and a column are kept in 32 bits each. Additions in so many bits, one after another, give what
the exact sum leaves in as many, so places are counted exactly and the counters cut when a place is
kept (`Location.stored`).
-/
namespace CharLexer

/-- The place of a character in a source text. -/
structure Location where
  /-- Characters before it in the text. -/
  offset : Nat
  /-- Its line, counted from one. -/
  line : Nat
  /-- Its column in that line, counted from one. -/
  column : Nat
  deriving DecidableEq, Ord

namespace Location

/-- The first place of a text. -/
def start : Location := ⟨0, 1, 1⟩

/-- The place after a character that takes a column. -/
def afterColumn (place : Location) : Location :=
  { place with offset := place.offset + 1, column := place.column + 1 }

/-- The place after a character that takes no column. -/
def afterDropped (place : Location) : Location :=
  { place with offset := place.offset + 1 }

/-- The place after a character that ends a line. -/
def afterLineEnd (place : Location) : Location :=
  ⟨place.offset + 1, place.line + 1, 1⟩

/-- The location as it is kept: what 32 bits hold of its line and of its column. -/
def stored (place : Location) : Location :=
  { place with line := place.line.toUInt32.toNat, column := place.column.toUInt32.toNat }

/-- A location in words. -/
def describe (place : Location) : String :=
  s!"line {place.line}, column {place.column} (offset {place.offset})"

end Location

end CharLexer
