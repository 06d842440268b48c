import CharLexer.Json.Printer
import CharLexer.Metrics
import CharLexer.Token.Lines

/-!
# Tokens as JSON

Tokens are written as objects, made either by `.object`, with the fields in the order of the type,
or by `.sorted`, with their names in ascending order. They are read from objects with the fields in
any order, or from arrays in the order of the type. An offset takes 64 bits, a line and a column 32
bits. A kind is its name, or an object whose only member is that name with null.
-/
namespace CharLexer

open Json (Value)

/-- How an object is made of its members. -/
abbrev MakeObject := List (String × Value) → Value

/-- One more than the greatest offset that can be read. -/
def offsetBound : Nat := 0x10000000000000000

/-- One more than the greatest line or column that can be read. -/
def lineBound : Nat := 0x100000000

namespace Location

/-- A location as an object. -/
def toJson (make : MakeObject) (place : Location) : Value :=
  make [("offset", .ofNat place.offset), ("line", .ofNat place.line),
    ("column", .ofNat place.column)]

/-- The location that a value describes. -/
def ofJson? (value : Value) : Option Location :=
  match value.fields? ["offset", "line", "column"] with
  | some [offset, line, column] => do
    return ⟨← offset.natBelow? offsetBound, ← line.natBelow? lineBound,
      ← column.natBelow? lineBound⟩
  | _ => none

end Location

namespace Kind

/-- A kind as its name. -/
def toJson (kind : Kind) : Value := .string kind.name

/-- The kind that a value names. -/
def ofJson? : Value → Option Kind
  | .string name => ofName? name
  | .object [(name, .null)] => ofName? name
  | _ => none

end Kind

namespace Token

/-- A token as an object. -/
def toJson (make : MakeObject) (token : Token) : Value :=
  make [("tokenType", token.kind.toJson), ("location", token.location.toJson make),
    ("content", .string token.content)]

/-- The token that a value describes. -/
def ofJson? (value : Value) : Option Token :=
  match value.fields? ["tokenType", "location", "content"] with
  | some [kind, location, content] => do
    return ⟨← Kind.ofJson? kind, ← Location.ofJson? location, ← content.string?⟩
  | _ => none

/-- Tokens as an array. -/
def listToJson (make : MakeObject) (tokens : List Token) : Value :=
  .array (tokens.map (toJson make))

/-- The tokens that an array describes. -/
def listOfJson? : Value → Option (List Token)
  | .array elements => elements.mapM ofJson?
  | _ => none

end Token

/-- Grouped tokens as an object with a member for each line, of which those of lower lines come
first unless the members are sorted. -/
def Lines.toJson (make : MakeObject) (lines : Lines) : Value :=
  make (lines.toList.map fun entry => (toString entry.1, Token.listToJson make entry.2))

/-- The counters of a scan as an object. -/
def Metrics.toJson (metrics : Metrics) : Value :=
  .object [("total_tokens", .ofNat metrics.total),
    ("whitespace_tokens", .ofNat metrics.whitespace), ("letter_tokens", .ofNat metrics.letters),
    ("digit_tokens", .ofNat metrics.digits), ("symbol_tokens", .ofNat metrics.symbols),
    ("string_tokens", .ofNat metrics.strings), ("other_tokens", .ofNat metrics.other),
    ("eol_tokens", .ofNat metrics.lineEnds), ("eof_tokens", .ofNat metrics.textEnds),
    ("unterminated_strings", .ofNat metrics.unterminated),
    ("longest_run", .ofNat metrics.longestRun), ("chars_consumed", .ofNat metrics.charsConsumed)]

end CharLexer
