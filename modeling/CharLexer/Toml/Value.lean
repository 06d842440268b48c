/-!
# TOML values

A value of the configuration format. Floats and dates are kept as they are written. A table knows
how it came to be, for that decides whether a later line may add to it.
-/
namespace CharLexer.Toml

/-- How a table came to be. -/
inductive Origin
  /-- By a header of its own, or as the document itself. -/
  | defined
  /-- By the header of a table below it. -/
  | implied
  /-- By a dotted key. -/
  | dotted
  /-- Between braces, complete as it stands. -/
  | closed
  deriving DecidableEq

/-- A value of the configuration format. -/
inductive Value
  | string (text : String)
  | integer (number : Int)
  /-- A float, as written. -/
  | float (literal : String)
  | boolean (value : Bool)
  /-- A date, a time or both, as written. -/
  | moment (literal : String)
  | array (elements : List Value)
  | table (origin : Origin) (entries : List (String × Value))
  /-- Tables made one by one by headers of double brackets. -/
  | tables (elements : List Value)

namespace Value

/-- The value of a field: the entry of its name in a table, or the element at its place in an
array. -/
def field? (name : String) (place : Nat) : Value → Option Value
  | .table _ entries => entries.lookup name
  | .array elements => elements[place]?
  | .tables elements => elements[place]?
  | _ => none

/-- The number of an integer that is not negative. -/
def nat? : Value → Option Nat
  | .integer number => if 0 ≤ number then some number.toNat else none
  | _ => none

end Value

end CharLexer.Toml
