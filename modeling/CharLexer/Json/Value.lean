import Std.Data.TreeMap

/-!
# JSON values

A value of the data format. A number is an integer or, when it is written with a fraction or an
exponent or as minus zero, kept as it is written. The members of an object keep their order.

One value has no data: a well-formed text may hold, as a string or as a key, the escape of half a
surrogate pair, which denotes no character. Such a string or object is read as `unpaired`, so that
it can stand where it is not looked at.
-/
namespace CharLexer.Json

/-- A value of the data format. -/
inductive Value
  | null
  | boolean (value : Bool)
  | integer (value : Int)
  /-- A number with a fraction or an exponent, or minus zero, as written. -/
  | real (literal : String)
  | string (value : String)
  | array (elements : List Value)
  | object (members : List (String × Value))
  /-- A string, or an object with a key, that holds half a surrogate pair. -/
  | unpaired

namespace Value

/-- The object of the given members in ascending order of keys, the last of equal keys kept. -/
def sorted (members : List (String × Value)) : Value :=
  .object (Std.TreeMap.ofList members).toList

/-- The values of named fields: those of an object, which may have other members but has each
named one once, or the elements of an array of just as many. -/
def fields? (names : List String) : Value → Option (List Value)
  | .array elements => if elements.length = names.length then some elements else none
  | .object members => names.mapM fun name =>
    match members.filter fun member => member.1 == name with
    | [member] => some member.2
    | _ => none
  | _ => none

/-- The number of an integer that is not negative and lies below a bound. -/
def natBelow? (bound : Nat) : Value → Option Nat
  | .integer number =>
    if 0 ≤ number ∧ number < bound then some number.toNat else none
  | _ => none

/-- The text of a string. -/
def string? : Value → Option String
  | .string text => some text
  | _ => none

/-- The number of something. -/
def ofNat (number : Nat) : Value := .integer number

/-- The value of a member of an object, the last of those with the key. -/
def member? (key : String) : Value → Option Value
  | .object members => (members.reverse.find? fun member => member.1 == key).map (·.2)
  | _ => none

end Value

end CharLexer.Json
