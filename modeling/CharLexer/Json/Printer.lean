import CharLexer.Json.Value
import CharLexer.Text.Hexadecimal
import CharLexer.Text.Padding

/-!
# Writing JSON

A value is written compactly, without any blank, or spread over lines with two spaces for each
level. In strings the quote and the backslash carry a backslash, the controls below the space are
escaped, five of them by letter, and all else stands for itself; no text that is written holds a
line break but those of the spread layout.
-/
namespace CharLexer.Json

/-- What the layout puts between the parts of arrays and objects. -/
structure Layout where
  /-- The break before an element at a level, and before a closing bracket. -/
  lineBreak : Nat → String
  /-- What stands between a key and its value. -/
  colon : String

namespace Layout

/-- Everything on one line, without a blank. -/
def compact : Layout := ⟨fun _ => "", ":"⟩

/-- An element per line, two spaces for each level. -/
def spread : Layout := ⟨fun level => "\n" ++ spaces (2 * level), ": "⟩

end Layout

/-- How one character is written in a string. -/
def escapedChar (c : Char) : String :=
  match c with
  | '"' => "\\\""
  | '\\' => "\\\\"
  | '\x08' => "\\b"
  | '\t' => "\\t"
  | '\n' => "\\n"
  | '\x0C' => "\\f"
  | '\r' => "\\r"
  | c =>
    if c.toNat < 0x20 then
      "\\u00" ++ String.ofList [hexDigit (c.toNat / 16), hexDigit (c.toNat % 16)]
    else c.toString

/-- Write a string between quotes behind what is written. -/
def writeString (written text : String) : String :=
  (text.toList.foldl (fun written c => written ++ escapedChar c) (written.push '"')).push '"'

mutual

/-- Write a value behind what is written, at a level of the layout. -/
def write (layout : Layout) (level : Nat) (written : String) : Value → String
  | .null => written ++ "null"
  | .boolean true => written ++ "true"
  | .boolean false => written ++ "false"
  | .integer number => written ++ toString number
  | .real literal => written ++ literal
  | .string text => writeString written text
  | .array [] => written ++ "[]"
  | .array (first :: rest) =>
    let opened := written.push '[' ++ layout.lineBreak (level + 1)
    let filled := writeElements layout (level + 1) (write layout (level + 1) opened first) rest
    (filled ++ layout.lineBreak level).push ']'
  | .object [] => written ++ "\x7b\x7d"
  | .object ((key, value) :: rest) =>
    let opened := written.push '\x7b' ++ layout.lineBreak (level + 1)
    let keyed := writeString opened key ++ layout.colon
    let filled := writeMembers layout (level + 1) (write layout (level + 1) keyed value) rest
    (filled ++ layout.lineBreak level).push '\x7d'
  | .unpaired => written ++ "null"

/-- Write the later elements of an array, each behind a comma. -/
def writeElements (layout : Layout) (level : Nat) (written : String) : List Value → String
  | [] => written
  | value :: rest =>
    let separated := written.push ',' ++ layout.lineBreak level
    writeElements layout level (write layout level separated value) rest

/-- Write the later members of an object, each behind a comma. -/
def writeMembers (layout : Layout) (level : Nat) (written : String) :
    List (String × Value) → String
  | [] => written
  | (key, value) :: rest =>
    let separated := written.push ',' ++ layout.lineBreak level
    let keyed := writeString separated key ++ layout.colon
    writeMembers layout level (write layout level keyed value) rest

end

namespace Value

/-- A value on one line, without a blank. -/
def compact (value : Value) : String := write .compact 0 "" value

/-- A value spread over lines. -/
def spread (value : Value) : String := write .spread 0 "" value

end Value

end CharLexer.Json
