import CharLexer.Text.Hexadecimal

/-!
# TOML strings

A string stands between double quotes, where a backslash starts an escape, or between single quotes,
where it does not. Three quotes open a string of several lines, whose first line break is dropped if
it comes at once; in such a string one or two quotes are content, also just before the closing
three, and a backslash at the end of a line drops the break and the blanks that follow.
-/
namespace CharLexer.Toml

/-- Whether a character may stand for itself: the tab and everything but the controls. -/
def isPlain (c : Char) : Bool := c == '\t' || (0x20 ≤ c.toNat && c.toNat != 0x7F)

/-- The character of an escape by one letter. -/
def namedEscape? (c : Char) : Option Char :=
  match c with
  | 'b' => some '\x08'
  | 't' => some '\t'
  | 'n' => some '\n'
  | 'f' => some '\x0C'
  | 'r' => some '\r'
  | '"' => some '"'
  | '\\' => some '\\'
  | _ => none

/-- The character of a code point, unless it is half of a surrogate pair or too large. -/
def charOfCode? (code : Nat) : Option Char :=
  if code < 0xD800 ∨ (0xDFFF < code ∧ code < 0x110000) then some (Char.ofNat code) else none

/-- Read an escape behind its backslash. -/
def readEscape : List Char → Option (Char × List Char)
  | 'u' :: a :: b :: c :: d :: rest => do
    let c ← charOfCode? (← hexNumber? [a, b, c, d])
    return (c, rest)
  | 'U' :: a :: b :: c :: d :: e :: f :: g :: h :: rest => do
    let c ← charOfCode? (← hexNumber? [a, b, c, d, e, f, g, h])
    return (c, rest)
  | letter :: rest => do
    let c ← namedEscape? letter
    return (c, rest)
  | [] => none

/-- How the characters of a string are taken. -/
structure Manner where
  /-- The quote around the string. -/
  quote : Char
  /-- Whether a backslash starts an escape. -/
  escapes : Bool

namespace Manner

/-- Between double quotes, with escapes. -/
def basic : Manner := ⟨'"', true⟩

/-- Between single quotes, without escapes. -/
def literal : Manner := ⟨'\'', false⟩

end Manner

/-- Read the rest of a string of one line up to its closing quote, with fuel for each character. -/
def readLine (manner : Manner) : Nat → List Char → List Char → Option (String × List Char)
  | 0, _, _ => none
  | _ + 1, _, [] => none
  | fuel + 1, read, c :: rest =>
    if c = manner.quote then some (String.ofList read.reverse, rest)
    else if c = '\\' ∧ manner.escapes = true then do
      let (c, rest) ← readEscape rest
      readLine manner fuel (c :: read) rest
    else if isPlain c then readLine manner fuel (c :: read) rest
    else none

/-- Whether a character is a blank within a line. -/
def isSpace (c : Char) : Bool := c == ' ' || c == '\t'

/-- The text behind the blanks and line breaks at its front. A carriage return is part of a line
break only before a line feed. -/
def skipBreaks : List Char → List Char
  | '\r' :: '\n' :: rest => skipBreaks rest
  | c :: rest => if isSpace c || c == '\n' then skipBreaks rest else c :: rest
  | [] => []

/-- The text behind the blanks and line breaks at its front, which a backslash at the end of a line
drops. There is a line break before anything else. -/
def skipContinued (text : List Char) : Option (List Char) :=
  match text.dropWhile isSpace with
  | '\n' :: rest => some (skipBreaks rest)
  | '\r' :: '\n' :: rest => some (skipBreaks rest)
  | _ => none

/-- Read the rest of a string of several lines up to its closing quotes, with fuel for each
character. -/
def readLines (manner : Manner) : Nat → List Char → List Char → Option (String × List Char)
  | 0, _, _ => none
  | _ + 1, _, [] => none
  | fuel + 1, read, '\r' :: '\n' :: rest => readLines manner fuel ('\n' :: read) rest
  | fuel + 1, read, c :: rest =>
    if c = manner.quote then
      let quotes := ((c :: rest).takeWhile (· == manner.quote)).length
      if quotes < 3 then readLines manner fuel (c :: read) rest
      else
        let inside := min quotes 5 - 3
        let read := List.replicate inside c ++ read
        some (String.ofList read.reverse, rest.drop (inside + 2))
    else if c = '\\' ∧ manner.escapes = true then
      match skipContinued rest with
      | some rest => readLines manner fuel read rest
      | none => do
        let (c, rest) ← readEscape rest
        readLines manner fuel (c :: read) rest
    else if isPlain c ∨ c = '\n' then readLines manner fuel (c :: read) rest
    else none

/-- Read a string of several lines behind its opening quotes. -/
def readManyLines (manner : Manner) (text : List Char) : Option (String × List Char) :=
  let body := match text with
    | '\n' :: rest => rest
    | '\r' :: '\n' :: rest => rest
    | text => text
  readLines manner (body.length + 1) [] body

/-- Read a string of one line behind its opening quote. -/
def readOneLine (manner : Manner) (text : List Char) : Option (String × List Char) :=
  readLine manner (text.length + 1) [] text

/-- Read a string of either kind. -/
def readString : List Char → Option (String × List Char)
  | '"' :: '"' :: '"' :: rest => readManyLines .basic rest
  | '"' :: rest => readOneLine .basic rest
  | '\'' :: '\'' :: '\'' :: rest => readManyLines .literal rest
  | '\'' :: rest => readOneLine .literal rest
  | _ => none

end CharLexer.Toml
