import CharLexer.Toml.Quotation
import CharLexer.Toml.Scalar
import CharLexer.Toml.Table

/-!
# Reading TOML

A document is read line by line: a blank line, a comment, a key with its value, or the header of a
table. Keys stand before their values and may be dotted. Arrays run over lines and end with or
without a comma; tables between braces do neither. Values nest less than eighty deep, and keys have
fewer than eighty parts.
-/
namespace CharLexer.Toml

/-- The number of parts of a key, and of arrays and tables inside each other, that is too many. -/
def depthLimit : Nat := 80

/-- The text behind the blanks of its line. -/
def skipBlank (text : List Char) : List Char :=
  text.dropWhile isSpace

/-- The text behind a comment, from the end of its line. -/
def skipComment (text : List Char) : List Char := text.dropWhile isPlain

/-- The text behind the end of a line, which a comment may come before. -/
def skipLineEnd (text : List Char) : Option (List Char) :=
  let rest := match skipBlank text with
    | '#' :: rest => skipComment rest
    | rest => rest
  match rest with
  | [] => some []
  | '\n' :: rest => some rest
  | '\r' :: '\n' :: rest => some rest
  | _ => none

/-- The text behind blanks, line breaks and comments, with fuel for each of them. -/
def skipLines : Nat → List Char → Option (List Char)
  | 0, _ => none
  | fuel + 1, text =>
    match skipBlank text with
    | '\n' :: rest => skipLines fuel rest
    | '\r' :: '\n' :: rest => skipLines fuel rest
    | '#' :: rest => do skipLines fuel (← skipLineEnd ('#' :: rest))
    | rest => some rest

/-- Whether a character may stand in a key without quotes. -/
def isBareKey (c : Char) : Bool := c.isAlphanum || c == '_' || c == '-'

/-- Read one part of a key. -/
def readKeyPart : List Char → Option (String × List Char)
  | '"' :: rest => readOneLine .basic rest
  | '\'' :: rest => readOneLine .literal rest
  | text =>
    let (bare, rest) := text.span isBareKey
    if bare.isEmpty then none else some (String.ofList bare, rest)

/-- Read the parts of a key up to the last, which comes second; those before newest first. The
fuel is the number of parts it may have. -/
def readKeyParts : Nat → List String → List Char → Option (List String × String × List Char)
  | 0, _, _ => none
  | fuel + 1, before, text => do
    let (part, rest) ← readKeyPart (skipBlank text)
    match skipBlank rest with
    | '.' :: rest => readKeyParts fuel (part :: before) rest
    | rest => return (before.reverse, part, rest)

/-- Read a key: its path, its last part, and the text behind the blanks after it. -/
def readKey (text : List Char) : Option (List String × String × List Char) :=
  readKeyParts (depthLimit - 1) [] text

mutual

/-- Read a value. The first number bounds how deep values nest, the second is fuel. -/
def readValue (depth : Nat) : Nat → List Char → Option (Value × List Char)
  | 0, _ => none
  | fuel + 1, text =>
    match text with
    | '"' :: rest => (readString ('"' :: rest)).map fun read => (.string read.1, read.2)
    | '\'' :: rest => (readString ('\'' :: rest)).map fun read => (.string read.1, read.2)
    | '[' :: rest => if depth = 0 then none else readElements (depth - 1) fuel [] rest
    | '\x7b' :: rest =>
      if depth = 0 then none
      else match skipBlank rest with
        | '\x7d' :: rest => some (.table .closed [], rest)
        | rest => readPairs (depth - 1) fuel [] rest
    | text => readScalar text

/-- Read the elements of an array up to its closing bracket, those before newest first. -/
def readElements (depth : Nat) : Nat → List Value → List Char → Option (Value × List Char)
  | 0, _, _ => none
  | fuel + 1, before, text => do
    match ← skipLines (text.length + 1) text with
    | ']' :: rest => return (.array before.reverse, rest)
    | rest =>
      let (value, rest) ← readValue depth fuel rest
      match ← skipLines (rest.length + 1) rest with
      | ',' :: rest => readElements depth fuel (value :: before) rest
      | ']' :: rest => return (.array (value :: before).reverse, rest)
      | _ => none

/-- Read the keys and values of a table up to its closing brace, those before newest first. -/
def readPairs (depth : Nat) :
    Nat → List (List String × String × Value) → List Char → Option (Value × List Char)
  | 0, _, _ => none
  | fuel + 1, before, text => do
    let (path, key, rest) ← readKey text
    match rest with
    | '=' :: rest =>
      let (value, rest) ← readValue depth fuel (skipBlank rest)
      let pairs := (path, key, value) :: before
      match skipBlank rest with
      | ',' :: rest => readPairs depth fuel pairs rest
      | '\x7d' :: rest => return (← Value.closedTable pairs.reverse, rest)
      | _ => none
    | _ => none

end

/-- A document as far as it has been read. -/
structure Draft where
  /-- The table of the whole document. -/
  document : Value := .table .defined []
  /-- The keys of the last header. -/
  header : List String := []

namespace Draft

/-- Put a value under a key in the table of the last header. -/
def assign (draft : Draft) (path : List String) (key : String) (value : Value) : Option Draft := do
  let document ← draft.document.changeAt false (Value.assign path key value) draft.header
  return { draft with document }

/-- Start a table with a header, of single or double brackets. -/
def start (draft : Draft) (double : Bool) (path : List String) (key : String) :
    Option Draft := do
  let change := if double then Value.extendEntry key else Value.defineEntry key
  return ⟨← draft.document.changeAt false change path, path ++ [key]⟩

end Draft

/-- Read one line that is neither blank nor a comment. -/
def readStatement (draft : Draft) (text : List Char) : Option (Draft × List Char) :=
  match text with
  | '[' :: '[' :: rest => do
    let (path, key, rest) ← readKey rest
    match rest with
    | ']' :: ']' :: rest => return (← draft.start true path key, ← skipLineEnd rest)
    | _ => none
  | '[' :: rest => do
    let (path, key, rest) ← readKey rest
    match rest with
    | ']' :: rest => return (← draft.start false path key, ← skipLineEnd rest)
    | _ => none
  | text => do
    let (path, key, rest) ← readKey text
    match rest with
    | '=' :: rest =>
      let (value, rest) ← readValue (depthLimit - 1) (2 * rest.length + 2) (skipBlank rest)
      return (← draft.assign path key value, ← skipLineEnd rest)
    | _ => none

/-- Read the lines of a document, with fuel for each. -/
def readDocument : Nat → Draft → List Char → Option Value
  | 0, _, _ => none
  | fuel + 1, draft, text => do
    match ← skipLines (text.length + 1) text with
    | [] => return draft.document
    | rest =>
      let (draft, rest) ← readStatement draft rest
      readDocument fuel draft rest

/-- The table of a document, whose text may start with a byte order mark. -/
def parse (text : String) : Option Value :=
  let chars := match text.toList with
    | '\uFEFF' :: rest => rest
    | chars => chars
  readDocument (chars.length + 1) {} chars

end CharLexer.Toml
