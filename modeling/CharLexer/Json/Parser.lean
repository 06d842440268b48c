import CharLexer.Json.Value
import CharLexer.Text.Hexadecimal

/-!
# Reading JSON

The text is read from the front. A reader gives what it has read and the characters after it. The
grammar is the strict one: blanks are the space, the tab and the two line breaks, a number has no
needless zero, a string holds no raw control, no comma stands before a closing bracket, and nothing
but blanks follows the value.
-/
namespace CharLexer.Json

/-- Whether a character may stand between the parts of a text. -/
def isGap (c : Char) : Bool := c == ' ' || c == '\t' || c == '\n' || c == '\r'

/-- The text from its first character that is no gap. -/
def skipGap (text : List Char) : List Char := text.dropWhile isGap

/-- The character of an escape by one letter. -/
def namedEscape? (c : Char) : Option Char :=
  match c with
  | '"' => some '"'
  | '\\' => some '\\'
  | '/' => some '/'
  | 'b' => some '\x08'
  | 'f' => some '\x0C'
  | 'n' => some '\n'
  | 'r' => some '\r'
  | 't' => some '\t'
  | _ => none

/-- A string as far as it has been read: its characters, newest first, unless it holds half a
surrogate pair. -/
abbrev PartialString := Option (List Char)

/-- Read the rest of a string up to its closing quote. An escape of the first half of a surrogate
pair waits, as `half`, for the second. -/
def readString (half : Option Nat) (read : PartialString) :
    List Char → Option (Option String × List Char)
  | '"' :: rest =>
    let whole := if half.isSome then none else read
    some (whole.map fun text => String.ofList text.reverse, rest)
  | '\\' :: 'u' :: a :: b :: c :: d :: rest => do
    let unit ← hexNumber? [a, b, c, d]
    if 0xDC00 ≤ unit ∧ unit < 0xE000 then
      match half with
      | some high =>
        let code := 0x10000 + (high - 0xD800) * 0x400 + (unit - 0xDC00)
        readString none (read.map (Char.ofNat code :: ·)) rest
      | none => readString none none rest
    else
      let read := if half.isSome then none else read
      if 0xD800 ≤ unit ∧ unit < 0xDC00 then readString (some unit) read rest
      else readString none (read.map (Char.ofNat unit :: ·)) rest
  | '\\' :: letter :: rest => do
    let c ← namedEscape? letter
    readString none (if half.isSome then none else read.map (c :: ·)) rest
  | c :: rest =>
    if c.toNat < 0x20 ∨ c = '\\' then none
    else readString none (if half.isSome then none else read.map (c :: ·)) rest
  | [] => none

/-- The digits at the front of a text and the text behind them. -/
def spanDigits (text : List Char) : List Char × List Char :=
  text.span Char.isDigit

/-- The number of decimal digits. -/
def digitsValue (digits : List Char) : Nat :=
  digits.foldl (fun number c => number * 10 + (c.toNat - '0'.toNat)) 0

/-- Read a fraction, which may be absent; a point needs a digit. -/
def readFraction : List Char → Option (List Char × List Char)
  | '.' :: rest =>
    let (digits, rest) := spanDigits rest
    if digits.isEmpty then none else some ('.' :: digits, rest)
  | text => some ([], text)

/-- Read the digits of an exponent behind its letter and sign. -/
def readExponentDigits (before : List Char) (text : List Char) :
    Option (List Char × List Char) :=
  let (digits, rest) := spanDigits text
  if digits.isEmpty then none else some (before ++ digits, rest)

/-- Read an exponent, which may be absent; its letter needs a digit. -/
def readExponent : List Char → Option (List Char × List Char)
  | letter :: rest =>
    if letter = 'e' ∨ letter = 'E' then
      match rest with
      | '+' :: rest => readExponentDigits [letter, '+'] rest
      | '-' :: rest => readExponentDigits [letter, '-'] rest
      | rest => readExponentDigits [letter] rest
    else some ([], letter :: rest)
  | [] => some ([], [])

/-- Read a number behind its sign. -/
def readUnsigned (negative : Bool) (text : List Char) : Option (Value × List Char) := do
  let (digits, rest) := spanDigits text
  if digits.isEmpty ∨ (digits.head? = some '0' ∧ digits.length ≠ 1) then none
  else
    let (fraction, rest) ← readFraction rest
    let (exponent, rest) ← readExponent rest
    let number := digitsValue digits
    if fraction.isEmpty ∧ exponent.isEmpty ∧ ¬(negative ∧ number = 0) then
      return (.integer (if negative then -(number : Int) else number), rest)
    else
      let sign := if negative then ['-'] else []
      return (.real (String.ofList (sign ++ digits ++ fraction ++ exponent)), rest)

/-- The object of the members read, newest first. -/
def ofReversed (members : List (Option String × Value)) : Value :=
  match members.reverse.mapM fun member => member.1.map fun key => (key, member.2) with
  | some members => .object members
  | none => .unpaired

mutual

/-- Read a value. The first argument bounds the depth of the reading and is never reached when it
exceeds the length of the text. -/
def readValue : Nat → List Char → Option (Value × List Char)
  | 0, _ => none
  | fuel + 1, text =>
    match text with
    | 'n' :: 'u' :: 'l' :: 'l' :: rest => some (.null, rest)
    | 't' :: 'r' :: 'u' :: 'e' :: rest => some (.boolean true, rest)
    | 'f' :: 'a' :: 'l' :: 's' :: 'e' :: rest => some (.boolean false, rest)
    | '"' :: rest => do
      let (whole, rest) ← readString none (some []) rest
      return (whole.elim .unpaired .string, rest)
    | '[' :: rest =>
      match skipGap rest with
      | ']' :: rest => some (.array [], rest)
      | rest => readElements fuel [] rest
    | '\x7b' :: rest =>
      match skipGap rest with
      | '\x7d' :: rest => some (.object [], rest)
      | rest => readMembers fuel [] rest
    | '-' :: rest => readUnsigned true rest
    | text => readUnsigned false text

/-- Read the elements of an array up to its closing bracket, those before newest first. -/
def readElements : Nat → List Value → List Char → Option (Value × List Char)
  | 0, _, _ => none
  | fuel + 1, before, text => do
    let (value, rest) ← readValue fuel text
    match skipGap rest with
    | ',' :: rest => readElements fuel (value :: before) (skipGap rest)
    | ']' :: rest => return (.array (value :: before).reverse, rest)
    | _ => none

/-- Read the members of an object up to its closing bracket, those before newest first. -/
def readMembers : Nat → List (Option String × Value) → List Char → Option (Value × List Char)
  | 0, _, _ => none
  | fuel + 1, before, text =>
    match text with
    | '"' :: rest => do
      let (key, rest) ← readString none (some []) rest
      match skipGap rest with
      | ':' :: rest =>
        let (value, rest) ← readValue fuel (skipGap rest)
        match skipGap rest with
        | ',' :: rest => readMembers fuel ((key, value) :: before) (skipGap rest)
        | '\x7d' :: rest => return (ofReversed ((key, value) :: before), rest)
        | _ => none
      | _ => none
    | _ => none

end

/-- Read a whole text as one value. -/
def parse (text : String) : Option Value := do
  let chars := text.toList
  let (value, rest) ← readValue (2 * chars.length + 2) (skipGap chars)
  if (skipGap rest).isEmpty then return value else none

end CharLexer.Json
