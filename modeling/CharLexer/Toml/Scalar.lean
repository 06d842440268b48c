import CharLexer.Text.Hexadecimal
import CharLexer.Toml.Value

/-!
# TOML numbers and dates

A value without quotes or brackets is a word up to the next blank, comma, bracket, brace or comment.
It is a truth value, an integer of 64 bits, a float not above the range of doubles, or a date, a
time or both. An underscore may stand between two digits; a decimal number has no needless zero.
-/
namespace CharLexer.Toml

/-- Whether underscores stand only between digits, of which there is at least one. -/
def wellGrouped (isDigit : Char → Bool) : List Char → Bool
  | [] => false
  | [c] => isDigit c
  | c :: '_' :: rest => isDigit c && wellGrouped isDigit rest
  | c :: rest => isDigit c && wellGrouped isDigit rest

/-- The number of grouped digits to a base. -/
def groupedNumber (base : Nat) (digits : List Char) : Nat :=
  (digits.filter (· != '_')).foldl
    (fun number c => number * base + (hexValue? c).getD 0) 0

/-- Whether characters are a decimal number without sign: grouped digits without a zero in
front, unless that is all. -/
def isDecimal (word : List Char) : Bool :=
  wellGrouped Char.isDigit word && (word.head? != some '0' || word.length == 1)

/-- A word without the sign in front of it, and whether that is a minus. -/
def dropSign : List Char → Bool × List Char
  | '-' :: rest => (true, rest)
  | '+' :: rest => (false, rest)
  | word => (false, word)

/-- An integer that fits into 64 bits with a sign. -/
def boundedInteger? (number : Int) : Option Value :=
  if -0x8000000000000000 ≤ number ∧ number < 0x8000000000000000 then some (.integer number)
  else none

/-- The integer of grouped digits to a base. -/
def basedInteger? (base : Nat) (isDigit : Char → Bool) (digits : List Char) : Option Value :=
  if wellGrouped isDigit digits then boundedInteger? (groupedNumber base digits) else none

/-- The integer that a word is. -/
def integer? : List Char → Option Value
  | '0' :: 'x' :: digits => basedInteger? 16 (fun c => (hexValue? c).isSome) digits
  | '0' :: 'o' :: digits => basedInteger? 8 (fun c => '0' ≤ c && c ≤ '7') digits
  | '0' :: 'b' :: digits => basedInteger? 2 (fun c => c == '0' || c == '1') digits
  | word =>
    let (negative, digits) := dropSign word
    if isDecimal digits then
      let number := groupedNumber 10 digits
      boundedInteger? (if negative then -(number : Int) else number)
    else none

/-- Whether a number shifted by a power of ten rounds to a double that is not infinite. -/
def inDoubleRange (number : Nat) (shift : Int) : Bool :=
  let bound := Nat.pow 2 1024 - Nat.pow 2 970
  if number = 0 then true
  else if 0 ≤ shift then shift ≤ 400 && number * Nat.pow 10 shift.toNat < bound
  else
    let places := shift.natAbs
    places ≥ (toString number).length || number < bound * Nat.pow 10 places

/-- The digits behind an exponent letter as a number. -/
def exponent? (word : List Char) : Option Int :=
  let (negative, digits) := dropSign word
  if wellGrouped Char.isDigit digits then
    let number := groupedNumber 10 digits
    some (if negative then -(number : Int) else number)
  else none

/-- The float that a word is. One above the range of doubles is refused, one below it is not. -/
def float? (word : List Char) : Option Value :=
  let (negative, unsigned) := dropSign word
  let literal := Value.float (String.ofList word)
  if unsigned == "inf".toList || unsigned == "nan".toList then some literal
  else
    let (mantissa, tail) := unsigned.span fun c => c != 'e' && c != 'E'
    let (whole, fraction) := mantissa.span (· != '.')
    let places := fraction.drop 1
    let digits := whole ++ places
    if !isDecimal whole then none
    else if fraction.isEmpty && tail.isEmpty then none
    else if !fraction.isEmpty && !wellGrouped Char.isDigit places then none
    else do
      let exponent ← if tail.isEmpty then some 0 else exponent? (tail.drop 1)
      let shift := exponent - ((places.filter (· != '_')).length : Int)
      if negative || inDoubleRange (groupedNumber 10 digits) shift then some literal else none

/-- The number of just so many digits, if it lies between two bounds. -/
def fixedNumber? (width low high : Nat) (digits : List Char) : Option Nat :=
  let number := groupedNumber 10 digits
  if digits.length == width && digits.all Char.isDigit && low ≤ number && number ≤ high then
    some number
  else none

/-- Whether a year has a twenty-ninth of February. -/
def isLeapYear (year : Nat) : Bool :=
  (year % 4 == 0 && year % 100 != 0) || year % 400 == 0

/-- The number of days of a month. -/
def daysOfMonth (year month : Nat) : Nat :=
  if month = 2 then (if isLeapYear year then 29 else 28)
  else if [4, 6, 9, 11].contains month then 30
  else 31

/-- Whether characters are a date of the calendar, as in `1979-05-27`. -/
def isDate (word : List Char) : Bool :=
  match word.splitAt 4 with
  | (year, '-' :: a :: b :: '-' :: day) =>
    match fixedNumber? 4 0 9999 year, fixedNumber? 2 1 12 [a, b] with
    | some year, some month => (fixedNumber? 2 1 (daysOfMonth year month) day).isSome
    | _, _ => false
  | _ => false

/-- Whether characters are a time of day, as in `07:32:00.5`. -/
def isTime (word : List Char) : Bool :=
  match word with
  | a :: b :: ':' :: c :: d :: ':' :: e :: f :: fraction =>
    (fixedNumber? 2 0 23 [a, b]).isSome && (fixedNumber? 2 0 59 [c, d]).isSome &&
      (fixedNumber? 2 0 60 [e, f]).isSome &&
      match fraction with
      | [] => true
      | '.' :: digits => !digits.isEmpty && digits.all Char.isDigit
      | _ => false
  | _ => false

/-- Whether characters are an offset from universal time, as in `-07:00`. -/
def isOffset (word : List Char) : Bool :=
  match word with
  | [] => true
  | ['Z'] => true
  | ['z'] => true
  | [sign, a, b, ':', c, d] =>
    (sign == '+' || sign == '-') && (fixedNumber? 2 0 23 [a, b]).isSome &&
      (fixedNumber? 2 0 59 [c, d]).isSome
  | _ => false

/-- The date, time or both that a word is. -/
def moment? (word : List Char) : Option Value :=
  let literal := Value.moment (String.ofList word)
  if isDate word || isTime word then some literal
  else match word.splitAt 10 with
    | (date, separator :: rest) =>
      let (time, offset) := rest.span fun c => c.isDigit || c == ':' || c == '.'
      if ['T', 't', ' '].contains separator && isDate date && isTime time && isOffset offset then
        some literal
      else none
    | _ => none

/-- The value that a word is. -/
def scalar? (word : List Char) : Option Value :=
  if word == "true".toList then some (.boolean true)
  else if word == "false".toList then some (.boolean false)
  else (moment? word).or ((float? word).or (integer? word))

/-- Whether a character ends a word. -/
def endsWord (c : Char) : Bool :=
  [' ', '\t', '\n', '\r', ',', ']', '\x7d', '#'].contains c

/-- Read a value without quotes or brackets. A date may be followed by a space and a time. -/
def readScalar (text : List Char) : Option (Value × List Char) :=
  let (word, rest) := text.span fun c => !endsWord c
  let (word, rest) := match isDate word, rest with
    | true, ' ' :: c :: more =>
      if c.isDigit then
        let (time, after) := (c :: more).span fun c => !endsWord c
        (word ++ ' ' :: time, after)
      else (word, rest)
    | _, _ => (word, rest)
  (scalar? word).map fun value => (value, rest)

end CharLexer.Toml
