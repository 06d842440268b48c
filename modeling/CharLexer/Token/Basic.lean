import CharLexer.Location

/-!
# Tokens

A token is a stretch of the source text: its kind, the place of its first character, and its
content. The kinds are ordered as they are listed.
-/
namespace CharLexer

/-- What a token is made of. -/
inductive Kind
  /-- Blank space inside a line. -/
  | whitespace
  /-- A run of letters. -/
  | letters
  /-- A run of digits. -/
  | digits
  /-- A run of symbols. -/
  | symbols
  /-- A quoted string, its delimiters included. -/
  | string
  /-- Characters of no class. -/
  | other
  /-- The end of a line. -/
  | lineEnd
  /-- The end of the text. -/
  | textEnd
  deriving DecidableEq, Ord

namespace Kind

/-- Every kind, in order. -/
def all : List Kind :=
  [.whitespace, .letters, .digits, .symbols, .string, .other, .lineEnd, .textEnd]

/-- The written name of a kind. -/
def name : Kind → String
  | .whitespace => "Whitespace"
  | .letters => "Letters"
  | .digits => "Digits"
  | .symbols => "Symbols"
  | .string => "String"
  | .other => "Other"
  | .lineEnd => "EOL"
  | .textEnd => "EOF"

/-- The kind of a written name. -/
def ofName? (name : String) : Option Kind :=
  all.find? fun kind => kind.name == name

end Kind

/-- A stretch of the source text. -/
structure Token where
  /-- What it is made of. -/
  kind : Kind
  /-- The place of its first character. -/
  location : Location
  /-- Its characters, as they are reported. -/
  content : String
  deriving DecidableEq

namespace Token

/-- The number of characters of the content. -/
def charCount (token : Token) : Nat := token.content.length

/-- Whether the token ends a line. -/
def isLineEnd (token : Token) : Bool := token.kind == .lineEnd

/-- Whether the token ends the text. -/
def isTextEnd (token : Token) : Bool := token.kind == .textEnd

/-- The token with its location as it is kept. -/
def stored (token : Token) : Token := { token with location := token.location.stored }

end Token

end CharLexer
