import CharLexer.Charset
import CharLexer.Token.Basic

/-!
# Character classes

Four sets class the characters that form runs and a fifth holds the quotes. The sets may share
characters: a character belongs to the first of whitespace, letters, digits and symbols that
contains it.
-/
namespace CharLexer

/-- A class whose characters form runs. -/
inductive RunClass
  | whitespace
  | letters
  | digits
  | symbols
  deriving DecidableEq

namespace RunClass

/-- The classes in the order in which a character is tried against them. -/
def all : List RunClass := [.whitespace, .letters, .digits, .symbols]

/-- The kind of the tokens of a class. -/
def kind : RunClass → Kind
  | .whitespace => .whitespace
  | .letters => .letters
  | .digits => .digits
  | .symbols => .symbols

end RunClass

/-- The sets by which characters are classed. -/
structure Charsets where
  letters : Charset := .ofString "ABCDEFGHIJKLMNOPQRSTUVWXYZabcdefghijklmnopqrstuvwxyz"
  digits : Charset := .ofString "0123456789"
  symbols : Charset := .ofString "!£$%^&*()-_=+[]\x7b\x7d;:'@#~,.<>/?\\|"
  whitespace : Charset := .ofString " \t"
  quotes : Charset := .ofString "'\"`"

namespace Charsets

/-- The set of a class. -/
def ofClass (charsets : Charsets) : RunClass → Charset
  | .whitespace => charsets.whitespace
  | .letters => charsets.letters
  | .digits => charsets.digits
  | .symbols => charsets.symbols

/-- The class of a character: the first whose set contains it. -/
def classify? (charsets : Charsets) (c : Char) : Option RunClass :=
  RunClass.all.find? fun runClass => (charsets.ofClass runClass).contains c

/-- The class of a character together with its set. -/
def classifyRun? (charsets : Charsets) (c : Char) : Option (RunClass × Charset) :=
  (charsets.classify? c).map fun runClass => (runClass, charsets.ofClass runClass)

/-- Whether a character opens a string. -/
def isQuote (charsets : Charsets) (c : Char) : Bool :=
  charsets.quotes.contains c

end Charsets

end CharLexer
