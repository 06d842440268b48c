import CharLexer.Text.Hexadecimal
import CharLexer.Text.Visible

/-!
# Quoted text

A text between double quotes, on one line: the quote, the backslash and the four named controls
carry a backslash, and every other character that does not show by itself is written by its code
point. A single quote stays as it is.
-/
namespace CharLexer

/-- How one character is written between the quotes. -/
def quotedChar (c : Char) : String :=
  match c with
  | '\x00' => "\\0"
  | '\t' => "\\t"
  | '\n' => "\\n"
  | '\r' => "\\r"
  | '"' => "\\\""
  | '\\' => "\\\\"
  | c => if isVisible c then c.toString else "\\u\x7b" ++ hexDigits c.toNat ++ "\x7d"

/-- A text between double quotes. -/
def quoted (text : String) : String :=
  text.toList.foldl (fun written c => written ++ quotedChar c) "\"" ++ "\""

/-- How one character of a path is written between the quotes. -/
def quotedPathChar (c : Char) : String := if c = '\'' then "\\'" else quotedChar c

/-- The text of a path between double quotes. -/
def quotedPath (text : String) : String :=
  text.toList.foldl (fun written c => written ++ quotedPathChar c) "\"" ++ "\""

end CharLexer
