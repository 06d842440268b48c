import CharLexer.Text.Blank
import CharLexer.Text.Padding
import CharLexer.Token.Basic

/-!
# Listings

A listing shows one token per row: the line to the right of a field of four, the column to the left
of a field of three, the kind to the left of a field of ten, and the content. A row has no blank
characters at its end.
-/
namespace CharLexer.Token

/-- The row of a token before the blank characters at its end are dropped. -/
def untrimmedRow (token : Token) : String :=
  pad .right 4 (toString token.location.line) ++ "," ++
    pad .left 3 (toString token.location.column) ++ " " ++
    pad .left 10 token.kind.name ++ "   " ++ token.content

/-- The row of a token in a listing. -/
def row (token : Token) : String :=
  trimBlankEnd token.untrimmedRow

end CharLexer.Token
