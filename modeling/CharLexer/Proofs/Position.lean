import CharLexer.Proofs.Scan
import Mathlib.Algebra.GroupWithZero.Nat
import Mathlib.Data.List.Induction

/-!
# Lines and columns

The line and the column of a token are determined by the tokens in front of it: a line end moves to
the first column of the next line, and every other token moves by as many columns as it has
characters. So a line is one more than the number of line ends in front (`line_column_of_tokens`),
whatever carriage returns were dropped and whatever line feeds stand inside strings and runs.
-/
namespace CharLexer

/-- The line and column of a place. -/
def Location.position (place : Location) : Nat × Nat := (place.line, place.column)

namespace Token

/-- The line and column behind a token, given those in front of it. -/
def advance (position : Nat × Nat) (token : Token) : Nat × Nat :=
  if token.isLineEnd then (position.1 + 1, 1)
  else (position.1, position.2 + token.charCount)

/-- The tokens after the last line end of a list. -/
def lastLine (tokens : List Token) : List Token :=
  (tokens.reverse.takeWhile fun token => !token.isLineEnd).reverse

/-- A line end leaves nothing in front of it on the line. -/
theorem lastLine_concat_lineEnd (tokens : List Token) {token : Token}
    (ends : token.isLineEnd = true) : lastLine (tokens ++ [token]) = [] := by
  simp [lastLine, ends]

/-- A token that ends no line is on the same line as the ones in front of it. -/
theorem lastLine_concat (tokens : List Token) {token : Token}
    (goesOn : token.isLineEnd = false) :
    lastLine (tokens ++ [token]) = lastLine tokens ++ [token] := by
  simp [lastLine, goesOn]

/-- The line and column behind a list of tokens, in closed form. -/
theorem foldl_advance (tokens : List Token) :
    tokens.foldl advance (1, 1) =
      (1 + tokens.countP isLineEnd, 1 + ((lastLine tokens).map charCount).sum) := by
  induction tokens using List.reverseRecOn with
  | nil => rfl
  | append_singleton tokens token ih =>
    rw [List.foldl_append, ih, List.foldl_cons, List.foldl_nil, advance]
    cases ends : token.isLineEnd with
    | true =>
      rw [if_pos rfl, lastLine_concat_lineEnd tokens ends]
      simp [ends, Nat.add_assoc]
    | false =>
      rw [if_neg (by decide), lastLine_concat tokens ends]
      simp [ends, Nat.add_assoc]

end Token

namespace Piece

/-- Uncompressed content has the characters of the piece. -/
theorem length_content (piece : Piece) : (piece.content false).length = piece.chars.length := by
  simp [content]

/-- The line and column behind a piece are those behind its token. -/
theorem after_position {piece : Piece} {place : Location} {token : Token}
    (made : piece.token? false place = some token) :
    (piece.after place).position = token.advance place.position := by
  obtain ⟨kind, isKind, rfl⟩ := Option.map_eq_some_iff.mp made
  have counted := length_content piece
  cases piece with
  | dropped => contradiction
  | lineEnd =>
    obtain rfl := Option.some.inj isKind
    rfl
  | run runClass first more =>
    obtain rfl := Option.some.inj isKind
    have goesOn : (runClass.kind == Kind.lineEnd) = false := by cases runClass <;> rfl
    simp [after, Location.afterColumns, Location.position, Token.advance, Token.isLineEnd, goesOn,
      Token.charCount, counted]
  | _ =>
    obtain rfl := Option.some.inj isKind
    simp [after, Location.afterColumns, Location.position, Token.advance, Token.isLineEnd,
      Token.charCount, counted]

/-- A piece without a token leaves line and column alone. -/
theorem after_position_of_none {piece : Piece} {place : Location}
    (made : piece.token? false place = none) : (piece.after place).position = place.position := by
  obtain rfl := kind?_eq_none.mp (Option.map_eq_none_iff.mp made)
  rfl

/-- The line and column of a token are those behind the tokens in front of it. -/
theorem position_of_tokensToEnd {pieces : List Piece} {place : Location} {before after : List Token}
    {token : Token} (split : tokensToEnd false place pieces = before ++ token :: after) :
    token.location.position = before.foldl Token.advance place.position := by
  induction pieces generalizing place before with
  | nil =>
    cases before with
    | nil =>
      obtain ⟨rfl, -⟩ := List.cons.inj split
      rfl
    | cons first before => simp at split
  | cons piece pieces ih =>
    rw [tokensToEnd_cons] at split
    cases made : piece.token? false place with
    | none =>
      rw [made] at split
      rw [ih split, after_position_of_none made]
    | some opened =>
      rw [made] at split
      cases before with
      | nil =>
        obtain ⟨rfl, -⟩ := List.cons.inj split
        obtain ⟨kind, -, rfl⟩ := Option.map_eq_some_iff.mp made
        rfl
      | cons first before =>
        obtain ⟨rfl, later⟩ := List.cons.inj split
        rw [ih later, after_position made, List.foldl_cons]

end Piece

namespace Lexer

/-- The line and column of a token of a lexer are those behind the tokens in front of it. -/
theorem position_of_tokens {lexer : Lexer} {before after : List Token} {token : Token}
    (split : (lexer.tokens false).1.result = before ++ token :: after) :
    token.location.position = before.foldl Token.advance (1, 1) := by
  obtain ⟨pieces, reading⟩ := Reading.exists_reading lexer.charsets lexer.cursor.rest
  rw [tokens_of_reading false reading] at split
  exact Piece.position_of_tokensToEnd split

/-- The line and column of a token are those behind the token in front of it. -/
theorem position_of_next {lexer : Lexer} {before after : List Token} {previous token : Token}
    (split : (lexer.tokens false).1.result = before ++ previous :: token :: after) :
    token.location.position = previous.advance previous.location.position := by
  have here : (lexer.tokens false).1.result = (before ++ [previous]) ++ token :: after := by
    simp [split]
  rw [position_of_tokens here, List.foldl_append, position_of_tokens split]
  rfl

end Lexer

/-- The line of a token is one more than the number of line ends in front of it, and its column one
more than the number of characters of the tokens in front of it on its line. From one token to the
next, only a line end moves the line, and any other token moves the column by its characters. -/
theorem line_column_of_tokens (lexer : Lexer) (before : List Token) (token : Token)
    (after : List Token) (split : (lexer.tokens false).1.result = before ++ token :: after) :
    token.location.line = 1 + before.countP Token.isLineEnd ∧
      token.location.column = 1 + ((Token.lastLine before).map Token.charCount).sum ∧
      ∀ previous ∈ before.getLast?,
        if previous.isLineEnd then
          token.location.line = previous.location.line + 1 ∧ token.location.column = 1
        else
          token.location.line = previous.location.line ∧
            token.location.column = previous.location.column + previous.charCount := by
  have position := Lexer.position_of_tokens split
  rw [Token.foldl_advance, Location.position, Prod.mk.injEq] at position
  refine ⟨position.1, position.2, fun previous last => ?_⟩
  obtain ⟨front, rfl⟩ := List.getLast?_eq_some_iff.mp last
  rw [List.append_assoc] at split
  have moved := Lexer.position_of_next split
  cases ends : previous.isLineEnd with
  | true => simpa [Token.advance, ends, Location.position] using moved
  | false => simpa [Token.advance, ends, Location.position] using moved

/-- Behind a line end, a dropped carriage return, a run that takes one, and a line feed in a
string. -/
theorem line_column_behind_string :
    let before : List Token :=
      [⟨.lineEnd, ⟨0, 1, 1⟩, "\n"⟩, ⟨.letters, ⟨2, 2, 1⟩, "a\r"⟩, ⟨.string, ⟨4, 2, 3⟩, "'\n'"⟩]
    let token : Token := ⟨.letters, ⟨7, 2, 6⟩, "b"⟩
    ((Lexer.ofString "\n\ra\r'\n'b").tokens false).1.result =
        before ++ token :: [⟨.textEnd, ⟨8, 2, 7⟩, ""⟩] ∧
      token.location.line = 1 + before.countP Token.isLineEnd ∧
      token.location.column = 1 + ((Token.lastLine before).map Token.charCount).sum := by
  intro before token
  have split : ((Lexer.ofString "\n\ra\r'\n'b").tokens false).1.result =
      before ++ token :: [⟨.textEnd, ⟨8, 2, 7⟩, ""⟩] := by decide
  have position := line_column_of_tokens _ before token _ split
  exact ⟨split, position.1, position.2.1⟩

end CharLexer
