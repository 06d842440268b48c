import CharLexer.Proofs.Counters
import Mathlib.Data.List.Forall2

/-!
# Compressed whitespace

Compression changes what is reported of a whitespace run and nothing else. A scan with it and one
without it go over the same pieces of the text, and a piece moves the place and the counters by the
characters it has, not by those that are reported of it. So the two scans give the same tokens, but
for the contents of whitespace, and the same counters (`tokens_compressed`).
-/
namespace CharLexer

/-- How a token relates to the same token of a scan that compresses whitespace. -/
structure Token.Compresses (whole compressed : Token) : Prop where
  kind : compressed.kind = whole.kind
  location : compressed.location = whole.location
  /-- Whitespace is a single space. -/
  space : whole.kind = .whitespace → compressed.content = " "
  /-- Everything else is reported as it is. -/
  same : whole.kind ≠ .whitespace → compressed.content = whole.content

namespace Piece

/-- A piece that makes whitespace is reported as a single space when whitespace is compressed. -/
theorem content_of_whitespace {piece : Piece} (made : piece.kind? = some .whitespace) :
    piece.content true = " " := by
  rw [content, made]
  rfl

/-- What is reported of any other piece is the same with and without compression. -/
theorem content_of_ne_whitespace {piece : Piece} (made : piece.kind? ≠ some .whitespace) :
    piece.content true = piece.content false := by
  have other : (piece.kind? == some .whitespace) = false := by simpa using made
  rw [content, content, other]
  rfl

/-- A piece makes tokens of the same kind and place, and what is reported of them differs only for
whitespace. -/
theorem compresses_token {piece : Piece} {kind : Kind} (made : piece.kind? = some kind)
    (place : Location) :
    Token.Compresses ⟨kind, place, piece.content false⟩ ⟨kind, place, piece.content true⟩ where
  kind := rfl
  location := rfl
  space blank := content_of_whitespace (made.trans (congrArg some blank))
  same other := content_of_ne_whitespace fun blank => other (Option.some.inj (made.symm.trans blank))

/-- Pieces make the same tokens with and without compression, but for the contents of
whitespace. -/
theorem compresses_tokensToEnd (place : Location) (pieces : List Piece) :
    List.Forall₂ Token.Compresses (tokensToEnd false place pieces)
      (tokensToEnd true place pieces) := by
  induction pieces generalizing place with
  | nil => exact .cons ⟨rfl, rfl, fun blank => by contradiction, fun _ => rfl⟩ .nil
  | cons piece pieces ih =>
    have later := ih (piece.after place)
    rw [tokensToEnd_cons, tokensToEnd_cons]
    cases made : piece.kind? with
    | none => simpa [token?, made] using later
    | some kind => simpa [token?, made] using ⟨compresses_token made place, later⟩

end Piece

/-- With compression a scan gives as many tokens as without, each of the same kind in the same
place. Those that are no whitespace have the same content, and whitespace is a single space. The
counters are the same, whether or not tokens are counted. -/
theorem tokens_compressed (lexer : Lexer) :
    List.Forall₂ Token.Compresses (lexer.tokens false).1.result (lexer.tokens true).1.result ∧
      (lexer.tokens true).2.metrics = (lexer.tokens false).2.metrics := by
  obtain ⟨pieces, reading⟩ := Reading.exists_reading lexer.charsets lexer.cursor.rest
  constructor
  · rw [Lexer.tokens_of_reading false reading, Lexer.tokens_of_reading true reading]
    exact Piece.compresses_tokensToEnd lexer.startPlace pieces
  · rw [Lexer.metrics_of_reading true reading, Lexer.metrics_of_reading false reading]

/-- A run of three characters that holds a carriage return and a line feed is one space wide when
it is compressed, and the next token keeps its place. -/
example :
    let charsets : Charsets := { whitespace := .ofString "\t\n" }
    (({ Lexer.ofString "\t\r\na" with charsets }).tokens true).1.result =
      [⟨.whitespace, ⟨0, 1, 1⟩, " "⟩, ⟨.letters, ⟨3, 1, 4⟩, "a"⟩, ⟨.textEnd, ⟨4, 1, 5⟩, ""⟩] := by
  decide

end CharLexer
