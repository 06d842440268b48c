import CharLexer.Proofs.Counters
import CharLexer.Proofs.Position
import CharLexer.Proofs.Resumption
import CharLexer.Proofs.Segmentation

/-!
# Characters read

Every character that a scan reads is in one of its tokens or is a dropped carriage return. The
counter of characters is not their number but the place where the scan ended: it has besides what
had been read before the scan began (`charsConsumed_of_tokens`).
-/
namespace CharLexer

/-- Whether a span covers a position is decided by its bounds. -/
instance (span : Span) (position : Nat) : Decidable (span.Covers position) :=
  inferInstanceAs (Decidable (_ ∧ _))

/-- A position is free of tokens when it is in none of them. -/
def Token.Free (tokens : List Token) (position : Nat) : Prop :=
  ∀ token ∈ tokens, ¬ token.span.Covers position

/-- Whether a position is free of tokens is decided token by token. -/
instance (tokens : List Token) : DecidablePred (Token.Free tokens) :=
  fun position => inferInstanceAs (Decidable (∀ token ∈ tokens, ¬ token.span.Covers position))

namespace Lexer

/-- How many characters a scan reads: how far it moves the cursor. -/
def charsRead (lexer : Lexer) (compress : Bool) : Nat :=
  (lexer.tokens compress).2.cursor.position - lexer.cursor.position

/-- The positions that a scan reads and that are in no token. -/
def droppedPositions (lexer : Lexer) : List Nat :=
  (List.range' lexer.cursor.position lexer.cursor.rest.length).filter fun position =>
    Token.Free (lexer.tokens false).1.result position

/-- A scan reads all that is left of the text. -/
theorem charsRead_eq_length_rest (lexer : Lexer) (compress : Bool) :
    lexer.charsRead compress = lexer.cursor.rest.length := by
  rw [Cursor.rest, List.length_drop, Array.length_toList]
  rfl

end Lexer

namespace Piece

/-- In front of the place where pieces begin, every position is free of their tokens. -/
theorem free_tokensToEnd (compress : Bool) {place : Location} {position : Nat}
    (before : position < place.offset) (pieces : List Piece) :
    Token.Free (tokensToEnd compress place pieces) position := by
  induction pieces generalizing place with
  | nil =>
    intro token member covers
    obtain rfl := List.mem_singleton.mp member
    exact absurd covers.1 (Nat.not_le_of_lt before)
  | cons piece pieces ih =>
    have further : position < (piece.after place).offset := by
      rw [after_offset]
      omega
    rw [tokensToEnd_cons]
    refine List.forall_mem_append.mpr ⟨fun token member covers => ?_, ih further⟩
    obtain ⟨kind, -, rfl⟩ := Option.map_eq_some_iff.mp (Option.mem_toList.mp member)
    exact absurd covers.1 (Nat.not_le_of_lt before)

/-- A position of a piece is free of its token only if it makes none. -/
theorem free_token?_of_lt {piece : Piece} {place : Location} {position : Nat}
    (after : place.offset ≤ position) (before : position < place.offset + piece.chars.length) :
    Token.Free (piece.token? false place).toList position ↔ piece.kind? = none := by
  cases made : piece.kind? with
  | none => simp [token?, made, Token.Free]
  | some kind =>
    have covers : Span.Covers ⟨kind, place.offset, piece.content false⟩ position := by
      refine ⟨after, ?_⟩
      rw [Span.stop, length_content]
      exact before
    simpa [token?, made, Token.Free, Token.span] using covers

/-- A position behind a piece is free of its token. -/
theorem free_token?_of_le {piece : Piece} {place : Location} {position : Nat}
    (behind : place.offset + piece.chars.length ≤ position) :
    Token.Free (piece.token? false place).toList position := by
  intro token member covers
  obtain ⟨kind, -, rfl⟩ := Option.map_eq_some_iff.mp (Option.mem_toList.mp member)
  have short := covers.2
  simp only [Span.stop, Token.span, length_content] at short
  omega

/-- The positions of pieces that are free of their tokens. -/
def freePositions (place : Location) (pieces : List Piece) : List Nat :=
  (List.range' place.offset (pieces.flatMap chars).length).filter fun position =>
    Token.Free (tokensToEnd false place pieces) position

/-- A piece that makes no token leaves its place free. One that makes a token leaves none. -/
theorem freePositions_cons (place : Location) (piece : Piece) (pieces : List Piece) :
    freePositions place (piece :: pieces) =
      (if piece.kind? = none then [place.offset] else []) ++
        freePositions (piece.after place) pieces := by
  have front : ∀ position ∈ List.range' place.offset piece.chars.length,
      decide (Token.Free (tokensToEnd false place (piece :: pieces)) position) =
        decide (piece.kind? = none) := by
    intro position inside
    obtain ⟨after, before⟩ := List.mem_range'_1.mp inside
    have further : position < (piece.after place).offset := by rwa [after_offset]
    have later := free_tokensToEnd false further pieces
    rw [tokensToEnd_cons, decide_eq_decide]
    exact (List.forall_mem_append.trans (and_iff_left later)).trans (free_token?_of_lt after before)
  have back : ∀ position ∈ List.range' (place.offset + piece.chars.length)
        (pieces.flatMap chars).length,
      decide (Token.Free (tokensToEnd false place (piece :: pieces)) position) =
        decide (Token.Free (tokensToEnd false (piece.after place) pieces) position) := by
    intro position inside
    have first := free_token?_of_le (List.mem_range'_1.mp inside).1
    rw [tokensToEnd_cons, decide_eq_decide]
    exact List.forall_mem_append.trans (and_iff_right first)
  rw [freePositions, freePositions, List.flatMap_cons, List.length_append,
    ← List.range'_append_1, List.filter_append, List.filter_congr front, List.filter_congr back,
    after_offset]
  cases made : piece.kind? with
  | none =>
    obtain rfl := kind?_eq_none.mp made
    rfl
  | some kind => simp

/-- The characters of a piece are those of its token, or the one of its free place. -/
theorem length_chars_eq (place : Location) (piece : Piece) :
    piece.chars.length =
      ((piece.token? false place).toList.map Token.charCount).sum +
        (if piece.kind? = none then [place.offset] else []).length := by
  cases made : piece.kind? with
  | none =>
    obtain rfl := kind?_eq_none.mp made
    rfl
  | some kind => simp [token?, made, Token.charCount, length_content]

/-- The characters of pieces are those of their tokens and the free ones. -/
theorem length_flatMap_chars (place : Location) (pieces : List Piece) :
    (pieces.flatMap chars).length =
      ((tokensToEnd false place pieces).map Token.charCount).sum +
        (freePositions place pieces).length := by
  induction pieces generalizing place with
  | nil => rfl
  | cons piece pieces ih =>
    have first := length_chars_eq place piece
    have later := ih (piece.after place)
    rw [List.flatMap_cons, List.length_append, freePositions_cons, tokensToEnd_cons,
      List.length_append, List.map_append, List.sum_append]
    omega

end Piece

namespace Lexer

variable {lexer : Lexer} {pieces : List Piece}

/-- The pieces of what is left of a text have as many characters as a scan reads. -/
theorem charsRead_of_reading (compress : Bool)
    (reading : Reading lexer.charsets lexer.cursor.rest pieces) :
    lexer.charsRead compress = (pieces.flatMap Piece.chars).length := by
  rw [charsRead_eq_length_rest, reading.joined]

/-- The positions that a scan drops are those that its pieces leave free. -/
theorem droppedPositions_of_reading
    (reading : Reading lexer.charsets lexer.cursor.rest pieces) :
    lexer.droppedPositions = Piece.freePositions lexer.startPlace pieces := by
  rw [droppedPositions, Piece.freePositions, tokens_of_reading false reading, reading.joined]
  rfl

/-- Only carriage returns are dropped. -/
theorem return_of_mem_droppedPositions {position : Nat}
    (member : position ∈ lexer.droppedPositions) :
    lexer.cursor.text[position]? = some '\r' := by
  obtain ⟨pieces, reading⟩ := Reading.exists_reading lexer.charsets lexer.cursor.rest
  have segmentation := (Segmentation.iff_of_reading reading lexer.startPlace rfl
    lexer.cursor.position_le).mpr rfl
  obtain ⟨inside, free⟩ := List.mem_filter.mp member
  obtain ⟨after, before⟩ := List.mem_range'_1.mp inside
  rw [tokens_of_reading false reading, decide_eq_true_eq] at free
  have within : position < lexer.cursor.text.toList.length := by
    rw [Cursor.rest, List.length_drop] at before
    omega
  have isReturn := segmentation.dropped position after within (List.forall_mem_map.mpr free)
  simpa using isReturn.1

end Lexer

/-- After a scan that counts, the counter of characters has the number of those that the scan read
and besides those that were read before it: it is right exactly when the scan began at the start of
the text. The characters that a scan reads are those of its tokens, uncompressed, and the carriage
returns that it drops. -/
theorem charsConsumed_of_tokens (lexer : Lexer) (compress : Bool)
    (counts : lexer.preferences.collectMetrics = true) :
    ∃ metrics, (lexer.tokens compress).2.metrics = some metrics ∧
      metrics.charsConsumed = lexer.cursor.position + lexer.charsRead compress ∧
      (metrics.charsConsumed = lexer.charsRead compress ↔ lexer.cursor.position = 0) ∧
      lexer.charsRead compress =
        ((lexer.tokens false).1.result.map Token.charCount).sum + lexer.droppedPositions.length ∧
      ∀ position ∈ lexer.droppedPositions, lexer.cursor.text[position]? = some '\r' := by
  obtain ⟨pieces, reading⟩ := Reading.exists_reading lexer.charsets lexer.cursor.rest
  have read := Lexer.charsRead_of_reading compress reading
  have reached : (Piece.metricsToEnd lexer.startPlace pieces).charsConsumed =
      lexer.cursor.position + lexer.charsRead compress := by
    rw [read]
    exact Piece.endOf_offset lexer.startPlace pieces
  refine ⟨Piece.metricsToEnd lexer.startPlace pieces, ?_, reached, ?_, ?_, ?_⟩
  · rw [Lexer.metrics_of_reading compress reading, if_pos counts]
  · rw [reached]
    omega
  · rw [read, Lexer.tokens_of_reading false reading, Lexer.droppedPositions_of_reading reading]
    exact Piece.length_flatMap_chars lexer.startPlace pieces
  · exact fun position member => Lexer.return_of_mem_droppedPositions member

/-- A scan that begins behind the first of five characters reads four and counts five. The next
scan reads none and counts five. -/
theorem charsConsumed_ne_charsRead :
    let lexer : Lexer := { cursor := (Cursor.ofString "ab\n\rc").advance 1 }
    let again := (lexer.tokens false).2
    (lexer.tokens false).2.metrics.map Metrics.charsConsumed = some 5 ∧
      lexer.charsRead false = 4 ∧
      ((lexer.tokens false).1.result.map Token.charCount).sum = 3 ∧
      lexer.droppedPositions = [3] ∧
      (again.tokens false).2.metrics.map Metrics.charsConsumed = some 5 ∧
      again.charsRead false = 0 := by
  decide

/-- From the start of a text with compressed whitespace and a dropped carriage return, the counter
is right. -/
theorem charsConsumed_from_start :
    let lexer := Lexer.ofString "a\t\t\n\rb"
    lexer.preferences.collectMetrics = true ∧ lexer.cursor.position = 0 ∧
      ∃ metrics, (lexer.tokens true).2.metrics = some metrics ∧
        metrics.charsConsumed = lexer.charsRead true := by
  intro lexer
  have counts : lexer.preferences.collectMetrics = true := rfl
  have start : lexer.cursor.position = 0 := rfl
  obtain ⟨metrics, counted, -, isRight, -⟩ := charsConsumed_of_tokens lexer true counts
  exact ⟨counts, start, metrics, counted, isRight.mpr start⟩

end CharLexer
