import CharLexer.Proofs.Concatenation

/-!
# Late starts

A cursor that has read some characters of a text, and not more than there are, has the others left
to read (`Cursor.rest_advance`). A scan looks at nothing else of the text. It counts lines and
columns from where it starts, and only the offset is that of the whole text. So a scan that starts
late gives the tokens of a text of its own, with the offsets moved (`tokens_of_advanced`), wherever
the start cuts what would have been a string or a run.
-/
namespace CharLexer

namespace Cursor

/-- A cursor over a text is as long as the text. -/
theorem length_ofString (source : String) : (ofString source).length = source.length := by
  show source.toList.toArray.size = _
  rw [List.size_toArray, String.length_toList]

/-- Reading does not change the text. -/
theorem text_next (cursor : Cursor) : cursor.next.2.text = cursor.text := by
  unfold next
  by_cases more : cursor.position < cursor.text.size
  · rw [dif_pos more]
  · rw [dif_neg more]

/-- A character read is one more, and at the end there is none. -/
theorem position_next (cursor : Cursor) :
    cursor.next.2.position = min (cursor.position + 1) cursor.length := by
  have within := cursor.position_le
  unfold next length
  by_cases more : cursor.position < cursor.text.size
  · rw [dif_pos more]
    show cursor.position + 1 = _
    omega
  · rw [dif_neg more]
    show cursor.position = _
    omega

/-- However many characters are read, the text stays the same. -/
theorem text_advance (cursor : Cursor) (count : Nat) :
    (cursor.advance count).text = cursor.text := by
  induction count generalizing cursor with
  | zero => rfl
  | succ count ih =>
    show (cursor.next.2.advance count).text = _
    rw [ih, text_next]

/-- So many characters are read, or all that are left. -/
theorem position_advance (cursor : Cursor) (count : Nat) :
    (cursor.advance count).position = min (cursor.position + count) cursor.length := by
  induction count generalizing cursor with
  | zero =>
    have within := cursor.position_le
    show cursor.position = min cursor.position cursor.text.size
    omega
  | succ count ih =>
    have sameLength : cursor.next.2.length = cursor.length :=
      congrArg Array.size (text_next cursor)
    show (cursor.next.2.advance count).position = _
    rw [ih, position_next, sameLength]
    omega

/-- What is left to read after some characters is what was left before, without them. -/
theorem rest_advance (cursor : Cursor) (count : Nat) :
    (cursor.advance count).rest = cursor.rest.drop count := by
  unfold rest
  rw [text_advance, position_advance, List.drop_drop]
  by_cases within : cursor.position + count ≤ cursor.length
  · rw [Nat.min_eq_left within]
  · have past : cursor.text.toList.length ≤ cursor.position + count := by
      rw [Array.length_toList]
      exact Nat.le_of_not_le within
    have whole : cursor.text.toList.length ≤ min (cursor.position + count) cursor.length := by
      rw [Nat.min_eq_right (Nat.le_of_not_le within), Array.length_toList]
      exact Nat.le_refl _
    rw [List.drop_eq_nil_of_le past, List.drop_eq_nil_of_le whole]

end Cursor

namespace Piece

/-- Pieces are counted alike wherever they start, but for the place of their end. -/
theorem metricsToEnd_of_offset (offset : Nat) (pieces : List Piece) :
    metricsToEnd ⟨offset, 1, 1⟩ pieces =
      { metricsToEnd .start pieces with
        charsConsumed := (metricsToEnd .start pieces).charsConsumed + offset } := by
  have there : (endOf ⟨offset, 1, 1⟩ pieces).offset = offset + (pieces.flatMap chars).length :=
    endOf_offset ⟨offset, 1, 1⟩ pieces
  have here : (endOf .start pieces).offset = 0 + (pieces.flatMap chars).length :=
    endOf_offset .start pieces
  have moved : (endOf ⟨offset, 1, 1⟩ pieces).offset = (endOf .start pieces).offset + offset := by
    omega
  unfold metricsToEnd
  rw [moved]

end Piece

/-- A scan behind so many characters of a text gives the tokens of a scan of the text without them,
each in its line and column and as many characters further as were read: that many, or all there
are. The counters are the same, but for the place of the end. -/
theorem tokens_of_advanced (source : String) (charsets : Charsets)
    (preferences : LexicalPreferences) (compress : Bool) (count : Nat) :
    let late : Lexer :=
      { cursor := (Cursor.ofString source).advance count, charsets, preferences }
    let fresh := Lexer.fresh (String.ofList (source.toList.drop count)) charsets preferences
    let read := min count source.length
    (late.tokens compress).1.result = (fresh.tokens compress).1.result.map (Token.moved read 0) ∧
      (late.tokens compress).2.metrics = (fresh.tokens compress).2.metrics.map fun metrics =>
        { metrics with charsConsumed := metrics.charsConsumed + read } := by
  intro late fresh read
  have left : late.cursor.rest = source.toList.drop count := by
    show ((Cursor.ofString source).advance count).rest = _
    rw [Cursor.rest_advance, Cursor.rest_ofString]
  have leftFresh : fresh.cursor.rest = source.toList.drop count := by
    show (Lexer.fresh _ charsets preferences).cursor.rest = _
    rw [Lexer.rest_fresh, String.toList_ofList]
  have starts : late.startPlace = ⟨read, 1, 1⟩ := by
    have position := Cursor.position_advance (Cursor.ofString source) count
    have start : (Cursor.ofString source).position = 0 := rfl
    rw [Cursor.length_ofString, start, Nat.zero_add] at position
    unfold Lexer.startPlace
    rw [position]
  have startsFresh : fresh.startPlace = .start := rfl
  obtain ⟨pieces, reading⟩ := Reading.exists_reading charsets (source.toList.drop count)
  have readLate : Reading late.charsets late.cursor.rest pieces := left ▸ reading
  have readFresh : Reading fresh.charsets fresh.cursor.rest pieces := leftFresh ▸ reading
  constructor
  · rw [Lexer.tokens_of_reading compress readLate, Lexer.tokens_of_reading compress readFresh,
      starts, startsFresh]
    exact Piece.tokensToEnd_of_firstColumn compress rfl (Nat.le_refl 1) pieces
  · rw [Lexer.metrics_of_reading compress readLate, Lexer.metrics_of_reading compress readFresh,
      starts, startsFresh, Piece.metricsToEnd_of_offset]
    show (if preferences.collectMetrics then _ else none) =
      (if preferences.collectMetrics then _ else none : Option Metrics).map _
    cases preferences.collectMetrics <;> rfl

/-- A start inside what would be a string makes its closing delimiter open another. -/
example :
    let late : Lexer := { cursor := (Cursor.ofString "a\n'b'c").advance 3 }
    (late.tokens false).1.result =
      [⟨.letters, ⟨3, 1, 1⟩, "b"⟩, ⟨.string, ⟨4, 1, 2⟩, "'c"⟩, ⟨.textEnd, ⟨6, 1, 4⟩, ""⟩] := by
  decide

end CharLexer
