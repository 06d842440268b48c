import CharLexer.Proofs.Scan
import CharLexer.Token.Json

/-!
# Lines and columns in 32 bits

What is kept of a line and a column is what additions in 32 bits give, one after another
(`Location.stored_afterColumn`, `Location.stored_afterLineEnd`). Whatever else a scan does, it does
not depend on them: with its places as they are kept, it gives the tokens of the exact scan with their
places as they are kept (`Lexer.result_scan`), and leaves the same lexer. A text that is short enough
has no line and no column that 32 bits cannot hold, so the two scans are the same
(`Lexer.result_scan_of_length_le`).
-/
namespace CharLexer

namespace Location

/-- The first place is kept as it is. -/
theorem stored_start (offset : Nat) : (⟨offset, 1, 1⟩ : Location).stored = ⟨offset, 1, 1⟩ := by
  rfl

/-- What 32 bits keep of a number and one more is what they keep of the number, and one more. -/
theorem toNat_toUInt32_succ (number : Nat) :
    (number + 1).toUInt32.toNat = (number.toUInt32.toNat.toUInt32 + 1).toNat := by
  have kept : number.toUInt32.toNat.toUInt32 = number.toUInt32 := UInt32.ofNat_toNat
  rw [kept]
  exact congrArg UInt32.toNat (UInt32.ofNat_add number 1)

/-- A column is counted by an addition in 32 bits. -/
theorem stored_afterColumn (place : Location) :
    place.afterColumn.stored =
      ⟨place.stored.offset + 1, place.stored.line, (place.stored.column.toUInt32 + 1).toNat⟩ := by
  rw [stored, afterColumn, toNat_toUInt32_succ]
  rfl

/-- A character that takes no column changes no counter. -/
theorem stored_afterDropped (place : Location) :
    place.afterDropped.stored = place.stored.afterDropped := by
  rfl

/-- A line is counted by an addition in 32 bits, and the column set back. -/
theorem stored_afterLineEnd (place : Location) :
    place.afterLineEnd.stored =
      ⟨place.stored.offset + 1, (place.stored.line.toUInt32 + 1).toNat, 1⟩ := by
  rw [stored, afterLineEnd, toNat_toUInt32_succ]
  rfl

/-- A place whose counters fit is kept as it is. -/
theorem stored_eq_self {place : Location} (line : place.line < lineBound)
    (column : place.column < lineBound) : place.stored = place := by
  have kept {number : Nat} (fits : number < lineBound) : number.toUInt32.toNat = number :=
    UInt32.toNat_ofNat_of_lt' fits
  rw [stored, kept line, kept column]

end Location

namespace Token

/-- A token is kept with its kind. -/
@[simp] theorem kind_stored (token : Token) : token.stored.kind = token.kind := rfl

/-- A token is kept with its content. -/
@[simp] theorem content_stored (token : Token) : token.stored.content = token.content := rfl

/-- A token is placed where its location is kept. -/
@[simp] theorem location_stored (token : Token) :
    token.stored.location = token.location.stored := rfl

/-- A token that ends a line is kept as one. -/
@[simp] theorem isLineEnd_stored (token : Token) : token.stored.isLineEnd = token.isLineEnd := rfl

/-- A token that ends the text is kept as one. -/
@[simp] theorem isTextEnd_stored (token : Token) : token.stored.isTextEnd = token.isTextEnd := rfl

end Token

namespace Scan

/-- A token that is completed is kept as the others are. -/
theorem stored_push (scan : Scan) (token : Token) (consumed : Nat) :
    (scan.push token consumed).stored = scan.stored.push token.stored consumed := by
  simp [push, stored, OpenToken.stored]

/-- The open token is completed with its place as it is kept. -/
theorem stored_close (compress : Bool) (scan : Scan) :
    (scan.close compress).stored = scan.stored.close compress := by
  obtain ⟨place, inside, tokens, metrics⟩ := scan
  cases inside with
  | nothing => rfl
  | _ => exact stored_push _ _ _

/-- The string that is open is kept with its delimiter, and its place as it is kept. -/
theorem unterminated?_stored (scan : Scan) :
    scan.stored.unterminated? = scan.unterminated?.map fun left => (left.1, left.2.stored) := by
  obtain ⟨place, inside, tokens, metrics⟩ := scan
  cases inside <;> rfl

/-- A scan is completed with its places as they are kept. -/
theorem stored_finish (compress : Bool) (scan : Scan) :
    (scan.finish compress).stored = scan.stored.finish compress := by
  have left : scan.stored.unterminated?.isSome = scan.unterminated?.isSome := by
    rw [unterminated?_stored, Option.isSome_map]
  simp only [finish, left, ← stored_close]
  generalize scan.close compress = closed
  simp [push, stored, Token.stored, OpenToken.stored]
  rfl

end Scan

namespace Lexer

/-- A scan gives the tokens of the exact one with their places as they are kept. -/
theorem result_scan (lexer : Lexer) (compress : Bool) :
    (lexer.scan compress).1.result = (lexer.tokens compress).1.result.map Token.stored := by
  have finished := Scan.stored_finish compress (lexer.readRest compress)
  rw [scan, complete, ← finished]
  rfl

/-- A scan gives the tokens of the pieces that are left to read and the end of the text, with their
places as they are kept. -/
theorem scan_of_reading {lexer : Lexer} {pieces : List Piece} (compress : Bool)
    (reading : Reading lexer.charsets lexer.cursor.rest pieces) :
    (lexer.scan compress).1.result =
      (Piece.tokens compress lexer.startPlace pieces).map Token.stored ++
        [(⟨.textEnd, Piece.endOf lexer.startPlace pieces, ""⟩ : Token).stored] := by
  rw [result_scan, tokens_of_reading compress reading, Piece.tokensToEnd, List.map_append,
    List.map_singleton]

/-- A scan leaves the lexer that the exact one leaves. -/
theorem after_scan (lexer : Lexer) (compress : Bool) :
    (lexer.scan compress).2 = (lexer.tokens compress).2 := by
  have finished := Scan.stored_finish compress (lexer.readRest compress)
  rw [scan, complete, ← finished]
  rfl

end Lexer

/-- A text gives the tokens of its exact scan with their places as they are kept. -/
theorem scanText_eq (source : String) (compress : Bool) (charsets : Charsets) :
    scanText source compress charsets = (tokenize source compress charsets).map Token.stored :=
  Lexer.result_scan _ compress

/-! ### Texts that are short enough -/

namespace Piece

/-- A piece leaves the line and the column together no further than its characters. -/
theorem sum_after (piece : Piece) {place : Location} (counted : 1 ≤ place.column) :
    (piece.after place).line + (piece.after place).column ≤
        place.line + place.column + piece.chars.length ∧
      place.line ≤ (piece.after place).line ∧ 1 ≤ (piece.after place).column := by
  cases piece with
  | dropped => exact ⟨Nat.le_add_right _ _, Nat.le_refl _, counted⟩
  | lineEnd =>
    simp only [after, Location.afterLineEnd, chars, List.length_cons]
    omega
  | _ =>
    simp only [after, Location.afterColumns]
    omega

/-- On every token of pieces, the line and the column are counted, and together are no further than
the characters of the pieces. -/
theorem bounds_of_mem_tokensToEnd (compress : Bool) {place : Location} {pieces : List Piece}
    (line : 1 ≤ place.line) (column : 1 ≤ place.column) :
    ∀ token ∈ tokensToEnd compress place pieces,
      1 ≤ token.location.line ∧ 1 ≤ token.location.column ∧
        token.location.line + token.location.column ≤
          place.line + place.column + (pieces.flatMap chars).length := by
  induction pieces generalizing place with
  | nil => exact List.forall_mem_singleton.mpr ⟨line, column, Nat.le_add_right _ _⟩
  | cons piece pieces ih =>
    obtain ⟨sum, later, counted⟩ := piece.sum_after column
    rw [tokensToEnd_cons, List.flatMap_cons, List.length_append]
    intro token member
    rcases List.mem_append.mp member with made | rest
    · obtain ⟨kind, -, rfl⟩ := Option.map_eq_some_iff.mp (Option.mem_toList.mp made)
      exact ⟨line, column, Nat.le_add_right _ _⟩
    · obtain ⟨first, second, bound⟩ := ih (line.trans later) counted token rest
      exact ⟨first, second, by omega⟩

end Piece

/-- The tokens of a text of which so little is left to read have lines and columns that 32 bits
hold. -/
theorem Lexer.inRange_of_length_le (lexer : Lexer) (compress : Bool)
    (short : lexer.cursor.rest.length ≤ lineBound - 2) :
    ∀ token ∈ (lexer.tokens compress).1.result, token.stored = token := by
  obtain ⟨pieces, reading⟩ := Reading.exists_reading lexer.charsets lexer.cursor.rest
  rw [Lexer.tokens_of_reading compress reading]
  intro token member
  obtain ⟨line, column, sum⟩ := Piece.bounds_of_mem_tokensToEnd compress
    (Nat.le_refl 1) (Nat.le_refl 1) token member
  rw [reading.joined] at sum
  unfold lineBound at short
  have fits : token.location.stored = token.location := by
    apply Location.stored_eq_self <;> unfold lineBound <;> simp only [startPlace] at sum <;> omega
  rw [Token.stored, fits]

/-- A scan of which so little is left to read is the exact one. -/
theorem Lexer.result_scan_of_length_le (lexer : Lexer) (compress : Bool)
    (short : lexer.cursor.rest.length ≤ lineBound - 2) :
    (lexer.scan compress).1.result = (lexer.tokens compress).1.result := by
  have same := List.map_congr_left (lexer.inRange_of_length_le compress short)
  rw [result_scan]
  exact same.trans (List.map_id _)

/-- The scan of a text that is short enough is the exact one. -/
theorem scanText_of_length_le {source : String} (short : source.length ≤ lineBound - 2)
    (compress : Bool) (charsets : Charsets) :
    scanText source compress charsets = tokenize source compress charsets := by
  apply Lexer.result_scan_of_length_le
  change (Cursor.ofString source).rest.length ≤ _
  rwa [Cursor.rest_ofString, String.length_toList]

end CharLexer
