import CharLexer.Proofs.Position
import Mathlib.Data.List.Sort
import Mathlib.Data.Prod.Lex

/-!
# Tokens in order of places

Three orders on the tokens of a scan are compared here: that of their offsets, that of their lines
and columns, and that of the result. A piece that makes a token moves on in the first two at once; a
carriage return that is dropped moves the offset alone, and nothing ever moves back
(`Piece.precedes_after`, `Piece.leadsTo_after`). So along the pieces of a text every token is before
all later ones in both orders (`Piece.pairwise_tokensToEnd`), and the three orders are one
(`compare_tokens`).
-/
namespace CharLexer

namespace Location

/-- Places compare by offset, then by line, then by column. -/
theorem compare_eq (first second : Location) :
    compare first second =
      (compare first.offset second.offset).then
        ((compare first.line second.line).then (compare first.column second.column)) := by
  change instOrdLocation.ord first second = _
  unfold instOrdLocation.ord
  simp

/-- Places that differ in their offsets, or not at all, compare by them. -/
theorem compare_eq_offset {first second : Location}
    (apart : first.offset = second.offset → first = second) :
    compare first second = compare first.offset second.offset := by
  rw [compare_eq]
  by_cases level : first.offset = second.offset
  · rw [apart level]
    simp
  · have strict : compare first.offset second.offset ≠ .eq := by
      rwa [ne_eq, Nat.compare_eq_eq]
    cases order : compare first.offset second.offset with
    | eq => exact absurd order strict
    | lt => rfl
    | gt => rfl

/-- A place is no later than another, by offset and also by line and column. -/
structure LeadsTo (first second : Location) : Prop where
  offset : first.offset ≤ second.offset
  position : toLex first.position ≤ toLex second.position

/-- A place is before another, by offset and also by line and column. -/
structure Precedes (first second : Location) : Prop where
  offset : first.offset < second.offset
  position : toLex first.position < toLex second.position

variable {first second third : Location}

/-- A place is no later than itself. -/
theorem LeadsTo.refl (place : Location) : place.LeadsTo place :=
  ⟨Nat.le_refl _, le_refl _⟩

/-- What is no later than an earlier place is no later. -/
theorem LeadsTo.trans (forth : first.LeadsTo second) (further : second.LeadsTo third) :
    first.LeadsTo third :=
  ⟨Nat.le_trans forth.offset further.offset, le_trans forth.position further.position⟩

/-- What is before a place is before all later ones. -/
theorem Precedes.trans_leadsTo (before : first.Precedes second) (further : second.LeadsTo third) :
    first.Precedes third :=
  ⟨Nat.lt_of_lt_of_le before.offset further.offset,
    lt_of_lt_of_le before.position further.position⟩

/-- What is before a place is no later. -/
theorem Precedes.leadsTo (before : first.Precedes second) : first.LeadsTo second :=
  ⟨Nat.le_of_lt before.offset, le_of_lt before.position⟩

/-- A dropped character moves the offset alone. -/
theorem leadsTo_afterDropped (place : Location) : place.LeadsTo place.afterDropped :=
  ⟨Nat.le_succ _, le_refl _⟩

/-- A line end moves to a later line. -/
theorem precedes_afterLineEnd (place : Location) : place.Precedes place.afterLineEnd := by
  constructor
  · exact Nat.lt_succ_self _
  · apply Prod.Lex.toLex_lt_toLex.mpr
    exact Or.inl (Nat.lt_succ_self _)

/-- Columns move along the line. -/
theorem precedes_afterColumns (place : Location) {count : Nat} (some : 0 < count) :
    place.Precedes (place.afterColumns count) := by
  constructor
  · exact Nat.lt_add_of_pos_right some
  · apply Prod.Lex.toLex_lt_toLex.mpr
    exact Or.inr ⟨rfl, Nat.lt_add_of_pos_right some⟩

end Location

namespace Piece

/-- A piece that makes a token moves on. -/
theorem precedes_after {piece : Piece} {kind : Kind} (made : piece.kind? = some kind)
    (place : Location) : place.Precedes (piece.after place) := by
  have filled : 0 < piece.chars.length := Nat.succ_pos _
  cases piece with
  | dropped => contradiction
  | lineEnd => exact place.precedes_afterLineEnd
  | run runClass first more => exact place.precedes_afterColumns filled
  | string delimiter inner closed => exact place.precedes_afterColumns filled
  | other first more => exact place.precedes_afterColumns filled

/-- No piece moves back. -/
theorem leadsTo_after (piece : Piece) (place : Location) : place.LeadsTo (piece.after place) := by
  cases made : piece.kind? with
  | none =>
    rw [kind?_eq_none.mp made]
    exact place.leadsTo_afterDropped
  | some kind => exact (precedes_after made place).leadsTo

/-- No token of some pieces stands before the first of them. -/
theorem leadsTo_tokensToEnd (compress : Bool) (place : Location) (pieces : List Piece) :
    ∀ token ∈ tokensToEnd compress place pieces, place.LeadsTo token.location := by
  induction pieces generalizing place with
  | nil =>
    intro token member
    rw [List.mem_singleton.mp member]
    exact Location.LeadsTo.refl place
  | cons piece pieces ih =>
    intro token member
    rw [tokensToEnd_cons] at member
    rcases List.mem_append.mp member with own | later
    · have made : piece.token? compress place = some token := Option.mem_toList.mp own
      obtain ⟨kind, -, rfl⟩ := Option.map_eq_some_iff.mp made
      exact Location.LeadsTo.refl place
    · exact (piece.leadsTo_after place).trans (ih (piece.after place) token later)

/-- Along some pieces, every token is before all later ones. -/
theorem pairwise_tokensToEnd (compress : Bool) (place : Location) (pieces : List Piece) :
    (tokensToEnd compress place pieces).Pairwise fun first second =>
      first.location.Precedes second.location := by
  induction pieces generalizing place with
  | nil => exact List.pairwise_singleton _ _
  | cons piece pieces ih =>
    have later := ih (piece.after place)
    rw [tokensToEnd_cons]
    cases made : piece.kind? with
    | none => simpa [token?, made] using later
    | some kind =>
      have token : piece.token? compress place = some ⟨kind, place, piece.content compress⟩ := by
        rw [token?, made, Option.map_some]
      rw [token]
      apply List.pairwise_cons.mpr
      constructor
      · intro other member
        have behind := leadsTo_tokensToEnd compress (piece.after place) pieces other member
        exact (precedes_after made place).trans_leadsTo behind
      · exact later

end Piece

namespace Lexer

/-- The place of each token of a scan, by its position in the result. -/
def placeOf (lexer : Lexer) (compress : Bool)
    (index : Fin (lexer.tokens compress).1.result.length) : Location :=
  ((lexer.tokens compress).1.result[index]).location

/-- A token of a scan is before those that come later in the result. -/
theorem precedes_placeOf (lexer : Lexer) (compress : Bool)
    {first second : Fin (lexer.tokens compress).1.result.length} (before : first < second) :
    (lexer.placeOf compress first).Precedes (lexer.placeOf compress second) := by
  obtain ⟨pieces, reading⟩ := Reading.exists_reading lexer.charsets lexer.cursor.rest
  have ordered := Piece.pairwise_tokensToEnd compress lexer.startPlace pieces
  rw [← Lexer.tokens_of_reading compress reading] at ordered
  exact List.pairwise_iff_getElem.mp ordered _ _ first.isLt second.isLt before

/-- The offsets of the tokens of a scan ascend. -/
theorem strictMono_offset (lexer : Lexer) (compress : Bool) :
    StrictMono fun index => (lexer.placeOf compress index).offset :=
  fun _ _ before => (lexer.precedes_placeOf compress before).offset

/-- The lines and columns of the tokens of a scan ascend. -/
theorem strictMono_position (lexer : Lexer) (compress : Bool) :
    StrictMono fun index => toLex (lexer.placeOf compress index).position :=
  fun _ _ before => (lexer.precedes_placeOf compress before).position

end Lexer

/-- Any two tokens of a scan compare by place, by line and column, and by offset as they stand in
the result. So no two of them, the end of the text included, share an offset, or a line and
column. -/
theorem compare_tokens (lexer : Lexer) (compress : Bool)
    (first second : Fin (lexer.tokens compress).1.result.length) :
    let place := lexer.placeOf compress first
    let other := lexer.placeOf compress second
    compare place other = compare first second ∧
      compare (toLex (place.line, place.column)) (toLex (other.line, other.column)) =
        compare first second ∧
      (place.offset = other.offset ↔ first = second) ∧
      ((place.line, place.column) = (other.line, other.column) ↔ first = second) := by
  intro place other
  have byOffset := lexer.strictMono_offset compress
  have byPosition := lexer.strictMono_position compress
  have sameOffset : place.offset = other.offset ↔ first = second := byOffset.injective.eq_iff
  have apart : place.offset = other.offset → place = other := fun same => by
    rw [show place = lexer.placeOf compress first from rfl, sameOffset.mp same]
  refine ⟨?_, ?_, sameOffset, ?_⟩
  · rw [Location.compare_eq_offset apart, ← cmp_eq_compare, ← cmp_eq_compare]
    exact byOffset.cmp_map_eq first second
  · rw [← cmp_eq_compare, ← cmp_eq_compare]
    exact byPosition.cmp_map_eq first second
  · exact byPosition.injective.eq_iff

/-- A dropped carriage return moves the offset alone, and a line feed in a string moves no line. -/
example : (tokenize "\r\x01\r'\n'" false {}).map Token.location =
    [⟨1, 1, 1⟩, ⟨3, 1, 2⟩, ⟨6, 1, 5⟩] := by
  decide

end CharLexer
