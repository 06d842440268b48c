import CharLexer.Limits.Generate
import CharLexer.Proofs.Loading
import CharLexer.Token.Json
import Mathlib

/-!
# The range of the counters

Lines and columns are counted in words of 32 bits, and nothing guards the additions: in a text that is
too long they start again from zero (`Lexer.wordMoves_placeAfter`). In others they are safe because a
character moves a place in one of three ways (`Scan.moves_step`), each of which adds at most one to
the line and the column together. So the sum of the two is bounded by the number of
characters read (`Lexer.countedFrom_placeAfter`). A source that is loaded within accepted limits is
too short to fill a counter: it has no more characters than bytes, and the limits bound its bytes
(`Limits.charCount_le_of_load`).
-/
namespace CharLexer

namespace Location

/-- How a character moves a place: one addition of one, to the column or to the line, or none. -/
inductive Moves (place : Location) : Location → Prop
  /-- The column goes up by one. -/
  | column : Moves place place.afterColumn
  /-- Neither counter is changed. -/
  | dropped : Moves place place.afterDropped
  /-- The line goes up by one, and the column is set back. -/
  | lineEnd : Moves place place.afterLineEnd

/-- Whether the line and the column of a place fit into their words. -/
def InRange (place : Location) : Prop := place.line < lineBound ∧ place.column < lineBound

/-- Lines and columns are counted from one, and together go up by no more than the characters
read. -/
structure CountedFrom (origin place : Location) (read : Nat) : Prop where
  line_pos : 1 ≤ place.line
  column_pos : 1 ≤ place.column
  sum_le : place.line + place.column ≤ origin.line + origin.column + read

/-- A move counts one more character. -/
theorem CountedFrom.moves {origin place next : Location} {read : Nat}
    (counted : CountedFrom origin place read) (moves : place.Moves next) :
    CountedFrom origin next (read + 1) := by
  obtain ⟨line_pos, column_pos, sum_le⟩ := counted
  cases moves with
  | column => constructor <;> simp only [afterColumn] <;> omega
  | dropped => constructor <;> simp only [afterDropped] <;> omega
  | lineEnd => constructor <;> simp only [afterLineEnd] <;> omega

/-- How a character moves a place as it is kept: by one addition in 32 bits, which may start again
from zero, or by none. -/
inductive WordMoves (place : Location) : Location → Prop
  /-- One is added to the column. -/
  | column : WordMoves place ⟨place.offset + 1, place.line, (place.column.toUInt32 + 1).toNat⟩
  /-- Neither counter is changed. -/
  | dropped : WordMoves place place.afterDropped
  /-- One is added to the line, and the column is set back. -/
  | lineEnd : WordMoves place ⟨place.offset + 1, (place.line.toUInt32 + 1).toNat, 1⟩

/-- Where a place moves, what is kept of it moves by the same addition in 32 bits. -/
theorem Moves.stored {place next : Location} (moves : place.Moves next) :
    place.stored.WordMoves next.stored := by
  cases moves with
  | column =>
    rw [stored_afterColumn]
    exact .column
  | dropped =>
    rw [stored_afterDropped]
    exact .dropped
  | lineEnd =>
    rw [stored_afterLineEnd]
    exact .lineEnd

end Location

namespace Scan

variable {charsets : Charsets} {compress : Bool}

/-- Completing a token moves no place. -/
theorem close_place (compress : Bool) (scan : Scan) : (scan.close compress).place = scan.place := by
  cases inside : scan.inside <;> simp [close, inside, push]

/-- A character that is read while no token is open moves the place. -/
theorem moves_enter (charsets : Charsets) (scan : Scan) (c : Char) :
    scan.place.Moves (scan.enter charsets c).place := by
  unfold enter
  split
  · exact .column
  split
  · exact .dropped
  split
  · exact .lineEnd
  split
  · exact .column
  · exact .column

/-- A character that is read behind a completed token moves the place. -/
theorem moves_close_enter (charsets : Charsets) (compress : Bool) (scan : Scan) (c : Char) :
    scan.place.Moves ((scan.close compress).enter charsets c).place := by
  have moves := moves_enter charsets (scan.close compress) c
  rwa [close_place] at moves

/-- Every character moves the place. -/
theorem moves_step (charsets : Charsets) (compress : Bool) (scan : Scan) (c : Char) :
    scan.place.Moves (scan.step charsets compress c).place := by
  unfold step
  cases inside : scan.inside with
  | nothing => exact moves_enter charsets scan c
  | other start read =>
    dsimp only
    split
    · exact .column
    · exact moves_close_enter charsets compress scan c
  | run runClass start read =>
    dsimp only
    split
    · exact .column
    · exact moves_close_enter charsets compress scan c
  | quoted delimiter start read =>
    dsimp only
    split
    · rw [close_place]
      exact .column
    · exact .column

/-- After a text, the place is counted by its characters. -/
theorem countedFrom_readAll {origin : Location} {scan : Scan} {read : Nat} (text : List Char)
    (counted : origin.CountedFrom scan.place read) :
    origin.CountedFrom (scan.readAll charsets compress text).place (read + text.length) := by
  induction text generalizing scan read with
  | nil => exact counted
  | cons c text ih =>
    have next := ih (counted.moves (moves_step charsets compress scan c))
    rwa [Nat.add_assoc, Nat.add_comm 1] at next

end Scan

namespace Lexer

/-- The place after so many of the characters left to read. -/
def placeAfter (lexer : Lexer) (compress : Bool) (count : Nat) : Location :=
  ((Scan.start lexer.cursor.position lexer.cursor.length
    lexer.preferences.collectMetrics).readAll lexer.charsets compress
      (lexer.cursor.rest.take count)).place

/-- Whether every character left to read moves the place by an addition that fits into a word. -/
def CountsInRange (lexer : Lexer) (compress : Bool) : Prop :=
  ∀ count < lexer.cursor.rest.length,
    (lexer.placeAfter compress count).Moves (lexer.placeAfter compress (count + 1)) ∧
      (lexer.placeAfter compress (count + 1)).InRange

/-- The next character moves the place. -/
theorem moves_placeAfter (lexer : Lexer) (compress : Bool) {count : Nat}
    (left : count < lexer.cursor.rest.length) :
    (lexer.placeAfter compress count).Moves (lexer.placeAfter compress (count + 1)) := by
  unfold placeAfter
  rw [List.take_add_one, List.getElem?_eq_getElem left, Option.toList_some, Scan.readAll_append]
  exact Scan.moves_step _ _ _ _

/-- However long the text is, the places as they are kept are counted in 32 bits, from the first line
and column on. -/
theorem wordMoves_placeAfter (lexer : Lexer) (compress : Bool) :
    (lexer.placeAfter compress 0).stored = ⟨lexer.cursor.position, 1, 1⟩ ∧
      ∀ count < lexer.cursor.rest.length,
        (lexer.placeAfter compress count).stored.WordMoves
          (lexer.placeAfter compress (count + 1)).stored :=
  ⟨Location.stored_start _, fun _ left => (lexer.moves_placeAfter compress left).stored⟩

/-- A scan counts from the first line and column. -/
theorem countedFrom_placeAfter (lexer : Lexer) (compress : Bool) (count : Nat) :
    Location.start.CountedFrom (lexer.placeAfter compress count) count := by
  have first : Location.start.CountedFrom (Scan.start lexer.cursor.position lexer.cursor.length
      lexer.preferences.collectMetrics).place 0 :=
    ⟨Nat.le_refl _, Nat.le_refl _, Nat.le_refl _⟩
  have counted : Location.start.CountedFrom (lexer.placeAfter compress count)
      (0 + (lexer.cursor.rest.take count).length) := Scan.countedFrom_readAll _ first
  have taken := List.length_take_le count lexer.cursor.rest
  exact ⟨counted.line_pos, counted.column_pos, counted.sum_le.trans (by omega)⟩

/-- Both counters are positive, so a sum within the bound keeps each of them below it. -/
theorem countsInRange_of_length_le (lexer : Lexer) (compress : Bool)
    (short : lexer.cursor.length ≤ lineBound - 2) : lexer.CountsInRange compress := by
  intro count left
  refine ⟨lexer.moves_placeAfter compress left, ?_⟩
  obtain ⟨line_pos, column_pos, sum_le⟩ := lexer.countedFrom_placeAfter compress (count + 1)
  have read_le : count + 1 ≤ lexer.cursor.length := by
    rw [Cursor.rest, List.length_drop, Array.length_toList] at left
    unfold Cursor.length
    omega
  simp only [Location.start] at sum_le
  unfold lineBound at short
  constructor <;> unfold lineBound <;> omega

end Lexer

namespace Limits

variable {limits : Limits} {profile : String}

/-- Limits without problems bound the size of a source and make room for tokens. -/
theorem bounds_of_problems (accepted : limits.problems profile = []) :
    limits.maxFileSize ≤ 1000000000 ∧ limits.tokenCapacityDivisor ≠ 0 := by
  simp only [problems, List.append_eq_nil_iff, ite_eq_right_iff, reduceCtorEq, imp_false]
    at accepted
  obtain ⟨⟨⟨size, -⟩, divisor⟩, -⟩ := accepted
  exact ⟨by omega, divisor⟩

/-- The limits that are generated are without problems. -/
theorem problems_of_limits {settings : GenerateSettings} {tree : FileTree} {file : Path}
    (generated : settings.limits tree file = .ok limits) :
    limits.problems settings.profile = [] := by
  unfold GenerateSettings.limits at generated
  cases reads : tree.read file with
  | error cause => simp [reads] at generated
  | ok bytes =>
    cases decoded : textOfBytes bytes with
    | error validUpTo => simp [reads, decoded] at generated
    | ok text =>
      cases described : (Toml.parse text).bind ofDocument? with
      | none => simp [reads, decoded, described] at generated
      | some found =>
        cases problems : found.problems settings.profile with
        | nil =>
          simp only [reads, decoded, described, problems, Except.ok.injEq] at generated
          exact generated ▸ problems
        | cons problem rest => simp [reads, decoded, described, problems] at generated

/-- A text that is loaded from a file whose size is told has no more characters than a file may have
bytes. -/
theorem charCount_le_of_load {preferences : LoaderPreferences} {tree : FileTree} {path : Path}
    {source : Source} (tells : tree.TellsSize path)
    (loads : Source.load preferences tree path limits = .ok source) :
    source.charCount ≤ limits.maxFileSize := by
  obtain ⟨isAt, within⟩ := Source.isAt_of_load loads
  rw [isAt.size_eq tells] at within
  exact Nat.le_trans isAt.charCount_le within

end Limits

/-- After any number of characters, the line and the column of a scan together exceed that number by
two at most. Hence no addition to them overflows in a text of at most `2 ^ 32 - 2` characters. The
limits that are generated have no problems, and limits without problems give a divisor that is not
zero and keep every text that short which is loaded from a file of as many bytes as its size tells. -/
theorem counters_in_range :
    (∀ (lexer : Lexer) (compress : Bool) (count : Nat),
      let place := lexer.placeAfter compress count
      place.line + place.column ≤ count + 2) ∧
    (∀ (lexer : Lexer) (compress : Bool),
      lexer.cursor.length ≤ 2 ^ 32 - 2 → lexer.CountsInRange compress) ∧
    (∀ (settings : Limits.GenerateSettings) (tree : FileTree) (file : Path) (limits : Limits),
      settings.limits tree file = .ok limits → limits.problems settings.profile = []) ∧
    ∀ (limits : Limits) (profile : String), limits.problems profile = [] →
      limits.maxFileSize ≤ 10 ^ 9 ∧ limits.tokenCapacityDivisor ≠ 0 ∧
      ∀ (preferences : LoaderPreferences) (tree : FileTree) (path : Path) (source : Source),
        tree.TellsSize path → Source.load preferences tree path limits = .ok source →
        source.charCount ≤ limits.maxFileSize ∧
        ∀ (lexer : Lexer) (compress : Bool), lexer.cursor.text = source.text.toList.toArray →
          lexer.CountsInRange compress := by
  refine ⟨fun lexer compress count => ?_, Lexer.countsInRange_of_length_le,
    fun _ _ _ _ => Limits.problems_of_limits, fun limits profile accepted => ?_⟩
  · obtain ⟨-, -, sum_le⟩ := lexer.countedFrom_placeAfter compress count
    rw [Nat.add_comm count]
    exact sum_le
  obtain ⟨size, divisor⟩ := Limits.bounds_of_problems accepted
  refine ⟨size, divisor, fun preferences tree path source tells loads => ?_⟩
  have short := Limits.charCount_le_of_load tells loads
  refine ⟨short, fun lexer compress same => lexer.countsInRange_of_length_le compress ?_⟩
  have length : lexer.cursor.length = source.charCount := by
    rw [Cursor.length, same, List.size_toArray, String.length_toList]
    rfl
  unfold lineBound
  omega

/-- A file of one line is loaded within the limits of the library, and its two characters are
counted without overflow, be whitespace compressed or not. -/
theorem counters_in_range_line :
    let tree : FileTree := ⟨.directory [("a", .file "b\n".toUTF8)], []⟩
    Limits.current.problems Limits.profile = [] ∧
      Source.load {} tree ⟨"a"⟩ = .ok ⟨⟨"a"⟩, "b\n", 2⟩ ∧
      (Lexer.ofString "b\n").CountsInRange false ∧ (Lexer.ofString "b\n").CountsInRange true := by
  intro tree
  have accepted : Limits.current.problems Limits.profile = [] := by decide
  have loads : Source.load {} tree ⟨"a"⟩ = .ok ⟨⟨"a"⟩, "b\n", 2⟩ := by cbv
  have found : tree.node ⟨"a"⟩ = .ok (.file "b\n".toUTF8) := by cbv
  obtain ⟨-, short, -, limited⟩ := counters_in_range
  obtain ⟨-, -, counted⟩ := limited _ _ accepted
  have whole := counted _ _ _ _ (FileTree.tellsSize_of_file found) loads
  exact ⟨accepted, loads, whole.2 _ _ rfl, short _ _ (by decide)⟩

end CharLexer
