import CharLexer.Proofs.Counters
import CharLexer.Proofs.Resumption
import Mathlib.Data.List.Induction

/-!
# Texts joined at a line end

A text whose last token ends a line may be scanned by itself: what follows it is scanned as if it
stood alone, only further down. So the tokens of the two texts together are those of the first and
then those of the second, moved, and the counters add up (`tokens_of_append`). What counts is the
token, not the character: a line feed inside a string or a run is no such boundary. Lines are added
as they are counted, in 32 bits.
-/
namespace CharLexer

/-- A token that stands so many characters and lines further down. -/
def Token.moved (characters lines : Nat) (token : Token) : Token :=
  { token with
    location := ⟨token.location.offset + characters, token.location.line + lines,
      token.location.column⟩ }

/-- A token that stands so many characters and lines further down, its line counted in 32 bits. -/
def Token.movedDown (characters : Nat) (lines : UInt32) (token : Token) : Token :=
  { token with
    location := ⟨token.location.offset + characters, (token.location.line.toUInt32 + lines).toNat,
      token.location.column⟩ }

/-- How the counters of two texts give those of the two together, whose scan ends only once. -/
structure Metrics.Combines (first second whole : Metrics) : Prop where
  /-- Tokens of a kind add up, but for the end of the text. -/
  countOf : ∀ kind, kind ≠ .textEnd → whole.countOf kind = first.countOf kind + second.countOf kind
  /-- Strings that are cut off add up. -/
  unterminated : whole.unterminated = first.unterminated + second.unterminated
  /-- Characters add up. -/
  charsConsumed : whole.charsConsumed = first.charsConsumed + second.charsConsumed
  /-- The text ends once. -/
  textEnds : whole.textEnds = 1
  /-- All tokens add up, but for one end of a text. -/
  total : whole.total = first.total + second.total - 1
  /-- The longest token is the longer of the longest of both. -/
  longestRun : whole.longestRun = max first.longestRun second.longestRun

/-- Behind an origin in the first column, tokens of the rest are moved down. -/
theorem Token.Resumes.eq_moved {origin : Location} {whole rest : Token}
    (resumes : Token.Resumes origin whole rest) (firstColumn : origin.column = 1)
    (counted : 1 ≤ origin.line) : whole = rest.moved origin.offset (origin.line - 1) := by
  obtain ⟨kind, content, location⟩ := resumes
  have offset : whole.location.offset = rest.location.offset + origin.offset := by
    rw [location.offset, Nat.add_comm]
  have line : whole.location.line = rest.location.line + (origin.line - 1) := by
    have lines := location.line
    omega
  have column : whole.location.column = rest.location.column := by
    by_cases same : whole.location.line = origin.line
    · have columns := location.sameLine same
      omega
    · exact location.laterLine same
  have place : whole.location = (rest.moved origin.offset (origin.line - 1)).location := by
    rw [moved, ← offset, ← line, ← column]
  cases whole
  simp_all [moved]

/-- A token that is moved is kept as what is kept of it is moved. -/
theorem Token.stored_moved (characters lines : Nat) (token : Token) :
    (token.moved characters lines).stored = token.stored.movedDown characters lines.toUInt32 := by
  obtain ⟨kind, ⟨offset, line, column⟩, content⟩ := token
  have added : (line + lines).toUInt32 = line.toUInt32.toNat.toUInt32 + lines.toUInt32 := by
    have kept : line.toUInt32.toNat.toUInt32 = line.toUInt32 := UInt32.ofNat_toNat
    rw [kept]
    exact UInt32.ofNat_add line lines
  simp only [stored, moved, movedDown, Location.stored, added]

/-- The lines in front of a line, in 32 bits, are those in front of it as it is kept. -/
theorem Location.toUInt32_line_sub_one {place : Location} (counted : 1 ≤ place.line) :
    (place.line - 1).toUInt32 = place.stored.line.toUInt32 - 1 := by
  have kept : place.stored.line.toUInt32 = place.line.toUInt32 := UInt32.ofNat_toNat
  rw [kept]
  exact UInt32.ofNat_sub counted

namespace Piece

variable {charsets : Charsets} {compress : Bool}

/-- The last of the tokens that pieces make, if they make any, ends a line. -/
def EndLine (pieces : List Piece) : Prop := ∀ kind ∈ (kinds pieces).getLast?, kind = .lineEnd

/-- What ends a line with a piece in front ends it without. -/
theorem EndLine.of_cons {piece : Piece} {pieces : List Piece} (ends : EndLine (piece :: pieces)) :
    EndLine pieces := by
  intro kind last
  apply ends
  rw [kinds_cons, List.getLast?_append, Option.mem_def.mp last]
  rfl

/-- A line end may be followed by any text, as a dropped carriage return may. -/
theorem Fits.of_endLine {piece : Piece} {next : Option Char} (fits : piece.Fits charsets next)
    (ends : EndLine [piece]) (other : Option Char) : piece.Fits charsets other := by
  cases made : piece.kind? with
  | none =>
    obtain rfl := kind?_eq_none.mp made
    exact fits
  | some kind =>
    obtain rfl := ends kind (by simp [kinds, made])
    obtain rfl := kind?_eq_lineEnd.mp made
    exact fits

/-- Behind a line end a line begins. -/
theorem column_endOf {place : Location} {pieces : List Piece} (begins : place.column = 1)
    (ends : EndLine pieces) : (endOf place pieces).column = 1 := by
  induction pieces using List.reverseRecOn with
  | nil => exact begins
  | append_singleton pieces piece ih =>
    have reached : endOf place (pieces ++ [piece]) = piece.after (endOf place pieces) :=
      List.foldl_append
    rw [reached]
    cases made : piece.kind? with
    | none =>
      obtain rfl := kind?_eq_none.mp made
      refine ih fun kind last => ends kind ?_
      simpa [kinds, kind?] using last
    | some kind =>
      obtain rfl := ends kind (by simp [kinds, made])
      obtain rfl := kind?_eq_lineEnd.mp made
      rfl

/-- Pieces go on to no earlier line. -/
theorem line_le_endOf (place : Location) (pieces : List Piece) :
    place.line ≤ (endOf place pieces).line := by
  induction pieces generalizing place with
  | nil => exact Nat.le_refl _
  | cons piece pieces ih =>
    have first : place.line ≤ (piece.after place).line := by
      cases piece <;> simp [after, Location.afterDropped, Location.afterLineEnd,
        Location.afterColumns]
    exact Nat.le_trans first (ih (piece.after place))

/-- The tokens of pieces in two parts. -/
theorem tokensToEnd_append (compress : Bool) (place : Location) (front back : List Piece) :
    tokensToEnd compress place (front ++ back) =
      tokens compress place front ++ tokensToEnd compress (endOf place front) back := by
  induction front generalizing place with
  | nil => rfl
  | cons piece front ih =>
    rw [List.cons_append, tokensToEnd_cons, ih, tokens, List.append_assoc]
    rfl

/-- From the first column of a line on, pieces make the tokens that they make in a text of their
own, moved to that line. -/
theorem tokensToEnd_of_firstColumn (compress : Bool) {place : Location}
    (firstColumn : place.column = 1) (counted : 1 ≤ place.line) (pieces : List Piece) :
    tokensToEnd compress place pieces =
      (tokensToEnd compress .start pieces).map (Token.moved place.offset (place.line - 1)) := by
  have resumed := resumes_tokensToEnd compress pieces place.resumes_origin
  rw [← List.forall₂_eq_eq_eq, List.forall₂_map_right_iff]
  exact resumed.imp fun whole rest resumes => resumes.eq_moved firstColumn counted

/-- Behind a line end, the tokens of pieces are those that they make in a text of their own, moved
down. -/
theorem tokensToEnd_moved (compress : Bool) {front : List Piece} (ends : EndLine front)
    (back : List Piece) :
    tokensToEnd compress (endOf .start front) back =
      (tokensToEnd compress .start back).map
        (Token.moved (endOf .start front).offset ((endOf .start front).line - 1)) := by
  have begins : Location.start.column = 1 := rfl
  have column := column_endOf begins ends
  have line : 1 ≤ (endOf .start front).line := line_le_endOf .start front
  exact tokensToEnd_of_firstColumn compress column line back

/-- No piece makes the end of the text. -/
theorem count_textEnd_kinds (pieces : List Piece) : (kinds pieces).count .textEnd = 0 := by
  rw [List.count_eq_zero]
  intro member
  obtain ⟨piece, -, made⟩ := List.mem_filterMap.mp member
  exact kind?_ne_textEnd made rfl

/-- The counters of pieces in two parts. -/
theorem combines_metricsToEnd (front back : List Piece) :
    Metrics.Combines (metricsToEnd .start front) (metricsToEnd .start back)
      (metricsToEnd .start (front ++ back)) where
  countOf kind notEnd := by
    have ends : [Kind.textEnd].count kind = 0 := by simpa [List.count_eq_zero] using notEnd
    simp only [countOf_metricsToEnd, kinds_append, List.count_append, ends, Nat.add_zero]
  unterminated := by
    simp only [unterminated_metricsToEnd, List.countP_append]
  charsConsumed := by
    have counted (pieces : List Piece) :
        (metricsToEnd .start pieces).charsConsumed = (pieces.flatMap chars).length :=
      (endOf_offset .start pieces).trans (Nat.zero_add _)
    rw [counted, counted, counted, List.flatMap_append, List.length_append]
  textEnds := by
    have counted := countOf_metricsToEnd .start (front ++ back) .textEnd
    rw [List.count_append, count_textEnd_kinds] at counted
    exact counted
  total := by
    simp only [total_metricsToEnd, kinds_append, List.length_append]
    omega
  longestRun := by
    have longer (bound : Nat) (lengths : List Nat) :
        lengths.foldl max (max bound 0) = max bound (lengths.foldl max 0) := List.foldl_assoc
    simp only [longestRun_metricsToEnd, List.map_append, List.foldl_append]
    rw [← longer, Nat.max_zero]

end Piece

namespace Reading

variable {charsets : Charsets}

/-- Readings of two texts, the first of which ends a line, make a reading of both. -/
theorem append {first second : List Char} {front back : List Piece}
    (readFirst : Reading charsets first front) (ends : Piece.EndLine front)
    (readSecond : Reading charsets second back) :
    Reading charsets (first ++ second) (front ++ back) := by
  induction readFirst with
  | nil => exact readSecond
  | @cons piece text pieces fits reading ih =>
    have fitsWhole : piece.Fits charsets (text ++ second).head? := by
      cases text with
      | cons c text => exact fits
      | nil =>
        obtain rfl := reading.unique .nil
        exact fits.of_endLine ends _
    rw [List.append_assoc]
    exact .cons fitsWhole (ih ends.of_cons)

/-- So they do of the two as one text. -/
theorem append_text {first second : String} {front back : List Piece}
    (readFirst : Reading charsets first.toList front) (ends : Piece.EndLine front)
    (readSecond : Reading charsets second.toList back) :
    Reading charsets (first ++ second).toList (front ++ back) := by
  rw [String.toList_append]
  exact readFirst.append ends readSecond

end Reading

namespace Lexer

/-- A lexer at the start of a text. -/
def fresh (source : String) (charsets : Charsets) (preferences : LexicalPreferences) : Lexer :=
  { Lexer.ofString source with charsets, preferences }

variable {source : String} {charsets : Charsets} {pieces : List Piece}

/-- At the start of a text, all of it is left to read. -/
theorem rest_fresh (source : String) (charsets : Charsets) (preferences : LexicalPreferences) :
    (fresh source charsets preferences).cursor.rest = source.toList :=
  Cursor.rest_ofString source

/-- The exact tokens of a text are those of its pieces. -/
theorem tokens_fresh (preferences : LexicalPreferences) (compress : Bool)
    (reading : Reading charsets source.toList pieces) :
    ((fresh source charsets preferences).tokens compress).1.result =
      Piece.tokensToEnd compress .start pieces := by
  rw [← rest_fresh source charsets preferences] at reading
  exact tokens_of_reading compress reading

/-- The tokens of a text are those of its pieces and its end, with their places as they are kept. -/
theorem scan_fresh (preferences : LexicalPreferences) (compress : Bool)
    (reading : Reading charsets source.toList pieces) :
    ((fresh source charsets preferences).scan compress).1.result =
      (Piece.tokens compress .start pieces).map Token.stored ++
        [(⟨.textEnd, Piece.endOf .start pieces, ""⟩ : Token).stored] := by
  rw [← rest_fresh source charsets preferences] at reading
  exact scan_of_reading compress reading

/-- Its tokens in front of its end are those of its pieces. -/
theorem beforeEnd_scan_fresh (preferences : LexicalPreferences) (compress : Bool)
    (reading : Reading charsets source.toList pieces) :
    Token.beforeEnd ((fresh source charsets preferences).scan compress).1.result =
      (Piece.tokens compress .start pieces).map Token.stored := by
  rw [result_scan, Token.beforeEnd_map_stored, tokens_fresh preferences compress reading,
    Piece.beforeEnd_tokensToEnd]

/-- The counters of a text are those of its pieces. -/
theorem metrics_scan_fresh {preferences : LexicalPreferences} (compress : Bool)
    (counts : preferences.collectMetrics = true)
    (reading : Reading charsets source.toList pieces) :
    ((fresh source charsets preferences).scan compress).2.metrics =
      some (Piece.metricsToEnd .start pieces) := by
  rw [← rest_fresh source charsets preferences] at reading
  rw [after_scan]
  exact (metrics_of_reading compress reading).trans (if_pos counts)

/-- A text that is short enough is scanned exactly. -/
theorem scan_fresh_of_length_le {source : String} (short : source.length ≤ lineBound - 2)
    (charsets : Charsets) (preferences : LexicalPreferences) (compress : Bool) :
    ((fresh source charsets preferences).scan compress).1.result =
      ((fresh source charsets preferences).tokens compress).1.result := by
  apply result_scan_of_length_le
  rwa [rest_fresh, String.length_toList]

end Lexer

/-- The last token of pieces ends a line if the last of those that they make does, as it is kept. -/
theorem Piece.endLine_of_tokens {compress : Bool} {place : Location} {pieces : List Piece}
    (ends : ∀ token ∈ ((tokens compress place pieces).map Token.stored).getLast?,
      token.isLineEnd = true) : EndLine pieces := by
  have made : ((tokens compress place pieces).map Token.stored).map Token.kind = kinds pieces := by
    have whole := map_kind_tokensToEnd compress place pieces
    rw [tokensToEnd, List.map_append] at whole
    rw [List.map_map]
    exact List.append_cancel_right whole
  intro kind last
  rw [← made, List.getLast?_map] at last
  obtain ⟨token, isLast, rfl⟩ := Option.map_eq_some_iff.mp last
  simpa [Token.isLineEnd] using ends token isLast

namespace Lexer

variable {first second : String} {charsets : Charsets} {pieces others : List Piece}

/-- Two texts, the first of which ends a line or makes no token, make the tokens of the first in front
of its end, and behind them those of the second, moved down. -/
theorem tokens_append (preferences : LexicalPreferences) (compress : Bool)
    (readFirst : Reading charsets first.toList pieces) (ends : Piece.EndLine pieces)
    (readSecond : Reading charsets second.toList others) :
    ((fresh (first ++ second) charsets preferences).tokens compress).1.result =
      Piece.tokens compress .start pieces ++
        ((fresh second charsets preferences).tokens compress).1.result.map
          (Token.moved first.length ((Piece.endOf .start pieces).line - 1)) := by
  have readBoth := readFirst.append_text ends readSecond
  have offset : (Piece.endOf .start pieces).offset = first.length := by
    rw [Piece.endOf_offset, readFirst.joined, String.length_toList]
    exact Nat.zero_add _
  rw [tokens_fresh preferences compress readBoth, tokens_fresh preferences compress readSecond,
    Piece.tokensToEnd_append, Piece.tokensToEnd_moved compress ends, offset]

/-- So they are scanned, with lines that are added in 32 bits. -/
theorem scan_append (preferences : LexicalPreferences) (compress : Bool)
    (readFirst : Reading charsets first.toList pieces) (ends : Piece.EndLine pieces)
    (readSecond : Reading charsets second.toList others) :
    ((fresh (first ++ second) charsets preferences).scan compress).1.result =
      (Piece.tokens compress .start pieces).map Token.stored ++
        ((fresh second charsets preferences).scan compress).1.result.map
          (Token.movedDown first.length
            ((Piece.endOf .start pieces).stored.line.toUInt32 - 1)) := by
  have counted : 1 ≤ (Piece.endOf .start pieces).line := Piece.line_le_endOf .start pieces
  rw [result_scan, result_scan, tokens_append preferences compress readFirst ends readSecond,
    List.map_append, List.map_map, List.map_map]
  refine congrArg _ (List.map_congr_left fun token _ => ?_)
  rw [Function.comp_apply, Token.stored_moved, Location.toUInt32_line_sub_one counted]
  rfl

/-- In texts that are short enough together, lines are added as numbers. -/
theorem scan_append_of_length_le (short : (first ++ second).length ≤ lineBound - 2)
    (preferences : LexicalPreferences) (compress : Bool)
    (readFirst : Reading charsets first.toList pieces) (ends : Piece.EndLine pieces)
    (readSecond : Reading charsets second.toList others) :
    ((fresh (first ++ second) charsets preferences).scan compress).1.result =
      (Piece.tokens compress .start pieces).map Token.stored ++
        ((fresh second charsets preferences).scan compress).1.result.map
          (Token.moved first.length ((Piece.endOf .start pieces).stored.line - 1)) := by
  have lengths : first.length + second.length ≤ lineBound - 2 := by
    rwa [← String.length_append]
  have shortFirst : first.length ≤ lineBound - 2 := by omega
  have shortSecond : second.length ≤ lineBound - 2 := by omega
  -- No token of the first text, its end included, has a place that 32 bits cannot hold.
  have kept : ∀ token ∈ Piece.tokensToEnd compress .start pieces, token.stored = token := by
    rw [← tokens_fresh preferences compress readFirst]
    apply inRange_of_length_le
    rwa [rest_fresh, String.length_toList]
  have front : (Piece.tokens compress .start pieces).map Token.stored =
      Piece.tokens compress .start pieces := by
    have same := List.map_congr_left fun token member => kept token (List.mem_append_left _ member)
    exact same.trans (List.map_id _)
  have ended : (Piece.endOf .start pieces).stored = Piece.endOf .start pieces :=
    congrArg Token.location
      (kept _ (List.mem_append_right _ (List.mem_singleton_self _)))
  rw [scan_fresh_of_length_le short, scan_fresh_of_length_le shortSecond, front, ended,
    tokens_append preferences compress readFirst ends readSecond]

end Lexer

/-- Two texts, the first of which ends a line or makes no token, are scanned together as they are
scanned apart. The tokens of the second come behind those of the first, as many characters and lines
further down as the first has, in the same columns; the lines are added in 32 bits, and in texts that
are short enough together for these, as numbers. The counters combine. -/
theorem tokens_of_append (first second : String) (charsets : Charsets)
    (preferences : LexicalPreferences) (compress : Bool)
    (ends : ∀ token ∈ (Token.beforeEnd
        ((Lexer.fresh first charsets preferences).scan compress).1.result).getLast?,
      token.isLineEnd = true) :
    let scan := fun source => (Lexer.fresh source charsets preferences).scan compress
    let front := Token.beforeEnd (scan first).1.result
    ∃ ended, (scan first).1.result = front ++ [ended] ∧ ended.isTextEnd = true ∧
      (scan (first ++ second)).1.result =
        front ++ (scan second).1.result.map
          (Token.movedDown first.length (ended.location.line.toUInt32 - 1)) ∧
      ((first ++ second).length ≤ lineBound - 2 →
        (scan (first ++ second)).1.result =
          front ++ (scan second).1.result.map
            (Token.moved first.length (ended.location.line - 1))) ∧
      (preferences.collectMetrics = true →
        ∃ metricsFirst metricsSecond metricsBoth,
          (scan first).2.metrics = some metricsFirst ∧
          (scan second).2.metrics = some metricsSecond ∧
          (scan (first ++ second)).2.metrics = some metricsBoth ∧
          metricsFirst.Combines metricsSecond metricsBoth) := by
  intro scan front
  obtain ⟨pieces, readFirst⟩ := Reading.exists_reading charsets first.toList
  obtain ⟨others, readSecond⟩ := Reading.exists_reading charsets second.toList
  have frontTokens : front = (Piece.tokens compress .start pieces).map Token.stored :=
    Lexer.beforeEnd_scan_fresh preferences compress readFirst
  have last : ∀ token ∈ front.getLast?, token.isLineEnd = true := ends
  rw [frontTokens] at last
  have endLine : Piece.EndLine pieces := Piece.endLine_of_tokens last
  have readBoth := readFirst.append_text endLine readSecond
  rw [frontTokens]
  refine ⟨_, Lexer.scan_fresh preferences compress readFirst, rfl, ?_, fun short => ?_,
    fun counts => ?_⟩
  · exact Lexer.scan_append preferences compress readFirst endLine readSecond
  · exact Lexer.scan_append_of_length_le short preferences compress readFirst endLine readSecond
  · exact ⟨_, _, _, Lexer.metrics_scan_fresh compress counts readFirst,
      Lexer.metrics_scan_fresh compress counts readSecond,
      Lexer.metrics_scan_fresh compress counts readBoth,
      Piece.combines_metricsToEnd pieces others⟩

/-- A line end with a dropped carriage return behind it, and a second text whose last string is cut
off and has a line feed in it. -/
theorem tokens_of_append_line :
    let scan := fun source => (Lexer.fresh source {} {}).scan true
    let front : List Token := [⟨.letters, ⟨0, 1, 1⟩, "a"⟩, ⟨.lineEnd, ⟨1, 1, 2⟩, "\n"⟩]
    let back : List Token := [⟨.whitespace, ⟨0, 1, 1⟩, " "⟩, ⟨.string, ⟨2, 1, 3⟩, "'\n"⟩,
      ⟨.textEnd, ⟨4, 1, 5⟩, ""⟩]
    Token.beforeEnd (scan "a\n\r").1.result = front ∧ (scan "\t\t'\n").1.result = back ∧
      (∀ token ∈ front.getLast?, token.isLineEnd = true) ∧
      (scan ("a\n\r" ++ "\t\t'\n")).1.result = front ++ back.map (Token.moved 3 1) ∧
      ∃ metricsFirst metricsSecond metricsBoth,
        (scan "a\n\r").2.metrics = some metricsFirst ∧
        (scan "\t\t'\n").2.metrics = some metricsSecond ∧
        (scan ("a\n\r" ++ "\t\t'\n")).2.metrics = some metricsBoth ∧
        metricsFirst.Combines metricsSecond metricsBoth := by
  intro scan front back
  have wholeFirst : (scan "a\n\r").1.result = front ++ [⟨.textEnd, ⟨3, 2, 1⟩, ""⟩] := by decide
  have firstTokens : Token.beforeEnd (scan "a\n\r").1.result = front := by
    rw [wholeFirst]
    decide
  have secondTokens : (scan "\t\t'\n").1.result = back := by decide
  have ends : ∀ token ∈ front.getLast?, token.isLineEnd = true := by decide
  obtain ⟨ended, whole, -, -, short, combined⟩ :=
    tokens_of_append "a\n\r" "\t\t'\n" {} {} true (firstTokens ▸ ends)
  have both := short (by decide)
  have last : front ++ [⟨.textEnd, ⟨3, 2, 1⟩, ""⟩] = front ++ [ended] := by
    rw [← wholeFirst, whole, firstTokens]
  obtain rfl := List.singleton_inj.mp (List.append_cancel_left last)
  refine ⟨firstTokens, secondTokens, ends, ?_, combined rfl⟩
  rw [← firstTokens, ← secondTokens]
  exact both

end CharLexer
