import CharLexer.Proofs.ByLine
import CharLexer.Proofs.Stored
import Mathlib.Data.List.Forall2

/-!
# Cutting a text at a token

Nothing but the line and the column is carried from one token to the next. A text that is cut where
a token starts has the tokens in front of the cut, and what is behind the cut has the others, with
their places counted from the cut. That is shown of exact places first (`tokenize_cut`), and then of
the places as they are kept, with the subtractions in 32 bits (`scanText_cut`).
-/
namespace CharLexer

/-- How the place of a character in a whole text relates to its place in the text that is left when
everything in front of an origin is cut off. Only the line of the origin has columns cut off. -/
structure Location.Resumes (origin whole rest : Location) : Prop where
  /-- The offsets differ by the characters that are cut off. -/
  offset : whole.offset = origin.offset + rest.offset
  /-- The lines differ by the lines that are cut off. -/
  line : whole.line + 1 = origin.line + rest.line
  /-- No place is on a line that is cut off. -/
  origin_le : origin.line ≤ whole.line
  /-- On the line of the origin, the columns differ by those that are cut off. -/
  sameLine : whole.line = origin.line → whole.column + 1 = origin.column + rest.column
  /-- On the later lines, the columns are the same. -/
  laterLine : whole.line ≠ origin.line → whole.column = rest.column

/-- How a token of a whole text relates to the same token of what is left behind an origin. -/
structure Token.Resumes (origin : Location) (whole rest : Token) : Prop where
  kind : whole.kind = rest.kind
  content : whole.content = rest.content
  location : origin.Resumes whole.location rest.location

namespace Location

/-- The origin is the first place of what is left. -/
theorem resumes_origin (origin : Location) : origin.Resumes origin .start := by
  constructor <;> simp [start]

variable {origin whole rest : Location}

/-- Columns move both places alike. -/
theorem Resumes.afterColumns (resumes : origin.Resumes whole rest) (count : Nat) :
    origin.Resumes (whole.afterColumns count) (rest.afterColumns count) := by
  obtain ⟨offset, line, origin_le, sameLine, laterLine⟩ := resumes
  constructor <;> simp only [Location.afterColumns] <;> omega

/-- A dropped character moves both places alike. -/
theorem Resumes.afterDropped (resumes : origin.Resumes whole rest) :
    origin.Resumes whole.afterDropped rest.afterDropped := by
  obtain ⟨offset, line, origin_le, sameLine, laterLine⟩ := resumes
  constructor <;> simp only [Location.afterDropped] <;> omega

/-- A line end moves both places to a later line. -/
theorem Resumes.afterLineEnd (resumes : origin.Resumes whole rest) :
    origin.Resumes whole.afterLineEnd rest.afterLineEnd := by
  obtain ⟨offset, line, origin_le, sameLine, laterLine⟩ := resumes
  refine ⟨?_, ?_, ?_, fun onOrigin => ?_, fun _ => rfl⟩ <;>
    simp only [Location.afterLineEnd] at * <;> omega

end Location

namespace Piece

variable {origin : Location}

/-- A piece moves both places alike. -/
theorem resumes_after {whole rest : Location} (resumes : origin.Resumes whole rest)
    (piece : Piece) : origin.Resumes (piece.after whole) (piece.after rest) := by
  cases piece with
  | dropped => exact resumes.afterDropped
  | lineEnd => exact resumes.afterLineEnd
  | _ => exact resumes.afterColumns _

/-- The same pieces make the same tokens wherever they start. -/
theorem resumes_tokensToEnd (compress : Bool) {whole rest : Location} (pieces : List Piece)
    (resumes : origin.Resumes whole rest) :
    List.Forall₂ (Token.Resumes origin) (tokensToEnd compress whole pieces)
      (tokensToEnd compress rest pieces) := by
  induction pieces generalizing whole rest with
  | nil => exact .cons ⟨rfl, rfl, resumes⟩ .nil
  | cons piece pieces ih =>
    have later := ih (resumes_after resumes piece)
    rw [tokensToEnd_cons, tokensToEnd_cons]
    cases made : piece.kind? with
    | none => simpa [token?, made] using later
    | some kind =>
      have first : Token.Resumes origin ⟨kind, whole, piece.content compress⟩
          ⟨kind, rest, piece.content compress⟩ := ⟨rfl, rfl, resumes⟩
      simpa [token?, made] using ⟨first, later⟩

/-- The place behind pieces is as many characters further as they have. -/
theorem endOf_offset (place : Location) (pieces : List Piece) :
    (endOf place pieces).offset = place.offset + (pieces.flatMap chars).length := by
  induction pieces generalizing place with
  | nil => rfl
  | cons piece pieces ih =>
    have later := ih (piece.after place)
    rw [after_offset] at later
    simpa [endOf, Nat.add_assoc] using later

/-- Where a token starts, the pieces are parted. -/
theorem exists_parts (compress : Bool) {pieces : List Piece} {place : Location}
    {before after : List Token} {token : Token}
    (split : tokensToEnd compress place pieces = before ++ token :: after) :
    ∃ front back, pieces = front ++ back ∧ tokens compress place front = before ∧
      endOf place front = token.location ∧
      tokensToEnd compress token.location back = token :: after := by
  induction pieces generalizing place before with
  | nil =>
    cases before with
    | nil =>
      obtain ⟨rfl, rfl⟩ := List.cons.inj split
      exact ⟨[], [], rfl, rfl, rfl, rfl⟩
    | cons first before => simp at split
  | cons piece pieces ih =>
    have parts := split
    rw [tokensToEnd_cons] at parts
    cases made : piece.token? compress place with
    | none =>
      rw [made] at parts
      obtain ⟨front, back, rfl, tokensOf, reached, rest⟩ := ih parts
      have whole : tokens compress place (piece :: front) = before := by
        simp [tokens, made, tokensOf]
      exact ⟨piece :: front, back, rfl, whole, reached, rest⟩
    | some opened =>
      rw [made] at parts
      cases before with
      | nil =>
        obtain ⟨rfl, -⟩ := List.cons.inj parts
        obtain ⟨kind, -, rfl⟩ := Option.map_eq_some_iff.mp made
        exact ⟨[], piece :: pieces, rfl, rfl, rfl, split⟩
      | cons first before =>
        obtain ⟨rfl, later⟩ := List.cons.inj parts
        obtain ⟨front, back, rfl, tokensOf, reached, rest⟩ := ih later
        have whole : tokens compress place (piece :: front) = opened :: before := by
          simp [tokens, made, tokensOf]
        exact ⟨piece :: front, back, rfl, whole, reached, rest⟩

end Piece

/-- The parts of a reading read the parts of the text. -/
theorem Reading.parts {charsets : Charsets} {text : List Char} {front back : List Piece}
    (reading : Reading charsets text (front ++ back)) :
    ∃ first second, text = first ++ second ∧ Reading charsets first front ∧
      Reading charsets second back := by
  induction front generalizing text with
  | nil => exact ⟨[], text, rfl, .nil, reading⟩
  | cons piece front ih =>
    cases reading with
    | cons fits reading =>
      obtain ⟨first, second, rfl, readFirst, readSecond⟩ := ih reading
      exact ⟨piece.chars ++ first, second, (List.append_assoc _ _ _).symm,
        .cons fits.before_front readFirst, readSecond⟩

/-- A text may be cut where any of its tokens starts. What is in front of the cut has the tokens in
front of that token and then the end of the text in its place. What is behind the cut has that token
and the later ones, which run from line to line, with their places counted from the cut. -/
theorem tokenize_cut {source : String} {charsets : Charsets} {compress : Bool}
    {before : List Token} {token : Token} {after : List Token}
    (split : tokenize source compress charsets = before ++ token :: after) :
    tokenize (String.ofList (source.toList.take token.location.offset)) compress charsets =
        before ++ [⟨.textEnd, token.location, ""⟩] ∧
      Token.Lined token.location.line (token :: after) ∧
      List.Forall₂ (Token.Resumes token.location) (token :: after)
        (tokenize (String.ofList (source.toList.drop token.location.offset)) compress
          charsets) := by
  obtain ⟨pieces, reading⟩ := Reading.exists_reading charsets source.toList
  rw [tokenize_of_reading compress reading] at split
  obtain ⟨front, back, rfl, tokensOf, reached, rest⟩ := Piece.exists_parts compress split
  obtain ⟨first, second, text, readFirst, readSecond⟩ := reading.parts
  have cutAt : token.location.offset = first.length := by
    rw [← reached, Piece.endOf_offset, readFirst.joined]
    simp [Location.start]
  rw [text, cutAt, List.take_left, List.drop_left]
  refine ⟨?_, ?_, ?_⟩
  · rw [tokenize_of_reading compress (by simpa using readFirst), Piece.tokensToEnd, tokensOf,
      reached]
  · rw [← rest]
    exact Piece.lined_tokensToEnd compress token.location back
  · rw [tokenize_of_reading compress (by simpa using readSecond), ← rest]
    exact Piece.resumes_tokensToEnd compress back token.location.resumes_origin

/-! ### Places as they are kept -/

/-- Numbers that differ by those behind an origin differ so in 32 bits too. -/
theorem toUInt32_sub_origin {whole origin rest : Nat} (same : whole + 1 = origin + rest) :
    whole.toUInt32 - (origin.toUInt32 - 1) = rest.toUInt32 := by
  have kept : whole.toUInt32 + 1 = origin.toUInt32 + rest.toUInt32 := by
    have words := congrArg Nat.toUInt32 same
    rwa [Nat.toUInt32_eq, Nat.toUInt32_eq, UInt32.ofNat_add, UInt32.ofNat_add] at words
  grind

namespace Token

/-- The tokens up to the first line end, which is the last of them, and those behind it. -/
def splitLine : List Token → List Token × List Token
  | [] => ([], [])
  | token :: tokens =>
    if token.isLineEnd then ([token], tokens)
    else (token :: (splitLine tokens).1, (splitLine tokens).2)

/-- A token of a text that is cut off in front of an origin, made of the token of the whole text. The
origin is taken from its place in 32 bits; columns only where it is on the line of the origin. -/
def recounted (origin : Location) (sameLine : Bool) (token : Token) : Token :=
  { token with
    location :=
      { offset := token.location.offset - origin.offset
        line := (token.location.line.toUInt32 - (origin.line.toUInt32 - 1)).toNat
        column :=
          if sameLine then (token.location.column.toUInt32 - (origin.column.toUInt32 - 1)).toNat
          else token.location.column } }

variable {origin : Location} {whole rest : Token}

/-- A token that resumes another is kept as the other is recounted. -/
theorem Resumes.stored (resumes : Token.Resumes origin whole rest) :
    rest.stored =
      whole.stored.recounted origin.stored (decide (whole.location.line = origin.line)) := by
  obtain ⟨kind, content, location⟩ := resumes
  obtain ⟨wholeKind, ⟨offset, line, column⟩, wholeContent⟩ := whole
  obtain ⟨restKind, place, restContent⟩ := rest
  obtain rfl : wholeKind = restKind := kind
  obtain rfl : wholeContent = restContent := content
  have offsets : place.offset = offset - origin.offset := by
    have same : offset = origin.offset + place.offset := location.offset
    omega
  have lines := toUInt32_sub_origin location.line
  have kept (number : Nat) : number.toUInt32.toNat.toUInt32 = number.toUInt32 := UInt32.ofNat_toNat
  simp only [Token.stored, recounted, Location.stored, kept, offsets, lines]
  by_cases same : line = origin.line
  · have columns := toUInt32_sub_origin (location.sameLine same)
    simp only [same, decide_true, if_true, columns]
  · have columns : column = place.column := location.laterLine same
    simp only [same, decide_false, Bool.false_eq_true, if_false, columns]

/-- Tokens that are all behind the line of the origin are recounted without their columns. -/
theorem map_stored_of_later {tokens rests : List Token}
    (resumed : List.Forall₂ (Token.Resumes origin) tokens rests)
    (later : ∀ token ∈ tokens, origin.line < token.location.line) :
    rests.map Token.stored = (tokens.map Token.stored).map (recounted origin.stored false) := by
  induction resumed with
  | nil => rfl
  | @cons whole rest tokens rests resumes _ ih =>
    obtain ⟨first, others⟩ := List.forall_mem_cons.mp later
    have apart : whole.location.line ≠ origin.line := Nat.ne_of_gt first
    rw [List.map_cons, List.map_cons, List.map_cons, ih others, resumes.stored,
      decide_eq_false apart]

namespace Lined

variable {line : Nat} {tokens : List Token}

/-- Tokens that run from line to line are on the first up to its end, and then on later ones. -/
theorem lines_splitLine (lined : Lined line tokens) :
    (∀ token ∈ (splitLine tokens).1, token.location.line = line) ∧
      ∀ token ∈ (splitLine tokens).2, line < token.location.line := by
  induction lined with
  | @ended line token here ends =>
    have goesOn := isLineEnd_of_isTextEnd ends
    simp [splitLine, goesOn, here]
  | @within line token tokens here goesOn more rest ih =>
    rw [splitLine, if_neg (by simp [goesOn])]
    exact ⟨List.forall_mem_cons.mpr ⟨here, ih.1⟩, ih.2⟩
  | @closing line token tokens here ends rest ih =>
    rw [splitLine, if_pos ends]
    exact ⟨List.forall_mem_singleton.mpr here, fun later member =>
      (rest.line_bounds later member).1⟩

/-- Tokens that run from line to line are recounted with their columns up to the end of the first
line, and without them behind it. -/
theorem map_stored (lined : Lined line tokens) {rests : List Token} (first : origin.line = line)
    (resumed : List.Forall₂ (Token.Resumes origin) tokens rests) :
    rests.map Token.stored =
      (splitLine (tokens.map Token.stored)).1.map (recounted origin.stored true) ++
        (splitLine (tokens.map Token.stored)).2.map (recounted origin.stored false) := by
  induction lined generalizing rests with
  | @ended line token here ends =>
    obtain ⟨rest, none, resumes, nothing, rfl⟩ := List.forall₂_cons_left_iff.mp resumed
    obtain rfl := List.forall₂_nil_left_iff.mp nothing
    have goesOn : token.stored.isLineEnd = false := isLineEnd_of_isTextEnd ends
    have split : splitLine ([token].map Token.stored) = ([token.stored], []) := by
      simp [splitLine, goesOn]
    rw [split, List.map_singleton, resumes.stored, decide_eq_true (here.trans first.symm)]
    rfl
  | @within line token tokens here goesOn more rest ih =>
    obtain ⟨resumedToken, others, resumes, later, rfl⟩ := List.forall₂_cons_left_iff.mp resumed
    have same : token.stored.isLineEnd = false := goesOn
    rw [List.map_cons, List.map_cons, splitLine, if_neg (by simp [same]), ih first later,
      resumes.stored, decide_eq_true (here.trans first.symm)]
    rfl
  | @closing line token tokens here ends rest ih =>
    obtain ⟨resumedToken, others, resumes, later, rfl⟩ := List.forall₂_cons_left_iff.mp resumed
    have same : token.stored.isLineEnd = true := ends
    have behind : ∀ token ∈ tokens, origin.line < token.location.line := by
      intro token member
      rw [first]
      exact (rest.line_bounds token member).1
    rw [List.map_cons, List.map_cons, splitLine, if_pos same, map_stored_of_later later behind,
      resumes.stored, decide_eq_true (here.trans first.symm)]
    rfl

end Lined

end Token

/-- A text may be cut where any of its tokens starts. What is in front of the cut has the tokens in
front of that token and then the end of the text in its place. What is behind the cut has that token
and the later ones, recounted: the offset is reduced by that of the cut, the line by the lines in
front of it, and the column by the columns in front of it on its own line alone. Lines and columns
are reduced in 32 bits; in a text that is short enough for these, as numbers. -/
theorem scanText_cut (source : String) (charsets : Charsets) (compress : Bool)
    (before : List Token) (token : Token) (after : List Token)
    (split : scanText source compress charsets = before ++ token :: after) :
    let front := String.ofList (source.toList.take token.location.offset)
    let back := String.ofList (source.toList.drop token.location.offset)
    let here := (Token.splitLine (token :: after)).1
    let later := (Token.splitLine (token :: after)).2
    scanText front compress charsets = before ++ [⟨.textEnd, token.location, ""⟩] ∧
      scanText back compress charsets =
        here.map (Token.recounted token.location true) ++
          later.map (Token.recounted token.location false) ∧
      (source.length ≤ lineBound - 2 →
        (∀ other ∈ here, other.location.line = token.location.line) ∧
        (∀ other ∈ later, token.location.line < other.location.line) ∧
        List.Forall₂ (Token.Resumes token.location) (token :: after)
          (scanText back compress charsets)) := by
  intro front back here later
  have exact := split
  rw [scanText_eq] at exact
  obtain ⟨exactBefore, exactBehind, parts, rfl, behind⟩ := List.map_eq_append_iff.mp exact
  obtain ⟨exactToken, exactAfter, rfl, rfl, rfl⟩ := List.map_eq_cons_iff.mp behind
  obtain ⟨cutFront, lined, resumed⟩ := tokenize_cut parts
  have frontTokens : scanText front compress charsets =
      exactBefore.map Token.stored ++ [⟨.textEnd, exactToken.stored.location, ""⟩] := by
    rw [scanText_eq]
    exact (congrArg (List.map Token.stored) cutFront).trans List.map_append
  have backTokens := lined.map_stored rfl resumed
  rw [← scanText_eq] at backTokens
  refine ⟨frontTokens, backTokens, ?_⟩
  intro short
  have left : back.length ≤ lineBound - 2 := by
    rw [String.length_ofList, List.length_drop, String.length_toList]
    omega
  rw [scanText_of_length_le short] at split
  obtain ⟨-, lined, resumed⟩ := tokenize_cut split
  rw [scanText_of_length_le left]
  exact ⟨lined.lines_splitLine.1, lined.lines_splitLine.2, resumed⟩

/-- A cut behind a line end, a dropped carriage return and compressed whitespace, in front of a
string that the text does not close. -/
theorem scanText_cut_in_line :
    let source := "a\n\r\t\tb'c\rd'\ne"
    let front := String.ofList (source.toList.take 5)
    let back := String.ofList (source.toList.drop 5)
    let before : List Token :=
      [⟨.letters, ⟨0, 1, 1⟩, "a"⟩, ⟨.lineEnd, ⟨1, 1, 2⟩, "\n"⟩, ⟨.whitespace, ⟨3, 2, 1⟩, " "⟩]
    let token : Token := ⟨.letters, ⟨5, 2, 3⟩, "b"⟩
    let string : Token := ⟨.string, ⟨6, 2, 4⟩, "'c\rd'"⟩
    let ended : Token := ⟨.lineEnd, ⟨11, 2, 9⟩, "\n"⟩
    let later : List Token := [⟨.letters, ⟨12, 3, 1⟩, "e"⟩, ⟨.textEnd, ⟨13, 3, 2⟩, ""⟩]
    scanText source true {} = before ++ token :: string :: ended :: later ∧
      scanText front true {} = before ++ [⟨.textEnd, ⟨5, 2, 3⟩, ""⟩] ∧
      scanText back true {} =
        [token, string, ended].map (Token.recounted ⟨5, 2, 3⟩ true) ++
          later.map (Token.recounted ⟨5, 2, 3⟩ false) ∧
      List.Forall₂ (Token.Resumes ⟨5, 2, 3⟩) (token :: string :: ended :: later)
        (scanText back true {}) := by
  intro source front back before token string ended later
  have split : scanText source true {} = before ++ token :: string :: ended :: later := by decide
  obtain ⟨cutFront, cutBack, short⟩ :=
    scanText_cut source {} true before token (string :: ended :: later) split
  obtain ⟨-, -, resumed⟩ := short (by decide)
  exact ⟨split, cutFront, cutBack, resumed⟩

end CharLexer
