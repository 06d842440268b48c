import CharLexer.Proofs.Concatenation
import CharLexer.Proofs.Position
import CharLexer.Proofs.Segmentation

/-!
# Longer texts

Text that is put behind another does not change the tokens in front. Only the last token may go on
into it, from the same place and with the same kind: a run, characters of no class, or a string that
the end of the text cut off (`tokenize_append`). So a scan looks no further than to the end of the
token it is in.
-/
namespace CharLexer

open Scan (extendsRun isOther)

namespace Piece

/-- Whether a piece at the end of a text is complete whatever is put behind it. -/
def settled : Piece → Bool
  | .dropped => true
  | .lineEnd => true
  | .run _ _ _ => false
  | .string _ _ closed => closed
  | .other _ _ => false

/-- How a piece at the end of a text relates to what it becomes when text is put behind it. -/
structure Grows (piece grown : Piece) : Prop where
  kind : grown.kind? = piece.kind?
  /-- It keeps its characters and may take others behind them. -/
  chars : piece.chars <+: grown.chars
  /-- It stays as it is if it is complete. -/
  settled : piece.settled = true → grown = piece

/-- A piece may stay as it is. -/
theorem Grows.refl (piece : Piece) : piece.Grows piece := ⟨rfl, List.prefix_refl _, fun _ => rfl⟩

variable {charsets : Charsets}

/-- A run at the end of a text takes the characters of its set behind it. -/
theorem Fits.exists_grown_run {runClass : RunClass} {first : Char} {more : List Char}
    (fits : (run runClass first more).Fits charsets none) (text : List Char) :
    ∃ grown : Piece, ∃ after, (run runClass first more).chars ++ text = grown.chars ++ after ∧
      grown.Fits charsets after.head? ∧ (run runClass first more).Grows grown := by
  obtain ⟨noQuote, noReturn, noFeed, classified, inside, -⟩ := fits
  let taken := text.takeWhile (extendsRun charsets runClass)
  have longer : ∀ c ∈ more ++ taken, extendsRun charsets runClass c = true :=
    List.forall_mem_append.mpr ⟨inside, fun c member => List.mem_takeWhile_imp member⟩
  refine ⟨.run runClass first (more ++ taken), text.dropWhile (extendsRun charsets runClass),
    ?_, ?_, ?_⟩
  · simp [taken]
  · exact ⟨noQuote, noReturn, noFeed, classified, longer, head_dropWhile⟩
  · exact ⟨rfl, ⟨taken, rfl⟩, fun complete => by contradiction⟩

/-- Characters of no class at the end of a text take those behind them. -/
theorem Fits.exists_grown_other {first : Char} {more : List Char}
    (fits : (other first more).Fits charsets none) (text : List Char) :
    ∃ grown : Piece, ∃ after, (other first more).chars ++ text = grown.chars ++ after ∧
      grown.Fits charsets after.head? ∧ (other first more).Grows grown := by
  let taken := text.takeWhile (isOther charsets)
  have longer : ∀ c ∈ (first :: more) ++ taken, isOther charsets c = true :=
    List.forall_mem_append.mpr ⟨fits.1, fun c member => List.mem_takeWhile_imp member⟩
  refine ⟨.other first (more ++ taken), text.dropWhile (isOther charsets), ?_, ?_, ?_⟩
  · simp [taken]
  · exact ⟨longer, head_dropWhile⟩
  · exact ⟨rfl, ⟨taken, rfl⟩, fun complete => by contradiction⟩

/-- A string that the end of a text cuts off goes on to the delimiter behind it, or to the end of
the longer text. -/
theorem Fits.exists_grown_open {delimiter : Char} {inner : List Char}
    (fits : (string delimiter inner false).Fits charsets none) (text : List Char) :
    ∃ grown : Piece, ∃ after, (string delimiter inner false).chars ++ text = grown.chars ++ after ∧
      grown.Fits charsets after.head? ∧ (string delimiter inner false).Grows grown := by
  obtain ⟨quote, absent, -⟩ := fits
  by_cases closes : delimiter ∈ text
  · obtain ⟨taken, after, rfl, free⟩ := List.eq_append_cons_of_mem closes
    have none : delimiter ∉ inner ++ taken := by simp [absent, free]
    refine ⟨.string delimiter (inner ++ taken) true, after, ?_, ⟨quote, none, Or.inl rfl⟩, ?_⟩
    · simp
    · exact ⟨rfl, ⟨taken ++ [delimiter], by simp⟩, fun complete => by contradiction⟩
  · have none : delimiter ∉ inner ++ text := by simp [absent, closes]
    refine ⟨.string delimiter (inner ++ text) false, [], ?_, ⟨quote, none, Or.inr rfl⟩, ?_⟩
    · simp
    · exact ⟨rfl, ⟨text, by simp⟩, fun complete => by contradiction⟩

/-- When text is put behind a piece that ends a text, a piece of the same kind is there that begins
with it. -/
theorem Fits.exists_grown {piece : Piece} (fits : piece.Fits charsets none) (text : List Char) :
    ∃ grown : Piece, ∃ after, piece.chars ++ text = grown.chars ++ after ∧
      grown.Fits charsets after.head? ∧ piece.Grows grown := by
  cases piece with
  | dropped => exact ⟨.dropped, text, rfl, fits, .refl _⟩
  | lineEnd => exact ⟨.lineEnd, text, rfl, fits, .refl _⟩
  | run runClass first more => exact fits.exists_grown_run text
  | string delimiter inner closed =>
    cases closed with
    | true =>
      exact ⟨.string delimiter inner true, text, rfl, ⟨fits.1, fits.2.1, Or.inl rfl⟩, .refl _⟩
    | false => exact fits.exists_grown_open text
  | other first more => exact fits.exists_grown_other text

/-- The token of a grown piece is of the same kind and in the same place as that of the piece, and
its content begins with the content of that. -/
theorem Grows.exists_token {piece grown : Piece} {place : Location} {token : Token}
    (grows : piece.Grows grown) (made : piece.token? false place = some token) :
    ∃ next, grown.token? false place = some next ∧ next.kind = token.kind ∧
      next.location = token.location ∧ token.content.toList <+: next.content.toList ∧
      (piece.settled = true → next = token) := by
  obtain ⟨kind, isKind, rfl⟩ := Option.map_eq_some_iff.mp made
  have begins : (piece.content false).toList <+: (grown.content false).toList := by
    simpa [Piece.content] using grows.chars
  refine ⟨⟨kind, place, grown.content false⟩, ?_, rfl, rfl, begins, fun complete => ?_⟩
  · rw [token?, grows.kind, isKind, Option.map_some]
  · rw [grows.settled complete]

end Piece

/-- When text is put behind another, all pieces of the first but the last stay as they are, and the
last may grow. -/
theorem Reading.exists_grown {charsets : Charsets} {first : List Char} {front : List Piece}
    {piece : Piece} (reading : Reading charsets first (front ++ [piece])) (second : List Char) :
    ∃ grown back, Reading charsets (first ++ second) (front ++ grown :: back) ∧
      piece.Grows grown := by
  induction front generalizing first with
  | nil =>
    cases reading with
    | @cons piece text pieces fits rest =>
      obtain rfl : text = [] := by simpa using rest.joined.symm
      obtain ⟨grown, after, cut, fitsThere, grows⟩ := fits.exists_grown second
      obtain ⟨back, readBack⟩ := Reading.exists_reading charsets after
      rw [List.append_nil, cut]
      exact ⟨grown, back, .cons fitsThere readBack, grows⟩
  | cons opened front ih =>
    cases reading with
    | @cons opened text pieces fits rest =>
      obtain ⟨grown, back, readBoth, grows⟩ := ih rest
      have more : text ≠ [] := by
        rintro rfl
        exact absurd (rest.unique .nil) (by simp)
      have fitsStill : opened.Fits charsets (text ++ second).head? := by
        rwa [List.head?_append_of_ne_nil _ more]
      rw [List.append_assoc]
      exact ⟨grown, back, .cons fitsStill readBoth, grows⟩

/-- The last piece of a text fits at its end. -/
theorem Reading.fits_last {charsets : Charsets} {text : List Char} {front : List Piece}
    {piece : Piece} (reading : Reading charsets text (front ++ [piece])) :
    piece.Fits charsets none := by
  obtain ⟨_, _, _, _, readLast⟩ := reading.parts
  cases readLast with
  | cons fits rest => exact fits.atEnd

namespace Piece

/-- Only strings make a string. -/
theorem kind?_eq_string {piece : Piece} :
    piece.kind? = some .string ↔
      ∃ delimiter inner closed, piece = .string delimiter inner closed := by
  cases piece with
  | run runClass first more => cases runClass <;> simp [kind?, RunClass.kind]
  | _ => simp [kind?]

/-- A piece that makes a line end, or a string that its delimiter closes, is complete. -/
theorem settled_of_token {charsets : Charsets} {piece : Piece} {next : Option Char}
    {place : Location} {token : Token} (fits : piece.Fits charsets next)
    (made : piece.token? false place = some token)
    (complete : token.isLineEnd = true ∨ token.kind = .string ∧ token.isUnterminated = false) :
    piece.settled = true := by
  have cut := fits.isUnterminated made
  obtain ⟨kind, isKind, rfl⟩ := Option.map_eq_some_iff.mp made
  rcases complete with ends | ⟨isString, closed⟩
  · obtain rfl : kind = .lineEnd := by simpa [Token.isLineEnd] using ends
    obtain rfl := kind?_eq_lineEnd.mp isKind
    rfl
  · obtain rfl : kind = .string := isString
    obtain ⟨delimiter, inner, closing, rfl⟩ := kind?_eq_string.mp isKind
    have isClosed : closing = true := by simpa [closed, unfinished] using cut
    exact isClosed

/-- The token of the last piece of a text stops at the end of the text. -/
theorem stop_of_token {piece : Piece} {token : Token} {front : List Piece}
    (made : piece.token? false (endOf .start front) = some token) :
    token.span.stop = ((front ++ [piece]).flatMap chars).length := by
  obtain ⟨kind, -, rfl⟩ := Option.map_eq_some_iff.mp made
  have counted := length_content piece
  have reached := endOf_offset .start front
  simp only [Location.start, Nat.zero_add] at reached
  simp [Token.span, Span.stop, counted, reached, Location.start]

end Piece

/-- A scan of a text and of a longer one that begins with it give the same tokens up to the last
token of the first, which in the longer text is a token of the same kind in the same place whose
content begins with its own. It is that very token if it is a line end, if it is a string with its
closing delimiter, or if the first text goes on behind it, which it can only do with carriage
returns that make no token. -/
theorem tokenize_append (first second : String) (charsets : Charsets) (before : List Token)
    (last ended : Token) (split : tokenize first false charsets = before ++ [last, ended]) :
    ∃ next after, tokenize (first ++ second) false charsets = before ++ next :: after ∧
      next.kind = last.kind ∧ next.location = last.location ∧
      last.content.toList <+: next.content.toList ∧
      (last.isLineEnd = true ∨ (last.kind = .string ∧ last.isUnterminated = false) ∨
        last.span.stop < first.length → next = last) := by
  obtain ⟨pieces, reading⟩ := Reading.exists_reading charsets first.toList
  rw [tokenize_of_reading false reading] at split
  rcases List.eq_nil_or_concat' pieces with rfl | ⟨front, piece, rfl⟩
  · have lengths := congrArg List.length split
    simp at lengths
  obtain ⟨grown, back, readBoth, grows⟩ := reading.exists_grown second.toList
  have whole : tokenize (first ++ second) false charsets =
      Piece.tokens false .start front ++
        Piece.tokensToEnd false (Piece.endOf .start front) (grown :: back) := by
    rw [← Piece.tokensToEnd_append]
    exact tokenize_of_reading false (String.toList_append ▸ readBoth)
  have apart : before ++ [last, ended] = before ++ [last] ++ [ended] := by simp
  rw [Piece.tokensToEnd_append, Piece.tokensToEnd_cons, apart] at split
  rw [Piece.tokensToEnd_cons] at whole
  cases made : piece.token? false (Piece.endOf .start front) with
  | none =>
    -- The first text ends with a carriage return that is dropped, so its last token is complete.
    obtain rfl := Piece.kind?_eq_none.mp (Option.map_eq_none_iff.mp made)
    obtain rfl := grows.settled rfl
    rw [made] at split whole
    have tokens := (List.append_inj' split rfl).1
    rw [tokens] at whole
    exact ⟨last, _, by simpa using whole, rfl, rfl, List.prefix_refl _, fun _ => rfl⟩
  | some token =>
    rw [made, Option.toList_some, ← List.append_assoc] at split
    obtain ⟨tokens, same⟩ := List.append_inj' (List.append_inj' split rfl).1 rfl
    obtain rfl : token = last := List.singleton_inj.mp same
    have stops : token.span.stop = first.length := by
      rw [Piece.stop_of_token made, reading.joined, String.length_toList]
    obtain ⟨next, grownMade, kind, location, content, settled⟩ := grows.exists_token made
    rw [grownMade, tokens] at whole
    refine ⟨next, _, whole, kind, location, content, fun complete => ?_⟩
    rcases or_assoc.mpr complete with finished | goesOn
    · exact settled (Piece.settled_of_token reading.fits_last made finished)
    · exact absurd stops (Nat.ne_of_lt goesOn)

/-- A dropped carriage return keeps a token of no class from going on, and a string that is cut off
goes on to its delimiter. -/
theorem tokenize_append_closing :
    let charsets : Charsets := { symbols := .ofString "+" }
    let before : List Token := [⟨.letters, ⟨0, 1, 1⟩, "a"⟩]
    let other : Token := ⟨.other, ⟨1, 1, 2⟩, "?"⟩
    let string : Token := ⟨.string, ⟨1, 1, 2⟩, "'\n"⟩
    tokenize "a?\r" false charsets = before ++ [other, ⟨.textEnd, ⟨3, 1, 3⟩, ""⟩] ∧
      other.span.stop < "a?\r".length ∧
      (∃ after, tokenize ("a?\r" ++ "?") false charsets = before ++ other :: after) ∧
      tokenize "a'\n" false charsets = before ++ [string, ⟨.textEnd, ⟨3, 1, 4⟩, ""⟩] ∧
      ∃ next after, tokenize ("a'\n" ++ "b' c") false charsets = before ++ next :: after ∧
        next.kind = .string ∧ next.location = string.location ∧
        string.content.toList <+: next.content.toList := by
  intro charsets before other string
  have dropped : tokenize "a?\r" false charsets =
      before ++ [other, ⟨.textEnd, ⟨3, 1, 3⟩, ""⟩] := by decide
  have goesOn : other.span.stop < "a?\r".length := by decide
  have cut : tokenize "a'\n" false charsets =
      before ++ [string, ⟨.textEnd, ⟨3, 1, 4⟩, ""⟩] := by decide
  obtain ⟨next, after, whole, -, -, -, same⟩ :=
    tokenize_append "a?\r" "?" charsets before other ⟨.textEnd, ⟨3, 1, 3⟩, ""⟩ dropped
  obtain rfl := same (.inr (.inr goesOn))
  obtain ⟨grown, later, longer, kind, location, content, -⟩ :=
    tokenize_append "a'\n" "b' c" charsets before string ⟨.textEnd, ⟨3, 1, 4⟩, ""⟩ cut
  exact ⟨dropped, goesOn, ⟨after, whole⟩, cut, grown, later, longer, kind, location, content⟩

end CharLexer
