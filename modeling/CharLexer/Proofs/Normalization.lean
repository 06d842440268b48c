import CharLexer.Proofs.LineEnds

/-!
# Normalized texts

The contents of the tokens of a text, one behind another, are a text again: it has no carriage
return outside strings and runs, and, where whitespace is compressed, a single space for each run of
it. Scanning that text gives the same tokens, by kind, line and content, but for characters of no
class that a dropped carriage return kept apart. So it is its own normal form
(`normalized_normalized`). For compressed whitespace the sets have to tell a space from everything
else, or a run in front of it would take it.
-/
namespace CharLexer

open Scan (extendsRun isOther)

/-- The contents of the tokens of a text, one behind another. -/
def normalized (compress : Bool) (charsets : Charsets) (source : String) : String :=
  String.join ((tokenize source compress charsets).map Token.content)

/-- Sets by which a space is whitespace and nothing else. -/
structure Charsets.SpaceIsBlank (charsets : Charsets) : Prop where
  whitespace : charsets.whitespace.contains ' ' = true
  letters : charsets.letters.contains ' ' = false
  digits : charsets.digits.contains ' ' = false
  symbols : charsets.symbols.contains ' ' = false
  quotes : charsets.quotes.contains ' ' = false

namespace Charsets

variable {charsets : Charsets}

/-- A character is in the set of its class. -/
theorem contains_of_classify? {c : Char} {runClass : RunClass}
    (classified : charsets.classify? c = some runClass) :
    (charsets.ofClass runClass).contains c = true := by
  have found := List.find?_some classified
  exact found

/-- A space in the set of whitespace is of that class, which is tried first. -/
theorem SpaceIsBlank.classify? (blank : charsets.SpaceIsBlank) :
    charsets.classify? ' ' = some .whitespace := by
  have found : (charsets.ofClass .whitespace).contains ' ' = true := blank.whitespace
  simp only [Charsets.classify?, RunClass.all, List.find?_cons, found]

/-- A run of another class does not take a space. -/
theorem SpaceIsBlank.extendsRun (blank : charsets.SpaceIsBlank) {runClass : RunClass}
    (other : runClass ≠ .whitespace) : extendsRun charsets runClass ' ' = false := by
  have absent : (charsets.ofClass runClass).contains ' ' = false := by
    cases runClass with
    | whitespace => exact absurd rfl other
    | letters => exact blank.letters
    | digits => exact blank.digits
    | symbols => exact blank.symbols
  rw [Scan.extendsRun, absent]
  rfl

end Charsets

namespace Entry

/-- Joining an entry with the first of others moves no character. -/
theorem flatMap_content_join (entry : Entry) (entries : List Entry) :
    (entry.join entries).flatMap content = entry.content ++ entries.flatMap content := by
  cases entries with
  | nil => rfl
  | cons next entries =>
    rw [join]
    by_cases both : entry.kind = .other ∧ next.kind = .other
    · rw [if_pos both]
      simp
    · rw [if_neg both]
      rfl

/-- Joining the neighbours of no class moves no character. -/
theorem flatMap_content_joinOthers (entries : List Entry) :
    (joinOthers entries).flatMap content = entries.flatMap content := by
  induction entries with
  | nil => rfl
  | cons entry entries ih =>
    show (entry.join (joinOthers entries)).flatMap content = _
    rw [flatMap_content_join, ih]
    rfl

end Entry

namespace Piece

/-- The piece that what is reported of a piece makes, if it makes a token: a compressed whitespace
run becomes a run of one space. -/
def reported? (compress : Bool) (piece : Piece) : Option Piece :=
  piece.kind?.map fun kind =>
    if compress && kind == .whitespace then .run .whitespace ' ' [] else piece

/-- What is reported of pieces, one behind another. -/
def reportedText (compress : Bool) (pieces : List Piece) : List Char :=
  (pieces.filterMap (reported? compress)).flatMap chars

/-- Only a run of whitespace makes whitespace. -/
theorem kind?_eq_whitespace {piece : Piece} :
    piece.kind? = some .whitespace ↔ ∃ first more, piece = .run .whitespace first more := by
  cases piece with
  | run runClass first more => cases runClass <;> simp [kind?, RunClass.kind]
  | _ => simp [kind?]

variable {charsets : Charsets} {compress : Bool} {piece left : Piece}

/-- A piece is reported as it is, but for whitespace that is compressed. -/
theorem reported?_cases (reported : piece.reported? compress = some left) :
    left = piece ∨ compress = true ∧ (∃ first more, piece = .run .whitespace first more) ∧
      left = .run .whitespace ' ' [] := by
  obtain ⟨kind, made, rfl⟩ := Option.map_eq_some_iff.mp reported
  by_cases compressed : (compress && kind == .whitespace) = true
  · have both : compress = true ∧ kind = .whitespace := by simpa using compressed
    rw [both.2] at made
    rw [if_pos compressed]
    exact Or.inr ⟨both.1, kind?_eq_whitespace.mp made, rfl⟩
  · rw [if_neg compressed]
    exact Or.inl rfl

/-- Only a dropped piece is not reported. -/
theorem reported?_eq_none : piece.reported? compress = none ↔ piece = .dropped := by
  unfold reported?
  rw [Option.map_eq_none_iff, kind?_eq_none]

/-- What is reported of a piece is of its kind. -/
theorem kind?_reported (reported : piece.reported? compress = some left) :
    left.kind? = piece.kind? := by
  rcases reported?_cases reported with rfl | ⟨-, ⟨first, more, rfl⟩, rfl⟩
  · rfl
  · rfl

/-- What is reported of a piece makes a token. -/
theorem kind?_reported_ne_none (reported : piece.reported? compress = some left) :
    left.kind? ≠ none := by
  obtain ⟨kind, made, -⟩ := Option.map_eq_some_iff.mp reported
  rw [kind?_reported reported, made]
  exact Option.some_ne_none kind

/-- What is reported of a piece consists of the content of its token. -/
theorem chars_reported (reported : piece.reported? compress = some left) :
    left.chars = (piece.content compress).toList := by
  obtain ⟨kind, made, rfl⟩ := Option.map_eq_some_iff.mp reported
  have blank : (some kind == some Kind.whitespace) = (kind == .whitespace) := rfl
  unfold content
  rw [made, blank]
  by_cases compressed : (compress && kind == .whitespace) = true
  · rw [if_pos compressed, if_pos compressed]
    rfl
  · rw [if_neg compressed, if_neg compressed, String.toList_ofList]

/-- What is reported of a piece is reported in the same way again. -/
theorem content_reported (reported : piece.reported? compress = some left) :
    left.content compress = piece.content compress := by
  rcases reported?_cases reported with rfl | ⟨rfl, ⟨first, more, rfl⟩, rfl⟩
  · rfl
  · rfl

/-- What is reported of a piece ends on the line on which the piece ends. -/
theorem line_after_reported (reported : piece.reported? compress = some left)
    {place other : Location} (sameLine : other.line = place.line) :
    (left.after other).line = (piece.after place).line := by
  rcases reported?_cases reported with rfl | ⟨-, ⟨first, more, rfl⟩, rfl⟩
  · cases left with
    | lineEnd => exact congrArg (· + 1) sameLine
    | _ => exact sameLine
  · exact sameLine

/-- What is reported of the first piece comes before what is reported of the others. -/
theorem reportedText_cons (compress : Bool) (piece : Piece) (pieces : List Piece) :
    reportedText compress (piece :: pieces) =
      (piece.reported? compress).toList.flatMap chars ++ reportedText compress pieces := by
  unfold reportedText
  cases reported : piece.reported? compress with
  | none => simp [reported]
  | some left => simp [reported]

/-- The contents of the tokens of pieces are what is reported of the pieces. -/
theorem flatMap_content_entries (compress : Bool) (place : Location) (pieces : List Piece) :
    ((tokensToEnd compress place pieces).map Token.entry).flatMap Entry.content =
      reportedText compress pieces := by
  induction pieces generalizing place with
  | nil => rfl
  | cons piece pieces ih =>
    have later := ih (piece.after place)
    rw [tokensToEnd_cons, List.map_append, List.flatMap_append, later, reportedText_cons]
    congr 1
    cases reported : piece.reported? compress with
    | none =>
      obtain rfl := reported?_eq_none.mp reported
      rfl
    | some left =>
      obtain ⟨kind, made, -⟩ := Option.map_eq_some_iff.mp reported
      simp [token?, made, Token.entry, chars_reported reported]

/-- The entries of pieces are the entries of what is reported of them, be there carriage returns
dropped or not. -/
theorem entries_reported (compress : Bool) {place other : Location} (pieces : List Piece)
    (sameLine : other.line = place.line) :
    (tokensToEnd compress other (pieces.filterMap (reported? compress))).map Token.entry =
      (tokensToEnd compress place pieces).map Token.entry := by
  have leaves : ∀ piece ∈ pieces, ∀ left, piece.reported? compress = some left →
      piece.Leaves compress id left := by
    intro piece _ left reported
    exact ⟨kind?_reported reported, congrArg String.toList (content_reported reported),
      fun place other sameLine => line_after_reported reported sameLine⟩
  exact entries_filterMap compress rfl (fun _ => reported?_eq_none.mp) leaves sameLine

end Piece

section

variable {charsets : Charsets} {compress : Bool}

/-- What does not go on with a run in a text does not go on with it in what is reported. The space
of a compressed run stands in place of a character that another run did not take either. -/
theorem Reading.stops_reported (blank : compress = true → charsets.SpaceIsBlank)
    {text : List Char} {pieces : List Piece} (reading : Reading charsets text pieces)
    {runClass : RunClass} (stop : ∀ c ∈ text.head?, extendsRun charsets runClass c = false) :
    ∀ c ∈ (Piece.reportedText compress pieces).head?, extendsRun charsets runClass c = false := by
  intro c head
  cases reading with
  | nil => contradiction
  | @cons piece text pieces fits reading =>
    have stopped : extendsRun charsets runClass piece.opening = false := stop piece.opening rfl
    rw [Piece.reportedText_cons] at head
    cases reported : piece.reported? compress with
    | none =>
      obtain rfl := Piece.reported?_eq_none.mp reported
      have taken : extendsRun charsets runClass '\r' = true := Scan.extendsRun_iff.mpr (.inl rfl)
      exact absurd (taken.symm.trans stopped) (by decide)
    | some left =>
      rw [reported] at head
      have begins : left.opening = c := Option.some.inj head
      rcases Piece.reported?_cases reported with rfl | ⟨compressed, ⟨first, more, rfl⟩, rfl⟩
      · rw [← begins]
        exact stopped
      · have isSpace : ' ' = c := begins
        rw [← isSpace]
        obtain ⟨-, -, -, classified, -⟩ := fits
        by_cases same : runClass = .whitespace
        · -- A run of whitespace would have taken the first character of the other one.
          rw [← same] at classified
          have taken : extendsRun charsets runClass first = true :=
            Scan.extendsRun_iff.mpr (.inr (Charsets.contains_of_classify? classified))
          exact absurd (taken.symm.trans stopped) (by decide)
        · exact (blank compressed).extendsRun same

/-- What is reported of a piece fits in front of what is reported of the text behind it. Characters
of no class may go on there. -/
theorem Piece.Fits.reported (blank : compress = true → charsets.SpaceIsBlank) {piece left : Piece}
    {text : List Char} {pieces : List Piece} (fits : piece.Fits charsets text.head?)
    (reading : Reading charsets text pieces) (reported : piece.reported? compress = some left)
    (classified : left.kind? ≠ some .other) :
    left.Fits charsets (Piece.reportedText compress pieces).head? := by
  rcases Piece.reported?_cases reported with rfl | ⟨compressed, ⟨first, more, rfl⟩, rfl⟩
  · cases left with
    | dropped => exact fits
    | lineEnd => exact fits
    | run runClass first more =>
      obtain ⟨noQuote, noReturn, noFeed, classified, inside, stop⟩ := fits
      exact ⟨noQuote, noReturn, noFeed, classified, inside, reading.stops_reported blank stop⟩
    | string delimiter inner closed =>
      obtain ⟨quote, absent, ends⟩ := fits
      refine ⟨quote, absent, ends.imp_right fun ended => ?_⟩
      obtain rfl := List.head?_eq_none_iff.mp ended
      obtain rfl := reading.unique .nil
      rfl
    | other first more => exact absurd rfl classified
  · obtain ⟨-, -, -, -, -, stop⟩ := fits
    have spaces := blank compressed
    exact ⟨spaces.quotes, by decide, by decide, spaces.classify?, by simp,
      reading.stops_reported blank stop⟩

/-- What is reported of a piece fits at the end of a text. -/
theorem Piece.Fits.reported_atEnd (blank : compress = true → charsets.SpaceIsBlank)
    {piece left : Piece} {text : List Char} {pieces : List Piece}
    (fits : piece.Fits charsets text.head?) (reading : Reading charsets text pieces)
    (reported : piece.reported? compress = some left) : left.Fits charsets none := by
  by_cases unclassified : left.kind? = some .other
  · rcases Piece.reported?_cases reported with rfl | ⟨-, -, rfl⟩
    · exact fits.atEnd
    · contradiction
  · exact (fits.reported blank reading reported unclassified).atEnd

/-- What is reported of a text is read in what is reported of its pieces, with the neighbours of no
class joined. -/
theorem Reading.reported (blank : compress = true → charsets.SpaceIsBlank) {text : List Char}
    {pieces : List Piece} (reading : Reading charsets text pieces) :
    Reading charsets (Piece.reportedText compress pieces)
      (Piece.joinOthers (pieces.filterMap (Piece.reported? compress))) := by
  induction reading with
  | nil => exact .nil
  | @cons piece text pieces fits reading ih =>
    rw [Piece.reportedText_cons, List.filterMap_cons]
    cases reported : piece.reported? compress with
    | none => exact ih
    | some left =>
      have atEnd := fits.reported_atEnd blank reading reported
      have joined := ih.join atEnd (fits.reported blank reading reported)
      rw [Option.toList_some, List.flatMap_singleton]
      exact joined

end

/-- The characters of a normalized text are the contents of the entries of the text. -/
theorem toList_normalized (compress : Bool) (charsets : Charsets) (source : String) :
    (normalized compress charsets source).toList =
      ((tokenize source compress charsets).map Token.entry).flatMap Entry.content := by
  rw [normalized, String.toList_join, List.flatMap_map, List.flatMap_map]
  rfl

/-- A normalized text is its own normal form, and its tokens are those of the text by kind, line and
content, with the neighbours of no class joined. Where whitespace is compressed this holds by all
sets by which a space is whitespace and nothing else, as it is by default. -/
theorem normalized_normalized :
    ({} : Charsets).SpaceIsBlank ∧
      ∀ (source : String) (charsets : Charsets) (compress : Bool),
        (compress = true → charsets.SpaceIsBlank) →
        let text := normalized compress charsets source
        normalized compress charsets text = text ∧
          (tokenize text compress charsets).map Token.entry =
            Entry.joinOthers ((tokenize source compress charsets).map Token.entry) := by
  refine ⟨by constructor <;> decide, fun source charsets compress blank => ?_⟩
  intro text
  obtain ⟨pieces, reading⟩ := Reading.exists_reading charsets source.toList
  have tokens := tokenize_of_reading compress reading
  have characters : text.toList = Piece.reportedText compress pieces := by
    rw [toList_normalized, tokens, Piece.flatMap_content_entries]
  have kept : ∀ left ∈ pieces.filterMap (Piece.reported? compress), left.kind? ≠ none := by
    intro left member
    obtain ⟨piece, -, reported⟩ := List.mem_filterMap.mp member
    exact Piece.kind?_reported_ne_none reported
  have again := reading.reported blank
  rw [← characters] at again
  have entries : (tokenize text compress charsets).map Token.entry =
      Entry.joinOthers ((tokenize source compress charsets).map Token.entry) := by
    rw [tokenize_of_reading compress again, tokens, Piece.entries_joinOthers compress .start kept,
      Piece.entries_reported compress pieces (Eq.refl Location.start.line)]
  refine ⟨?_, entries⟩
  rw [← String.toList_inj, toList_normalized compress charsets text, entries,
    Entry.flatMap_content_joinOthers, ← toList_normalized]

/-- Characters of no class that a dropped carriage return kept apart become one token. A compressed
run, a run with a carriage return and a string that the text cuts off stay as they are. -/
theorem normalized_normalized_joined :
    let source := "\x7f\r\x7f\t\ta\r'\r"
    let text := "\x7f\x7f a\r'\r"
    ({} : Charsets).SpaceIsBlank ∧ normalized true {} source = text ∧
      normalized true {} text = text ∧
      (tokenize text true {}).map Token.entry =
        [⟨.other, 1, ['\x7f', '\x7f']⟩, ⟨.whitespace, 1, [' ']⟩, ⟨.letters, 1, ['a', '\r']⟩,
          ⟨.string, 1, ['\'', '\r']⟩, ⟨.textEnd, 1, []⟩] := by
  intro source text
  obtain ⟨blank, twice⟩ := normalized_normalized
  have tokens : tokenize source true {} =
      [⟨.other, ⟨0, 1, 1⟩, "\x7f"⟩, ⟨.other, ⟨2, 1, 2⟩, "\x7f"⟩, ⟨.whitespace, ⟨3, 1, 3⟩, " "⟩,
        ⟨.letters, ⟨5, 1, 5⟩, "a\r"⟩, ⟨.string, ⟨7, 1, 7⟩, "'\r"⟩, ⟨.textEnd, ⟨9, 1, 9⟩, ""⟩] := by
    decide
  have normal : normalized true {} source = text := by
    rw [normalized, tokens]
    decide
  have again := twice source {} true fun _ => blank
  rw [normal, tokens] at again
  exact ⟨blank, normal, again.1, again.2⟩

end CharLexer
