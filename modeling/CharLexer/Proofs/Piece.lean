import CharLexer.Scan
import Mathlib.Data.List.TakeWhile

/-!
# Pieces of a text

A scan cuts its text into pieces. A piece is a token, or a carriage return that makes none. Which
characters may form a piece, and where it has to stop, is said here without the scan: `Piece.Fits`
compares a piece with the one character that follows it. A `Reading` is a cut of a whole text into
pieces that fit. Every text has a reading (`Reading.exists_reading`) and no text has two
(`Reading.unique`).
-/
namespace CharLexer

open Scan (extendsRun isOther)

/-- What a scan makes of a stretch of the text. -/
inductive Piece
  /-- A carriage return outside strings and runs. -/
  | dropped
  /-- A line feed outside strings and runs. -/
  | lineEnd
  /-- A run of a class: its first character, and the others. -/
  | run (runClass : RunClass) (first : Char) (more : List Char)
  /-- A string: its delimiter, the characters inside, and whether the delimiter closes it. -/
  | string (delimiter : Char) (inner : List Char) (closed : Bool)
  /-- Characters of no class: the first, and the others. -/
  | other (first : Char) (more : List Char)

namespace Piece

/-- The first character of a piece. -/
def opening : Piece → Char
  | .dropped => '\r'
  | .lineEnd => '\n'
  | .run _ first _ => first
  | .string delimiter _ _ => delimiter
  | .other first _ => first

/-- The characters of a piece after the first. -/
def following : Piece → List Char
  | .dropped => []
  | .lineEnd => []
  | .run _ _ more => more
  | .string delimiter inner closed => inner ++ if closed then [delimiter] else []
  | .other _ more => more

/-- The characters of a piece. -/
def chars (piece : Piece) : List Char := piece.opening :: piece.following

/-- The kind of the token that a piece makes, if it makes one. -/
def kind? : Piece → Option Kind
  | .dropped => none
  | .lineEnd => some .lineEnd
  | .run runClass _ _ => some runClass.kind
  | .string _ _ _ => some .string
  | .other _ _ => some .other

/-- A run consists of its characters. -/
@[simp] theorem chars_run (runClass : RunClass) (first : Char) (more : List Char) :
    (run runClass first more).chars = first :: more := rfl

/-- A closed string consists of its inside between two delimiters. -/
@[simp] theorem chars_closed (delimiter : Char) (inner : List Char) :
    (string delimiter inner true).chars = delimiter :: (inner ++ [delimiter]) := rfl

/-- An open string consists of a delimiter and its inside. -/
@[simp] theorem chars_open (delimiter : Char) (inner : List Char) :
    (string delimiter inner false).chars = delimiter :: inner := by
  simp [chars, opening, following]

/-- A piece of no class consists of its characters. -/
@[simp] theorem chars_other (first : Char) (more : List Char) :
    (other first more).chars = first :: more := rfl

/-- Only a dropped piece makes no token. -/
theorem kind?_eq_none {piece : Piece} : piece.kind? = none ↔ piece = .dropped := by
  cases piece <;> simp [kind?]

/-- Only characters of no class make a token of no class. -/
theorem kind?_eq_other {piece : Piece} :
    piece.kind? = some .other ↔ ∃ first more, piece = .other first more := by
  cases piece with
  | run runClass first more => cases runClass <;> simp [kind?, RunClass.kind]
  | _ => simp [kind?]

/-- Only a line end makes a line end. -/
theorem kind?_eq_lineEnd {piece : Piece} : piece.kind? = some .lineEnd ↔ piece = .lineEnd := by
  cases piece with
  | run runClass first more => cases runClass <;> simp [kind?, RunClass.kind]
  | _ => simp [kind?]

/-- No piece makes the end of the text. -/
theorem kind?_ne_textEnd {piece : Piece} {kind : Kind} (made : piece.kind? = some kind) :
    kind ≠ .textEnd := by
  rintro rfl
  cases piece with
  | run runClass first more => cases runClass <;> simp [kind?, RunClass.kind] at made
  | _ => simp [kind?] at made

/-- Whether a piece is made of the right characters and stops at the right place, given the
character that follows it in the text. A run and the characters of no class stop where the next
character no longer belongs to them. A string stops at its delimiter or at the end of the text. -/
def Fits (charsets : Charsets) (next : Option Char) : Piece → Prop
  | .dropped => charsets.isQuote '\r' = false
  | .lineEnd => charsets.isQuote '\n' = false
  | .run runClass first more =>
    charsets.isQuote first = false ∧ first ≠ '\r' ∧ first ≠ '\n' ∧
      charsets.classify? first = some runClass ∧
      (∀ c ∈ more, extendsRun charsets runClass c = true) ∧
      ∀ c ∈ next, extendsRun charsets runClass c = false
  | .string delimiter inner closed =>
    charsets.isQuote delimiter = true ∧ delimiter ∉ inner ∧ (closed = true ∨ next = none)
  | .other first more =>
    (∀ c ∈ first :: more, isOther charsets c = true) ∧ ∀ c ∈ next, isOther charsets c = false

/-- The piece that a character opens, given the characters after it. -/
def openedBy (charsets : Charsets) (c : Char) (rest : List Char) : Piece :=
  if charsets.isQuote c then .string c (rest.takeWhile (· != c)) (rest.contains c)
  else if c = '\r' then .dropped
  else if c = '\n' then .lineEnd
  else match charsets.classify? c with
    | some runClass => .run runClass c (rest.takeWhile (extendsRun charsets runClass))
    | none => .other c (rest.takeWhile (isOther charsets))

end Piece

/-- A list of characters that meet a condition, before one that does not, is what is taken while
the condition holds. -/
theorem takeWhile_append_of_head {condition : Char → Bool} {body rest : List Char}
    (inside : ∀ c ∈ body, condition c = true) (stop : ∀ c ∈ rest.head?, condition c = false) :
    (body ++ rest).takeWhile condition = body := by
  rw [List.takeWhile_append_of_pos inside]
  cases rest with
  | nil => simp
  | cons c rest => simp [stop c rfl]

/-- Characters that meet a condition are dropped before one that does not. -/
theorem dropWhile_append_of_head {condition : Char → Bool} {body rest : List Char}
    (inside : ∀ c ∈ body, condition c = true) (stop : ∀ c ∈ rest.head?, condition c = false) :
    (body ++ rest).dropWhile condition = rest := by
  rw [List.dropWhile_append_of_pos inside]
  cases rest with
  | nil => rfl
  | cons c rest => exact List.dropWhile_cons_of_neg (by simp [stop c rfl])

/-- Where taking stops, the condition does not hold. -/
theorem head_dropWhile {condition : Char → Bool} {text : List Char} :
    ∀ c ∈ (text.dropWhile condition).head?, condition c = false := by
  intro c head
  have found := List.head?_dropWhile_not condition text
  rw [Option.mem_def.mp head] at found
  simpa using found

namespace Piece

variable {charsets : Charsets}

/-- A character of no class is no quote, no line break and in no set. -/
theorem isOther_iff {c : Char} : isOther charsets c = true ↔
    charsets.isQuote c = false ∧ c ≠ '\r' ∧ c ≠ '\n' ∧ charsets.classify? c = none := by
  simp [isOther, and_assoc]

/-- A piece that fits is the one that its first character opens. -/
theorem Fits.eq_openedBy {piece : Piece} {after : List Char}
    (fits : piece.Fits charsets after.head?) :
    piece = openedBy charsets piece.opening (piece.following ++ after) := by
  cases piece with
  | dropped =>
    have noQuote : charsets.isQuote '\r' = false := fits
    simp [openedBy, opening, noQuote]
  | lineEnd =>
    have noQuote : charsets.isQuote '\n' = false := fits
    simp [openedBy, opening, noQuote]
  | run runClass first more =>
    obtain ⟨noQuote, noReturn, noFeed, classified, inside, stop⟩ := fits
    simp [openedBy, opening, following, noQuote, noReturn, noFeed, classified,
      takeWhile_append_of_head inside stop]
  | string delimiter inner closed =>
    obtain ⟨quote, absent, ends⟩ := fits
    have inside : ∀ c ∈ inner, (c != delimiter) = true := by
      intro c member
      simpa using ne_of_mem_of_not_mem member absent
    cases closed with
    | true =>
      have kept : (inner ++ delimiter :: after).takeWhile (· != delimiter) = inner :=
        takeWhile_append_of_head inside (by simp)
      simp [openedBy, opening, following, quote, kept]
    | false =>
      obtain rfl : after = [] := by simpa using ends
      simp [openedBy, opening, following, quote, absent, List.takeWhile_eq_self_iff.mpr inside]
  | other first more =>
    obtain ⟨inside, stop⟩ := fits
    have ⟨others, rest⟩ := List.forall_mem_cons.mp inside
    obtain ⟨noQuote, noReturn, noFeed, unclassified⟩ := isOther_iff.mp others
    simp [openedBy, opening, following, noQuote, noReturn, noFeed, unclassified,
      takeWhile_append_of_head rest stop]

/-- A text opens with no two pieces that fit before what is left. -/
theorem Fits.unique {piece other : Piece} {after rest : List Char}
    (fits : piece.Fits charsets after.head?) (otherFits : other.Fits charsets rest.head?)
    (same : piece.chars ++ after = other.chars ++ rest) : piece = other ∧ after = rest := by
  simp only [chars, List.cons_append, List.cons.injEq] at same
  have pieces : piece = other := by
    rw [fits.eq_openedBy, otherFits.eq_openedBy, same.1, same.2]
  subst pieces
  exact ⟨rfl, List.append_cancel_left same.2⟩

/-- A piece that fits somewhere fits at the end of a text. -/
theorem Fits.atEnd {piece : Piece} {next : Option Char} (fits : piece.Fits charsets next) :
    piece.Fits charsets none := by
  cases piece with
  | dropped => exact fits
  | lineEnd => exact fits
  | run runClass first more =>
    obtain ⟨noQuote, noReturn, noFeed, classified, inside, -⟩ := fits
    exact ⟨noQuote, noReturn, noFeed, classified, inside, by simp⟩
  | string delimiter inner closed => exact ⟨fits.1, fits.2.1, Or.inr rfl⟩
  | other first more => exact ⟨fits.1, by simp⟩

/-- A piece that fits before a text fits before every beginning of it. -/
theorem Fits.before_front {piece : Piece} {first second : List Char}
    (fits : piece.Fits charsets (first ++ second).head?) : piece.Fits charsets first.head? := by
  cases first with
  | cons c first => exact fits
  | nil => exact fits.atEnd

/-- Only characters of no class open a piece of no class. -/
theorem Fits.isOther_opening {piece : Piece} {next : Option Char} (fits : piece.Fits charsets next)
    (others : isOther charsets piece.opening = true) : piece.kind? = some .other := by
  obtain ⟨noQuote, noReturn, noFeed, unclassified⟩ := isOther_iff.mp others
  cases piece with
  | dropped => exact absurd rfl noReturn
  | lineEnd => exact absurd rfl noFeed
  | run runClass first more =>
    obtain ⟨-, -, -, classified, -⟩ := fits
    exact absurd (classified.symm.trans unclassified) (by simp)
  | string delimiter inner closed => exact absurd (noQuote.symm.trans fits.1) (by decide)
  | other first more => rfl

/-- Every character opens a piece that fits before the rest of the text. -/
theorem exists_piece (charsets : Charsets) (c : Char) (rest : List Char) :
    ∃ piece : Piece, ∃ after, c :: rest = piece.chars ++ after ∧
      piece.Fits charsets after.head? := by
  by_cases quote : charsets.isQuote c = true
  · by_cases closed : c ∈ rest
    · obtain ⟨inner, after, rfl, absent⟩ := List.eq_append_cons_of_mem closed
      exact ⟨.string c inner true, after, by simp, quote, absent, Or.inl rfl⟩
    · exact ⟨.string c rest false, [], by simp, quote, closed, Or.inr rfl⟩
  · have noQuote : charsets.isQuote c = false := by simpa using quote
    by_cases isReturn : c = '\r'
    · subst isReturn
      exact ⟨.dropped, rest, rfl, noQuote⟩
    by_cases isFeed : c = '\n'
    · subst isFeed
      exact ⟨.lineEnd, rest, rfl, noQuote⟩
    cases classified : charsets.classify? c with
    | some runClass =>
      let more := rest.takeWhile (extendsRun charsets runClass)
      have inside : ∀ d ∈ more, extendsRun charsets runClass d = true :=
        fun d member => List.mem_takeWhile_imp member
      refine ⟨.run runClass c more, rest.dropWhile (extendsRun charsets runClass), ?_, ?_⟩
      · simp [more]
      · exact ⟨noQuote, isReturn, isFeed, classified, inside, head_dropWhile⟩
    | none =>
      let more := rest.takeWhile (isOther charsets)
      have others : isOther charsets c = true :=
        isOther_iff.mpr ⟨noQuote, isReturn, isFeed, classified⟩
      have inside : ∀ d ∈ c :: more, isOther charsets d = true :=
        List.forall_mem_cons.mpr ⟨others, fun d member => List.mem_takeWhile_imp member⟩
      refine ⟨.other c more, rest.dropWhile (isOther charsets), ?_, ?_⟩
      · simp [more]
      · exact ⟨inside, head_dropWhile⟩

end Piece

/-- A cut of a text into pieces, each of which fits before what is left. -/
inductive Reading (charsets : Charsets) : List Char → List Piece → Prop
  /-- The empty text has no piece. -/
  | nil : Reading charsets [] []
  /-- A piece before a text that has a reading. -/
  | cons {piece : Piece} {text : List Char} {pieces : List Piece}
      (fits : piece.Fits charsets text.head?) (reading : Reading charsets text pieces) :
      Reading charsets (piece.chars ++ text) (piece :: pieces)

namespace Reading

variable {charsets : Charsets}

/-- Every text can be cut into pieces that fit. -/
theorem exists_reading (charsets : Charsets) (text : List Char) :
    ∃ pieces, Reading charsets text pieces := by
  induction size : text.length using Nat.strongRecOn generalizing text with
  | ind _ ih =>
    cases text with
    | nil => exact ⟨[], .nil⟩
    | cons c rest =>
      obtain ⟨piece, after, cut, fits⟩ := Piece.exists_piece charsets c rest
      have lengths := congrArg List.length cut
      simp only [Piece.chars, List.cons_append, List.length_cons, List.length_append] at lengths
      rw [List.length_cons] at size
      obtain ⟨pieces, reading⟩ := ih after.length (by omega) after rfl
      exact ⟨piece :: pieces, cut ▸ .cons fits reading⟩

/-- No text can be cut in two ways into pieces that fit. -/
theorem unique {text : List Char} {pieces others : List Piece}
    (first : Reading charsets text pieces) (second : Reading charsets text others) :
    pieces = others := by
  induction first generalizing others with
  | nil =>
    cases second
    rfl
  | @cons piece text pieces fits reading ih =>
    generalize whole : piece.chars ++ text = source at second
    cases second with
    | nil => simp [Piece.chars] at whole
    | @cons other rest others otherFits otherReading =>
      obtain ⟨rfl, rfl⟩ := fits.unique otherFits whole
      rw [ih otherReading]

/-- The pieces of a text hold all its characters, in order. -/
theorem joined {text : List Char} {pieces : List Piece} (reading : Reading charsets text pieces) :
    pieces.flatMap Piece.chars = text := by
  induction reading with
  | nil => rfl
  | cons fits reading ih => rw [List.flatMap_cons, ih]

end Reading

end CharLexer
