import CharLexer.Proofs.Scan

/-!
# Carriage returns

A text and the same text without its carriage returns have the same tokens, by kind, line and
content, up to the carriage returns in the contents, and up to characters of no class that a dropped
carriage return kept apart (`tokenize_withoutReturns`). Where carriage returns stand only in front
of line feeds, they keep none apart.
-/
namespace CharLexer

open Scan (extendsRun isOther)

/-- The characters that are no carriage returns. -/
def withoutReturns (text : List Char) : List Char := text.filter (· != '\r')

/-- Whether every carriage return is followed by a line feed, with nothing but carriage returns
between the two. -/
def returnsEndLines : List Char → Bool
  | [] => true
  | c :: text =>
    (c != '\r' || (text.dropWhile (· == '\r')).head? == some '\n') && returnsEndLines text

/-- A token without its offset and its column. -/
structure Entry where
  /-- What it is made of. -/
  kind : Kind
  /-- Its line, counted from one. -/
  line : Nat
  /-- Its characters. -/
  content : List Char

/-- A token as an entry. -/
def Token.entry (token : Token) : Entry :=
  ⟨token.kind, token.location.line, token.content.toList⟩

namespace Entry

/-- An entry without the carriage returns of its content. -/
def withoutReturns (entry : Entry) : Entry :=
  { entry with content := CharLexer.withoutReturns entry.content }

/-- Put an entry in front of others, joined with the first of them if both are of no class. -/
def join (entry : Entry) : List Entry → List Entry
  | [] => [entry]
  | next :: entries =>
    if entry.kind = .other ∧ next.kind = .other then
      { entry with content := entry.content ++ next.content } :: entries
    else entry :: next :: entries

/-- Entries are joined only where both are of no class. -/
theorem join_eq_cons {entry : Entry} {entries : List Entry}
    (apart : entry.kind = .other → ∀ next ∈ entries.head?, next.kind ≠ .other) :
    entry.join entries = entry :: entries := by
  cases entries with
  | nil => rfl
  | cons next entries =>
    rw [join, if_neg]
    exact fun both => apart both.1 next rfl both.2

/-- Join the neighbours that are of no class. -/
def joinOthers (entries : List Entry) : List Entry := entries.foldr join []

end Entry

namespace Piece

/-- A piece without its carriage returns, if anything is left of it. -/
def withoutReturns? : Piece → Option Piece
  | .dropped => none
  | .run runClass first more => some (.run runClass first (withoutReturns more))
  | .string delimiter inner closed => some (.string delimiter (withoutReturns inner) closed)
  | piece => some piece

/-- Put a piece in front of others, joined with the first of them if both are of no class. -/
def join : Piece → List Piece → List Piece
  | .other first more, .other next later :: pieces => .other first (more ++ next :: later) :: pieces
  | piece, pieces => piece :: pieces

/-- Join the neighbours that are of no class. -/
def joinOthers (pieces : List Piece) : List Piece := pieces.foldr join []

variable {charsets : Charsets}

/-- What is left of a piece has its characters but the carriage returns. -/
theorem withoutReturns?_chars {piece left : Piece} {next : Option Char}
    (noQuote : charsets.isQuote '\r' = false) (fits : piece.Fits charsets next)
    (remains : piece.withoutReturns? = some left) :
    left.chars = withoutReturns piece.chars := by
  cases piece with
  | dropped => contradiction
  | lineEnd =>
    obtain rfl := Option.some.inj remains
    rfl
  | run runClass first more =>
    obtain rfl := Option.some.inj remains
    obtain ⟨-, noReturn, -⟩ := fits
    simp [chars, opening, following, withoutReturns, noReturn]
  | string delimiter inner closed =>
    obtain rfl := Option.some.inj remains
    have noReturn : delimiter ≠ '\r' := by
      rintro rfl
      exact absurd (noQuote.symm.trans fits.1) (by decide)
    cases closed <;> simp [chars, opening, following, withoutReturns, noReturn]
  | other first more =>
    obtain rfl := Option.some.inj remains
    have noReturn : ∀ c ∈ first :: more, (c != '\r') = true := by
      intro c member
      simpa using (isOther_iff.mp (fits.1 c member)).2.1
    exact (List.filter_eq_self.mpr noReturn).symm

/-- What is left of a piece has its kind. -/
theorem withoutReturns?_kind? {piece left : Piece} (remains : piece.withoutReturns? = some left) :
    left.kind? = piece.kind? := by
  cases piece with
  | dropped => contradiction
  | _ =>
    obtain rfl := Option.some.inj remains
    rfl

/-- What is left of a piece makes a token. -/
theorem withoutReturns?_makes {piece left : Piece} (remains : piece.withoutReturns? = some left) :
    left.kind? ≠ none := by
  rw [withoutReturns?_kind? remains]
  intro none
  rw [kind?_eq_none.mp none] at remains
  contradiction

/-- What is left of a piece is reported as the piece is, but for the carriage returns. -/
theorem withoutReturns?_content (compress : Bool) {piece left : Piece} {next : Option Char}
    (noQuote : charsets.isQuote '\r' = false) (fits : piece.Fits charsets next)
    (remains : piece.withoutReturns? = some left) :
    (left.content compress).toList = withoutReturns (piece.content compress).toList := by
  have same := withoutReturns?_chars noQuote fits remains
  simp only [content, withoutReturns?_kind? remains]
  split
  · rfl
  · simp [same]

/-- What is left of a piece ends on the line on which the piece ends. -/
theorem withoutReturns?_after {piece left : Piece} {place other : Location}
    (remains : piece.withoutReturns? = some left) (sameLine : other.line = place.line) :
    (left.after other).line = (piece.after place).line := by
  cases piece with
  | dropped => contradiction
  | lineEnd =>
    obtain rfl := Option.some.inj remains
    exact congrArg (· + 1) sameLine
  | _ =>
    obtain rfl := Option.some.inj remains
    exact sameLine

/-- Pieces are joined only where both are of no class. -/
theorem join_eq_cons {piece : Piece} {pieces : List Piece}
    (apart : piece.kind? = some .other → ∀ next ∈ pieces.head?, next.kind? ≠ some .other) :
    piece.join pieces = piece :: pieces := by
  cases piece with
  | other first more =>
    cases pieces with
    | nil => rfl
    | cons next pieces =>
      cases next with
      | other second later => exact absurd rfl (apart rfl _ rfl)
      | _ => rfl
  | _ => rfl

/-- Only a dropped piece leaves nothing. -/
theorem withoutReturns?_eq_none {piece : Piece} :
    piece.withoutReturns? = none ↔ piece = .dropped := by
  cases piece <;> simp [withoutReturns?]

end Piece

/-- A text that does not begin with a carriage return begins alike without them. -/
theorem head?_withoutReturns {text : List Char} (begins : ∀ c ∈ text.head?, c ≠ '\r') :
    (withoutReturns text).head? = text.head? := by
  cases text with
  | nil => rfl
  | cons c text => simp [withoutReturns, begins c rfl]

namespace Piece

variable {charsets : Charsets}

/-- What is left of a piece with a class still fits. -/
theorem Fits.withoutReturns {piece left : Piece} {text : List Char}
    (fits : piece.Fits charsets text.head?) (remains : piece.withoutReturns? = some left)
    (classified : left.kind? ≠ some .other) :
    left.Fits charsets (withoutReturns text).head? := by
  cases piece with
  | dropped => contradiction
  | lineEnd =>
    obtain rfl := Option.some.inj remains
    exact fits
  | run runClass first more =>
    obtain rfl := Option.some.inj remains
    obtain ⟨noQuote, noReturn, noFeed, classified, inside, stop⟩ := fits
    have begins : ∀ c ∈ text.head?, c ≠ '\r' := by
      rintro c head rfl
      simpa [extendsRun] using stop '\r' head
    rw [head?_withoutReturns begins]
    exact ⟨noQuote, noReturn, noFeed, classified,
      fun c member => inside c (List.mem_filter.mp member).1, stop⟩
  | string delimiter inner closed =>
    obtain rfl := Option.some.inj remains
    obtain ⟨quote, absent, ends⟩ := fits
    refine ⟨quote, fun member => absent (List.mem_filter.mp member).1, ends.imp_right ?_⟩
    intro ended
    rw [List.head?_eq_none_iff.mp ended]
    rfl
  | other first more =>
    obtain rfl := Option.some.inj remains
    exact absurd rfl classified

/-- What is left of a piece fits at the end of a text. -/
theorem Fits.withoutReturns_atEnd {piece left : Piece} {text : List Char}
    (fits : piece.Fits charsets text.head?) (remains : piece.withoutReturns? = some left) :
    left.Fits charsets none := by
  by_cases unclassified : left.kind? = some .other
  · rw [withoutReturns?_kind? remains] at unclassified
    obtain ⟨first, more, rfl⟩ := kind?_eq_other.mp unclassified
    obtain rfl := Option.some.inj remains
    exact fits.atEnd
  · exact (fits.withoutReturns remains unclassified).atEnd

end Piece

namespace Reading

variable {charsets : Charsets}

/-- A piece may be put in front of a reading when it fits, or when it is of no class and so may be
joined with what follows. -/
theorem join {piece : Piece} {text : List Char} {pieces : List Piece}
    (reading : Reading charsets text pieces) (atEnd : piece.Fits charsets none)
    (classified : piece.kind? ≠ some .other → piece.Fits charsets text.head?) :
    Reading charsets (piece.chars ++ text) (piece.join pieces) := by
  by_cases unclassified : piece.kind? = some .other
  · obtain ⟨first, more, rfl⟩ := Piece.kind?_eq_other.mp unclassified
    cases reading with
    | nil => exact .cons atEnd .nil
    | @cons next text pieces fits reading =>
      by_cases neighbour : next.kind? = some .other
      · obtain ⟨second, later, rfl⟩ := Piece.kind?_eq_other.mp neighbour
        have inside := List.forall_mem_append.mpr ⟨atEnd.1, fits.1⟩
        have joined : (Piece.other first (more ++ second :: later)).Fits charsets text.head? :=
          ⟨inside, fits.2⟩
        simpa [Piece.chars, Piece.opening, Piece.following, Piece.join] using
          Reading.cons joined reading
      · have stop : ∀ c ∈ (next.chars ++ text).head?, isOther charsets c = false := by
          intro c head
          obtain rfl := Option.some.inj head
          cases others : isOther charsets next.opening with
          | false => rfl
          | true => exact absurd (fits.isOther_opening others) neighbour
        rw [Piece.join_eq_cons fun _ => by simpa using neighbour]
        exact .cons ⟨atEnd.1, stop⟩ (.cons fits reading)
  · rw [Piece.join_eq_cons fun others => absurd others unclassified]
    exact .cons (classified unclassified) reading

/-- A reading of a text gives one of the text without its carriage returns. -/
theorem withoutReturns {text : List Char} {pieces : List Piece}
    (noQuote : charsets.isQuote '\r' = false) (reading : Reading charsets text pieces) :
    Reading charsets (withoutReturns text)
      (Piece.joinOthers (pieces.filterMap Piece.withoutReturns?)) := by
  induction reading with
  | nil => exact .nil
  | @cons piece text pieces fits reading ih =>
    cases remains : piece.withoutReturns? with
    | none =>
      obtain rfl := Piece.withoutReturns?_eq_none.mp remains
      exact ih
    | some left =>
      have joined := ih.join (fits.withoutReturns_atEnd remains) (fits.withoutReturns remains)
      rw [Piece.withoutReturns?_chars noQuote fits remains] at joined
      simpa [CharLexer.withoutReturns, remains, Piece.joinOthers] using joined

end Reading

namespace Piece

variable {charsets : Charsets}

/-- The first of the tokens has no class only if the first of the pieces has none. -/
theorem head?_entries (compress : Bool) (place : Location) {pieces : List Piece}
    (kept : ∀ next ∈ pieces.head?, next.kind? ≠ none)
    (apart : ∀ next ∈ pieces.head?, next.kind? ≠ some .other) :
    ∀ entry ∈ ((tokensToEnd compress place pieces).map Token.entry).head?,
      entry.kind ≠ .other := by
  intro entry head
  cases pieces with
  | nil =>
    obtain rfl := Option.some.inj head
    simp [Token.entry]
  | cons piece pieces =>
    obtain ⟨kind, made⟩ := Option.ne_none_iff_exists'.mp (kept piece rfl)
    simp only [tokensToEnd_cons, token?, made, Option.map_some, Option.toList_some,
      List.singleton_append, List.map_cons, List.head?_cons] at head
    obtain rfl := Option.some.inj head
    exact fun others => apart piece rfl (made.trans (congrArg some others))

/-- Two pieces of no class in a row end where the piece that joins them ends. -/
theorem after_other_append (place : Location) (first second : Char) (more later : List Char) :
    (Piece.other first (more ++ second :: later)).after place =
      (Piece.other second later).after ((Piece.other first more).after place) := by
  simp only [after, Location.afterColumns, chars, opening, following, List.length_cons,
    List.length_append, Location.mk.injEq, true_and]
  omega

/-- Pieces that are joined make the tokens of both, joined. -/
theorem entries_join (compress : Bool) {piece : Piece} {place : Location} {token : Token}
    {pieces : List Piece} (made : piece.token? compress place = some token)
    (kept : ∀ next ∈ pieces.head?, next.kind? ≠ none) :
    (tokensToEnd compress place (piece.join pieces)).map Token.entry =
      token.entry.join ((tokensToEnd compress (piece.after place) pieces).map Token.entry) := by
  obtain ⟨kind, isKind, rfl⟩ := Option.map_eq_some_iff.mp made
  by_cases both : piece.kind? = some .other ∧ ∃ next ∈ pieces.head?, next.kind? = some .other
  · obtain ⟨unclassified, next, head, neighbour⟩ := both
    obtain ⟨first, more, rfl⟩ := kind?_eq_other.mp unclassified
    obtain ⟨second, later, rfl⟩ := kind?_eq_other.mp neighbour
    obtain ⟨pieces, rfl⟩ := List.head?_eq_some_iff.mp head
    obtain rfl := Option.some.inj isKind
    simp [join, Entry.join, Token.entry, token?, kind?, content, after_other_append, chars, opening,
      following]
  · have apart : piece.kind? = some .other → ∀ next ∈ pieces.head?, next.kind? ≠ some .other :=
      fun unclassified next head neighbour => both ⟨unclassified, next, head, neighbour⟩
    have entriesApart := fun others : kind = .other =>
      head?_entries compress (piece.after place) kept (apart (isKind.trans (congrArg some others)))
    rw [join_eq_cons apart, Entry.join_eq_cons entriesApart, tokensToEnd_cons, made]
    rfl

/-- The first of the joined pieces is of the kind of the first. -/
theorem head?_join (piece : Piece) (pieces : List Piece) :
    ∀ next ∈ (piece.join pieces).head?, next.kind? = piece.kind? := by
  intro next head
  by_cases joined : ∃ first more second later rest,
      piece = .other first more ∧ pieces = .other second later :: rest
  · obtain ⟨first, more, second, later, rest, rfl, rfl⟩ := joined
    obtain rfl := Option.some.inj head
    rfl
  · rw [join_eq_cons] at head
    · obtain rfl := Option.some.inj head
      rfl
    · intro unclassified neighbour begins others
      obtain ⟨first, more, rfl⟩ := kind?_eq_other.mp unclassified
      obtain ⟨second, later, rfl⟩ := kind?_eq_other.mp others
      obtain ⟨rest, rfl⟩ := List.head?_eq_some_iff.mp begins
      exact joined ⟨first, more, second, later, rest, rfl, rfl⟩

/-- Joining pieces joins their tokens. -/
theorem entries_joinOthers (compress : Bool) (place : Location) {pieces : List Piece}
    (kept : ∀ piece ∈ pieces, piece.kind? ≠ none) :
    (tokensToEnd compress place (joinOthers pieces)).map Token.entry =
      Entry.joinOthers ((tokensToEnd compress place pieces).map Token.entry) := by
  induction pieces generalizing place with
  | nil => rfl
  | cons piece pieces ih =>
    have ⟨first, others⟩ := List.forall_mem_cons.mp kept
    obtain ⟨kind, isKind⟩ := Option.ne_none_iff_exists'.mp first
    have made : piece.token? compress place = some ⟨kind, place, piece.content compress⟩ := by
      simp [token?, isKind]
    have begins : ∀ next ∈ (joinOthers pieces).head?, next.kind? ≠ none := by
      intro next head
      cases pieces with
      | nil => contradiction
      | cons second pieces =>
        rw [head?_join _ _ next head]
        exact others second List.mem_cons_self
    rw [tokensToEnd_cons, made]
    change (tokensToEnd compress place (piece.join (joinOthers pieces))).map Token.entry =
      Entry.join _ (Entry.joinOthers
        ((tokensToEnd compress (piece.after place) pieces).map Token.entry))
    rw [entries_join compress made begins, ih _ others]

end Piece

/-- What is left of a piece whose content is changed: it is of the same kind and ends on the same
line. -/
structure Piece.Leaves (compress : Bool) (change : List Char → List Char) (piece left : Piece) :
    Prop where
  kind : left.kind? = piece.kind?
  content : (left.content compress).toList = change (piece.content compress).toList
  line : ∀ place other : Location, other.line = place.line →
    (left.after other).line = (piece.after place).line

/-- What is left of pieces of which only the dropped ones vanish makes the entries of the pieces,
with their contents changed. -/
theorem Piece.entries_filterMap (compress : Bool) {left? : Piece → Option Piece}
    {change : List Char → List Char} {pieces : List Piece} (empty : change [] = [])
    (vanish : ∀ piece, left? piece = none → piece = .dropped)
    (leaves : ∀ piece ∈ pieces, ∀ left, left? piece = some left →
      piece.Leaves compress change left)
    {place other : Location} (sameLine : other.line = place.line) :
    (tokensToEnd compress other (pieces.filterMap left?)).map Token.entry =
      (tokensToEnd compress place pieces).map fun token =>
        { token.entry with content := change token.entry.content } := by
  induction pieces generalizing place other with
  | nil => simp [Token.entry, sameLine, empty]
  | cons piece pieces ih =>
    obtain ⟨first, others⟩ := List.forall_mem_cons.mp leaves
    rw [List.filterMap_cons, tokensToEnd_cons]
    cases remains : left? piece with
    | none =>
      obtain rfl := vanish piece remains
      exact ih others sameLine
    | some left =>
      obtain ⟨kind, content, line⟩ := first left remains
      have later := ih others (line place other sameLine)
      cases made : piece.kind? with
      | none => simp [token?, kind, made, later]
      | some kindMade => simp [token?, kind, made, content, later, Token.entry, sameLine]

namespace Reading

variable {charsets : Charsets}

/-- Every piece of a reading fits in front of something. -/
theorem exists_fits {text : List Char} {pieces : List Piece}
    (reading : Reading charsets text pieces) :
    ∀ piece ∈ pieces, ∃ next, piece.Fits charsets next := by
  induction reading with
  | nil => simp
  | cons fits reading ih => exact List.forall_mem_cons.mpr ⟨⟨_, fits⟩, ih⟩

/-- The pieces of a text without their carriage returns make its tokens without theirs. -/
theorem entries_withoutReturns (compress : Bool) {text : List Char} {pieces : List Piece}
    (noQuote : charsets.isQuote '\r' = false) (reading : Reading charsets text pieces)
    {place other : Location} (sameLine : other.line = place.line) :
    (Piece.tokensToEnd compress other (pieces.filterMap Piece.withoutReturns?)).map Token.entry =
      (Piece.tokensToEnd compress place pieces).map fun token => token.entry.withoutReturns := by
  have leaves : ∀ piece ∈ pieces, ∀ left, piece.withoutReturns? = some left →
      piece.Leaves compress CharLexer.withoutReturns left := by
    intro piece member left remains
    obtain ⟨next, fits⟩ := reading.exists_fits piece member
    exact ⟨Piece.withoutReturns?_kind? remains,
      Piece.withoutReturns?_content compress noQuote fits remains,
      fun place other sameLine => Piece.withoutReturns?_after remains sameLine⟩
  exact Piece.entries_filterMap compress rfl (fun _ => Piece.withoutReturns?_eq_none.mp) leaves
    sameLine

/-- A reading begins with characters of no class only where the text does. -/
theorem isOther_head? {text : List Char} {pieces : List Piece}
    (reading : Reading charsets text pieces) {first : Piece} (head : first ∈ pieces.head?)
    (unclassified : first.kind? = some .other) : ∃ c ∈ text.head?, isOther charsets c = true := by
  cases reading with
  | nil => contradiction
  | @cons piece text pieces fits reading =>
    obtain rfl := Option.some.inj head
    obtain ⟨first, more, rfl⟩ := Piece.kind?_eq_other.mp unclassified
    exact ⟨first, rfl, fits.1 first List.mem_cons_self⟩

end Reading

/-- Carriage returns at the beginning of a text are deleted. -/
theorem withoutReturns_dropWhile (text : List Char) :
    withoutReturns (text.dropWhile (· == '\r')) = withoutReturns text := by
  induction text with
  | nil => rfl
  | cons c text ih =>
    by_cases isReturn : c = '\r'
    · subst isReturn
      exact ih
    · rw [List.dropWhile_cons_of_neg (by simpa using isReturn)]

/-- Where carriage returns stand only in front of line feeds, deleting them brings no character of
no class to the front. -/
theorem isOther_head?_withoutReturns {charsets : Charsets} {text : List Char}
    (ends : returnsEndLines text = true)
    (begins : ∀ c ∈ text.head?, isOther charsets c = false) :
    ∀ c ∈ (withoutReturns text).head?, isOther charsets c = false := by
  cases text with
  | nil => simp [withoutReturns]
  | cons first text =>
    by_cases isReturn : first = '\r'
    · subst isReturn
      simp only [returnsEndLines, bne_self_eq_false, Bool.false_or, Bool.and_eq_true,
        beq_iff_eq] at ends
      obtain ⟨rest, followed⟩ := List.head?_eq_some_iff.mp ends.1
      have left : withoutReturns ('\r' :: text) = '\n' :: withoutReturns rest := by
        change withoutReturns text = _
        rw [← withoutReturns_dropWhile, followed]
        rfl
      intro c head
      rw [left] at head
      obtain rfl := Option.some.inj head
      simp [isOther]
    · rw [head?_withoutReturns (by simpa using isReturn)]
      exact begins

/-- Where carriage returns stand only in front of line feeds, so they do in what is left of the
text. -/
theorem returnsEndLines_of_append {first second : List Char}
    (ends : returnsEndLines (first ++ second) = true) : returnsEndLines second = true := by
  induction first with
  | nil => exact ends
  | cons c first ih =>
    rw [List.cons_append, returnsEndLines, Bool.and_eq_true] at ends
    exact ih ends.2

/-- Where carriage returns stand only in front of line feeds, they keep no two pieces apart. -/
theorem Reading.joinOthers_eq_self {charsets : Charsets} {text : List Char} {pieces : List Piece}
    (noQuote : charsets.isQuote '\r' = false) (reading : Reading charsets text pieces)
    (ends : returnsEndLines text = true) :
    Piece.joinOthers (pieces.filterMap Piece.withoutReturns?) =
      pieces.filterMap Piece.withoutReturns? := by
  induction reading with
  | nil => rfl
  | @cons piece text pieces fits reading ih =>
    have rest := ih (returnsEndLines_of_append ends)
    cases remains : piece.withoutReturns? with
    | none => simpa [remains] using rest
    | some left =>
      rw [List.filterMap_cons, remains]
      change left.join (Piece.joinOthers (pieces.filterMap Piece.withoutReturns?)) = _
      rw [rest]
      refine Piece.join_eq_cons fun unclassified next head others => ?_
      rw [Piece.withoutReturns?_kind? remains] at unclassified
      obtain ⟨first, more, rfl⟩ := Piece.kind?_eq_other.mp unclassified
      have later := reading.withoutReturns noQuote
      rw [rest] at later
      obtain ⟨c, begins, isOthers⟩ := later.isOther_head? head others
      have none := isOther_head?_withoutReturns (returnsEndLines_of_append ends) fits.2 c begins
      exact absurd (isOthers.symm.trans none) (by decide)

/-- Where no quote is a carriage return, a text and the same text without its carriage returns have
the same tokens by kind, line and content, when the carriage returns are deleted from the contents
and the neighbours of no class are joined. Where moreover carriage returns stand only in front of
line feeds, there is nothing to join: the tokens correspond one for one. -/
theorem tokenize_withoutReturns (source : String) (charsets : Charsets) (compress : Bool)
    (noQuote : charsets.isQuote '\r' = false) :
    Entry.joinOthers
        ((tokenize source compress charsets).map fun token => token.entry.withoutReturns) =
      (tokenize (String.ofList (withoutReturns source.toList)) compress charsets).map Token.entry ∧
    (returnsEndLines source.toList = true →
      ((tokenize source compress charsets).map fun token => token.entry.withoutReturns) =
        (tokenize (String.ofList (withoutReturns source.toList)) compress charsets).map
          Token.entry) := by
  obtain ⟨pieces, reading⟩ := Reading.exists_reading charsets source.toList
  have left := reading.withoutReturns noQuote
  have kept : ∀ left ∈ pieces.filterMap Piece.withoutReturns?, left.kind? ≠ none := by
    intro left member
    obtain ⟨piece, -, remains⟩ := List.mem_filterMap.mp member
    exact Piece.withoutReturns?_makes remains
  have entries := reading.entries_withoutReturns compress noQuote (Eq.refl Location.start.line)
  rw [tokenize_of_reading compress reading, tokenize_of_reading compress (by simpa using left)]
  refine ⟨?_, fun ends => ?_⟩
  · rw [Piece.entries_joinOthers compress .start kept, entries]
  · rw [reading.joinOthers_eq_self noQuote ends, entries]

/-- Two carriage returns in front of a line feed, one in a run and one in a string, with line feeds
in place of them. -/
theorem tokenize_withoutReturns_lines :
    let source := "é\r\r\na\r\n'\r\n' b"
    ({} : Charsets).isQuote '\r' = false ∧ returnsEndLines source.toList = true ∧
      ((tokenize source true {}).map fun token => token.entry.withoutReturns) =
        (tokenize "é\na\n'\n' b" true {}).map Token.entry := by
  intro source
  have noQuote : ({} : Charsets).isQuote '\r' = false := by decide
  have ends : returnsEndLines source.toList = true := by decide
  have left : String.ofList (withoutReturns source.toList) = "é\na\n'\n' b" := by decide
  have tokens := (tokenize_withoutReturns source {} true noQuote).2 ends
  rw [left] at tokens
  exact ⟨noQuote, ends, tokens⟩

end CharLexer
