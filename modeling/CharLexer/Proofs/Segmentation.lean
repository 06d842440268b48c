import CharLexer.Proofs.Scan

/-!
# Segmentations

What the tokens of a text have to be, by kind, offset and content, is stated here by conditions on
the list of them and on the text, each read off one token or one position. Scanning gives a list
that meets the conditions, and no other list meets them (`segmentation_iff_spans_of_tokens`).
-/
namespace CharLexer

/-- A token without its line and its column. -/
structure Span where
  /-- What it is made of. -/
  kind : Kind
  /-- Characters before it in the text. -/
  offset : Nat
  /-- Its characters. -/
  content : String

/-- A token as a span. -/
def Token.span (token : Token) : Span := ⟨token.kind, token.location.offset, token.content⟩

namespace Span

/-- The offset at which a span stops. -/
def stop (span : Span) : Nat := span.offset + span.content.length

/-- Whether a position of the text lies in a span. -/
def Covers (span : Span) (position : Nat) : Prop :=
  span.offset ≤ position ∧ position < span.stop

/-- Whether a span is a piece of its kind that fits before the next character. -/
def Shaped (charsets : Charsets) (next : Option Char) (span : Span) : Prop :=
  ∃ piece : Piece, piece.kind? = some span.kind ∧ piece.chars = span.content.toList ∧
    piece.Fits charsets next

/-- The span of the end of a text of so many characters. -/
def textEnd (length : Nat) : Span := ⟨.textEnd, length, ""⟩

end Span

/-- The conditions on the spans of a text from a start on. -/
structure Segmentation (charsets : Charsets) (source : List Char) (start : Nat)
    (spans : List Span) : Prop where
  /-- The last span is the end of the text, and no other is. -/
  ends : ∃ body, spans = body ++ [.textEnd source.length] ∧ ∀ span ∈ body, span.kind ≠ .textEnd
  /-- Every span lies between the start and the end of the text. -/
  inside : ∀ span ∈ spans, start ≤ span.offset ∧ span.stop ≤ source.length
  /-- No span begins before the ones in front of it stop. -/
  ordered : spans.Pairwise fun first second => first.stop ≤ second.offset
  /-- The content of a span is what stands there. -/
  content : ∀ span ∈ spans,
    span.content.toList = (source.drop span.offset).take span.content.length
  /-- Only the end of the text is empty. -/
  nonempty : ∀ span ∈ spans, span.kind ≠ .textEnd → span.content ≠ ""
  /-- Every other span has the shape of its kind. -/
  shaped : ∀ span ∈ spans, span.kind ≠ .textEnd → span.Shaped charsets source[span.stop]?
  /-- A position in no span holds a carriage return that is no quote. -/
  dropped : ∀ position, start ≤ position → position < source.length →
    (∀ span ∈ spans, ¬ span.Covers position) →
      source[position]? = some '\r' ∧ charsets.isQuote '\r' = false

namespace Span

/-- A span with a character is longer than none. -/
theorem length_pos {span : Span} (nonempty : span.content ≠ "") : 0 < span.content.length := by
  rw [← String.length_toList, List.length_pos_iff]
  simpa [String.toList_eq_nil_iff] using nonempty

/-- A span whose content stands in the text stops before the text does. -/
theorem stop_le_of_cut {source text : List Char} {span : Span} (nonempty : span.content ≠ "")
    (cut : source.drop span.offset = span.content.toList ++ text) :
    span.stop ≤ source.length := by
  have positive := length_pos nonempty
  have lengths := congrArg List.length cut
  simp only [List.length_drop, List.length_append, String.length_toList] at lengths
  simp only [stop]
  omega

end Span

namespace Piece

variable {charsets : Charsets}

/-- Only dropped pieces and strings open with a carriage return. -/
theorem Fits.opening_ne_return {piece : Piece} {next : Option Char} {kind : Kind}
    (fits : piece.Fits charsets next) (made : piece.kind? = some kind)
    (noQuote : charsets.isQuote '\r' = false) : piece.opening ≠ '\r' := by
  cases piece with
  | dropped => contradiction
  | lineEnd => decide
  | run runClass first more => exact fits.2.1
  | string delimiter inner closed =>
    rintro rfl
    exact absurd (noQuote.symm.trans fits.1) (by decide)
  | other first more => exact (isOther_iff.mp (fits.1 first List.mem_cons_self)).2.1

/-- The text after a piece, as a part of the whole. -/
theorem drop_of_cut {source text : List Char} {start : Nat} {piece : Piece}
    (cut : source.drop start = piece.chars ++ text) :
    source.drop (start + piece.chars.length) = text := by
  rw [← List.drop_drop, cut, List.drop_left]

/-- A piece that makes a token, as a span. -/
def span (piece : Piece) (kind : Kind) (start : Nat) : Span :=
  ⟨kind, start, String.ofList piece.chars⟩

/-- A span stops where its piece does. -/
@[simp] theorem span_stop (piece : Piece) (kind : Kind) (start : Nat) :
    (piece.span kind start).stop = start + piece.chars.length := by
  simp [span, Span.stop]

end Piece

namespace Segmentation

variable {charsets : Charsets} {source : List Char} {start : Nat} {spans rest : List Span}
  {span : Span}

/-- A span is the end of the text if its kind says so. -/
theorem eq_textEnd (segmentation : Segmentation charsets source start spans)
    (member : span ∈ spans) (isEnd : span.kind = .textEnd) : span = .textEnd source.length := by
  obtain ⟨body, rfl, others⟩ := segmentation.ends
  rcases List.mem_append.mp member with inBody | last
  · exact absurd isEnd (others span inBody)
  · exact List.mem_singleton.mp last

/-- A span that is not the end of the text holds a character. -/
theorem offset_lt_stop (segmentation : Segmentation charsets source start spans)
    (member : span ∈ spans) (notEnd : span.kind ≠ .textEnd) : span.offset < span.stop := by
  have positive := Span.length_pos (segmentation.nonempty span member notEnd)
  simp only [Span.stop]
  omega

/-- What is left of the text at a span is its content and then the text from its stop on. -/
theorem drop_offset (segmentation : Segmentation charsets source start spans)
    (member : span ∈ spans) :
    source.drop span.offset = span.content.toList ++ source.drop span.stop := by
  rw [segmentation.content span member, Span.stop, ← List.drop_drop, List.take_append_drop]

/-- The end of the text segments the empty rest of it. -/
theorem nil : Segmentation charsets source source.length [.textEnd source.length] where
  ends := ⟨[], rfl, by simp⟩
  inside := by simp [Span.textEnd, Span.stop]
  ordered := List.pairwise_singleton _ _
  content := by simp [Span.textEnd]
  nonempty := by simp [Span.textEnd]
  shaped := by simp [Span.textEnd]
  dropped := by omega

/-- At the end of the text there is only its end. -/
theorem eq_nil (segmentation : Segmentation charsets source source.length spans) :
    spans = [.textEnd source.length] := by
  obtain ⟨body, rfl, others⟩ := segmentation.ends
  cases body with
  | nil => rfl
  | cons span body =>
    have member : span ∈ span :: body ++ [.textEnd source.length] := List.mem_cons_self
    have bounds := segmentation.inside span member
    have filled := segmentation.offset_lt_stop member (others span List.mem_cons_self)
    omega

/-- A carriage return that is no quote may be left out in front of a segmentation. -/
theorem drop (isReturn : source[start]? = some '\r') (noQuote : charsets.isQuote '\r' = false)
    (segmentation : Segmentation charsets source (start + 1) spans) :
    Segmentation charsets source start spans where
  ends := segmentation.ends
  inside span member := by
    have bounds := segmentation.inside span member
    omega
  ordered := segmentation.ordered
  content := segmentation.content
  nonempty := segmentation.nonempty
  shaped := segmentation.shaped
  dropped position after before uncovered := by
    by_cases here : position = start
    · subst here
      exact ⟨isReturn, noQuote⟩
    · exact segmentation.dropped position (by omega) before uncovered

/-- A carriage return that is no quote is left out. -/
theorem of_drop (isReturn : source[start]? = some '\r') (noQuote : charsets.isQuote '\r' = false)
    (segmentation : Segmentation charsets source start spans) :
    Segmentation charsets source (start + 1) spans where
  ends := segmentation.ends
  inside span member := by
    have bounds := segmentation.inside span member
    have later : span.offset ≠ start := by
      rintro rfl
      by_cases isEnd : span.kind = .textEnd
      · have place := congrArg Span.offset (segmentation.eq_textEnd member isEnd)
        obtain ⟨before, -⟩ := List.getElem?_eq_some_iff.mp isReturn
        simp only [Span.textEnd] at place
        omega
      · obtain ⟨piece, made, same, fits⟩ := segmentation.shaped span member isEnd
        have opening : source[span.offset]? = some piece.opening := by
          rw [← List.head?_drop, segmentation.drop_offset member, ← same]
          rfl
        rw [isReturn, Option.some.injEq] at opening
        exact fits.opening_ne_return made noQuote opening.symm
    omega
  ordered := segmentation.ordered
  content := segmentation.content
  nonempty := segmentation.nonempty
  shaped := segmentation.shaped
  dropped position after := segmentation.dropped position (by omega)

/-- A span may be put in front of a segmentation of what follows it. -/
theorem cons (notEnd : span.kind ≠ .textEnd) (nonempty : span.content ≠ "")
    (content : source.drop span.offset = span.content.toList ++ source.drop span.stop)
    (shaped : span.Shaped charsets source[span.stop]?)
    (segmentation : Segmentation charsets source span.stop rest) :
    Segmentation charsets source span.offset (span :: rest) where
  ends := by
    obtain ⟨body, rfl, others⟩ := segmentation.ends
    exact ⟨span :: body, rfl, List.forall_mem_cons.mpr ⟨notEnd, others⟩⟩
  inside := by
    have bounds := Span.stop_le_of_cut nonempty content
    refine List.forall_mem_cons.mpr ⟨⟨Nat.le_refl _, bounds⟩, fun later member => ?_⟩
    have ⟨after, before⟩ := segmentation.inside later member
    exact ⟨Nat.le_trans (Nat.le_add_right _ _) after, before⟩
  ordered := List.pairwise_cons.mpr
    ⟨fun later member => (segmentation.inside later member).1, segmentation.ordered⟩
  content := by
    refine List.forall_mem_cons.mpr ⟨?_, segmentation.content⟩
    rw [content, ← String.length_toList, List.take_left]
  nonempty := List.forall_mem_cons.mpr ⟨fun _ => nonempty, segmentation.nonempty⟩
  shaped := List.forall_mem_cons.mpr ⟨fun _ => shaped, segmentation.shaped⟩
  dropped position after before uncovered := by
    have ⟨here, later⟩ := List.forall_mem_cons.mp uncovered
    simp only [Span.Covers] at here
    exact segmentation.dropped position (by omega) before later

/-- What follows the first span is segmented by the others. -/
theorem tail (notEnd : span.kind ≠ .textEnd)
    (segmentation : Segmentation charsets source start (span :: rest)) :
    Segmentation charsets source span.stop rest where
  ends := by
    obtain ⟨body, same, others⟩ := segmentation.ends
    cases body with
    | nil =>
      obtain ⟨rfl, -⟩ := List.cons.inj same
      exact absurd rfl notEnd
    | cons first body =>
      obtain ⟨-, same⟩ := List.cons.inj same
      exact ⟨body, same, (List.forall_mem_cons.mp others).2⟩
  inside later member := ⟨(List.pairwise_cons.mp segmentation.ordered).1 later member,
    (segmentation.inside later (List.mem_cons_of_mem span member)).2⟩
  ordered := (List.pairwise_cons.mp segmentation.ordered).2
  content := (List.forall_mem_cons.mp segmentation.content).2
  nonempty := (List.forall_mem_cons.mp segmentation.nonempty).2
  shaped := (List.forall_mem_cons.mp segmentation.shaped).2
  dropped position after before uncovered := by
    have bounds := segmentation.inside span List.mem_cons_self
    simp only [Span.stop] at after
    refine segmentation.dropped position (by omega) before
      (List.forall_mem_cons.mpr ⟨?_, uncovered⟩)
    simp only [Span.Covers, Span.stop]
    omega

/-- Where a piece opens that makes a token, some span begins. -/
theorem exists_offset_eq {piece : Piece} {kind : Kind} {text : List Char}
    (segmentation : Segmentation charsets source start spans) (made : piece.kind? = some kind)
    (cut : source.drop start = piece.chars ++ text) (fits : piece.Fits charsets text.head?) :
    ∃ span ∈ spans, span.offset = start ∧ span.kind ≠ .textEnd := by
  have opening : source[start]? = some piece.opening := by
    rw [← List.head?_drop, cut]
    rfl
  obtain ⟨before, -⟩ := List.getElem?_eq_some_iff.mp opening
  by_contra none
  simp only [not_exists, not_and, not_not] at none
  have dropped := segmentation.dropped start (Nat.le_refl _) before (by
    intro span member covers
    have bounds := segmentation.inside span member
    have isEnd := none span member (Nat.le_antisymm covers.1 bounds.1)
    rw [segmentation.eq_textEnd member isEnd] at covers
    have short := covers.1
    simp only [Span.textEnd] at short
    omega)
  rw [opening, Option.some.injEq] at dropped
  exact fits.opening_ne_return made dropped.2 dropped.1

/-- A span that begins where the segmentation does is its first. -/
theorem eq_cons (segmentation : Segmentation charsets source start spans) (member : span ∈ spans)
    (begins : span.offset = start) (notEnd : span.kind ≠ .textEnd) :
    ∃ rest, spans = span :: rest := by
  obtain ⟨front, rest, rfl⟩ := List.append_of_mem member
  cases front with
  | nil => exact ⟨rest, rfl⟩
  | cons first front =>
    -- A span in front would be empty, and so be the end of the text in front of a character.
    have firstMember : first ∈ first :: front ++ span :: rest := List.mem_cons_self
    have apart := (List.pairwise_cons.mp segmentation.ordered).1 span (by simp)
    have after := (segmentation.inside first firstMember).1
    have filled := segmentation.offset_lt_stop member notEnd
    have before := (segmentation.inside span member).2
    by_cases isEnd : first.kind = .textEnd
    · have place := congrArg Span.offset (segmentation.eq_textEnd firstMember isEnd)
      simp only [Span.textEnd] at place
      simp only [Span.stop] at apart
      omega
    · have positive := segmentation.offset_lt_stop firstMember isEnd
      omega

/-- Where a piece opens that makes a token, the segmentation begins with it. -/
theorem of_piece {piece : Piece} {kind : Kind} {text : List Char}
    (segmentation : Segmentation charsets source start spans) (made : piece.kind? = some kind)
    (cut : source.drop start = piece.chars ++ text) (fits : piece.Fits charsets text.head?) :
    ∃ rest, spans = piece.span kind start :: rest := by
  obtain ⟨span, member, rfl, notEnd⟩ := segmentation.exists_offset_eq made cut fits
  obtain ⟨other, otherMade, same, otherFits⟩ := segmentation.shaped span member notEnd
  rw [← List.head?_drop] at otherFits
  have whole : piece.chars ++ text = other.chars ++ source.drop span.stop := by
    rw [← cut, segmentation.drop_offset member, same]
  obtain ⟨rfl, -⟩ := fits.unique otherFits whole
  obtain rfl : kind = span.kind := Option.some.inj (made.symm.trans otherMade)
  have spanned : piece.span span.kind span.offset = span := by
    simp [Piece.span, same]
  rw [spanned]
  exact segmentation.eq_cons member rfl notEnd

/-- A piece that makes a token may be put in front of a segmentation of what follows it. -/
theorem cons_piece {piece : Piece} {kind : Kind} {text : List Char}
    (made : piece.kind? = some kind) (cut : source.drop start = piece.chars ++ text)
    (fits : piece.Fits charsets text.head?)
    (segmentation : Segmentation charsets source (start + piece.chars.length) rest) :
    Segmentation charsets source start (piece.span kind start :: rest) := by
  have after := Piece.drop_of_cut cut
  have shaped : (piece.span kind start).Shaped charsets
      source[(piece.span kind start).stop]? := by
    rw [Piece.span_stop, ← List.head?_drop, after]
    exact ⟨piece, made, by simp [Piece.span], fits⟩
  show Segmentation charsets source (piece.span kind start).offset _
  refine cons (Piece.kind?_ne_textEnd made) ?_ ?_ shaped ?_
  · simp [Piece.span, Piece.chars]
  · rw [Piece.span_stop, after]
    simpa [Piece.span] using cut
  · rwa [Piece.span_stop]

/-- The pieces of a text make its only segmentation. -/
theorem iff_of_reading {text : List Char} {pieces : List Piece}
    (reading : Reading charsets text pieces) (place : Location)
    (remaining : source.drop place.offset = text) (inside : place.offset ≤ source.length) :
    Segmentation charsets source place.offset spans ↔
      spans = (Piece.tokensToEnd false place pieces).map Token.span := by
  induction reading generalizing place spans with
  | nil =>
    have reached := List.drop_eq_nil_iff.mp remaining
    have atEnd : place.offset = source.length := Nat.le_antisymm inside reached
    have last : (Piece.tokensToEnd false place []).map Token.span = [.textEnd source.length] := by
      simp [Token.span, Span.textEnd, atEnd]
    rw [last, atEnd]
    exact ⟨eq_nil, fun same => same ▸ nil⟩
  | @cons piece text pieces fits reading ih =>
    have after := Piece.drop_of_cut remaining
    have further : (piece.after place).offset ≤ source.length := by
      have lengths := congrArg List.length remaining
      simp only [List.length_drop, List.length_append, Piece.chars, List.length_cons] at lengths
      simp only [Piece.after_offset, Piece.chars, List.length_cons]
      omega
    have later (others : List Span) := @ih others (piece.after place)
      (by rwa [Piece.after_offset]) further
    rw [Piece.after_offset] at later
    cases made : piece.kind? with
    | none =>
      obtain rfl := Piece.kind?_eq_none.mp made
      have isReturn : source[place.offset]? = some '\r' := by
        rw [← List.head?_drop, remaining]
        rfl
      rw [Piece.tokensToEnd_cons]
      exact ⟨fun segmentation => (later spans).mp (of_drop isReturn fits segmentation),
        fun same => drop isReturn fits ((later spans).mpr same)⟩
    | some kind =>
      have spanned : (Piece.tokensToEnd false place (piece :: pieces)).map Token.span =
          piece.span kind place.offset ::
            (Piece.tokensToEnd false (piece.after place) pieces).map Token.span := by
        simp [Piece.token?, made, Piece.content, Token.span, Piece.span]
      rw [spanned]
      constructor
      · intro segmentation
        obtain ⟨rest, rfl⟩ := segmentation.of_piece made remaining fits
        have others := segmentation.tail (Piece.kind?_ne_textEnd made)
        rw [Piece.span_stop] at others
        rw [(later rest).mp others]
      · rintro rfl
        exact cons_piece made remaining fits ((later _).mpr rfl)

end Segmentation

/-- The tokens of a lexer are the one and only segmentation of its text from its cursor on, for
every choice of sets: by kind, offset and content there is a single way to cut the text. -/
theorem segmentation_iff_spans_of_tokens (lexer : Lexer) (spans : List Span) :
    Segmentation lexer.charsets lexer.cursor.text.toList lexer.cursor.position spans ↔
      spans = (lexer.tokens false).1.result.map Token.span := by
  obtain ⟨pieces, reading⟩ := Reading.exists_reading lexer.charsets lexer.cursor.rest
  rw [Lexer.tokens_of_reading false reading]
  exact Segmentation.iff_of_reading reading lexer.startPlace rfl lexer.cursor.position_le

end CharLexer
