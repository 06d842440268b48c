import CharLexer.Lexer
import CharLexer.Proofs.Piece

/-!
# What a scan makes of pieces

The tokens, the places and the counters of a scan are stated here piece by piece: what a piece adds
to a scan (`Scan.add`), and what the end of the text adds (`Scan.endText`). A scan of a text gives
what the pieces of its reading add one after another (`Scan.finish_readAll`). The tokens of a lexer
follow (`Lexer.tokens_of_reading`), so that a statement about them is one about lists of pieces.
-/
namespace CharLexer

open Scan (extendsRun isOther)

namespace Location

/-- The place after so many characters that take a column each. -/
def afterColumns (place : Location) (count : Nat) : Location :=
  { place with offset := place.offset + count, column := place.column + count }

/-- No columns move nothing. -/
@[simp] theorem afterColumns_zero (place : Location) : place.afterColumns 0 = place := rfl

/-- Columns after one column are one more. -/
theorem afterColumns_afterColumn (place : Location) (count : Nat) :
    place.afterColumn.afterColumns count = place.afterColumns (count + 1) := by
  simp only [afterColumns, afterColumn, Location.mk.injEq, true_and]
  omega

/-- One column after columns is one more. -/
theorem afterColumn_afterColumns (place : Location) (count : Nat) :
    (place.afterColumns count).afterColumn = place.afterColumns (count + 1) := rfl

end Location

namespace Piece

/-- The place after a piece. -/
def after (place : Location) : Piece → Location
  | .dropped => place.afterDropped
  | .lineEnd => place.afterLineEnd
  | piece => place.afterColumns piece.chars.length

/-- What is reported of a piece: its characters, or one space for compressed whitespace. -/
def content (compress : Bool) (piece : Piece) : String :=
  if compress && piece.kind? == some .whitespace then " " else String.ofList piece.chars

/-- The token that a piece makes at a place. -/
def token? (compress : Bool) (place : Location) (piece : Piece) : Option Token :=
  piece.kind?.map fun kind => ⟨kind, place, piece.content compress⟩

/-- Whether a piece is a string that the end of the text cuts off. -/
def unfinished : Piece → Bool
  | .string _ _ closed => !closed
  | _ => false

/-- Only an open string is cut off by the end of the text. -/
theorem unfinished_iff {piece : Piece} :
    piece.unfinished = true ↔ ∃ delimiter inner, piece = .string delimiter inner false := by
  cases piece <;> simp [unfinished]

/-- The counters after a piece. -/
def count (piece : Piece) (metrics : Metrics) : Metrics :=
  match piece.kind? with
  | none => metrics
  | some kind =>
    let counted := metrics.record kind piece.chars.length
    { counted with unterminated := counted.unterminated + if piece.unfinished then 1 else 0 }

/-- The tokens that pieces make from a place on. -/
def tokens (compress : Bool) : Location → List Piece → List Token
  | _, [] => []
  | place, piece :: pieces =>
    (piece.token? compress place).toList ++ tokens compress (piece.after place) pieces

/-- The place after pieces. -/
def endOf (place : Location) (pieces : List Piece) : Location :=
  pieces.foldl after place

/-- The tokens of a text of which the pieces are known, the end of the text included. -/
def tokensToEnd (compress : Bool) (place : Location) (pieces : List Piece) : List Token :=
  tokens compress place pieces ++ [⟨.textEnd, endOf place pieces, ""⟩]

/-- Without pieces there is only the end of the text. -/
@[simp] theorem tokensToEnd_nil (compress : Bool) (place : Location) :
    tokensToEnd compress place [] = [⟨.textEnd, place, ""⟩] := rfl

/-- The token of a piece, if it makes one, comes before those of the later pieces. -/
@[simp] theorem tokensToEnd_cons (compress : Bool) (place : Location) (piece : Piece)
    (pieces : List Piece) :
    tokensToEnd compress place (piece :: pieces) =
      (piece.token? compress place).toList ++ tokensToEnd compress (piece.after place) pieces := by
  simp [tokensToEnd, tokens, endOf]

/-- A piece takes as many characters of the text as it has. -/
theorem after_offset (place : Location) (piece : Piece) :
    (piece.after place).offset = place.offset + piece.chars.length := by
  cases piece <;> rfl

end Piece

namespace OpenToken

/-- Whether an open token takes a character and stays open. -/
def takes (charsets : Charsets) : OpenToken → Char → Bool
  | .nothing, _ => false
  | .other _ _, c => isOther charsets c
  | .run runClass _ _, c => extendsRun charsets runClass c
  | .quoted delimiter _ _, c => c != delimiter

/-- An open token with more characters read. -/
def grow (text : List Char) : OpenToken → OpenToken
  | .nothing => .nothing
  | .other start read => .other start (text.reverse ++ read)
  | .run runClass start read => .run runClass start (text.reverse ++ read)
  | .quoted delimiter start read => .quoted delimiter start (text.reverse ++ read)

/-- Whether the end of the text completes an open token as any other character would. -/
def closable : OpenToken → Bool
  | .quoted _ _ _ => false
  | _ => true

/-- Nothing read leaves an open token as it is. -/
@[simp] theorem grow_nil (inside : OpenToken) : inside.grow [] = inside := by
  cases inside <;> rfl

/-- Characters are taken one after another. -/
theorem grow_cons (inside : OpenToken) (c : Char) (text : List Char) :
    (inside.grow [c]).grow text = inside.grow (c :: text) := by
  cases inside <;> simp [grow]

/-- An open token takes the same characters however many it has read. -/
theorem takes_grow (charsets : Charsets) (inside : OpenToken) (text : List Char) :
    (inside.grow text).takes charsets = inside.takes charsets := by
  cases inside <;> rfl

end OpenToken

namespace Scan

/-- A scan after a piece, when it was in the middle of no token. -/
def add (compress : Bool) (scan : Scan) (piece : Piece) : Scan where
  place := piece.after scan.place
  inside := .nothing
  tokens := scan.tokens ++ (piece.token? compress scan.place).toArray
  metrics := scan.metrics.map piece.count

/-- A scan after the end of the text, when it was in the middle of no token. -/
def endText (scan : Scan) : Scan where
  place := scan.place
  inside := .nothing
  tokens := scan.tokens.push ⟨.textEnd, scan.place, ""⟩
  metrics := scan.metrics.map fun metrics =>
    { metrics.record .textEnd 0 with charsConsumed := scan.place.offset }

variable {charsets : Charsets} {compress : Bool}

/-- Nothing read leaves a scan as it is. -/
@[simp] theorem readAll_nil (scan : Scan) : scan.readAll charsets compress [] = scan := rfl

/-- The first character is read before the others. -/
@[simp] theorem readAll_cons (scan : Scan) (c : Char) (text : List Char) :
    scan.readAll charsets compress (c :: text) =
      (scan.step charsets compress c).readAll charsets compress text := rfl

/-- A text read in two parts is read as a whole. -/
theorem readAll_append (scan : Scan) (first second : List Char) :
    scan.readAll charsets compress (first ++ second) =
      (scan.readAll charsets compress first).readAll charsets compress second :=
  List.foldl_append

/-- A character that the open token takes is kept in it. -/
theorem step_taken {scan : Scan} {c : Char} (taken : scan.inside.takes charsets c = true) :
    scan.step charsets compress c = scan.take (scan.inside.grow [c]) := by
  cases inside : scan.inside with
  | nothing => simp [inside, OpenToken.takes] at taken
  | other start read =>
    have others : isOther charsets c = true := by
      simpa only [inside, OpenToken.takes] using taken
    simp [step, inside, others, OpenToken.grow]
  | run runClass start read =>
    have taking : extendsRun charsets runClass c = true := by
      simpa only [inside, OpenToken.takes] using taken
    simp [step, inside, taking, OpenToken.grow]
  | quoted delimiter start read =>
    have apart : c ≠ delimiter := by
      simpa [inside, OpenToken.takes] using taken
    simp [step, inside, apart, OpenToken.grow]

/-- Characters that the open token takes are kept in it, a column each. -/
theorem readAll_taken {scan : Scan} {text : List Char}
    (taken : ∀ c ∈ text, scan.inside.takes charsets c = true) :
    scan.readAll charsets compress text =
      { scan with
        place := scan.place.afterColumns text.length
        inside := scan.inside.grow text } := by
  induction text generalizing scan with
  | nil => simp
  | cons c text ih =>
    obtain ⟨first, others⟩ := List.forall_mem_cons.mp taken
    rw [readAll_cons, step_taken first, ih (by simpa [take, OpenToken.takes_grow] using others)]
    simp [take, OpenToken.grow_cons, Location.afterColumns_afterColumn]

/-- A completed token leaves none open. -/
theorem close_inside (compress : Bool) (scan : Scan) : (scan.close compress).inside = .nothing := by
  cases inside : scan.inside <;> simp [close, inside, push]

/-- Where no token is open there is none to complete. -/
theorem close_of_nothing (compress : Bool) {scan : Scan} (idle : scan.inside = .nothing) :
    scan.close compress = scan := by
  simp [close, idle]

/-- What a character opens while no token is open. -/
theorem step_of_nothing {scan : Scan} (idle : scan.inside = .nothing) (c : Char) :
    scan.step charsets compress c = scan.enter charsets c := by
  simp [step, idle]

/-- A character that the open token does not take is read after the token is completed. -/
theorem step_refused {scan : Scan} {c : Char} (closable : scan.inside.closable = true)
    (refused : scan.inside.takes charsets c = false) :
    scan.step charsets compress c = (scan.close compress).step charsets compress c := by
  have idle := close_inside compress scan
  rw [step_of_nothing idle]
  cases inside : scan.inside with
  | nothing => rw [step_of_nothing inside, close_of_nothing compress inside]
  | other start read =>
    have classified : isOther charsets c = false := by
      simpa only [inside, OpenToken.takes] using refused
    simp [step, inside, classified]
  | run runClass start read =>
    have stops : extendsRun charsets runClass c = false := by
      simpa only [inside, OpenToken.takes] using refused
    simp [step, inside, stops]
  | quoted delimiter start read => simp [inside, OpenToken.closable] at closable

/-- Only in a string is a text cut off by its end. -/
theorem unterminated?_of_closable {scan : Scan} (closable : scan.inside.closable = true) :
    scan.unterminated? = none := by
  cases inside : scan.inside with
  | quoted delimiter start read => simp [inside, OpenToken.closable] at closable
  | _ => simp [unterminated?, inside]

/-- A token that has to stop may be completed before the text goes on. -/
theorem finish_readAll_close {scan : Scan} {text : List Char}
    (closable : scan.inside.closable = true)
    (stop : ∀ c ∈ text.head?, scan.inside.takes charsets c = false) :
    (scan.readAll charsets compress text).finish compress =
      ((scan.close compress).readAll charsets compress text).finish compress := by
  cases text with
  | nil =>
    have idle := close_inside compress scan
    have again : (scan.close compress).close compress = scan.close compress :=
      close_of_nothing compress idle
    have whole : scan.unterminated? = none := unterminated?_of_closable closable
    have none : (scan.close compress).unterminated? = none :=
      unterminated?_of_closable (by rw [idle]; rfl)
    simp only [readAll_nil, finish, again, whole, none]
  | cons c text => rw [readAll_cons, readAll_cons, step_refused closable (stop c rfl)]

/-- A character that opens a token, and characters that the token takes. -/
theorem readAll_opened (compress : Bool) {scan : Scan} {c : Char} {text : List Char}
    {opened : OpenToken} (idle : scan.inside = .nothing)
    (entered : scan.enter charsets c = scan.take opened)
    (taken : ∀ d ∈ text, opened.takes charsets d = true) :
    scan.readAll charsets compress (c :: text) =
      { scan with
        place := scan.place.afterColumns (text.length + 1)
        inside := opened.grow text } := by
  rw [readAll_cons, step_of_nothing idle, entered, readAll_taken taken]
  simp [take, Location.afterColumns_afterColumn]

/-- A carriage return that makes no token is dropped. -/
theorem add_dropped {scan : Scan} (idle : scan.inside = .nothing) :
    scan.add compress .dropped = scan.drop := by
  have kept : scan.metrics.map Piece.dropped.count = scan.metrics := by
    cases scan.metrics <;> rfl
  simp [add, drop, idle, Piece.after, Piece.token?, Piece.kind?, kept]

/-- A piece that the text does not cut off completes its token. -/
theorem add_eq_push (compress : Bool) (scan : Scan) {piece : Piece} {kind : Kind}
    (made : piece.kind? = some kind) (finished : piece.unfinished = false) :
    scan.add compress piece =
      { scan.push ⟨kind, scan.place, piece.content compress⟩ piece.chars.length with
        place := piece.after scan.place } := by
  have counted : piece.count = fun metrics => metrics.record kind piece.chars.length := by
    funext metrics
    simp [Piece.count, made, finished]
  simp [add, push, Piece.token?, made, counted]

/-- What is reported of a run is what is reported of its piece. -/
theorem runContent_eq_content (runClass : RunClass) (first : Char) (more : List Char) :
    runContent compress runClass (more.reverse ++ [first]) =
      (Piece.run runClass first more).content compress := by
  cases runClass <;> simp [runContent, Piece.content, Piece.kind?, RunClass.kind]

/-- A delimiter opens a string, which takes the characters up to the next one. -/
theorem readAll_quoted {scan : Scan} {delimiter : Char} {inner : List Char}
    (idle : scan.inside = .nothing) (quote : charsets.isQuote delimiter = true)
    (absent : delimiter ∉ inner) :
    scan.readAll charsets compress (delimiter :: inner) =
      { scan with
        place := scan.place.afterColumns (inner.length + 1)
        inside := .quoted delimiter scan.place (inner.reverse ++ [delimiter]) } := by
  have entered : scan.enter charsets delimiter =
      scan.take (.quoted delimiter scan.place [delimiter]) := by
    simp [enter, quote]
  have inside : ∀ c ∈ inner,
      (OpenToken.quoted delimiter scan.place [delimiter]).takes charsets c = true := by
    intro c member
    simpa [OpenToken.takes] using ne_of_mem_of_not_mem member absent
  exact readAll_opened compress idle entered inside

/-- A string that its delimiter closes is read as a whole. -/
theorem readAll_closed {scan : Scan} {delimiter : Char} {inner : List Char}
    (idle : scan.inside = .nothing) (quote : charsets.isQuote delimiter = true)
    (absent : delimiter ∉ inner) :
    scan.readAll charsets compress (delimiter :: (inner ++ [delimiter])) =
      scan.add compress (.string delimiter inner true) := by
  have made : (Piece.string delimiter inner true).kind? = some .string := rfl
  rw [← List.cons_append, readAll_append, readAll_quoted idle quote absent,
    add_eq_push compress scan made rfl]
  simp [step, take, close, push, Piece.content, Piece.kind?, Piece.after,
    Location.afterColumn_afterColumns]

/-- A string that the end of the text cuts off is a token, and is counted as such a string. -/
theorem finish_unterminated (scan : Scan) (delimiter : Char) (inner : List Char) :
    finish compress
        { scan with
          place := scan.place.afterColumns (inner.length + 1)
          inside := .quoted delimiter scan.place (inner.reverse ++ [delimiter]) } =
      (scan.add compress (.string delimiter inner false)).finish compress := by
  cases counted : scan.metrics <;>
    simp [finish, close, push, add, unterminated?, counted, Piece.after, Piece.token?,
      Piece.kind?, Piece.content, Piece.count, Piece.unfinished, Metrics.record, Metrics.countKind]

/-- A scan that has read all of its open token in front of a character, and the scan that it becomes
when the token is completed. -/
structure Completes (charsets : Charsets) (compress : Bool) (next : Option Char)
    (read done : Scan) : Prop where
  closable : read.inside.closable = true
  stops : ∀ c ∈ next, read.inside.takes charsets c = false
  closed : read.close compress = done

/-- When the characters of a run are read, the run is left to be completed. -/
theorem completes_readAll_run (compress : Bool) {scan : Scan} {runClass : RunClass} {first : Char}
    {more : List Char} {next : Option Char} (idle : scan.inside = .nothing)
    (fits : (Piece.run runClass first more).Fits charsets next) :
    Completes charsets compress next (scan.readAll charsets compress (first :: more))
      (scan.add compress (.run runClass first more)) := by
  obtain ⟨noQuote, noReturn, noFeed, classified, inside, stop⟩ := fits
  have entered : scan.enter charsets first = scan.take (.run runClass scan.place [first]) := by
    simp [enter, noQuote, noReturn, noFeed, classified]
  have made : (Piece.run runClass first more).kind? = some runClass.kind := rfl
  rw [readAll_opened compress idle entered inside, add_eq_push compress scan made rfl]
  refine ⟨rfl, stop, ?_⟩
  simp [close, OpenToken.grow, push, runContent_eq_content, Piece.after]

/-- When characters of no class are read, their token is left to be completed. -/
theorem completes_readAll_other (compress : Bool) {scan : Scan} {first : Char} {more : List Char}
    {next : Option Char} (idle : scan.inside = .nothing)
    (fits : (Piece.other first more).Fits charsets next) :
    Completes charsets compress next (scan.readAll charsets compress (first :: more))
      (scan.add compress (.other first more)) := by
  obtain ⟨inside, stop⟩ := fits
  have ⟨others, rest⟩ := List.forall_mem_cons.mp inside
  obtain ⟨noQuote, noReturn, noFeed, unclassified⟩ := Piece.isOther_iff.mp others
  have entered : scan.enter charsets first = scan.take (.other scan.place [first]) := by
    simp [enter, noQuote, noReturn, noFeed, unclassified]
  have made : (Piece.other first more).kind? = some .other := rfl
  rw [readAll_opened compress idle entered rest, add_eq_push compress scan made rfl]
  refine ⟨rfl, stop, ?_⟩
  simp [close, OpenToken.grow, push, Piece.content, Piece.kind?, Piece.after]

/-- When a piece is read that the text does not cut off, the next character does not belong to it,
and completing its token adds the piece. -/
theorem completes_readAll_piece (compress : Bool) {scan : Scan} {piece : Piece} {next : Option Char}
    (idle : scan.inside = .nothing) (fits : piece.Fits charsets next)
    (finished : piece.unfinished = false) :
    Completes charsets compress next (scan.readAll charsets compress piece.chars)
      (scan.add compress piece) := by
  have complete {read : Scan} (added : read = scan.add compress piece) :
      Completes charsets compress next read (scan.add compress piece) := by
    rw [added]
    exact ⟨rfl, fun _ _ => rfl, close_of_nothing compress rfl⟩
  cases piece with
  | dropped =>
    have noQuote : charsets.isQuote '\r' = false := fits
    apply complete
    rw [add_dropped idle]
    simp [Piece.chars, Piece.opening, Piece.following, step_of_nothing idle, enter, noQuote]
  | lineEnd =>
    have noQuote : charsets.isQuote '\n' = false := fits
    have made : Piece.lineEnd.kind? = some .lineEnd := rfl
    apply complete
    rw [add_eq_push compress scan made rfl]
    simp [Piece.chars, Piece.opening, Piece.following, step_of_nothing idle, enter, noQuote,
      endLine, Piece.after, Piece.content, Piece.kind?]
  | run runClass first more => exact completes_readAll_run compress idle fits
  | string delimiter inner closed =>
    obtain rfl : closed = true := by simpa [Piece.unfinished] using finished
    apply complete
    rw [← readAll_closed idle fits.1 fits.2.1]
    rfl
  | other first more => exact completes_readAll_other compress idle fits

/-- Whatever a piece is, it is read as a whole before the text goes on. -/
theorem finish_readAll_piece {scan : Scan} {piece : Piece} {text : List Char}
    (idle : scan.inside = .nothing) (fits : piece.Fits charsets text.head?) :
    (scan.readAll charsets compress (piece.chars ++ text)).finish compress =
      ((scan.add compress piece).readAll charsets compress text).finish compress := by
  rw [readAll_append]
  cases cut : piece.unfinished with
  | false =>
    have completes := completes_readAll_piece compress idle fits cut
    rw [finish_readAll_close completes.closable completes.stops, completes.closed]
  | true =>
    obtain ⟨delimiter, inner, rfl⟩ := Piece.unfinished_iff.mp cut
    obtain ⟨quote, absent, ends⟩ := fits
    obtain rfl : text = [] := by simpa using ends
    rw [Piece.chars_open, readAll_quoted idle quote absent]
    exact finish_unterminated scan delimiter inner

/-- Where no token is open, the end of the text adds only its own token. -/
theorem finish_of_nothing {scan : Scan} (idle : scan.inside = .nothing) :
    scan.finish compress = scan.endText := by
  have none : scan.unterminated? = none := unterminated?_of_closable (by rw [idle]; rfl)
  cases counted : scan.metrics <;>
    simp [finish, none, close_of_nothing compress idle, endText, push, counted]

/-- A scan adds the pieces of its text one after another, and then the end of the text. -/
theorem finish_readAll (compress : Bool) {scan : Scan} {text : List Char} {pieces : List Piece}
    (idle : scan.inside = .nothing) (reading : Reading charsets text pieces) :
    (scan.readAll charsets compress text).finish compress =
      (pieces.foldl (add compress) scan).endText := by
  induction reading generalizing scan with
  | nil => exact finish_of_nothing idle
  | cons fits reading ih =>
    rw [finish_readAll_piece idle fits, ih rfl, List.foldl_cons]

/-- The place that a scan comes to by adding pieces. -/
theorem foldl_add_place (scan : Scan) (pieces : List Piece) :
    (pieces.foldl (add compress) scan).place = Piece.endOf scan.place pieces := by
  induction pieces generalizing scan with
  | nil => rfl
  | cons piece pieces ih => exact ih (scan.add compress piece)

/-- The tokens that a scan completes by adding pieces. -/
theorem foldl_add_tokens (scan : Scan) (pieces : List Piece) :
    (pieces.foldl (add compress) scan).tokens.toList =
      scan.tokens.toList ++ Piece.tokens compress scan.place pieces := by
  induction pieces generalizing scan with
  | nil => simp [Piece.tokens]
  | cons piece pieces ih =>
    rw [List.foldl_cons, ih]
    simp [add, Piece.tokens]

end Scan

/-- At the start of a text, all its characters are left to read. -/
theorem Cursor.rest_ofString (source : String) : (ofString source).rest = source.toList := by
  simp [rest, ofString]

namespace Lexer

/-- The place where a lexer starts to scan. -/
def startPlace (lexer : Lexer) : Location := ⟨lexer.cursor.position, 1, 1⟩

/-- The tokens of a lexer are those of the pieces of the text that it has not yet read. -/
theorem tokens_of_reading {lexer : Lexer} {pieces : List Piece} (compress : Bool)
    (reading : Reading lexer.charsets lexer.cursor.rest pieces) :
    (lexer.tokens compress).1.result = Piece.tokensToEnd compress lexer.startPlace pieces := by
  have idle : (Scan.start lexer.cursor.position lexer.cursor.length
    lexer.preferences.collectMetrics).inside = .nothing := rfl
  have finished := Scan.finish_readAll compress idle reading
  simp only [tokens, complete, readRest, finished, Scan.endText, Array.toList_push, Scan.foldl_add_tokens,
    Scan.foldl_add_place, Piece.tokensToEnd]
  simp [Scan.start, startPlace]

end Lexer

/-- The tokens of a source text are those of its pieces. -/
theorem tokenize_of_reading {source : String} {charsets : Charsets} {pieces : List Piece}
    (compress : Bool) (reading : Reading charsets source.toList pieces) :
    tokenize source compress charsets = Piece.tokensToEnd compress .start pieces := by
  let lexer : Lexer := { Lexer.ofString source with charsets }
  have rest : lexer.cursor.rest = source.toList := Cursor.rest_ofString source
  exact Lexer.tokens_of_reading compress (show Reading lexer.charsets _ pieces from rest ▸ reading)

end CharLexer
