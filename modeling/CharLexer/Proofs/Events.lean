import CharLexer.Proofs.ByLine
import CharLexer.Proofs.Counters
import CharLexer.Session

/-!
# Events of a scan

What a scan tells the log is stated here by the tokens that it gives (`Token.story`): a string that
the end of the text cuts off, how many tokens and lines there are, and how many tokens of each kind.
Preferences say how much is told and the logger how much of it is written. Neither has any effect on
the tokens (`events_of_tokens`).
-/
namespace CharLexer

open Log (Clock Event Logger Timestamp)

namespace Scan

variable {charsets : Charsets}

/-- A token that has to stop, completed before the text goes on, leaves the same string open at the
end, if any. -/
theorem unterminated?_readAll_close (compress : Bool) {scan : Scan} {text : List Char}
    (closable : scan.inside.closable = true)
    (stop : ∀ c ∈ text.head?, scan.inside.takes charsets c = false) :
    (scan.readAll charsets compress text).unterminated? =
      ((scan.close compress).readAll charsets compress text).unterminated? := by
  cases text with
  | nil =>
    have idle := close_inside compress scan
    have whole : scan.unterminated? = none := unterminated?_of_closable closable
    have none : (scan.close compress).unterminated? = none :=
      unterminated?_of_closable (by rw [idle]; rfl)
    rw [readAll_nil, readAll_nil, whole, none]
  | cons c text => rw [readAll_cons, readAll_cons, step_refused closable (stop c rfl)]

/-- A piece that the text cuts off is left open at the end, with its delimiter and its place. Any
other piece is read as a whole before the text goes on. -/
theorem unterminated?_readAll_piece (compress : Bool) {scan : Scan} {piece : Piece}
    {text : List Char} (idle : scan.inside = .nothing) (fits : piece.Fits charsets text.head?) :
    (scan.readAll charsets compress (piece.chars ++ text)).unterminated? =
      if piece.unfinished then some (piece.opening, scan.place)
      else ((scan.add compress piece).readAll charsets compress text).unterminated? := by
  rw [readAll_append]
  cases cut : piece.unfinished with
  | false =>
    have completes := completes_readAll_piece compress idle fits cut
    rw [unterminated?_readAll_close compress completes.closable completes.stops, completes.closed]
    rfl
  | true =>
    obtain ⟨delimiter, inner, rfl⟩ := Piece.unfinished_iff.mp cut
    obtain ⟨quote, absent, ends⟩ := fits
    obtain rfl : text = [] := by simpa using ends
    rw [Piece.chars_open, readAll_quoted idle quote absent]
    rfl

end Scan

namespace Token

/-- The string that the end of a text cuts off: the last token in front of that end, if it is one
without its closing delimiter. -/
def cutOff? (tokens : List Token) : Option Token :=
  (beforeEnd tokens).getLast?.filter isUnterminated

/-- The characters that open a token: the first one, or none. -/
def opening (token : Token) : String := String.ofList (token.content.toList.take 1)

/-- The event that a scan of a text of so many characters starts. -/
def startEvent (characters : Nat) (compress : Bool) : Event where
  level := .debug
  code := ⟨"S100"⟩
  message := "Starting lexical scan"
  context := [("chars", toString characters),
    ("compress_whitespace", if compress then "true" else "false")]

/-- The event of a string that is cut off: where it begins, and with which character. -/
def cutOffEvent (token : Token) : Event where
  level := .debug
  code := ⟨"S001"⟩
  message := "String literal runs to end of input"
  location := some token.location
  context := [("delimiter", token.opening)]

/-- The event of the figures of a scan: the number of its tokens, and the line and the offset of the
token that ends the text. -/
def completeEvent (tokens : List Token) (ended : Token) : Event where
  level := .info
  code := ⟨"S101"⟩
  message := "Lexical scan complete"
  context := [("tokens", toString tokens.length), ("lines", toString ended.location.line),
    ("chars", toString ended.location.offset)]

/-- The event of the tokens of a scan counted by kind. The longest of them is measured before
whitespace is compressed. -/
def countsEvent (tokens uncompressed : List Token) : Event :=
  let count := fun kind => toString ((tokens.map Token.kind).count kind)
  { level := .debug
    code := ⟨"S102"⟩
    message := "Token type distribution"
    context := [("whitespace", count .whitespace), ("letters", count .letters),
      ("digits", count .digits), ("symbols", count .symbols), ("strings", count .string),
      ("other", count .other), ("eol", count .lineEnd),
      ("unterminated_strings", toString (if (cutOff? tokens).isSome then 1 else 0)),
      ("longest_run", toString ((uncompressed.map charCount).max?.getD 0))] }

/-- The event of tokens grouped into so many lines. -/
def groupedEvent (lines : Nat) : Event where
  level := .debug
  code := ⟨"S103"⟩
  message := "Tokens grouped by line"
  context := [("lines", toString lines)]

/-- What is to be told of the tokens of a scan behind its start. -/
def story (preferences : LexicalPreferences) (tokens uncompressed : List Token) (ended : Token) :
    List Event :=
  (if preferences.logUnterminatedStrings then (cutOff? tokens).toList.map cutOffEvent else []) ++
    if preferences.logScanStatistics then
      completeEvent tokens ended ::
        if preferences.collectMetrics then [countsEvent tokens uncompressed] else []
    else []

end Token

/-- Counters that describe tokens are told as those tokens are. -/
theorem Metrics.Describes.countsEvent {metrics : Metrics} {tokens uncompressed : List Token}
    (describes : metrics.Describes tokens uncompressed) :
    Lexer.countsEvent metrics = Token.countsEvent tokens uncompressed := by
  have whitespace : metrics.whitespace = _ := describes.countOf .whitespace
  have letters : metrics.letters = _ := describes.countOf .letters
  have digits : metrics.digits = _ := describes.countOf .digits
  have symbols : metrics.symbols = _ := describes.countOf .symbols
  have strings : metrics.strings = _ := describes.countOf .string
  have other : metrics.other = _ := describes.countOf .other
  have lineEnds : metrics.lineEnds = _ := describes.countOf .lineEnd
  have unterminated : metrics.unterminated = if (Token.cutOff? tokens).isSome then 1 else 0 := by
    rw [describes.unterminated, Token.cutOff?]
    cases (Token.beforeEnd tokens).getLast? <;> simp
  simp only [Lexer.countsEvent, Token.countsEvent, whitespace, letters, digits, symbols, strings,
    other, lineEnds, unterminated, describes.longestRun, Option.getD_some]
  rfl

namespace Reading

variable {charsets : Charsets} {text : List Char} {pieces : List Piece}

/-- The string that a scan has open at the end of its text is the last of its tokens, when that is
cut off: it opens with the delimiter and stands at the place. -/
theorem opening_of_unterminated (compress : Bool) {scan : Scan} (idle : scan.inside = .nothing)
    (reading : Reading charsets text pieces) :
    ((scan.readAll charsets compress text).unterminated?.map fun left =>
        (left.1.toString, left.2)) =
      ((Piece.tokens compress scan.place pieces).getLast?.filter Token.isUnterminated).map
        fun token => (token.opening, token.location) := by
  induction reading generalizing scan with
  | nil =>
    have none : scan.unterminated? = none := Scan.unterminated?_of_closable (by rw [idle]; rfl)
    rw [Scan.readAll_nil, none]
    rfl
  | @cons piece text pieces fits reading ih =>
    have later := @ih (scan.add compress piece) rfl
    rw [Scan.unterminated?_readAll_piece compress idle fits, Piece.tokens, List.getLast?_append]
    cases cut : piece.unfinished with
    | false =>
      -- The piece is no string that is cut off, so only the later ones can be.
      rw [if_neg Bool.false_ne_true, later]
      cases last : (Piece.tokens compress (piece.after scan.place) pieces).getLast? with
      | some token => simp [Scan.add, last]
      | none =>
        cases made : piece.token? compress scan.place with
        | none => simp [Scan.add, last]
        | some token => simp [Scan.add, last, fits.isUnterminated made, cut]
    | true =>
      obtain ⟨delimiter, inner, rfl⟩ := Piece.unfinished_iff.mp cut
      obtain rfl := List.head?_eq_none_iff.mp (fits.next_of_unfinished cut)
      obtain rfl := reading.unique .nil
      have made : (Piece.string delimiter inner false).token? compress scan.place =
          some ⟨.string, scan.place, (Piece.string delimiter inner false).content compress⟩ := rfl
      have unterminated := (fits.isUnterminated made).trans cut
      rw [if_pos rfl, made, Piece.tokens, List.getLast?_nil, Option.none_or, Option.toList_some,
        List.getLast?_singleton, Option.filter_some, if_pos unterminated]
      simp [Token.opening, Piece.content, Piece.kind?, Piece.opening]

end Reading

namespace Token

/-- A string is cut off as it is kept. -/
theorem cutOff?_map_stored (tokens : List Token) :
    cutOff? (tokens.map stored) = (cutOff? tokens).map stored := by
  rw [cutOff?, beforeEnd_map_stored, List.getLast?_map, Option.filter_map]
  rfl

/-- The counts of tokens are those of the tokens as they are kept. -/
theorem countsEvent_map_stored (tokens uncompressed : List Token) :
    countsEvent (tokens.map stored) (uncompressed.map stored) = countsEvent tokens uncompressed := by
  simp only [countsEvent, cutOff?_map_stored, Option.isSome_map, List.map_map]
  rfl

end Token

namespace Lexer

/-- The tokens of an exact scan depend on what is left of the text and on the sets, and on nothing
else of the lexer. -/
theorem tokens_congr {first second : Lexer} (cursor : first.cursor = second.cursor)
    (charsets : first.charsets = second.charsets) (compress : Bool) :
    (first.tokens compress).1.result = (second.tokens compress).1.result := by
  obtain ⟨pieces, reading⟩ := Reading.exists_reading first.charsets first.cursor.rest
  have same : Reading second.charsets second.cursor.rest pieces := cursor ▸ charsets ▸ reading
  have start : first.startPlace = second.startPlace := by rw [startPlace, startPlace, cursor]
  rw [tokens_of_reading compress reading, tokens_of_reading compress same, start]

/-- So do the tokens of a scan. -/
theorem scan_congr {first second : Lexer} (cursor : first.cursor = second.cursor)
    (charsets : first.charsets = second.charsets) (compress : Bool) :
    (first.scan compress).1.result = (second.scan compress).1.result := by
  rw [result_scan, result_scan, tokens_congr cursor charsets]

variable {lexer : Lexer} {pieces : List Piece}

/-- A scan starts with the event of its start. -/
theorem startEvent_eq (lexer : Lexer) (compress : Bool) :
    lexer.startEvent compress = Token.startEvent lexer.cursor.length compress := by
  cases compress <;> rfl

/-- A scan ends at the end of its pieces. -/
theorem place_of_reading (compress : Bool)
    (reading : Reading lexer.charsets lexer.cursor.rest pieces) :
    ((lexer.readRest compress).finish compress).place = Piece.endOf lexer.startPlace pieces := by
  have idle : (Scan.start lexer.cursor.position lexer.cursor.length
    lexer.preferences.collectMetrics).inside = .nothing := rfl
  have finished := Scan.finish_readAll compress idle reading
  rw [readRest, finished, Scan.endText, Scan.foldl_add_place]
  rfl

/-- A string is told to be cut off exactly when the last token is one, if such are to be told. -/
theorem unterminatedEvents_of_reading (compress : Bool)
    (reading : Reading lexer.charsets lexer.cursor.rest pieces) :
    unterminatedEvents lexer.preferences (lexer.readRest compress).stored =
      if lexer.preferences.logUnterminatedStrings then
        (Token.cutOff? (lexer.scan compress).1.result).toList.map Token.cutOffEvent
      else [] := by
  have idle : (Scan.start lexer.cursor.position lexer.cursor.length
    lexer.preferences.collectMetrics).inside = .nothing := rfl
  have cutOff : Token.cutOff? (lexer.tokens compress).1.result =
      (Piece.tokens compress lexer.startPlace pieces).getLast?.filter Token.isUnterminated := by
    rw [Token.cutOff?, tokens_of_reading compress reading, Piece.beforeEnd_tokensToEnd]
  have told : ((lexer.readRest compress).unterminated?.map fun left =>
      (left.1.toString, left.2)) = (Token.cutOff? (lexer.tokens compress).1.result).map
        fun token => (token.opening, token.location) :=
    (reading.opening_of_unterminated compress idle).trans (cutOff ▸ rfl)
  have events := congrArg (fun told => (told.map fun (left : String × Location) =>
    (Event.raise .debug .stringUnterminated "String literal runs to end of input"
      [("delimiter", left.1)]).placedAt left.2.stored).toList) told
  rw [unterminatedEvents, Scan.unterminated?_stored, result_scan, Token.cutOff?_map_stored]
  simp only [Option.map_map, Option.toList_map, List.map_map] at events ⊢
  split
  · exact events
  · rfl

/-- The figures of a scan are told as its tokens are, if they are to be told. -/
theorem statisticsEvents_of_reading (compress : Bool)
    (reading : Reading lexer.charsets lexer.cursor.rest pieces) :
    let tokens := (lexer.scan compress).1.result
    let ended : Token := ⟨.textEnd, Piece.endOf lexer.startPlace pieces, ""⟩
    statisticsEvents lexer.preferences ((lexer.readRest compress).stored.finish compress) =
      if lexer.preferences.logScanStatistics then
        Token.completeEvent tokens ended.stored ::
          if lexer.preferences.collectMetrics then
            [Token.countsEvent tokens (lexer.scan false).1.result]
          else []
      else [] := by
  intro tokens ended
  have metrics := metrics_of_reading compress reading
  have place := place_of_reading compress reading
  have describes := reading.describes compress lexer.startPlace
  rw [← tokens_of_reading compress reading, ← tokens_of_reading false reading] at describes
  have counts : Token.countsEvent tokens (lexer.scan false).1.result = _ :=
    (congrArg₂ Token.countsEvent (result_scan lexer compress) (result_scan lexer false)).trans
      (Token.countsEvent_map_stored _ _)
  rw [counts, ← describes.countsEvent, statisticsEvents, ← Scan.stored_finish]
  change ((lexer.readRest compress).finish compress).metrics = _ at metrics
  have complete : completeEvent ((lexer.readRest compress).finish compress).stored =
      Token.completeEvent tokens ended.stored := by
    have kept : ((lexer.readRest compress).finish compress).stored.place = ended.stored.location :=
      congrArg Location.stored place
    rw [completeEvent, kept, Scan.stored_finish]
    rfl
  have keptMetrics : ((lexer.readRest compress).finish compress).stored.metrics = _ := metrics
  rw [complete, keptMetrics]
  cases lexer.preferences.collectMetrics <;> rfl

/-- The events of a scan are its start and what is to be told of its tokens. -/
theorem events_of_reading (compress : Bool)
    (reading : Reading lexer.charsets lexer.cursor.rest pieces) :
    let ended : Token := ⟨.textEnd, Piece.endOf lexer.startPlace pieces, ""⟩
    (lexer.scan compress).1.events =
      Token.startEvent lexer.cursor.length compress ::
        Token.story lexer.preferences (lexer.scan compress).1.result
          (lexer.scan false).1.result ended.stored := by
  intro ended
  rw [Token.story, ← unterminatedEvents_of_reading compress reading,
    ← statisticsEvents_of_reading compress reading, ← startEvent_eq]
  rfl

end Lexer

/-- A grouping that is complete has as many lines as the line of the end of the text says. -/
theorem Lines.Complete.count {lines : Lines} {tokens : List Token} {ended : Token}
    (complete : lines.Complete tokens ended) : lines.count = ended.location.line := by
  have numbers := congrArg List.length complete.numbers
  simpa [Lines.numbers, Lines.toList, Lines.count] using numbers

namespace Log

/-- The lines that a logger writes of events: one for each event that its level admits, with the
moment at which it is raised. -/
def Logger.entries (logger : Logger) (stamped : List (Timestamp × Event)) : List String :=
  (stamped.filter fun entry => logger.level.admits entry.2.level).map fun entry =>
    logger.sink.line entry.1 entry.2 ++ "\n"

/-- Of an event that is raised the logger writes the line exactly when its level admits it: being
asked twice is as being asked once. -/
theorem Logger.raised_eq (logger : Logger) (moment : Timestamp) (event : Event) :
    logger.raised moment event =
      if logger.level.admits event.level then logger.sink.line moment event ++ "\n" else "" := by
  unfold raised log enabled
  by_cases admitted : logger.level.admits event.level = true
  · rw [if_pos admitted, if_pos admitted]
  · rw [if_neg admitted, if_neg admitted]

/-- What is written of raised events are the lines of those that the level admits. -/
theorem Logger.lines_eq_join (logger : Logger) (stamped : List (Timestamp × Event)) :
    logger.lines stamped = String.join (logger.entries stamped) := by
  induction stamped with
  | nil => rfl
  | cons entry stamped ih =>
    change String.join (stamped.map fun entry => logger.raised entry.1 entry.2) = _ at ih
    rw [lines, List.map_cons, String.join_cons, ih, raised_eq]
    unfold entries
    rw [List.filter_cons]
    by_cases admitted : logger.level.admits entry.2.level = true
    · rw [if_pos admitted, if_pos admitted, List.map_cons, String.join_cons]
    · rw [if_neg admitted, if_neg admitted, String.empty_append]

end Log

/-- At the level of information, only the figures of a scan are written: not its start, not the
string that is cut off, and not the counts. -/
example :
    let lexer : Lexer := { Lexer.ofString "a\n'" with preferences.logUnterminatedStrings := true }
    let kept := fun level : Log.Level =>
      ((lexer.scanLines false).1.events.filter fun event => level.admits event.level).map
        fun event => (event.code.text, event.location)
    kept .debug = [("S100", none), ("S001", some ⟨2, 2, 1⟩), ("S101", none), ("S102", none),
        ("S103", none)] ∧
      kept .info = [("S101", none)] ∧ kept .error = [] := by
  decide

end CharLexer
