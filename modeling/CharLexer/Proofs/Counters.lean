import CharLexer.Proofs.Stored

/-!
# Counters

A scan counts its tokens while it makes them. Its counters are read off here from the tokens that
it gives (`metrics_of_tokens`): how many there are of each kind, how many characters the longest of
them takes from the text, and whether the last one is a string that the end of the text cuts off.
-/
namespace CharLexer

namespace Metrics

/-- A recorded token is one more. -/
@[simp] theorem total_record (metrics : Metrics) (kind : Kind) (consumed : Nat) :
    (metrics.record kind consumed).total = metrics.total + 1 := by
  cases kind <;> rfl

/-- A recorded token is one more of its kind, and of no other. -/
@[simp] theorem countOf_record (metrics : Metrics) (kind counted : Kind) (consumed : Nat) :
    (metrics.record kind consumed).countOf counted =
      metrics.countOf counted + [kind].count counted := by
  cases kind <;> cases counted <;> rfl

/-- A recorded token may be the longest. -/
@[simp] theorem longestRun_record (metrics : Metrics) (kind : Kind) (consumed : Nat) :
    (metrics.record kind consumed).longestRun = max metrics.longestRun consumed := by
  cases kind <;> rfl

/-- Recording a token does not say that it was cut off. -/
@[simp] theorem unterminated_record (metrics : Metrics) (kind : Kind) (consumed : Nat) :
    (metrics.record kind consumed).unterminated = metrics.unterminated := by
  cases kind <;> rfl

/-- The tokens of a kind are counted apart from the strings that are cut off. -/
@[simp] theorem countOf_with_unterminated (metrics : Metrics) (count : Nat) (kind : Kind) :
    { metrics with unterminated := count }.countOf kind = metrics.countOf kind := by
  cases kind <;> rfl

/-- The tokens of a kind are counted apart from the characters. -/
@[simp] theorem countOf_with_charsConsumed (metrics : Metrics) (count : Nat) (kind : Kind) :
    { metrics with charsConsumed := count }.countOf kind = metrics.countOf kind := by
  cases kind <;> rfl

end Metrics

namespace Piece

/-- How many characters the token of a piece takes from the text. -/
def taken : Piece → Nat
  | .dropped => 0
  | piece => piece.chars.length

/-- The kinds of the tokens that pieces make. -/
def kinds (pieces : List Piece) : List Kind := pieces.filterMap kind?

/-- The counters after pieces. -/
def countAll (metrics : Metrics) (pieces : List Piece) : Metrics :=
  pieces.foldl (fun counted piece => piece.count counted) metrics

/-- The counters of a text of which the pieces are known, the end of the text included. -/
def metricsToEnd (place : Location) (pieces : List Piece) : Metrics :=
  { (countAll {} pieces).record .textEnd 0 with charsConsumed := (endOf place pieces).offset }

/-- A piece that makes a token counts it, and counts it as cut off if it is. -/
theorem count_of_kind? {piece : Piece} {kind : Kind} (made : piece.kind? = some kind)
    (metrics : Metrics) :
    piece.count metrics =
      { metrics.record kind piece.taken with
        unterminated := metrics.unterminated + if piece.unfinished then 1 else 0 } := by
  have whole : piece.taken = piece.chars.length := by
    cases piece with
    | dropped => contradiction
    | _ => rfl
  simp [count, made, whole]

/-- The kind of the first piece comes before the kinds of the others. -/
@[simp] theorem kinds_cons (piece : Piece) (pieces : List Piece) :
    kinds (piece :: pieces) = piece.kind?.toList ++ kinds pieces := by
  cases made : piece.kind? <;> simp [kinds, made]

/-- The kinds of pieces in two parts. -/
@[simp] theorem kinds_append (front back : List Piece) :
    kinds (front ++ back) = kinds front ++ kinds back :=
  List.filterMap_append

/-- A piece adds its token to those counted. -/
theorem total_count (piece : Piece) (metrics : Metrics) :
    (piece.count metrics).total = metrics.total + piece.kind?.toList.length := by
  cases made : piece.kind? with
  | none => simp [count, made]
  | some kind => simp [count_of_kind? made]

/-- A piece adds its token to those counted of its kind. -/
theorem countOf_count (piece : Piece) (metrics : Metrics) (kind : Kind) :
    (piece.count metrics).countOf kind = metrics.countOf kind + piece.kind?.toList.count kind := by
  cases made : piece.kind? with
  | none => simp [count, made]
  | some kindMade =>
    rw [count_of_kind? made, Metrics.countOf_with_unterminated, Metrics.countOf_record]
    rfl

/-- A piece may be the longest. -/
theorem longestRun_count (piece : Piece) (metrics : Metrics) :
    (piece.count metrics).longestRun = max metrics.longestRun piece.taken := by
  cases made : piece.kind? with
  | none =>
    obtain rfl := kind?_eq_none.mp made
    exact (Nat.max_zero _).symm
  | some kind => simp [count_of_kind? made]

/-- A piece adds itself to the strings cut off if it is one. -/
theorem unterminated_count (piece : Piece) (metrics : Metrics) :
    (piece.count metrics).unterminated =
      metrics.unterminated + if piece.unfinished then 1 else 0 := by
  cases made : piece.kind? with
  | none =>
    obtain rfl := kind?_eq_none.mp made
    rfl
  | some kind => simp [count_of_kind? made]

/-- What pieces add to a counter, when it is known what a piece in front of others adds to it. -/
theorem countAll_add (counter : Metrics → Nat) (added : List Piece → Nat) (none : added [] = 0)
    (first : ∀ piece pieces metrics,
      counter (piece.count metrics) + added pieces = counter metrics + added (piece :: pieces))
    (metrics : Metrics) (pieces : List Piece) :
    counter (countAll metrics pieces) = counter metrics + added pieces := by
  induction pieces generalizing metrics with
  | nil => exact congrArg (counter metrics + ·) none.symm
  | cons piece pieces ih => exact (ih (piece.count metrics)).trans (first piece pieces metrics)

/-- Pieces add their tokens to those counted. -/
theorem total_countAll (metrics : Metrics) (pieces : List Piece) :
    (countAll metrics pieces).total = metrics.total + (kinds pieces).length := by
  refine countAll_add Metrics.total (fun pieces => (kinds pieces).length) rfl ?_ metrics pieces
  intro piece pieces metrics
  rw [total_count, kinds_cons, List.length_append, Nat.add_assoc]

/-- Pieces add their tokens to those counted of each kind. -/
theorem countOf_countAll (metrics : Metrics) (pieces : List Piece) (kind : Kind) :
    (countAll metrics pieces).countOf kind = metrics.countOf kind + (kinds pieces).count kind := by
  refine countAll_add (fun metrics => metrics.countOf kind)
    (fun pieces => (kinds pieces).count kind) rfl ?_ metrics pieces
  intro piece pieces metrics
  rw [countOf_count, kinds_cons, List.count_append, Nat.add_assoc]

/-- Pieces add those that are cut off to the strings cut off. -/
theorem unterminated_countAll (metrics : Metrics) (pieces : List Piece) :
    (countAll metrics pieces).unterminated = metrics.unterminated + pieces.countP unfinished := by
  refine countAll_add Metrics.unterminated (List.countP unfinished) rfl ?_ metrics pieces
  intro piece pieces metrics
  rw [unterminated_count, List.countP_cons, Nat.add_assoc, Nat.add_comm (pieces.countP unfinished)]

/-- After pieces, the longest token is the longest before or among them. -/
theorem longestRun_countAll (metrics : Metrics) (pieces : List Piece) :
    (countAll metrics pieces).longestRun = (pieces.map taken).foldl max metrics.longestRun := by
  induction pieces generalizing metrics with
  | nil => rfl
  | cons piece pieces ih =>
    have later := ih (piece.count metrics)
    rw [longestRun_count] at later
    exact later

variable (place : Location) (pieces : List Piece)

/-- Every piece that makes a token is counted, and so is the end of the text. -/
@[simp] theorem total_metricsToEnd :
    (metricsToEnd place pieces).total = (kinds pieces).length + 1 := by
  simp [metricsToEnd, total_countAll]

/-- The pieces of a kind are counted, and so is the end of the text. -/
@[simp] theorem countOf_metricsToEnd (kind : Kind) :
    (metricsToEnd place pieces).countOf kind = (kinds pieces ++ [Kind.textEnd]).count kind := by
  have fresh : ({} : Metrics).countOf kind = 0 := by cases kind <;> rfl
  rw [metricsToEnd, Metrics.countOf_with_charsConsumed, Metrics.countOf_record, countOf_countAll,
    fresh, Nat.zero_add, List.count_append]

/-- The longest piece counts, and the end of the text takes no character. -/
@[simp] theorem longestRun_metricsToEnd :
    (metricsToEnd place pieces).longestRun = (pieces.map taken).foldl max 0 := by
  simp [metricsToEnd, longestRun_countAll]

/-- The strings that are cut off are counted. -/
@[simp] theorem unterminated_metricsToEnd :
    (metricsToEnd place pieces).unterminated = pieces.countP unfinished := by
  simp [metricsToEnd, unterminated_countAll]

end Piece

/-- The counters that a scan comes to by adding pieces. -/
theorem Scan.foldl_add_metrics (compress : Bool) (scan : Scan) (pieces : List Piece) :
    (pieces.foldl (add compress) scan).metrics =
      scan.metrics.map fun metrics => Piece.countAll metrics pieces := by
  induction pieces generalizing scan with
  | nil => simp [Piece.countAll]
  | cons piece pieces ih =>
    rw [List.foldl_cons, ih]
    simp [add, Piece.countAll, Function.comp_def]

/-- A lexer has counters after a scan when it is to count, and they are those of the pieces of the
text that it had not yet read. -/
theorem Lexer.metrics_of_reading {lexer : Lexer} {pieces : List Piece} (compress : Bool)
    (reading : Reading lexer.charsets lexer.cursor.rest pieces) :
    (lexer.tokens compress).2.metrics =
      if lexer.preferences.collectMetrics then some (Piece.metricsToEnd lexer.startPlace pieces)
      else none := by
  have idle : (Scan.start lexer.cursor.position lexer.cursor.length
    lexer.preferences.collectMetrics).inside = .nothing := rfl
  have finished := Scan.finish_readAll compress idle reading
  simp only [tokens, complete, readRest, finished, Scan.endText, Scan.foldl_add_metrics,
    Scan.foldl_add_place]
  cases counts : lexer.preferences.collectMetrics <;>
    simp [Scan.start, Piece.metricsToEnd, startPlace]

namespace Token

/-- The tokens of a list in front of the end of the text. -/
def beforeEnd (tokens : List Token) : List Token := tokens.filter fun token => !token.isTextEnd

/-- The tokens in front of the end of the text are kept as the others are. -/
theorem beforeEnd_map_stored (tokens : List Token) :
    beforeEnd (tokens.map stored) = (beforeEnd tokens).map stored :=
  List.filter_map

/-- Whether the content of a token is that of a string without its closing delimiter: a single
character, or one that does not end as it begins. -/
def isUnterminated (token : Token) : Bool :=
  token.kind == .string &&
    (token.charCount == 1 || token.content.toList.getLast? != token.content.toList.head?)

end Token

namespace Piece

variable {charsets : Charsets} {compress : Bool} {place : Location}

/-- The tokens of pieces are of the kinds of the pieces, and the last one is the end of the
text. -/
theorem map_kind_tokensToEnd (compress : Bool) (place : Location) (pieces : List Piece) :
    (tokensToEnd compress place pieces).map Token.kind = kinds pieces ++ [.textEnd] := by
  induction pieces generalizing place with
  | nil => rfl
  | cons piece pieces ih =>
    rw [tokensToEnd_cons, List.map_append, ih, kinds_cons, List.append_assoc]
    cases made : piece.kind? <;> simp [token?, made]

/-- In front of the end of the text stand the tokens of the pieces. -/
theorem beforeEnd_tokensToEnd (compress : Bool) (place : Location) (pieces : List Piece) :
    Token.beforeEnd (tokensToEnd compress place pieces) = tokens compress place pieces := by
  induction pieces generalizing place with
  | nil => rfl
  | cons piece pieces ih =>
    have later := ih (piece.after place)
    rw [tokensToEnd_cons, Token.beforeEnd, List.filter_append, tokens]
    rw [Token.beforeEnd] at later
    rw [later]
    cases made : piece.kind? with
    | none => simp [token?, made]
    | some kind => simp [token?, made, Token.isTextEnd, kind?_ne_textEnd made]

/-- Uncompressed, the longest token has as many characters as the longest piece. -/
theorem foldl_max_charCount (place : Location) (pieces : List Piece) (bound : Nat) :
    ((tokensToEnd false place pieces).map Token.charCount).foldl max bound =
      (pieces.map taken).foldl max bound := by
  induction pieces generalizing place bound with
  | nil => exact Nat.max_zero bound
  | cons piece pieces ih =>
    rw [tokensToEnd_cons, List.map_append, List.foldl_append, ih]
    cases piece with
    | dropped => simp [token?, kind?, taken]
    | _ => simp [token?, kind?, taken, Token.charCount, content, Nat.add_comm]

/-- A string that is cut off stands at the end of the text. -/
theorem Fits.next_of_unfinished {piece : Piece} {next : Option Char}
    (fits : piece.Fits charsets next) (unfinished : piece.unfinished = true) : next = none := by
  cases piece with
  | string delimiter inner closed =>
    have isOpen : closed = false := by simpa [Piece.unfinished] using unfinished
    simpa [isOpen] using fits.2.2
  | _ => contradiction

/-- A string that fits is cut off exactly when its content does not end with the delimiter. -/
theorem Fits.isUnterminated {piece : Piece} {next : Option Char} {token : Token}
    (fits : piece.Fits charsets next) (made : piece.token? compress place = some token) :
    token.isUnterminated = piece.unfinished := by
  obtain ⟨kind, isKind, rfl⟩ := Option.map_eq_some_iff.mp made
  cases piece with
  | dropped => contradiction
  | run runClass first more =>
    obtain rfl := Option.some.inj isKind
    cases runClass <;> rfl
  | string delimiter inner closed =>
    obtain rfl := Option.some.inj isKind
    obtain ⟨-, absent, -⟩ := fits
    cases closed with
    | true =>
      have ends : (delimiter :: (inner ++ [delimiter])).getLast? = some delimiter :=
        List.getLast?_concat (l := delimiter :: inner)
      simp [Token.isUnterminated, Token.charCount, content, kind?, unfinished, ends]
    | false =>
      cases last : inner.getLast? with
      | none =>
        obtain rfl := List.getLast?_eq_none_iff.mp last
        simp [Token.isUnterminated, Token.charCount, content, kind?, unfinished]
      | some c =>
        have apart : c ≠ delimiter := ne_of_mem_of_not_mem (List.mem_of_getLast? last) absent
        simp [Token.isUnterminated, Token.charCount, content, kind?, unfinished,
          List.getLast?_cons, last, apart]
  | _ =>
    obtain rfl := Option.some.inj isKind
    rfl

end Piece

/-- At most one string is cut off, the last token of all; its content tells that it is. -/
theorem Reading.countP_unfinished {charsets : Charsets} {text : List Char} {pieces : List Piece}
    (compress : Bool) (place : Location) (reading : Reading charsets text pieces) :
    pieces.countP Piece.unfinished =
      if (Piece.tokens compress place pieces).getLast?.any Token.isUnterminated then 1 else 0 := by
  induction reading generalizing place with
  | nil => rfl
  | @cons piece text pieces fits reading ih =>
    have later := ih (piece.after place)
    rw [List.countP_cons, later, Piece.tokens, List.getLast?_append]
    cases made : piece.token? compress place with
    | none =>
      obtain rfl := Piece.kind?_eq_none.mp (Option.map_eq_none_iff.mp made)
      simp [Piece.unfinished]
    | some token =>
      have cut := fits.isUnterminated made
      cases unfinished : piece.unfinished with
      | false =>
        cases last : (Piece.tokens compress (piece.after place) pieces).getLast? <;>
          simp [cut, unfinished]
      | true =>
        obtain rfl := List.head?_eq_none_iff.mp (fits.next_of_unfinished unfinished)
        obtain rfl := reading.unique .nil
        simp [Piece.tokens, cut, unfinished]

/-- What counters say of the tokens of a scan, given also those of the same scan without
compression, whose contents are the characters taken from the text. -/
structure Metrics.Describes (metrics : Metrics) (tokens uncompressed : List Token) : Prop where
  /-- All tokens are counted. -/
  total : metrics.total = tokens.length
  /-- The tokens of each kind are counted. -/
  countOf : ∀ kind, metrics.countOf kind = (tokens.map Token.kind).count kind
  /-- The longest run is the most characters that a token takes. -/
  longestRun : (uncompressed.map Token.charCount).max? = some metrics.longestRun
  /-- One string is cut off if the last token in front of the end of the text is such a string, and
  none otherwise. -/
  unterminated : metrics.unterminated =
    if (Token.beforeEnd tokens).getLast?.any Token.isUnterminated then 1 else 0

/-- The counters of a reading describe the tokens that its pieces make. -/
theorem Reading.describes {charsets : Charsets} {text : List Char} {pieces : List Piece}
    (compress : Bool) (place : Location) (reading : Reading charsets text pieces) :
    (Piece.metricsToEnd place pieces).Describes (Piece.tokensToEnd compress place pieces)
      (Piece.tokensToEnd false place pieces) where
  total := by
    have kinds := congrArg List.length (Piece.map_kind_tokensToEnd compress place pieces)
    simpa using kinds.symm
  countOf kind := by
    rw [Piece.countOf_metricsToEnd, Piece.map_kind_tokensToEnd]
  longestRun := by
    have longest := Piece.foldl_max_charCount place pieces 0
    rw [Piece.longestRun_metricsToEnd, ← longest]
    cases shape : Piece.tokensToEnd false place pieces with
    | nil => simp [Piece.tokensToEnd] at shape
    | cons token tokens =>
      rw [List.map_cons, List.max?_cons', List.foldl_cons, Nat.zero_max]
  unterminated := by
    rw [Piece.unterminated_metricsToEnd, Piece.beforeEnd_tokensToEnd,
      reading.countP_unfinished compress place]

/-- A scan has counters exactly when the lexer is to count. They describe its tokens: how many
there are, how many of each kind, how many characters the longest of them took, and whether the
last one is a string without its closing delimiter. -/
theorem metrics_of_tokens (lexer : Lexer) (compress : Bool) :
    if lexer.preferences.collectMetrics then
      ∃ metrics, (lexer.tokens compress).2.metrics = some metrics ∧
        metrics.Describes (lexer.tokens compress).1.result (lexer.tokens false).1.result
    else (lexer.tokens compress).2.metrics = none := by
  obtain ⟨pieces, reading⟩ := Reading.exists_reading lexer.charsets lexer.cursor.rest
  rw [Lexer.metrics_of_reading compress reading, Lexer.tokens_of_reading compress reading,
    Lexer.tokens_of_reading false reading]
  cases counts : lexer.preferences.collectMetrics with
  | true => exact ⟨_, rfl, reading.describes compress lexer.startPlace⟩
  | false => rfl

/-- Compressed whitespace counts with the characters it took, and the last string is cut off. -/
example : ((Lexer.ofString "a\t\r\t\n'").tokens true).2.metrics =
    some { total := 5, letters := 1, whitespace := 1, lineEnds := 1, strings := 1, textEnds := 1,
           unterminated := 1, longestRun := 3, charsConsumed := 6 } := by
  decide

end CharLexer
