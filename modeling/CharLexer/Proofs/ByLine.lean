import CharLexer.Proofs.Grouping
import CharLexer.Proofs.Stored

/-!
# Scans by line

The tokens of a scan run from line to line: a line end is the last token of its line, the next token
is on the next line, and the end of the text is on the last (`Token.Lined`). So grouping them leaves
out no line and joins back to the tokens (`lines_of_tokens`), whatever line feeds stand inside
strings and runs, as long as 32 bits can number the lines.
-/
namespace CharLexer

/-- Tokens that begin on a line, go to the next line behind each line end and nowhere else, and end
with the end of the text. -/
inductive Token.Lined : Nat → List Token → Prop
  /-- The end of the text is the last token. -/
  | ended {line : Nat} {token : Token} (here : token.location.line = line)
      (ends : token.isTextEnd = true) : Lined line [token]
  /-- A token that is neither end stays on the line. -/
  | within {line : Nat} {token : Token} {tokens : List Token} (here : token.location.line = line)
      (goesOn : token.isLineEnd = false) (more : token.isTextEnd = false)
      (rest : Lined line tokens) : Lined line (token :: tokens)
  /-- A line end leads to the next line. -/
  | closing {line : Nat} {token : Token} {tokens : List Token} (here : token.location.line = line)
      (ends : token.isLineEnd = true) (rest : Lined (line + 1) tokens) :
      Lined line (token :: tokens)

/-- Pieces make tokens that run from line to line. -/
theorem Piece.lined_tokensToEnd (compress : Bool) (place : Location) (pieces : List Piece) :
    Token.Lined place.line (tokensToEnd compress place pieces) := by
  induction pieces generalizing place with
  | nil => exact .ended rfl rfl
  | cons piece pieces ih =>
    have later := ih (piece.after place)
    rw [tokensToEnd_cons]
    cases made : piece.kind? with
    | none =>
      obtain rfl := kind?_eq_none.mp made
      exact later
    | some kind =>
      have token : piece.token? compress place = some ⟨kind, place, piece.content compress⟩ := by
        rw [token?, made, Option.map_some]
      rw [token]
      by_cases ends : kind = .lineEnd
      · subst ends
        obtain rfl := kind?_eq_lineEnd.mp made
        exact .closing rfl rfl later
      · have goesOn : (kind == .lineEnd) = false := by simpa using ends
        have more : (kind == .textEnd) = false := by simpa using kind?_ne_textEnd made
        have same : (piece.after place).line = place.line := by
          cases piece with
          | lineEnd => exact absurd (Option.some.inj made).symm ends
          | _ => rfl
        rw [same] at later
        exact .within rfl goesOn more later

namespace Token

/-- A line end is not the end of the text. -/
theorem isTextEnd_of_isLineEnd {token : Token} (ends : token.isLineEnd = true) :
    token.isTextEnd = false := by
  have kind : token.kind = .lineEnd := by simpa [isLineEnd] using ends
  rw [isTextEnd, kind]
  rfl

/-- The end of the text is not a line end. -/
theorem isLineEnd_of_isTextEnd {token : Token} (ends : token.isTextEnd = true) :
    token.isLineEnd = false := by
  have kind : token.kind = .textEnd := by simpa [isTextEnd] using ends
  rw [isLineEnd, kind]
  rfl

/-- The tokens of a line that a line end closes. -/
def Closed (tokens : List Token) : Prop :=
  ∃ body ending, tokens = body ++ [ending] ∧ ending.isLineEnd = true ∧
    ∀ token ∈ body, token.isLineEnd = false

/-- The tokens of the line on which the text ends, with the token of that end. -/
def ClosedBy (ended : Token) (tokens : List Token) : Prop :=
  tokens.getLast? = some ended ∧ ∀ token ∈ tokens, token.isLineEnd = false

/-- A token in front leaves a closed line closed. -/
theorem Closed.cons {token : Token} {tokens : List Token} (goesOn : token.isLineEnd = false)
    (closed : Closed tokens) : Closed (token :: tokens) := by
  obtain ⟨body, ending, rfl, ends, others⟩ := closed
  exact ⟨token :: body, ending, rfl, ends, List.forall_mem_cons.mpr ⟨goesOn, others⟩⟩

/-- A closed line has a token. -/
theorem Closed.ne_nil {tokens : List Token} (closed : Closed tokens) : tokens ≠ [] := by
  obtain ⟨body, ending, rfl, -⟩ := closed
  exact List.append_ne_nil_of_right_ne_nil _ (List.cons_ne_nil _ _)

/-- The line on which the text ends has a token. -/
theorem ClosedBy.ne_nil {ended : Token} {tokens : List Token} (closed : ClosedBy ended tokens) :
    tokens ≠ [] := by
  rintro rfl
  exact absurd closed.1 (by simp)

namespace Lined

variable {line : Nat} {tokens : List Token}

/-- The last token of a list is the last of what follows its first. -/
theorem getLast?_cons (rest : Lined line tokens) (token : Token) :
    (token :: tokens).getLast? = tokens.getLast? := by
  cases rest <;> exact List.getLast?_cons_cons

/-- The last token is the only end of the text, on the line to which the line ends lead. -/
theorem exists_ended (lined : Lined line tokens) :
    ∃ ended, tokens.getLast? = some ended ∧ tokens.filter isTextEnd = [ended] ∧
      ended.location.line = line + tokens.countP isLineEnd := by
  induction lined with
  | @ended line token here ends =>
    exact ⟨token, rfl, by simp [ends], by simp [isLineEnd_of_isTextEnd ends, here]⟩
  | @within line token tokens here goesOn more rest ih =>
    obtain ⟨ended, last, only, reached⟩ := ih
    refine ⟨ended, (rest.getLast?_cons token).trans last, ?_, ?_⟩
    · rwa [List.filter_cons_of_neg (by simp [more])]
    · rwa [List.countP_cons_of_neg (by simp [goesOn])]
  | @closing line token tokens here ends rest ih =>
    obtain ⟨ended, last, only, reached⟩ := ih
    refine ⟨ended, (rest.getLast?_cons token).trans last, ?_, ?_⟩
    · rwa [List.filter_cons_of_neg (by simp [isTextEnd_of_isLineEnd ends])]
    · rw [List.countP_cons_of_pos ends]
      omega

/-- No token is on an earlier line than the first, or on a later one than the line ends lead to. -/
theorem line_bounds (lined : Lined line tokens) : ∀ token ∈ tokens,
    line ≤ token.location.line ∧ token.location.line ≤ line + tokens.countP isLineEnd := by
  induction lined with
  | @ended line token here ends => simp [here]
  | @within line token tokens here goesOn more rest ih =>
    rw [List.countP_cons_of_neg (by simp [goesOn])]
    exact List.forall_mem_cons.mpr ⟨by omega, ih⟩
  | @closing line token tokens here ends rest ih =>
    rw [List.countP_cons_of_pos ends]
    refine List.forall_mem_cons.mpr ⟨by omega, fun later member => ?_⟩
    have bounds := ih later member
    omega

/-- On the lines in front there is no token. -/
theorem onLine_eq_nil (lined : Lined line tokens) {number : Nat} (before : number < line) :
    onLine number tokens = [] := by
  rw [onLine, List.filter_eq_nil_iff]
  intro token member
  have bounds := lined.line_bounds token member
  simp only [beq_iff_eq]
  omega

/-- Each line but the last is closed by its only line end. -/
theorem closed_onLine (lined : Lined line tokens) {number : Nat} (first : line ≤ number)
    (before : number < line + tokens.countP isLineEnd) : Closed (onLine number tokens) := by
  induction lined with
  | @ended line token here ends =>
    rw [List.countP_singleton, isLineEnd_of_isTextEnd ends] at before
    simp only [Bool.false_eq_true, if_false] at before
    omega
  | @within line token tokens here goesOn more rest ih =>
    rw [List.countP_cons_of_neg (by simp [goesOn])] at before
    have closed := ih first before
    by_cases same : token.location.line = number
    · rw [onLine_cons_of_eq same]
      exact closed.cons goesOn
    · rwa [onLine_cons_of_ne same]
  | @closing line token tokens here ends rest ih =>
    rw [List.countP_cons_of_pos ends] at before
    by_cases same : token.location.line = number
    · rw [onLine_cons_of_eq same, rest.onLine_eq_nil (by omega)]
      exact ⟨[], token, rfl, ends, by simp⟩
    · rw [onLine_cons_of_ne same]
      exact ih (by omega) (by omega)

/-- The last line ends with the last token and has no line end. -/
theorem closedBy_onLine (lined : Lined line tokens) {ended : Token}
    (last : tokens.getLast? = some ended) :
    ClosedBy ended (onLine (line + tokens.countP isLineEnd) tokens) := by
  induction lined with
  | @ended line token here ends =>
    have goesOn := isLineEnd_of_isTextEnd ends
    have whole : onLine (line + [token].countP isLineEnd) [token] = [token] := by
      simp [onLine, goesOn, here]
    rw [whole]
    exact ⟨last, by simpa using goesOn⟩
  | @within line token tokens here goesOn more rest ih =>
    rw [rest.getLast?_cons] at last
    have closed := ih last
    rw [List.countP_cons_of_neg (by simp [goesOn])]
    by_cases same : token.location.line = line + tokens.countP isLineEnd
    · rw [onLine_cons_of_eq same]
      refine ⟨?_, List.forall_mem_cons.mpr ⟨goesOn, closed.2⟩⟩
      rw [List.getLast?_cons, closed.1]
      rfl
    · rwa [onLine_cons_of_ne same]
  | @closing line token tokens here ends rest ih =>
    rw [rest.getLast?_cons] at last
    have closed := ih last
    have apart : token.location.line ≠ line + 1 + tokens.countP isLineEnd := by omega
    rw [List.countP_cons_of_pos ends, Nat.add_comm (tokens.countP isLineEnd), ← Nat.add_assoc,
      onLine_cons_of_ne apart]
    exact closed

/-- A token does not show on the lines behind its own. -/
theorem flatMap_onLine_cons {token : Token} (here : token.location.line = line) (count : Nat)
    (tokens : List Token) :
    (List.range' (line + 1) count).flatMap (fun number => onLine number (token :: tokens)) =
      (List.range' (line + 1) count).flatMap fun number => onLine number tokens := by
  refine List.flatMap_congr fun number member => ?_
  rw [List.mem_range'_1] at member
  exact onLine_cons_of_ne (by omega) tokens

/-- The tokens of all lines, one line after another, are the tokens. -/
theorem flatMap_onLine (lined : Lined line tokens) :
    (List.range' line (tokens.countP isLineEnd + 1)).flatMap (fun number => onLine number tokens) =
      tokens := by
  induction lined with
  | @ended line token here ends => simp [isLineEnd_of_isTextEnd ends, onLine, here]
  | @within line token tokens here goesOn more rest ih =>
    rw [List.range'_succ, List.flatMap_cons] at ih
    rw [List.countP_cons_of_neg (by simp [goesOn]), List.range'_succ, List.flatMap_cons,
      onLine_cons_of_eq here, flatMap_onLine_cons here, List.cons_append, ih]
  | @closing line token tokens here ends rest ih =>
    rw [List.countP_cons_of_pos ends, List.range'_succ, List.flatMap_cons,
      onLine_cons_of_eq here, flatMap_onLine_cons here, rest.onLine_eq_nil (Nat.lt_succ_self line),
      ih]
    rfl

/-- From the first line to the last, each line has a token, and no other has. -/
theorem mem_range'_iff (lined : Lined line tokens) (number : Nat) :
    number ∈ List.range' line (tokens.countP isLineEnd + 1) ↔ onLine number tokens ≠ [] := by
  rw [List.mem_range'_1]
  constructor
  · rintro ⟨first, before⟩
    by_cases final : number = line + tokens.countP isLineEnd
    · obtain ⟨ended, last, -⟩ := lined.exists_ended
      subst final
      exact (lined.closedBy_onLine last).ne_nil
    · exact (lined.closed_onLine first (by omega)).ne_nil
  · intro occupied
    obtain ⟨token, member⟩ := List.exists_mem_of_ne_nil _ occupied
    obtain ⟨inside, here⟩ := mem_onLine.mp member
    have bounds := lined.line_bounds token inside
    omega

end Lined

end Token

/-- What a grouping holds of the tokens of a scan that ends with a token. -/
structure Lines.Complete (lines : Lines) (tokens : List Token) (ended : Token) : Prop where
  /-- The last token is the end of the text. -/
  last : tokens.getLast? = some ended
  /-- The text has no other end. -/
  only : tokens.filter Token.isTextEnd = [ended]
  /-- The line of the end of the text is one more than the number of line ends. -/
  line : ended.location.line = 1 + tokens.countP Token.isLineEnd
  /-- The lines are numbered from one to that line without a gap. -/
  numbers : lines.numbers = List.range' 1 ended.location.line
  /-- The lines, one after another, are the tokens. -/
  joined : lines.toList.flatMap (·.2) = tokens
  /-- Every token stands under its line. -/
  placed : ∀ entry ∈ lines.toList, ∀ token ∈ entry.2, token.location.line = entry.1
  /-- Every line but the last is closed by its only line end. -/
  closed : ∀ entry ∈ lines.toList, entry.1 < ended.location.line → Token.Closed entry.2
  /-- The last line ends with the end of the text and has no line end. -/
  final : ∀ entry ∈ lines.toList, entry.1 = ended.location.line → Token.ClosedBy ended entry.2

/-- The grouping of tokens that run from line to line is complete. -/
theorem Token.Lined.complete {tokens : List Token} (lined : Token.Lined 1 tokens) :
    ∃ ended, (Lines.ofTokens tokens).Complete tokens ended := by
  obtain ⟨ended, last, only, line⟩ := lined.exists_ended
  have count : tokens.countP Token.isLineEnd + 1 = ended.location.line := by omega
  have entries : (Lines.ofTokens tokens).toList =
      (List.range' 1 ended.location.line).map fun number => (number, Token.onLine number tokens) :=
    Lines.toList_ofTokens List.pairwise_lt_range' fun number =>
      count ▸ lined.mem_range'_iff number
  refine ⟨ended, last, only, line, ?_, ?_, ?_, ?_, ?_⟩
  · rw [Lines.numbers, entries, List.map_map]
    exact List.map_id _
  · rw [entries, List.flatMap_map, ← count]
    exact lined.flatMap_onLine
  · rw [entries, List.forall_mem_map]
    exact fun number _ token member => (Token.mem_onLine.mp member).2
  · rw [entries, List.forall_mem_map]
    intro number member before
    exact lined.closed_onLine (List.mem_range'_1.mp member).1 (line ▸ before)
  · rw [entries, List.forall_mem_map]
    rintro number member rfl
    have closed := lined.closedBy_onLine last
    rwa [← line] at closed

/-- Tokens that run from line to line do so as they are kept, if 32 bits can number the lines. -/
theorem Token.Lined.kept {line : Nat} {tokens : List Token} (lined : Token.Lined line tokens)
    (fits : line + tokens.countP Token.isLineEnd < lineBound) :
    Token.Lined line (tokens.map Token.stored) := by
  have placed {token : Token} {line : Nat} (here : token.location.line = line)
      (fits : line < lineBound) : token.stored.location.line = line := by
    subst here
    exact UInt32.toNat_ofNat_of_lt' fits
  induction lined with
  | @ended line token here ends =>
    exact .ended (placed here (by omega)) ends
  | @within line token tokens here goesOn more rest ih =>
    rw [List.countP_cons_of_neg (by simp [goesOn])] at fits
    exact .within (placed here (by omega)) goesOn more (ih fits)
  | @closing line token tokens here ends rest ih =>
    rw [List.countP_cons_of_pos ends] at fits
    exact .closing (placed here (by omega)) ends (ih (by omega))

namespace Lexer

variable (lexer : Lexer) (compress : Bool)

/-- The tokens of an exact scan run from line to line, from the first on. -/
theorem lined_tokens : Token.Lined 1 (lexer.tokens compress).1.result := by
  obtain ⟨pieces, reading⟩ := Reading.exists_reading lexer.charsets lexer.cursor.rest
  rw [tokens_of_reading compress reading]
  exact Piece.lined_tokensToEnd compress lexer.startPlace pieces

/-- A scan has as many line ends as the exact one. -/
theorem countP_scan :
    (lexer.scan compress).1.result.countP Token.isLineEnd =
      (lexer.tokens compress).1.result.countP Token.isLineEnd := by
  rw [result_scan, List.countP_map]
  rfl

/-- The last token of a scan is the only end of the text. Its line, counted in 32 bits, is one more
than the number of line ends. -/
theorem exists_ended_scan :
    ∃ ended, (lexer.scan compress).1.result.getLast? = some ended ∧
      (lexer.scan compress).1.result.filter Token.isTextEnd = [ended] ∧
      ended.location.line =
        (1 + (lexer.scan compress).1.result.countP Token.isLineEnd).toUInt32.toNat := by
  obtain ⟨ended, last, only, line⟩ := (lexer.lined_tokens compress).exists_ended
  refine ⟨ended.stored, ?_, ?_, ?_⟩
  · rw [result_scan, List.getLast?_map, last]
    rfl
  · rw [result_scan, List.filter_map]
    exact congrArg (List.map Token.stored) only
  · rw [countP_scan]
    exact congrArg (fun number : Nat => number.toUInt32.toNat) line

/-- A scan of which so little is left to read has no more lines than 32 bits can number. -/
theorem lines_lt_of_length_le (short : lexer.cursor.rest.length ≤ lineBound - 2) :
    1 + (lexer.scan compress).1.result.countP Token.isLineEnd < lineBound := by
  obtain ⟨ended, last, -, line⟩ := (lexer.lined_tokens compress).exists_ended
  have kept := lexer.inRange_of_length_le compress short ended (List.mem_of_getLast? last)
  rw [countP_scan, ← line, ← kept]
  exact UInt32.toNat_lt _

/-- If 32 bits can number the lines, the grouping of the tokens of a scan is complete. -/
theorem complete_scan
    (fits : 1 + (lexer.scan compress).1.result.countP Token.isLineEnd < lineBound) :
    ∃ ended, (Lines.ofTokens (lexer.scan compress).1.result).Complete
      (lexer.scan compress).1.result ended := by
  rw [countP_scan] at fits
  rw [result_scan]
  exact ((lexer.lined_tokens compress).kept fits).complete

end Lexer

/-- A line feed inside a string or a run begins no line, and a line end alone makes a line. -/
example :
    let charsets : Charsets := { whitespace := .ofString " \n" }
    let lexer := { Lexer.ofString "'\n'\r\n\n \na" with charsets }
    (lexer.scanLines false).1.result.toList.map
        (fun entry => (entry.1, entry.2.map Token.kind)) =
      [(1, [.string, .lineEnd]), (2, [.lineEnd]), (3, [.whitespace, .letters, .textEnd])] := by
  decide

end CharLexer
