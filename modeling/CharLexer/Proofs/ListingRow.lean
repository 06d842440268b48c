import CharLexer.Proofs.Piece
import CharLexer.Token.Listing

/-!
# Rows of a listing

A row is made of fields that grow with what they hold, and all blank characters at its end are
dropped, those of the padding behind the kind together with those of the content. What a row still
tells is said here by a reader (`Row.ofText?`): from every row of a token it gives the line, the
column, the kind, and the content without the blank characters at its end. As nothing else of the
token is in the row (`Token.toList_row`), two rows are equal exactly when these four are
(`row_eq_row_iff`).
-/
namespace CharLexer

/-- Of two texts one behind the other, the blank characters at the end are those of the second,
unless it has no others. -/
theorem dropBlankEnd_append (front back : List Char) :
    dropBlankEnd (front ++ back) =
      if dropBlankEnd back = [] then dropBlankEnd front else front ++ dropBlankEnd back := by
  unfold dropBlankEnd
  rw [List.reverse_append, List.dropWhile_append]
  cases kept : back.reverse.dropWhile isBlank with
  | nil => rfl
  | cons c rest => simp

/-- Nothing is left of spaces. -/
theorem dropBlankEnd_replicate (count : Nat) : dropBlankEnd (List.replicate count ' ') = [] := by
  have blank : isBlank ' ' = true := by decide
  simp [dropBlankEnd, blank]

/-- A text without blank characters keeps its end. -/
theorem dropBlankEnd_of_forall {text : List Char} (filled : ∀ c ∈ text, isBlank c = false) :
    dropBlankEnd text = text := by
  have none : ∀ c ∈ ([] : List Char), isBlank c = true :=
    fun c member => absurd member List.not_mem_nil
  have stop : ∀ c ∈ text.reverse.head?, isBlank c = false :=
    fun c head => filled c (List.mem_reverse.mp (List.mem_of_head? head))
  unfold dropBlankEnd
  rw [← List.nil_append text.reverse, dropWhile_append_of_head none stop, List.reverse_reverse]

namespace Kind

/-- A kind is known by its name. -/
theorem ofName?_name (kind : Kind) : ofName? kind.name = some kind := by
  cases kind <;> decide

/-- No name is wider than its field. -/
theorem length_name_le (kind : Kind) : kind.name.length ≤ 10 := by
  cases kind <;> decide

/-- A name has a first character. -/
theorem toList_name_ne_nil (kind : Kind) : kind.name.toList ≠ [] := by
  cases kind <;> decide

/-- No character of a name is blank. -/
theorem isBlank_of_mem_name {kind : Kind} {c : Char} (member : c ∈ kind.name.toList) :
    isBlank c = false := by
  have filled : (kind.name.toList.all fun c => !isBlank c) = true := by cases kind <;> decide
  simpa using List.all_eq_true.mp filled c member

end Kind

/-- What a row of a listing tells. -/
structure Row where
  line : Nat
  column : Nat
  kind : Kind
  /-- The content without the blank characters at its end. -/
  content : String
  deriving DecidableEq

namespace Row

/-- The number at the front of some characters, behind spaces, and what comes after it. -/
def readNumber (text : List Char) : Nat × List Char :=
  let digits := text.dropWhile (· == ' ')
  (Nat.ofDigitChars 10 (digits.takeWhile Char.isDigit) 0, digits.dropWhile Char.isDigit)

/-- Read a row: the line, a comma, the column, the kind up to a space, and the content behind the
thirteen places of the kind. -/
def ofText? (text : String) : Option Row :=
  let (line, rest) := readNumber text.toList
  let (column, rest) := readNumber (rest.drop 1)
  let rest := rest.dropWhile (· == ' ')
  (Kind.ofName? (String.ofList (rest.takeWhile (· != ' ')))).map fun kind =>
    ⟨line, column, kind, String.ofList (rest.drop 13)⟩

/-- The content as it stands in a row. Without content there is no padding in front of it. -/
def ending (row : Row) : List Char :=
  if row.content.toList = [] then []
  else List.replicate (10 - row.kind.name.length + 3) ' ' ++ row.content.toList

/-- The characters of a row behind those of the line. -/
def behindLine (row : Row) : List Char :=
  Nat.toDigits 10 row.column ++
    (List.replicate (3 - (Nat.toDigits 10 row.column).length + 1) ' ' ++
      (row.kind.name.toList ++ row.ending))

/-- The characters of a row. -/
def chars (row : Row) : List Char :=
  List.replicate (4 - (Nat.toDigits 10 row.line).length) ' ' ++
    (Nat.toDigits 10 row.line ++ ',' :: row.behindLine)

/-- A number is read behind any spaces, up to what is no digit. -/
theorem readNumber_append (count number : Nat) {rest : List Char}
    (stop : ∀ c ∈ rest.head?, c.isDigit = false) :
    readNumber (List.replicate count ' ' ++ (Nat.toDigits 10 number ++ rest)) = (number, rest) := by
  have digits : ∀ c ∈ Nat.toDigits 10 number, c.isDigit = true :=
    fun c => Nat.isDigit_of_mem_toDigits (by decide) (by decide)
  have blank : ∀ c ∈ List.replicate count ' ', (c == ' ') = true := by
    intro c member
    rw [List.eq_of_mem_replicate member]
    rfl
  have opens : ∀ c ∈ (Nat.toDigits 10 number ++ rest).head?, (c == ' ') = false := by
    cases front : Nat.toDigits 10 number with
    | nil => exact absurd front Nat.toDigits_ne_nil
    | cons digit more =>
      have isDigit : digit.isDigit = true := digits digit (front ▸ List.mem_cons_self)
      intro c head
      obtain rfl : digit = c := Option.some.inj head
      apply beq_eq_false_iff_ne.mpr
      rintro rfl
      contradiction
  simp only [readNumber, dropWhile_append_of_head blank opens,
    takeWhile_append_of_head digits stop, dropWhile_append_of_head digits stop,
    Nat.ofDigitChars_ten_toDigits]

/-- The kind is read behind any spaces. -/
theorem dropWhile_kind (count : Nat) (row : Row) :
    (List.replicate count ' ' ++ (row.kind.name.toList ++ row.ending)).dropWhile (· == ' ') =
      row.kind.name.toList ++ row.ending := by
  apply dropWhile_append_of_head
  · intro c member
    rw [List.eq_of_mem_replicate member]
    rfl
  · cases front : row.kind.name.toList with
    | nil => exact absurd front row.kind.toList_name_ne_nil
    | cons letter more =>
      have filled : isBlank letter = false :=
        Kind.isBlank_of_mem_name (front ▸ List.mem_cons_self)
      intro c head
      obtain rfl : letter = c := Option.some.inj head
      apply beq_eq_false_iff_ne.mpr
      rintro rfl
      contradiction

/-- The kind stops at the first space, or with the row. -/
theorem takeWhile_kind (row : Row) :
    (row.kind.name.toList ++ row.ending).takeWhile (· != ' ') = row.kind.name.toList := by
  apply takeWhile_append_of_head
  · intro c member
    have filled := Kind.isBlank_of_mem_name member
    apply bne_iff_ne.mpr
    rintro rfl
    contradiction
  · unfold ending
    split
    · exact fun c head => absurd head (by simp)
    · intro c head
      rw [List.replicate_succ, List.cons_append] at head
      obtain rfl : ' ' = c := Option.some.inj head
      rfl

/-- Behind the field of the kind stands the content. -/
theorem drop_kind (row : Row) :
    (row.kind.name.toList ++ row.ending).drop 13 = row.content.toList := by
  have narrow := row.kind.length_name_le
  rw [← String.length_toList] at narrow
  unfold ending
  split
  next empty =>
    rw [empty, List.append_nil]
    exact List.drop_eq_nil_of_le (by omega)
  next =>
    rw [← List.append_assoc]
    apply List.drop_left'
    simp only [List.length_append, List.length_replicate, String.length_toList] at narrow ⊢
    omega

/-- A row is read back, whatever the widths of its numbers and whatever stands in its content. -/
theorem ofText?_chars (row : Row) : ofText? (String.ofList row.chars) = some row := by
  have line : readNumber row.chars = (row.line, ',' :: row.behindLine) := by
    apply readNumber_append
    intro c head
    obtain rfl : ',' = c := Option.some.inj head
    rfl
  have column : readNumber row.behindLine = (row.column,
      List.replicate (3 - (Nat.toDigits 10 row.column).length + 1) ' ' ++
        (row.kind.name.toList ++ row.ending)) := by
    apply readNumber_append 0
    intro c head
    rw [List.replicate_succ, List.cons_append] at head
    obtain rfl : ' ' = c := Option.some.inj head
    rfl
  unfold ofText?
  simp only [String.toList_ofList, line, List.drop_one, List.tail_cons, column, dropWhile_kind,
    takeWhile_kind, drop_kind, String.ofList_toList, Kind.ofName?_name, Option.map_some]

end Row

namespace Token

/-- What the row of a token tells. -/
def shown (token : Token) : Row :=
  ⟨token.location.line, token.location.column, token.kind, trimBlankEnd token.content⟩

/-- From the kind on, the blank characters at the end of a row are those of the content, or with no
other content the whole padding. -/
theorem dropBlankEnd_kind (token : Token) :
    dropBlankEnd (token.kind.name.toList ++
        (List.replicate (10 - token.kind.name.length + 3) ' ' ++ token.content.toList)) =
      token.kind.name.toList ++ token.shown.ending := by
  have name : dropBlankEnd token.kind.name.toList = token.kind.name.toList :=
    dropBlankEnd_of_forall fun c => Kind.isBlank_of_mem_name
  have content : token.shown.content.toList = dropBlankEnd token.content.toList :=
    String.toList_ofList
  have kind : token.shown.kind = token.kind := rfl
  rw [dropBlankEnd_append, dropBlankEnd_append, dropBlankEnd_replicate, Row.ending, content, kind]
  by_cases empty : dropBlankEnd token.content.toList = []
  · rw [if_pos empty, if_pos rfl, name, List.append_nil]
  · rw [if_neg empty, if_neg (by simp [empty])]

/-- The row of a token has nothing but what it tells. -/
theorem toList_row (token : Token) : token.row.toList = token.shown.chars := by
  let line := Nat.toDigits 10 token.location.line
  let column := Nat.toDigits 10 token.location.column
  let front := List.replicate (4 - line.length) ' ' ++
    (line ++ ',' :: (column ++ List.replicate (3 - column.length + 1) ' '))
  have untrimmed : token.untrimmedRow.toList =
      front ++ (token.kind.name.toList ++
        (List.replicate (10 - token.kind.name.length + 3) ' ' ++ token.content.toList)) := by
    have width (number : Nat) : number.repr.length = (Nat.toDigits 10 number).length := by
      rw [← String.length_toList, Nat.toList_repr]
    simp [untrimmedRow, pad, spaces, front, line, column, width,
      ← List.replicate_append_replicate]
  have shown : token.shown.chars = front ++ (token.kind.name.toList ++ token.shown.ending) := by
    simp [Row.chars, Row.behindLine, Token.shown, front, line, column]
  have named : token.kind.name.toList ++ token.shown.ending ≠ [] := fun none =>
    token.kind.toList_name_ne_nil (List.append_eq_nil_iff.mp none).1
  rw [row, trimBlankEnd, String.toList_ofList, untrimmed, shown, dropBlankEnd_append,
    dropBlankEnd_kind, if_neg named]

end Token

/-- The rows of two tokens are equal exactly when the tokens have the same line, the same column,
the same kind, and contents that are the same up to the blank characters at their ends. These four
are read back from the row of every token. -/
theorem row_eq_row_iff (first second : Token) :
    (first.row = second.row ↔
        first.location.line = second.location.line ∧
          first.location.column = second.location.column ∧ first.kind = second.kind ∧
            trimBlankEnd first.content = trimBlankEnd second.content) ∧
      ∀ token : Token, Row.ofText? token.row =
        some ⟨token.location.line, token.location.column, token.kind,
          trimBlankEnd token.content⟩ := by
  have written (token : Token) : token.row = String.ofList token.shown.chars := by
    rw [← token.toList_row, String.ofList_toList]
  have read (token : Token) : Row.ofText? token.row = some token.shown := by
    rw [written token, Row.ofText?_chars]
  have told : first.shown = second.shown ↔
      first.location.line = second.location.line ∧
        first.location.column = second.location.column ∧ first.kind = second.kind ∧
          trimBlankEnd first.content = trimBlankEnd second.content := by
    rw [Token.shown, Token.shown, Row.mk.injEq]
  refine ⟨?_, read⟩
  rw [← told]
  constructor
  · intro same
    apply Option.some.inj
    rw [← read first, ← read second, same]
  · intro same
    rw [written first, written second, same]

/-- Spaces in front of a content are read back, and those behind it are not. -/
example : Row.ofText? "  12,1234 EOL            1, 2" = some ⟨12, 1234, .lineEnd, "  1, 2"⟩ ∧
    (⟨.lineEnd, ⟨0, 12, 1234⟩, "  1, 2 \n"⟩ : Token).row = "  12,1234 EOL            1, 2" := by
  decide

end CharLexer
