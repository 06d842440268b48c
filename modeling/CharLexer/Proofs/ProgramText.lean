import CharLexer.Text.Quoted
import CharLexer.Toml.Quotation
import Mathlib.Data.List.Forall2
import Mathlib.Tactic.SplitIfs
import Std.Data.String.ToNat

/-!
# Literals of program texts

A program text is read character by character. The reader knows where it stands, in a comment, in a
word or between the quotes of a text, and keeps the literals behind it (`ProgramText.literals`). It
reads what a text of constants is made of: comments to the end of the line, words, decimal numbers,
texts with escapes and a few marks, and refuses all else.

A quoted text is read back whatever its characters are (`ProgramText.run_quoted`): the reader
stands between the quotes all along, for it would have kept a literal otherwise
(`ProgramText.inText_of_prefix`). In a comment only the end of the line counts, and no quoted text
has a character that any reader takes for one (`unbroken_quoted`).
-/
namespace CharLexer

/-- The characters that end a line for some reader of texts. -/
def lineBreaks : List Char :=
  ['\n', '\x0b', '\x0c', '\r', Char.ofNat 0x85, Char.ofNat 0x2028, Char.ofNat 0x2029]

/-- Whether a text stands on one line for every reader. -/
def Unbroken (text : String) : Prop := ∀ c ∈ text.toList, c ∉ lineBreaks

/-- Texts that are joined break no line when neither does. -/
theorem Unbroken.append {front back : String} (first : Unbroken front) (second : Unbroken back) :
    Unbroken (front ++ back) := by
  unfold Unbroken
  rw [String.toList_append, List.forall_mem_append]
  exact ⟨first, second⟩

/-- Whether a text breaks no line can be computed. -/
theorem unbroken_of_all {text : String}
    (others : (text.toList.all fun c => !lineBreaks.contains c) = true) : Unbroken text := by
  intro c member breaks
  have contrary := List.all_eq_true.mp others c member
  simp [breaks] at contrary

/-- A character with a property that no line break has is none. -/
theorem not_mem_lineBreaks {property : Char → Bool}
    (others : (lineBreaks.all fun c => !property c) = true) {c : Char}
    (holds : property c = true) : c ∉ lineBreaks := by
  intro breaks
  have contrary := List.all_eq_true.mp others c breaks
  simp [holds] at contrary

/-- A number is written by digits, one at least. -/
theorem exists_digits (number : Nat) :
    ∃ first rest, number.repr.toList = first :: rest ∧ ∀ c ∈ first :: rest, c.isDigit = true := by
  rw [Nat.toList_repr]
  cases written : Nat.toDigits 10 number with
  | nil => exact absurd written Nat.toDigits_ne_nil
  | cons first rest =>
    refine ⟨first, rest, rfl, fun c member => ?_⟩
    rw [← written] at member
    exact Nat.isDigit_of_mem_toDigits (by decide) (by decide) member

/-- The digits of a number break no line. -/
theorem unbroken_repr (number : Nat) : Unbroken number.repr := by
  obtain ⟨first, rest, written, digits⟩ := exists_digits number
  intro c member
  rw [written] at member
  exact not_mem_lineBreaks (by decide) (digits c member)

/-! ### Quoted texts -/

/-- What stands between the quotes: what is written of each character. -/
def quotedChars (text : String) : List Char :=
  text.toList.flatMap fun c => (quotedChar c).toList

/-- A quoted text is what is written of its characters, between quotes. -/
theorem toList_quoted (text : String) :
    (quoted text).toList = '"' :: (quotedChars text ++ ['"']) := by
  have fold : ∀ (chars : List Char) (written : String),
      (chars.foldl (fun written c => written ++ quotedChar c) written).toList =
        written.toList ++ chars.flatMap fun c => (quotedChar c).toList := by
    intro chars
    induction chars with
    | nil => intro written; simp
    | cons c rest ih => intro written; simp [ih]
  unfold quoted quotedChars
  rw [String.toList_append, fold]
  rfl

/-- The digits of a number have numbers below sixteen. -/
theorem exists_digitChar_of_mem_toDigits {number : Nat} {c : Char}
    (member : c ∈ Nat.toDigits 16 number) : ∃ digit < 16, c = Nat.digitChar digit := by
  induction number using Nat.strongRecOn with
  | ind number ih =>
    by_cases single : number < 16
    · rw [Nat.toDigits_of_lt_base single, List.mem_singleton] at member
      exact ⟨number, single, member⟩
    · have more : 16 ≤ number := Nat.le_of_not_lt single
      rw [Nat.toDigits_of_base_le (by decide) more, List.mem_append, List.mem_singleton] at member
      cases member with
      | inl front => exact ih (number / 16) (Nat.div_lt_self (by omega) (by decide)) front
      | inr last => exact ⟨number % 16, Nat.mod_lt number (by decide), last⟩

/-- The number of a digit that is written. -/
theorem hexValue?_digitChar : ∀ digit < 16, hexValue? (Nat.digitChar digit) = some digit := by
  decide

/-- A number is read back from its digits. -/
theorem hexNumber?_toDigits (number : Nat) :
    hexNumber? (Nat.toDigits 16 number) = some number := by
  induction number using Nat.strongRecOn with
  | ind number ih =>
    by_cases single : number < 16
    · rw [Nat.toDigits_of_lt_base single]
      simp [hexNumber?, hexValue?_digitChar number single]
    · have more : 16 ≤ number := Nat.le_of_not_lt single
      have front := ih (number / 16) (Nat.div_lt_self (by omega) (by decide))
      have last := hexValue?_digitChar (number % 16) (Nat.mod_lt number (by decide))
      unfold hexNumber? at front ⊢
      rw [Nat.toDigits_of_base_le (by decide) more, List.foldlM_append, front]
      simp only [Option.bind_eq_bind, Option.bind_some, List.foldlM_cons, List.foldlM_nil, last,
        Option.map_some, Option.pure_def, Option.some.injEq]
      omega

/-- No line break shows by itself. -/
theorem not_mem_lineBreaks_of_isVisible {c : Char} (visible : isVisible c = true) :
    c ∉ lineBreaks :=
  not_mem_lineBreaks (by decide +kernel) visible

/-- Digits show by themselves. -/
theorem isVisible_digitChar : ∀ digit < 16, isVisible (Nat.digitChar digit) = true := by
  decide +kernel

/-- What is written of a character breaks no line. -/
theorem unbroken_quotedChar (c : Char) : Unbroken (quotedChar c) := by
  unfold quotedChar
  split
  iterate 6 exact unbroken_of_all (by decide)
  next =>
    by_cases visible : isVisible c = true
    · rw [if_pos visible, Unbroken, Char.toString_eq_singleton, String.toList_singleton,
        List.forall_mem_singleton]
      exact not_mem_lineBreaks_of_isVisible visible
    · have digits : Unbroken (hexDigits c.toNat) := by
        intro written member
        rw [hexDigits, String.toList_ofList] at member
        obtain ⟨digit, below, rfl⟩ := exists_digitChar_of_mem_toDigits member
        exact not_mem_lineBreaks_of_isVisible (isVisible_digitChar digit below)
      rw [if_neg visible]
      exact ((unbroken_of_all (by decide)).append digits).append (unbroken_of_all (by decide))

/-- A quoted text breaks no line. -/
theorem unbroken_quoted (text : String) : Unbroken (quoted text) := by
  have quote : '"' ∉ lineBreaks := by decide
  unfold Unbroken
  rw [toList_quoted, List.forall_mem_cons, List.forall_mem_append, List.forall_mem_singleton]
  refine ⟨quote, ?_, quote⟩
  intro c member
  obtain ⟨source, -, written⟩ := List.mem_flatMap.mp member
  exact unbroken_quotedChar source c written

/-! ### The reader -/

/-- A literal of a program text. -/
inductive Literal
  | number (value : Nat)
  | text (value : String)
  deriving DecidableEq

namespace ProgramText

/-- Where a reader stands in a program text. -/
inductive Place
  /-- Between words. -/
  | code
  /-- Behind one slash. -/
  | slash
  /-- In a comment. -/
  | comment
  /-- In a word, of which some is read. -/
  | word (read : List Char)
  /-- Between the quotes of a text, with the characters it spells so far. -/
  | text (read : List Char)
  /-- Behind the backslash of an escape. -/
  | escape (read : List Char)
  /-- Behind the letter of an escape by code point. -/
  | codePoint (read : List Char)
  /-- Between the braces of a code point, with the digits so far. -/
  | digits (read number : List Char)

/-- A reader, with the literals behind it. -/
structure Reader where
  found : List Literal
  place : Place

/-- Whether a character goes on in a word. -/
def isWordChar (c : Char) : Bool := c.isAlphanum || c == '_'

/-- Whether a character stands by itself between words. -/
def isMark (c : Char) : Bool := [' ', '\n', '\x7b', '\x7d', ':', ';', '&', '='].contains c

/-- The literals of a word: a number when it starts with a digit, and none otherwise. -/
def ofWord? (word : List Char) : Option (List Literal) :=
  if word.head?.any Char.isDigit then
    (String.ofList word).toNat?.map fun value => [.number value]
  else some []

/-- The character that a letter behind a backslash spells. -/
def ofEscape? : Char → Option Char
  | '0' => some '\x00'
  | 't' => some '\t'
  | 'n' => some '\n'
  | 'r' => some '\r'
  | '"' => some '"'
  | '\'' => some '\''
  | '\\' => some '\\'
  | _ => none

/-- The character of a code point, which has one to six digits. -/
def ofCodePoint? (digits : List Char) : Option Char :=
  if 1 ≤ digits.length ∧ digits.length ≤ 6 then (hexNumber? digits).bind Toml.charOfCode? else none

namespace Reader

/-- Read a character between words. -/
def stepCode (found : List Literal) (c : Char) : Option Reader :=
  if c = '/' then some ⟨found, .slash⟩
  else if c = '"' then some ⟨found, .text []⟩
  else if isWordChar c then some ⟨found, .word [c]⟩
  else if isMark c then some ⟨found, .code⟩
  else none

/-- Read a character. -/
def step (reader : Reader) (c : Char) : Option Reader :=
  match reader.place with
  | .code => stepCode reader.found c
  | .slash => if c = '/' then some ⟨reader.found, .comment⟩ else none
  | .comment => some ⟨reader.found, if c = '\n' then .code else .comment⟩
  | .word read =>
    if isWordChar c then some ⟨reader.found, .word (read ++ [c])⟩
    -- A word in front of a quote would change how the text is read.
    else if c = '"' then none
    else (ofWord? read).bind fun ended => stepCode (reader.found ++ ended) c
  | .text read =>
    if c = '"' then some ⟨reader.found ++ [.text (String.ofList read)], .code⟩
    else if c = '\\' then some ⟨reader.found, .escape read⟩
    else if c = '\r' then none
    else some ⟨reader.found, .text (read ++ [c])⟩
  | .escape read =>
    if c = 'u' then some ⟨reader.found, .codePoint read⟩
    else (ofEscape? c).map fun spelled => ⟨reader.found, .text (read ++ [spelled])⟩
  | .codePoint read => if c = '\x7b' then some ⟨reader.found, .digits read []⟩ else none
  | .digits read number =>
    if c = '\x7d' then
      (ofCodePoint? number).map fun spelled => ⟨reader.found, .text (read ++ [spelled])⟩
    else some ⟨reader.found, .digits read (number ++ [c])⟩

/-- Read some characters. -/
def run (reader : Reader) (chars : List Char) : Option Reader := chars.foldlM step reader

/-- The literals at the end of a text, which ends in no text of its own. -/
def finish? (reader : Reader) : Option (List Literal) :=
  match reader.place with
  | .code | .comment => some reader.found
  | .word read => (ofWord? read).map (reader.found ++ ·)
  | _ => none

end Reader

/-- The literals of a program text, in order. -/
def literals (text : String) : Option (List Literal) :=
  ((⟨[], .code⟩ : Reader).run text.toList).bind Reader.finish?

/-! ### Reading on -/

variable (found : List Literal)

@[simp] theorem run_nil (reader : Reader) : reader.run [] = some reader := rfl

theorem run_cons (reader : Reader) (c : Char) (rest : List Char) :
    reader.run (c :: rest) = (reader.step c).bind (·.run rest) := rfl

/-- What stands behind other text is read from where that was read to. -/
theorem run_append (reader : Reader) (front back : List Char) :
    reader.run (front ++ back) = (reader.run front).bind (·.run back) :=
  List.foldlM_append

/-- The reader with more literals behind it. -/
def Reader.behind (reader : Reader) (found : List Literal) : Reader :=
  { reader with found := found ++ reader.found }

/-- The literals behind a reader do not count for a character between words. -/
theorem stepCode_append (more : List Literal) (c : Char) :
    Reader.stepCode (found ++ more) c =
      (Reader.stepCode more c).map fun next => next.behind found := by
  unfold Reader.stepCode
  split_ifs <;> rfl

/-- The literals behind a reader do not count for a step. -/
theorem step_behind (reader : Reader) (c : Char) :
    (reader.behind found).step c = (reader.step c).map fun next => next.behind found := by
  obtain ⟨more, place⟩ := reader
  cases place with
  | code => exact stepCode_append found more c
  | comment => rfl
  | slash | codePoint =>
    simp only [Reader.behind, Reader.step]
    split_ifs <;> rfl
  | word read =>
    simp only [Reader.behind, Reader.step]
    split_ifs
    · rfl
    · rfl
    · rw [Option.map_bind]
      congr 1
      funext ended
      rw [List.append_assoc]
      exact stepCode_append found (more ++ ended) c
  | text read =>
    simp only [Reader.behind, Reader.step]
    split_ifs
    · rw [List.append_assoc]
      rfl
    all_goals rfl
  | escape read =>
    simp only [Reader.behind, Reader.step]
    split_ifs
    · rfl
    · rw [Option.map_map]
      rfl
  | digits read number =>
    simp only [Reader.behind, Reader.step]
    split_ifs
    · rw [Option.map_map]
      rfl
    · rfl

/-- The literals behind a reader do not count for what it reads. -/
theorem run_behind (reader : Reader) (chars : List Char) :
    (reader.behind found).run chars = (reader.run chars).map fun next => next.behind found := by
  induction chars generalizing reader with
  | nil => rfl
  | cons c rest ih =>
    rw [run_cons, run_cons, step_behind, Option.bind_map, Option.map_bind]
    congr 1
    funext next
    exact ih next

/-- What is read is added to the literals behind a reader. -/
theorem prefix_of_run {reader next : Reader} {chars : List Char}
    (read : reader.run chars = some next) : reader.found <+: next.found := by
  have fresh : reader = (⟨[], reader.place⟩ : Reader).behind reader.found := by
    rw [Reader.behind, List.append_nil]
  rw [fresh, run_behind, Option.map_eq_some_iff] at read
  obtain ⟨added, -, rfl⟩ := read
  exact List.prefix_append reader.found added.found

/-- Only the end of the line ends a comment. -/
theorem run_comment {chars : List Char} (unbroken : '\n' ∉ chars) :
    (⟨found, .comment⟩ : Reader).run chars = some ⟨found, .comment⟩ := by
  induction chars with
  | nil => rfl
  | cons c rest ih =>
    obtain ⟨other, later⟩ := not_or.mp (mt List.mem_cons.mpr unbroken)
    rw [run_cons, Reader.step]
    simp only [if_neg (Ne.symm other), Option.bind_some]
    exact ih later

/-- Digits are kept up to the brace. -/
theorem run_digits (read number : List Char) {chars : List Char} (unclosed : '\x7d' ∉ chars) :
    (⟨found, .digits read number⟩ : Reader).run chars =
      some ⟨found, .digits read (number ++ chars)⟩ := by
  induction chars generalizing number with
  | nil => simp
  | cons c rest ih =>
    obtain ⟨other, later⟩ := not_or.mp (mt List.mem_cons.mpr unclosed)
    rw [run_cons, Reader.step]
    simp only [if_neg (Ne.symm other), Option.bind_some]
    rw [ih (number ++ [c]) later, List.append_assoc, List.singleton_append]

/-- A word is kept up to its end. -/
theorem run_word (read : List Char) {chars : List Char}
    (word : ∀ c ∈ chars, isWordChar c = true) :
    (⟨found, .word read⟩ : Reader).run chars = some ⟨found, .word (read ++ chars)⟩ := by
  induction chars generalizing read with
  | nil => simp
  | cons c rest ih =>
    rw [run_cons, Reader.step]
    simp only [if_pos (word c List.mem_cons_self), Option.bind_some]
    rw [ih (read ++ [c]) fun c member => word c (List.mem_cons_of_mem _ member),
      List.append_assoc, List.singleton_append]

/-- A number is a word with one literal. -/
theorem ofWord?_repr (number : Nat) : ofWord? number.repr.toList = some [.number number] := by
  obtain ⟨first, rest, written, digits⟩ := exists_digits number
  have digit : number.repr.toList.head?.any Char.isDigit = true := by
    rw [written]
    exact digits first List.mem_cons_self
  rw [ofWord?, if_pos digit, String.ofList_toList, Nat.toNat?_repr]
  rfl

/-- A number that a semicolon ends is read back. -/
theorem run_number (number : Nat) (rest : List Char) :
    (⟨found, .code⟩ : Reader).run (number.repr.toList ++ ';' :: rest) =
      (⟨found ++ [.number number], .code⟩ : Reader).run rest := by
  have ofWord := ofWord?_repr number
  obtain ⟨first, others, written, digits⟩ := exists_digits number
  rw [written] at ofWord
  have word : ∀ c ∈ first :: others, isWordChar c = true := by
    intro c member
    simp [isWordChar, Char.isAlphanum, digits c member]
  have start : Reader.stepCode found first = some ⟨found, .word [first]⟩ := by
    have digit := digits first List.mem_cons_self
    have slash : first ≠ '/' := by rintro rfl; contradiction
    have quote : first ≠ '"' := by rintro rfl; contradiction
    rw [Reader.stepCode, if_neg slash, if_neg quote, if_pos (word first List.mem_cons_self)]
  have read := run_word found [first] fun c member => word c (List.mem_cons_of_mem _ member)
  have ended : Reader.step ⟨found, .word (first :: others)⟩ ';' =
      some ⟨found ++ [.number number], .code⟩ := by
    change ((ofWord? (first :: others)).bind fun ended =>
      Reader.stepCode (found ++ ended) ';') = _
    rw [ofWord]
    rfl
  rw [written, run_append, run_cons, Reader.step, start, Option.bind_some, read,
    Option.bind_some, run_cons, List.singleton_append, ended, Option.bind_some]

/-! ### Texts -/

/-- A code point is read back from its digits. -/
theorem ofCodePoint?_toDigits (c : Char) : ofCodePoint? (Nat.toDigits 16 c.toNat) = some c := by
  have valid := c.valid
  have length : (Nat.toDigits 16 c.toNat).length ≤ 6 := by
    rw [Nat.length_toDigits_le_iff (by decide) (by decide)]
    rcases valid with low | ⟨-, high⟩
    · exact Nat.lt_trans low (by decide)
    · exact Nat.lt_trans high (by decide)
  have ofCode : Toml.charOfCode? c.toNat = some c := by
    have scalar : c.toNat < 0xD800 ∨ (0xDFFF < c.toNat ∧ c.toNat < 0x110000) := valid
    rw [Toml.charOfCode?, if_pos scalar, Char.ofNat_toNat]
  rw [ofCodePoint?, if_pos ⟨Nat.length_toDigits_pos, length⟩, hexNumber?_toDigits,
    Option.bind_some, ofCode]

/-- An escape by code point spells its character. -/
theorem run_codePoint (read : List Char) (c : Char) :
    (⟨found, .text read⟩ : Reader).run ("\\u\x7b" ++ hexDigits c.toNat ++ "\x7d").toList =
      some ⟨found, .text (read ++ [c])⟩ := by
  have unclosed : '\x7d' ∉ Nat.toDigits 16 c.toNat := by
    intro member
    obtain ⟨digit, below, brace⟩ := exists_digitChar_of_mem_toDigits member
    have others : ∀ digit < 16, Nat.digitChar digit ≠ '\x7d' := by decide
    exact others digit below brace.symm
  have opened : (⟨found, .text read⟩ : Reader).run "\\u\x7b".toList =
      some ⟨found, .digits read []⟩ := rfl
  have closed : (⟨found, .digits read (Nat.toDigits 16 c.toNat)⟩ : Reader).run "\x7d".toList =
      some ⟨found, .text (read ++ [c])⟩ := by
    change ((ofCodePoint? _).map _).bind _ = _
    rw [ofCodePoint?_toDigits]
    rfl
  rw [String.toList_append, String.toList_append, run_append, run_append, opened,
    Option.bind_some, hexDigits, String.toList_ofList, run_digits found read [] unclosed,
    List.nil_append, Option.bind_some, closed]

/-- What is written of a character spells it. -/
theorem run_quotedChar (read : List Char) (c : Char) :
    (⟨found, .text read⟩ : Reader).run (quotedChar c).toList =
      some ⟨found, .text (read ++ [c])⟩ := by
  unfold quotedChar
  split
  -- The characters that are escaped by a letter.
  iterate 6 rfl
  next quote backslash =>
    by_cases visible : isVisible c = true
    · have carriageReturn : c ≠ '\r' := by
        rintro rfl
        exact not_mem_lineBreaks_of_isVisible visible (by decide)
      rw [if_pos visible, Char.toString_eq_singleton, String.toList_singleton, run_cons,
        Reader.step]
      simp only [if_neg quote, if_neg backslash, if_neg carriageReturn, Option.bind_some, run_nil]
    · rw [if_neg visible]
      exact run_codePoint found read c

/-- What stands between the quotes spells the text. -/
theorem run_quotedChars (read : List Char) (text : String) :
    (⟨found, .text read⟩ : Reader).run (quotedChars text) =
      some ⟨found, .text (read ++ text.toList)⟩ := by
  unfold quotedChars
  induction text.toList generalizing read with
  | nil => rw [List.flatMap_nil, List.append_nil, run_nil]
  | cons c rest ih =>
    rw [List.flatMap_cons, run_append, run_quotedChar, Option.bind_some, ih, List.append_assoc,
      List.singleton_append]

/-- A quoted text is read back. -/
theorem run_quoted (text : String) (rest : List Char) :
    (⟨found, .code⟩ : Reader).run ((quoted text).toList ++ rest) =
      (⟨found ++ [.text text], .code⟩ : Reader).run rest := by
  have opened : (⟨found, .code⟩ : Reader).step '"' = some ⟨found, .text []⟩ := rfl
  have closed : (⟨found, .text text.toList⟩ : Reader).step '"' =
      some ⟨found ++ [.text (String.ofList text.toList)], .code⟩ := rfl
  rw [toList_quoted, List.cons_append, run_cons, opened, Option.bind_some, List.append_assoc,
    run_append, run_quotedChars, Option.bind_some, List.nil_append, List.singleton_append,
    run_cons, closed, Option.bind_some, String.ofList_toList]

/-- A text that would end itself, the line and the program text is one literal. -/
example : literals ("a = " ++ quoted "\";\n//" ++ "; // b") = some [.text "\";\n//"] := by
  decide +kernel

/-! ### Between the quotes -/

/-- Whether a place is between the quotes of a text. -/
def Place.InText : Place → Prop
  | .text _ | .escape _ | .codePoint _ | .digits _ _ => True
  | _ => False

/-- A step between the quotes that ends no text stays between them. -/
theorem inText_of_step {reader next : Reader} {c : Char} (inside : reader.place.InText)
    (stepped : reader.step c = some next) (none : next.found = []) : next.place.InText := by
  obtain ⟨found, place⟩ := reader
  cases place with
  | code | slash | comment | word => exact inside.elim
  | text read =>
    simp only [Reader.step] at stepped
    split_ifs at stepped
    all_goals cases stepped
    · simp at none
    · exact trivial
    · exact trivial
  | codePoint read =>
    simp only [Reader.step] at stepped
    split_ifs at stepped
    cases stepped
    exact trivial
  | escape read =>
    simp only [Reader.step] at stepped
    split_ifs at stepped
    · cases stepped
      exact trivial
    · obtain ⟨spelled, -, rfl⟩ := Option.map_eq_some_iff.mp stepped
      exact trivial
  | digits read number =>
    simp only [Reader.step] at stepped
    split_ifs at stepped
    · obtain ⟨spelled, -, rfl⟩ := Option.map_eq_some_iff.mp stepped
      exact trivial
    · cases stepped
      exact trivial

/-- A reader that found no literal since it stood between the quotes stood there all along. -/
theorem inText_of_run_append {reader last : Reader} {front back : List Char}
    (inside : reader.place.InText) (read : reader.run (front ++ back) = some last)
    (none : last.found = []) : ∃ next, reader.run front = some next ∧ next.place.InText := by
  induction front generalizing reader with
  | nil => exact ⟨reader, rfl, inside⟩
  | cons c rest ih =>
    obtain ⟨first, stepped, later⟩ := Option.bind_eq_some_iff.mp read
    have least : first.found = [] := List.prefix_nil.mp (none ▸ prefix_of_run later)
    obtain ⟨next, reached, within⟩ := ih (inText_of_step inside stepped least) later
    exact ⟨next, Option.bind_eq_some_iff.mpr ⟨first, stepped, reached⟩, within⟩

/-- No character between the quotes of a quoted text leads out of it. -/
theorem inText_of_prefix {text : String} {read : List Char} (front : read <+: quotedChars text) :
    ∃ next, (⟨[], .text []⟩ : Reader).run read = some next ∧ next.place.InText := by
  obtain ⟨back, whole⟩ := front
  have all := run_quotedChars [] [] text
  rw [← whole] at all
  exact inText_of_run_append trivial all rfl

/-! ### Lines -/

/-- The place of a reader behind some characters. -/
def placeAfter (chars : List Char) : Option Place :=
  ((⟨[], .code⟩ : Reader).run chars).map Reader.place

/-- Whether some characters lead from one place to another, with no literal on the way. -/
def Leads (chars : List Char) (origin target : Place) : Prop :=
  (⟨[], origin⟩ : Reader).run chars = some ⟨[], target⟩

/-- Ways that join make one way. -/
theorem Leads.append {front back : List Char} {first second third : Place}
    (leads : Leads front first second) (further : Leads back second third) :
    Leads (front ++ back) first third := by
  unfold Leads at *
  rw [run_append, leads, Option.bind_some, further]

/-- The place behind some characters is reached from any place on the way. -/
theorem placeAfter_append {front : List Char} {place : Place} (leads : Leads front .code place)
    (back : List Char) :
    placeAfter (front ++ back) = ((⟨[], place⟩ : Reader).run back).map Reader.place := by
  unfold Leads at leads
  rw [placeAfter, run_append, leads, Option.bind_some]

/-- Whether a line that starts between words has some literals and ends between words. -/
def LineHas (line : String) (literals : List Literal) : Prop :=
  (⟨[], .code⟩ : Reader).run (line ++ "\n").toList = some ⟨literals, .code⟩

/-- The literals of lines are those of each in turn. -/
theorem run_lines {lines : List String} {literals : List (List Literal)}
    (has : List.Forall₂ LineHas lines literals) :
    (⟨[], .code⟩ : Reader).run (String.join (lines.map (· ++ "\n"))).toList =
      some ⟨literals.flatten, .code⟩ := by
  induction has with
  | nil => rfl
  | @cons line ended _ _ first _ ih =>
    have fresh : (⟨ended, .code⟩ : Reader) = (⟨[], .code⟩ : Reader).behind ended := by
      rw [Reader.behind, List.append_nil]
    rw [List.map_cons, String.join_cons, String.toList_append, run_append, first,
      Option.bind_some, fresh, run_behind, ih]
    rfl

/-- A comment has no literals. -/
theorem lineHas_comment {opening rest : String} (opens : Leads opening.toList .code .comment)
    (unbroken : Unbroken rest) : LineHas (opening ++ rest) [] := by
  have lineFeed : '\n' ∉ rest.toList := fun member => unbroken '\n' member (by decide)
  unfold Leads at opens
  unfold LineHas
  rw [String.toList_append, String.toList_append, run_append, run_append, opens,
    Option.bind_some, run_comment [] lineFeed]
  rfl

/-- A text stands in a line between what leads back between words. -/
theorem lineHas_text {opening : String} (opens : Leads opening.toList .code .code)
    (text : String) : LineHas (opening ++ quoted text ++ ";") [.text text] := by
  unfold Leads at opens
  unfold LineHas
  rw [String.append_assoc, String.append_assoc, String.toList_append, String.toList_append,
    run_append, opens, Option.bind_some, run_quoted]
  rfl

/-- A number stands in a line between an opening and a semicolon. -/
theorem lineHas_number {opening : String} (opens : Leads opening.toList .code .code)
    (number : Nat) : LineHas (opening ++ toString number ++ ";") [.number number] := by
  have closing : (";" ++ "\n").toList = [';', '\n'] := rfl
  unfold Leads at opens
  unfold LineHas
  rw [String.append_assoc, String.append_assoc, String.toList_append, String.toList_append,
    run_append, opens, Option.bind_some, closing, Nat.toString_eq_repr, run_number]
  rfl

end ProgramText

end CharLexer
