import CharLexer.Json.Parser
import CharLexer.Json.Printer
import CharLexer.Proofs.Piece
import Mathlib.Data.List.TakeDrop

/-!
# Written values are read back

A reader takes the text of one value from the front and leaves the text behind it. For strings and
numbers the law is proved first: what is written of a character is read as that character
(`readString_escapedChar`), and the digits of a number as that number
(`readUnsigned_toDigits`). A value is written behind a text and read in front of one
(`Value.RoundTrips`); an array and an object keep this law of their parts, so it holds of every
value that is made of integers and whole strings (`Value.Plain.roundTrips`), in every layout that
puts only blanks where the grammar allows them. Hence either text of such a value is parsed to it
(`Value.Plain.parse_text`).
-/
namespace CharLexer.Json

/-- Items that are each read as something are all read so, one after another. -/
theorem mapM_map_eq_some {α β γ : Type} (f : β → Option γ) (g : α → β) (h : α → γ)
    {items : List α} (each : ∀ item ∈ items, f (g item) = some (h item)) :
    (items.map g).mapM f = some (items.map h) := by
  induction items with
  | nil => rfl
  | cons item items ih =>
    obtain ⟨first, rest⟩ := List.forall_mem_cons.mp each
    rw [List.map_cons, List.mapM_cons, first, ih rest]
    rfl

/-! ## Strings -/

/-- What is written of a text between the quotes. -/
def escaped (text : String) : List Char := text.toList.flatMap fun c => (escapedChar c).toList

/-- The four digits of a control are read as its number. -/
theorem hexNumber?_control : ∀ code < 0x20,
    hexNumber? ['0', '0', hexDigit (code / 16), hexDigit (code % 16)] = some code := by
  decide

/-- The escape of a control is read as the control. -/
theorem readString_control {code : Nat} (control : code < 0x20) (read rest : List Char) :
    readString none (some read)
        ('\\' :: 'u' :: '0' :: '0' :: hexDigit (code / 16) :: hexDigit (code % 16) :: rest) =
      readString none (some (Char.ofNat code :: read)) rest := by
  have notLow : ¬(0xDC00 ≤ code ∧ code < 0xE000) := by omega
  have notHigh : ¬(0xD800 ≤ code ∧ code < 0xDC00) := by omega
  rw [readString, hexNumber?_control code control]
  simp [notLow, notHigh]

/-- A character that stands for itself is read as it is. -/
theorem readString_plain {c : Char} (quote : c ≠ '"') (backslash : c ≠ '\\')
    (plain : ¬c.toNat < 0x20) (read rest : List Char) :
    readString none (some read) (c :: rest) = readString none (some (c :: read)) rest := by
  rw [readString]
  · simp [plain, backslash]
  all_goals grind

/-- What is written of a character is read as the character. -/
theorem readString_escapedChar (c : Char) (read rest : List Char) :
    readString none (some read) ((escapedChar c).toList ++ rest) =
      readString none (some (c :: read)) rest := by
  unfold escapedChar
  split
  -- The characters that are escaped by a letter.
  iterate 7 rfl
  next quote backslash _ _ _ _ _ =>
    by_cases control : c.toNat < 0x20
    · have digits := readString_control control read rest
      rw [Char.ofNat_toNat] at digits
      rw [if_pos control]
      simp only [String.toList_append, String.toList_ofList]
      exact digits
    · rw [if_neg control, Char.toString, String.toList_singleton]
      exact readString_plain quote backslash control read rest

/-- What is written of characters, behind those read and before the closing quote, is read as the
characters. -/
theorem readString_flatMap (chars read rest : List Char) :
    readString none (some read)
        (chars.flatMap (fun c => (escapedChar c).toList) ++ '"' :: rest) =
      some (some (String.ofList (read.reverse ++ chars)), rest) := by
  induction chars generalizing read with
  | nil => rw [List.append_nil]; rfl
  | cons c chars ih =>
    rw [List.flatMap_cons, List.append_assoc, readString_escapedChar, ih, List.reverse_cons,
      List.append_assoc, List.singleton_append]

/-- What is written of a text is read as the text. -/
theorem readString_escaped (text : String) (rest : List Char) :
    readString none (some []) (escaped text ++ '"' :: rest) = some (some text, rest) := by
  rw [escaped, readString_flatMap, List.reverse_nil, List.nil_append, String.ofList_toList]

/-- A text is written between quotes. -/
theorem toList_writeString (written text : String) :
    (writeString written text).toList = written.toList ++ '"' :: (escaped text ++ ['"']) := by
  have appended : ∀ (chars : List Char) (written : String),
      (chars.foldl (fun written c => written ++ escapedChar c) written).toList =
        written.toList ++ chars.flatMap fun c => (escapedChar c).toList := by
    intro chars
    induction chars with
    | nil => simp
    | cons c chars ih => simp [ih]
  rw [writeString, String.toList_push, appended, String.toList_push, List.append_assoc,
    List.append_assoc]
  rfl

/-! ## Numbers -/

/-- Whether a text may stand behind a number: its first character, if there is one, does not carry
the number on. -/
def EndsNumber (text : List Char) : Prop :=
  ∀ c ∈ text.head?, c.isDigit = false ∧ c ≠ '.' ∧ c ≠ 'e' ∧ c ≠ 'E'

/-- A text behind a number starts with any character that does not carry the number on. -/
theorem EndsNumber.cons {c : Char} (stops : c.isDigit = false ∧ c ≠ '.' ∧ c ≠ 'e' ∧ c ≠ 'E')
    (rest : List Char) : EndsNumber (c :: rest) := by
  intro first head
  obtain rfl := Option.mem_some_iff.mp head
  exact stops

/-- The four blanks. -/
theorem isGap_cases {c : Char} (gap : isGap c = true) :
    c = ' ' ∨ c = '\t' ∨ c = '\n' ∨ c = '\r' := by
  simpa only [isGap, Bool.or_eq_true, beq_iff_eq, or_assoc] using gap

/-- A text behind a number may start with blanks. -/
theorem EndsNumber.gap {gap rest : List Char} (blank : ∀ c ∈ gap, isGap c = true)
    (ends : EndsNumber rest) : EndsNumber (gap ++ rest) := by
  cases gap with
  | nil => exact ends
  | cons c gap =>
    rcases isGap_cases (blank c List.mem_cons_self) with rfl | rfl | rfl | rfl <;>
      exact .cons (by decide) _

/-- Digits before the end of a number are all that is taken. -/
theorem spanDigits_append {digits rest : List Char} (all : ∀ c ∈ digits, c.isDigit = true)
    (ends : EndsNumber rest) : spanDigits (digits ++ rest) = (digits, rest) := by
  have stop := fun c head => (ends c head).1
  rw [spanDigits, List.span_eq_takeWhile_dropWhile, takeWhile_append_of_head all stop,
    dropWhile_append_of_head all stop]

/-- The end of a number starts no fraction. -/
theorem readFraction_of_endsNumber {rest : List Char} (ends : EndsNumber rest) :
    readFraction rest = some ([], rest) := by
  unfold readFraction
  split
  · exact absurd rfl (ends _ rfl).2.1
  · rfl

/-- The end of a number starts no exponent. -/
theorem readExponent_of_endsNumber {rest : List Char} (ends : EndsNumber rest) :
    readExponent rest = some ([], rest) := by
  cases rest with
  | nil => rfl
  | cons c rest =>
    obtain ⟨-, -, small, capital⟩ := ends c rfl
    unfold readExponent
    exact if_neg (not_or.mpr ⟨small, capital⟩)

/-- The digits of a number have it as their value. -/
theorem digitsValue_toDigits (number : Nat) : digitsValue (Nat.toDigits 10 number) = number := by
  have value := Nat.ofDigitChars_ten_toDigits (n := number)
  rw [Nat.ofDigitChars_eq_foldl] at value
  simp only [digitsValue, Nat.mul_comm _ 10]
  exact value

/-- Only zero is written with a zero in front. -/
theorem eq_zero_of_head?_toDigits {number : Nat}
    (zero : (Nat.toDigits 10 number).head? = some '0') : number = 0 := by
  induction number using Nat.strongRecOn with
  | ind number ih =>
    by_cases small : number < 10
    · rw [Nat.toDigits_of_lt_base small] at zero
      have digit : ∀ digit < 10, [digit.digitChar].head? = some '0' → digit = 0 := by decide
      exact digit number small zero
    · have large : 10 ≤ number := Nat.le_of_not_lt small
      have shorter := ih (number / 10) (by omega)
      rw [Nat.toDigits_of_base_le (by decide) large] at zero
      cases front : Nat.toDigits 10 (number / 10) with
      | nil => exact absurd front Nat.toDigits_ne_nil
      | cons c digits =>
        rw [front] at shorter zero
        have quotient := shorter zero
        omega

/-- The digits of a number are read as the number behind its sign. -/
theorem readUnsigned_toDigits (negative : Bool) (number : Nat) {rest : List Char}
    (signed : negative = true → number ≠ 0) (ends : EndsNumber rest) :
    readUnsigned negative (Nat.toDigits 10 number ++ rest) =
      some (.integer (if negative then -(number : Int) else number), rest) := by
  have digits : ∀ c ∈ Nat.toDigits 10 number, c.isDigit = true :=
    fun c member => Nat.isDigit_of_mem_toDigits (by decide) (by decide) member
  have allowed : ¬((Nat.toDigits 10 number).isEmpty = true ∨
      (Nat.toDigits 10 number).head? = some '0' ∧ (Nat.toDigits 10 number).length ≠ 1) := by
    rintro (empty | ⟨zero, long⟩)
    · exact Nat.toDigits_ne_nil (List.isEmpty_iff.mp empty)
    · rw [eq_zero_of_head?_toDigits zero] at long
      exact long rfl
  have noMinusZero : ¬(negative = true ∧ number = 0) := fun both => signed both.1 both.2
  simp only [readUnsigned, spanDigits_append digits ends, if_neg allowed,
    readFraction_of_endsNumber ends, Option.bind_eq_bind, Option.bind_some,
    readExponent_of_endsNumber ends, digitsValue_toDigits]
  exact if_pos ⟨rfl, rfl, noMinusZero⟩

/-! ## Values -/

/-- Whether a layout puts nothing but blanks beside the colon. -/
structure Layout.Blank (layout : Layout) : Prop where
  lineBreak : ∀ level, ∀ c ∈ (layout.lineBreak level).toList, isGap c = true
  colon : ∃ gap, layout.colon.toList = ':' :: gap ∧ ∀ c ∈ gap, isGap c = true

/-- The compact layout puts no blank. -/
theorem Layout.blank_compact : Layout.compact.Blank where
  lineBreak _ c member := absurd member (by simp [Layout.compact])
  colon := ⟨[], rfl, fun _ member => absurd member List.not_mem_nil⟩

/-- The spread layout puts line feeds and spaces. -/
theorem Layout.blank_spread : Layout.spread.Blank where
  lineBreak level c member := by
    simp only [Layout.spread, spaces, String.toList_append, String.toList_ofList,
      List.mem_append] at member
    rcases member with feed | space
    · obtain rfl : c = '\n' := by simpa using feed
      rfl
    · rw [List.eq_of_mem_replicate space]
      rfl
  colon := ⟨[' '], rfl, List.forall_mem_singleton.mpr rfl⟩

/-- Blanks are skipped before a text that does not start with one. -/
theorem skipGap_append {gap text : List Char} (blank : ∀ c ∈ gap, isGap c = true)
    (opens : ∀ c ∈ text.head?, isGap c = false) : skipGap (gap ++ text) = text :=
  dropWhile_append_of_head blank opens

namespace Value

/-- What is written of a value at a level. -/
def chars (layout : Layout) (level : Nat) (value : Value) : List Char :=
  (write layout level "" value).toList

/-- What is written of a member at a level. -/
def memberChars (layout : Layout) (level : Nat) (member : String × Value) : List Char :=
  '"' :: (escaped member.1 ++ '"' :: (layout.colon.toList ++ member.2.chars layout level))

/-- A member is written with its value. -/
theorem length_chars_le (layout : Layout) (level : Nat) (member : String × Value) :
    (member.2.chars layout level).length ≤ (memberChars layout level member).length := by
  simp only [memberChars, List.length_cons, List.length_append]
  omega

/-- Blanks are skipped before a written member. -/
theorem skipGap_memberChars (layout : Layout) {gap : List Char}
    (blank : ∀ c ∈ gap, isGap c = true) (level : Nat) (member : String × Value) (rest : List Char) :
    skipGap (gap ++ (memberChars layout level member ++ rest)) =
      memberChars layout level member ++ rest :=
  Json.skipGap_append blank (by simp [memberChars, isGap])

/-- What is written of later parts at a level, each behind a comma. -/
def laterChars {α : Type} (layout : Layout) (level : Nat) (part : α → List Char) (later : List α) :
    List Char :=
  later.flatMap fun next => ',' :: ((layout.lineBreak level).toList ++ part next)

/-- No later part, nothing written. -/
@[simp] theorem laterChars_nil {α : Type} (layout : Layout) (level : Nat) (part : α → List Char) :
    laterChars layout level part [] = [] := rfl

/-- The next part is written behind its comma. -/
@[simp] theorem laterChars_cons {α : Type} (layout : Layout) (level : Nat) (part : α → List Char)
    (next : α) (later : List α) : laterChars layout level part (next :: later) =
      ',' :: ((layout.lineBreak level).toList ++
        (part next ++ laterChars layout level part later)) := by
  rw [laterChars, List.flatMap_cons, List.cons_append, List.append_assoc]
  rfl

/-- What is written of parts between brackets at a level. -/
def enclosedChars {α : Type} (layout : Layout) (level : Nat) (opening closing : Char)
    (part : Nat → α → List Char) (first : α) (later : List α) : List Char :=
  opening :: ((layout.lineBreak (level + 1)).toList ++ (part (level + 1) first ++
    (laterChars layout (level + 1) (part (level + 1)) later ++
      ((layout.lineBreak level).toList ++ [closing]))))

/-- A value is written behind any text and read in front of any text that ends a number. -/
structure RoundTrips (layout : Layout) (value : Value) : Prop where
  /-- What is written does not depend on the text before it. -/
  appended : ∀ level written,
    (write layout level written value).toList = written.toList ++ value.chars layout level
  /-- A written value starts with a character that is no blank and closes no array. -/
  opening : ∀ level, ∃ c rest, value.chars layout level = c :: rest ∧ isGap c = false ∧ c ≠ ']'
  /-- What is written is read as the value. -/
  reads : ∀ level fuel rest, (value.chars layout level).length ≤ fuel → EndsNumber rest →
    readValue fuel (value.chars layout level ++ rest) = some (value, rest)

variable {layout : Layout}

namespace RoundTrips

/-- A value round-trips when a text is written of it at each level, starts as a value and is read
as the value. -/
theorem of_text {value : Value} (text : Nat → List Char)
    (appended : ∀ level written,
      (write layout level written value).toList = written.toList ++ text level)
    (opening : ∀ level, ∃ c rest, text level = c :: rest ∧ isGap c = false ∧ c ≠ ']')
    (reads : ∀ level fuel rest, (text level).length ≤ fuel + 1 → EndsNumber rest →
      readValue (fuel + 1) (text level ++ rest) = some (value, rest)) :
    value.RoundTrips layout := by
  have same : ∀ level, value.chars layout level = text level := fun level => appended level ""
  refine ⟨fun level => same level ▸ appended level, fun level => same level ▸ opening level,
    fun level fuel rest enough ends => ?_⟩
  rw [same] at enough ⊢
  cases fuel with
  | zero =>
    obtain ⟨c, later, starts, -⟩ := opening level
    rw [starts] at enough
    exact absurd enough (Nat.not_succ_le_zero _)
  | succ fuel => exact reads level fuel rest enough ends

/-- Null round-trips. -/
theorem null : Value.null.RoundTrips layout :=
  of_text (fun _ => ['n', 'u', 'l', 'l']) (fun _ _ => String.toList_append ..)
    (fun _ => ⟨'n', _, rfl, by decide⟩) fun _ _ _ _ _ => rfl

/-- The truth values round-trip. -/
theorem boolean : ∀ value, (Value.boolean value).RoundTrips layout
  | true => of_text (fun _ => ['t', 'r', 'u', 'e']) (fun _ _ => String.toList_append ..)
      (fun _ => ⟨'t', _, rfl, by decide⟩) fun _ _ _ _ _ => rfl
  | false => of_text (fun _ => ['f', 'a', 'l', 's', 'e']) (fun _ _ => String.toList_append ..)
      (fun _ => ⟨'f', _, rfl, by decide⟩) fun _ _ _ _ _ => rfl

/-- A string round-trips. -/
theorem string (text : String) : (Value.string text).RoundTrips layout := by
  refine of_text (fun _ => '"' :: (escaped text ++ ['"'])) (fun _ _ => ?_)
    (fun _ => ⟨'"', _, rfl, by decide⟩) fun _ fuel rest _ _ => ?_
  · exact toList_writeString ..
  · have read := readString_escaped text rest
    rw [List.cons_append, List.append_assoc, List.singleton_append, readValue, read]
    rfl

/-- A digit is no other character. -/
theorem ne_of_isDigit {c other : Char} (digit : c.isDigit = true) (no : other.isDigit = false) :
    c ≠ other := by
  rintro rfl
  exact Bool.noConfusion (no.symm.trans digit)

/-- A text that starts with a digit is read as a number. -/
theorem readValue_digit {c : Char} (digit : c.isDigit = true) (fuel : Nat) (rest : List Char) :
    readValue (fuel + 1) (c :: rest) = readUnsigned false (c :: rest) := by
  rw [readValue]
  all_goals
    rintro later ⟨⟩
    exact ne_of_isDigit digit (by decide) rfl

/-- The digits of a number start as a value. -/
theorem exists_digit (number : Nat) :
    ∃ c rest, Nat.toDigits 10 number = c :: rest ∧ c.isDigit = true := by
  cases digits : Nat.toDigits 10 number with
  | nil => exact absurd digits Nat.toDigits_ne_nil
  | cons c rest =>
    have member : c ∈ Nat.toDigits 10 number := digits ▸ List.mem_cons_self
    exact ⟨c, rest, rfl, Nat.isDigit_of_mem_toDigits (by decide) (by decide) member⟩

/-- An integer round-trips. -/
theorem integer : ∀ number, (Value.integer number).RoundTrips layout
  | .ofNat number => by
    obtain ⟨c, later, digits, digit⟩ := exists_digit number
    refine of_text (fun _ => Nat.toDigits 10 number) (fun _ _ => ?_)
      (fun _ => ⟨c, later, digits, ?_, ?_⟩) fun _ fuel rest _ ends => ?_
    · rw [write, String.toList_append]
      exact congrArg _ Nat.toList_repr
    · refine Bool.eq_false_iff.mpr fun gap => ?_
      rcases isGap_cases gap with rfl | rfl | rfl | rfl <;> contradiction
    · exact ne_of_isDigit digit (by decide)
    · have read := readUnsigned_toDigits false number nofun ends
      rw [digits, List.cons_append] at read ⊢
      exact (readValue_digit digit fuel _).trans read
  | .negSucc number => by
    refine of_text (fun _ => '-' :: Nat.toDigits 10 (number + 1)) (fun _ _ => ?_)
      (fun _ => ⟨'-', _, rfl, by decide⟩) fun _ fuel rest _ ends => ?_
    · have signed : (toString (Int.negSucc number)).toList = '-' :: Nat.toDigits 10 (number + 1) :=
        (String.toList_append ..).trans (congrArg _ Nat.toList_repr)
      rw [write, String.toList_append, signed]
    · exact readUnsigned_toDigits true (number + 1) (fun _ => nofun) ends

/-- Blanks are skipped before a written value. -/
theorem skipGap_append {value : Value} (trips : value.RoundTrips layout) {gap : List Char}
    (blank : ∀ c ∈ gap, isGap c = true) (level : Nat) (rest : List Char) :
    skipGap (gap ++ (value.chars layout level ++ rest)) = value.chars layout level ++ rest := by
  obtain ⟨c, later, starts, opens, -⟩ := trips.opening level
  refine Json.skipGap_append blank fun first head => ?_
  rw [starts] at head
  obtain rfl := Option.mem_some_iff.mp head
  exact opens

end RoundTrips

/-- Behind a part stands a comma, or blanks and the closing bracket; none carries a number on. -/
theorem endsNumber_laterChars {α : Type} (layout : Layout) (level : Nat) (part : α → List Char)
    (later : List α) {rest : List Char} (ends : EndsNumber rest) :
    EndsNumber (laterChars layout level part later ++ rest) := by
  cases later with
  | nil => exact ends
  | cons next later => exact .cons (by decide) _

/-- The later elements of an array are written one after another. -/
theorem toList_writeElements {elements : List Value}
    (trip : ∀ element ∈ elements, element.RoundTrips layout) (level : Nat) (written : String) :
    (writeElements layout level written elements).toList =
      written.toList ++ laterChars layout level (chars layout level) elements := by
  induction elements generalizing written with
  | nil => exact (List.append_nil _).symm
  | cons element elements ih =>
    obtain ⟨first, rest⟩ := List.forall_mem_cons.mp trip
    rw [writeElements, ih rest, first.appended, laterChars_cons]
    simp only [String.toList_append, String.toList_push, List.append_assoc, List.cons_append,
      List.nil_append]

/-- An element before a comma is kept, and reading goes on behind the comma. -/
theorem readElements_comma {value : Value} {fuel : Nat} {text rest : List Char}
    (read : readValue fuel text = some (value, ',' :: rest)) (before : List Value) :
    readElements (fuel + 1) before text = readElements fuel (value :: before) (skipGap rest) := by
  rw [readElements, read]
  rfl

/-- The element before the closing bracket is the last one. -/
theorem readElements_close {value : Value} {fuel : Nat} {text gap rest : List Char}
    (closing : ∀ c ∈ gap, isGap c = true)
    (read : readValue fuel text = some (value, gap ++ ']' :: rest)) (before : List Value) :
    readElements (fuel + 1) before text = some (.array (value :: before).reverse, rest) := by
  have closes : skipGap (gap ++ ']' :: rest) = ']' :: rest :=
    Json.skipGap_append closing (by simp [isGap])
  rw [readElements, read]
  simp [closes]

/-- Elements that round-trip are read back up to the closing bracket. -/
theorem readElements_chars (blank : layout.Blank) {gap : List Char}
    (closing : ∀ c ∈ gap, isGap c = true) (level fuel : Nat) (before : List Value) {first : Value}
    {elements : List Value} (trips : first.RoundTrips layout)
    (trip : ∀ element ∈ elements, element.RoundTrips layout) (rest : List Char)
    (enough : (first.chars layout level).length +
      (laterChars layout level (chars layout level) elements).length < fuel) :
    readElements fuel before (first.chars layout level ++
        (laterChars layout level (chars layout level) elements ++ (gap ++ ']' :: rest))) =
      some (.array (before.reverse ++ first :: elements), rest) := by
  have ends : EndsNumber (gap ++ ']' :: rest) := .gap closing (.cons (by decide) _)
  induction elements generalizing first before fuel with
  | nil =>
    obtain ⟨fuel, rfl⟩ := Nat.exists_eq_add_one_of_ne_zero (Nat.ne_zero_of_lt enough)
    have read := trips.reads level fuel _ (Nat.le_of_lt_succ enough) ends
    rw [laterChars_nil, List.nil_append, readElements_close closing read, List.reverse_cons]
  | cons next elements ih =>
    obtain ⟨fuel, rfl⟩ := Nat.exists_eq_add_one_of_ne_zero (Nat.ne_zero_of_lt enough)
    obtain ⟨nextTrips, nextTrip⟩ := List.forall_mem_cons.mp trip
    have read := trips.reads level fuel _ (by omega)
      (endsNumber_laterChars layout level (chars layout level) (next :: elements) ends)
    simp only [laterChars_cons, List.cons_append, List.append_assoc, List.length_cons,
      List.length_append] at read enough ⊢
    rw [readElements_comma read, nextTrips.skipGap_append (blank.lineBreak level),
      ih fuel (first :: before) nextTrips nextTrip (by omega), List.reverse_cons,
      List.append_assoc, List.singleton_append]

/-- A key and its value are written as a member. -/
theorem RoundTrips.appended_member {value : Value} (trips : value.RoundTrips layout) (level : Nat)
    (written key : String) :
    (write layout level (writeString written key ++ layout.colon) value).toList =
      written.toList ++ memberChars layout level (key, value) := by
  rw [trips.appended, String.toList_append, toList_writeString, memberChars]
  simp only [List.append_assoc, List.cons_append, List.nil_append]

/-- The later members of an object are written one after another. -/
theorem toList_writeMembers {members : List (String × Value)}
    (trip : ∀ member ∈ members, member.2.RoundTrips layout) (level : Nat) (written : String) :
    (writeMembers layout level written members).toList =
      written.toList ++ laterChars layout level (memberChars layout level) members := by
  induction members generalizing written with
  | nil => exact (List.append_nil _).symm
  | cons member members ih =>
    obtain ⟨first, rest⟩ := List.forall_mem_cons.mp trip
    rw [writeMembers, ih rest, first.appended_member, laterChars_cons]
    simp only [String.toList_append, String.toList_push, List.append_assoc, List.cons_append,
      List.nil_append]

/-- A member is read up to the comma or bracket that stands behind blanks. -/
theorem readMembers_member (blank : layout.Blank) {value : Value} (trips : value.RoundTrips layout)
    {level fuel : Nat} (enough : (value.chars layout level).length ≤ fuel)
    (before : List (Option String × Value)) (key : String) {rest : List Char}
    (ends : EndsNumber rest) :
    readMembers (fuel + 1) before (memberChars layout level (key, value) ++ rest) =
      match skipGap rest with
      | ',' :: rest => readMembers fuel ((some key, value) :: before) (skipGap rest)
      | '\x7d' :: rest => some (ofReversed ((some key, value) :: before), rest)
      | _ => none := by
  obtain ⟨gap, colon, beside⟩ := blank.colon
  have keyed := readString_escaped key (':' :: (gap ++ (value.chars layout level ++ rest)))
  have opens := trips.skipGap_append beside level rest
  have read := trips.reads level fuel rest enough ends
  have behindKey : ∀ text, skipGap (':' :: text) = ':' :: text := fun _ => rfl
  simp only [memberChars, colon, List.cons_append, List.append_assoc]
  rw [readMembers, keyed]
  simp only [Option.bind_eq_bind, Option.bind_some, behindKey, opens, read]
  rfl

/-- A member whose key is a whole string. -/
def keyed (member : String × Value) : Option String × Value := (some member.1, member.2)

/-- Members whose keys are whole strings make an object. -/
theorem ofReversed_keyed (members : List (String × Value)) :
    ofReversed (members.map keyed) = .object members.reverse := by
  have whole := mapM_map_eq_some (fun member => member.1.map fun key => (key, member.2)) keyed id
    fun member (_ : member ∈ members.reverse) => rfl
  rw [List.map_id] at whole
  rw [ofReversed, ← List.map_reverse, whole]

/-- Members whose values round-trip are read back up to the closing bracket. -/
theorem readMembers_chars (blank : layout.Blank) {gap : List Char}
    (closing : ∀ c ∈ gap, isGap c = true) (level fuel : Nat) (before : List (String × Value))
    {first : String × Value} {members : List (String × Value)}
    (trips : first.2.RoundTrips layout) (trip : ∀ member ∈ members, member.2.RoundTrips layout)
    (rest : List Char)
    (enough : (memberChars layout level first).length +
      (laterChars layout level (memberChars layout level) members).length < fuel) :
    readMembers fuel (before.map keyed) (memberChars layout level first ++
        (laterChars layout level (memberChars layout level) members ++ (gap ++ '\x7d' :: rest))) =
      some (.object (before.reverse ++ first :: members), rest) := by
  have ends : EndsNumber (gap ++ '\x7d' :: rest) := .gap closing (.cons (by decide) _)
  induction members generalizing first before fuel with
  | nil =>
    obtain ⟨fuel, rfl⟩ := Nat.exists_eq_add_one_of_ne_zero (Nat.ne_zero_of_lt enough)
    have firstEnough := (length_chars_le layout level first).trans (Nat.le_of_lt_succ enough)
    have closes : skipGap (gap ++ '\x7d' :: rest) = '\x7d' :: rest :=
      Json.skipGap_append closing (by simp [isGap])
    rw [laterChars_nil, List.nil_append, readMembers_member blank trips firstEnough _ _ ends,
      closes, ← List.reverse_cons, ← ofReversed_keyed]
    rfl
  | cons next members ih =>
    obtain ⟨fuel, rfl⟩ := Nat.exists_eq_add_one_of_ne_zero (Nat.ne_zero_of_lt enough)
    obtain ⟨nextTrips, nextTrip⟩ := List.forall_mem_cons.mp trip
    have firstLength := length_chars_le layout level first
    rw [readMembers_member blank trips (by omega) _ _
      (endsNumber_laterChars layout level (memberChars layout level) (next :: members) ends)]
    simp only [laterChars_cons, List.cons_append, List.append_assoc, List.length_cons,
      List.length_append] at enough ⊢
    have read := ih fuel (first :: before) nextTrips nextTrip (by omega)
    rw [← skipGap_memberChars layout (blank.lineBreak level), List.reverse_cons,
      List.append_assoc, List.singleton_append] at read
    exact read

/-- Behind an opening bracket that is not closed at once stand elements. -/
theorem readValue_elements {text : List Char} (opens : ∀ rest, skipGap text ≠ ']' :: rest)
    (fuel : Nat) : readValue (fuel + 1) ('[' :: text) = readElements fuel [] (skipGap text) := by
  rw [readValue]
  split
  next rest closed => exact absurd closed (opens rest)
  next => rfl

/-- Behind an opening brace that is not closed at once stand members. -/
theorem readValue_members {text : List Char} (opens : ∀ rest, skipGap text ≠ '\x7d' :: rest)
    (fuel : Nat) : readValue (fuel + 1) ('\x7b' :: text) = readMembers fuel [] (skipGap text) := by
  rw [readValue]
  split
  next rest closed => exact absurd closed (opens rest)
  next => rfl

/-- An array of values that round-trip does so. -/
theorem RoundTrips.array (blank : layout.Blank) {elements : List Value}
    (trip : ∀ element ∈ elements, element.RoundTrips layout) :
    (Value.array elements).RoundTrips layout := by
  cases elements with
  | nil =>
    exact of_text (fun _ => ['[', ']']) (fun _ _ => String.toList_append ..)
      (fun _ => ⟨'[', _, rfl, by decide⟩) fun _ _ _ _ _ => rfl
  | cons first later =>
    obtain ⟨firstTrips, laterTrip⟩ := List.forall_mem_cons.mp trip
    refine of_text (fun level => enclosedChars layout level '[' ']' (chars layout) first later)
      (fun level written => ?_) (fun _ => ⟨'[', _, rfl, by decide⟩)
      fun level fuel rest enough _ => ?_
    · rw [write, enclosedChars]
      simp only [String.toList_push, String.toList_append, toList_writeElements laterTrip,
        firstTrips.appended, List.append_assoc, List.cons_append, List.nil_append]
    · simp only [enclosedChars, List.length_cons, List.length_append, List.cons_append,
        List.append_assoc, List.nil_append] at enough ⊢
      have opens := firstTrips.skipGap_append (blank.lineBreak (level + 1)) (level + 1)
        (laterChars layout (level + 1) (chars layout (level + 1)) later ++
          ((layout.lineBreak level).toList ++ ']' :: rest))
      have read := readElements_chars blank (blank.lineBreak level) (level + 1) fuel [] firstTrips
        laterTrip rest (by omega)
      obtain ⟨c, more, starts, -, inside⟩ := firstTrips.opening (level + 1)
      rw [readValue_elements, opens, read]
      · rfl
      · rw [opens, starts]
        rintro rest ⟨⟩
        exact inside rfl

/-- An object of values that round-trip does so. -/
theorem RoundTrips.object (blank : layout.Blank) {members : List (String × Value)}
    (trip : ∀ member ∈ members, member.2.RoundTrips layout) :
    (Value.object members).RoundTrips layout := by
  cases members with
  | nil =>
    exact of_text (fun _ => ['\x7b', '\x7d']) (fun _ _ => String.toList_append ..)
      (fun _ => ⟨'\x7b', _, rfl, by decide⟩) fun _ _ _ _ _ => rfl
  | cons first later =>
    obtain ⟨firstTrips, laterTrip⟩ := List.forall_mem_cons.mp trip
    refine of_text
      (fun level => enclosedChars layout level '\x7b' '\x7d' (memberChars layout) first later)
      (fun level written => ?_) (fun _ => ⟨'\x7b', _, rfl, by decide⟩)
      fun level fuel rest enough _ => ?_
    · rw [write, enclosedChars]
      simp only [String.toList_push, String.toList_append, toList_writeMembers laterTrip,
        firstTrips.appended_member, List.append_assoc, List.cons_append, List.nil_append]
    · simp only [enclosedChars, List.length_cons, List.length_append, List.cons_append,
        List.append_assoc, List.nil_append] at enough ⊢
      have opens := skipGap_memberChars layout (blank.lineBreak (level + 1)) (level + 1) first
        (laterChars layout (level + 1) (memberChars layout (level + 1)) later ++
          ((layout.lineBreak level).toList ++ '\x7d' :: rest))
      have read := readMembers_chars blank (blank.lineBreak level) (level + 1) fuel [] firstTrips
        laterTrip rest (by omega)
      rw [readValue_members, opens]
      · exact read
      · rw [opens]
        rintro rest ⟨⟩

/-- A value made of integers, truth values, nulls and whole strings. -/
inductive Plain : Value → Prop
  | null : Plain .null
  | boolean (value : Bool) : Plain (.boolean value)
  | integer (number : Int) : Plain (.integer number)
  | string (text : String) : Plain (.string text)
  | array {elements : List Value} (plain : ∀ element ∈ elements, Plain element) :
    Plain (.array elements)
  | object {members : List (String × Value)} (plain : ∀ member ∈ members, Plain member.2) :
    Plain (.object members)

/-- Plain values round-trip. -/
theorem Plain.roundTrips (blank : layout.Blank) {value : Value} (plain : value.Plain) :
    value.RoundTrips layout := by
  induction plain with
  | null => exact .null
  | boolean value => exact .boolean value
  | integer number => exact .integer number
  | string text => exact .string text
  | array plain ih => exact .array blank ih
  | object plain ih => exact .object blank ih

/-- A plain value that is written is parsed back. -/
theorem Plain.parse_write (blank : layout.Blank) {value : Value} (plain : value.Plain)
    (level : Nat) : parse (write layout level "" value) = some value := by
  have trips := plain.roundTrips blank
  have starts : skipGap (value.chars layout level) = value.chars layout level := by
    have opens := trips.skipGap_append (List.forall_mem_nil _) level []
    rwa [List.nil_append, List.append_nil] at opens
  have read := trips.reads level (2 * (value.chars layout level).length + 2) [] (by omega) nofun
  rw [List.append_nil] at read
  unfold chars at starts read
  rw [parse, starts, read]
  rfl

/-- Whether a text is what is written of a value in one of the two layouts. -/
def IsText (value : Value) (text : String) : Prop :=
  text = value.compact ∨ text = value.spread

/-- A text of a plain value is parsed as the value. -/
theorem Plain.parse_text {value : Value} (plain : value.Plain) {text : String}
    (written : value.IsText text) : parse text = some value := by
  rcases written with rfl | rfl
  · exact plain.parse_write Layout.blank_compact 0
  · exact plain.parse_write Layout.blank_spread 0

end Value

end CharLexer.Json
