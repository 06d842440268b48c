import CharLexer.Environment
import CharLexer.Proofs.ByteOrder
import CharLexer.Proofs.Utf8
import Mathlib

/-!
# Spellings of a word

A word may stand between blank characters and have its ASCII letters in either case. Both are said
here of bytes (`Surrounded`, `Recased`), since the value of a variable need not be a text. Neither
makes a text of bytes that are none, or the other way round, and neither changes the plain word
that is read (`wordOf?_of_surrounded`, `wordOf?_of_recased`). As every text is a spelling of its
plain word, the bytes read as a word are exactly its spellings (`wordOf?_eq_some_iff`).
-/
namespace CharLexer

open String (Pos.Raw)

/-- The plain word that bytes are read as, if they are a text. -/
def wordOf? (bytes : ByteArray) : Option String := (textOfBytes bytes).toOption.map plainWord

/-- Whether the second bytes are the first ones between blank characters. -/
def Surrounded (bytes wider : ByteArray) : Prop :=
  ∃ before after : String, (∀ c ∈ before.toList, isBlank c = true) ∧
    (∀ c ∈ after.toList, isBlank c = true) ∧ wider = before.toUTF8 ++ bytes ++ after.toUTF8

/-- Whether two bytes are an ASCII capital and its small letter. -/
def CapitalOf (capital small : UInt8) : Prop :=
  0x41 ≤ capital.toNat ∧ capital.toNat ≤ 0x5A ∧ small.toNat = capital.toNat + 0x20

/-- Whether two bytes are the same, or the same ASCII letter in two cases. -/
def SameLetter (byte other : UInt8) : Prop :=
  byte = other ∨ CapitalOf byte other ∨ CapitalOf other byte

/-- Whether two values differ at most in the case of ASCII letters. -/
def Recased (bytes other : ByteArray) : Prop :=
  List.Forall₂ SameLetter bytes.data.toList other.data.toList

/-- Whether bytes are a spelling of a word: the word in some case, between blank characters. -/
def Spells (word : String) (bytes : ByteArray) : Prop :=
  ∃ cased, Recased word.toUTF8 cased ∧ Surrounded cased bytes

/-- Bytes that are a text are read as its plain word. -/
theorem wordOf?_toUTF8 (text : String) : wordOf? text.toUTF8 = some (plainWord text) := by
  have read : textOfBytes text.toUTF8 = .ok text := textOfBytes_eq_ok.mpr rfl
  rw [wordOf?, read]
  rfl

/-- Bytes that are no text are read as no word. -/
theorem wordOf?_of_not_isValidUTF8 {bytes : ByteArray} (invalid : ¬bytes.IsValidUTF8) :
    wordOf? bytes = none := by
  rw [wordOf?, textOfBytes_of_not_isValidUTF8 invalid]
  rfl

/-- Well-formed bytes are those of a text. -/
theorem exists_text_of_isValidUTF8 {bytes : ByteArray} (valid : bytes.IsValidUTF8) :
    ∃ text : String, bytes = text.toUTF8 :=
  ⟨.fromUTF8 bytes valid, rfl⟩

/-! ### Blank characters around a value -/

/-- What stands behind characters in a text is a text. -/
theorem isValidUTF8_of_append_left {chars : List Char} {bytes : ByteArray}
    (valid : (chars.utf8Encode ++ bytes).IsValidUTF8) : bytes.IsValidUTF8 := by
  induction chars with
  | nil => rwa [List.utf8Encode_nil, ByteArray.empty_append] at valid
  | cons c chars ih =>
    rw [List.utf8Encode_cons, ByteArray.append_assoc] at valid
    exact ih (ByteArray.isValidUTF8_utf8Encode_singleton_append_iff.mp valid)

/-- What stands in front of a text in a text is a text: the border is one of characters, as the
text behind it has its first byte there. -/
theorem isValidUTF8_of_append_right {bytes : ByteArray} {text : String}
    (valid : (bytes ++ text.toByteArray).IsValidUTF8) : bytes.IsValidUTF8 := by
  obtain ⟨whole, encoded⟩ := exists_text_of_isValidUTF8 valid
  rw [String.toUTF8_eq_toByteArray] at encoded
  let border : Pos.Raw := ⟨bytes.size⟩
  have inside : border ≤ whole.rawEndPos := by
    change bytes.size ≤ whole.toByteArray.size
    rw [← encoded, ByteArray.size_append]
    exact Nat.le_add_right _ _
  have front : whole.toByteArray.extract (0 : Pos.Raw).byteIdx border.byteIdx = bytes := by
    rw [← encoded]
    exact ByteArray.extract_append_eq_left rfl
  have back : whole.toByteArray.extract border.byteIdx whole.rawEndPos.byteIdx =
      text.toByteArray := by
    change whole.toByteArray.extract bytes.size whole.toByteArray.size = _
    rw [← encoded]
    exact ByteArray.extract_append_eq_right rfl ByteArray.size_append
  have borderValid : border.IsValid whole := by
    -- What stands behind the border is a text: it is empty, or its first character begins there.
    rcases (Pos.Raw.isValidUTF8_extract_iff border whole.rawEndPos inside
      (Nat.le_refl _)).mp (back ▸ text.isValidUTF8) with stop | found
    · exact stop ▸ Pos.Raw.isValid_rawEndPos
    · exact found.1
  rw [← front]
  apply (Pos.Raw.isValidUTF8_extract_iff 0 border (Nat.zero_le _) inside).mpr
  exact .inr ⟨Pos.Raw.isValid_zero, borderValid⟩

/-- Between texts only a text makes a text. -/
theorem Surrounded.isValidUTF8 {bytes wider : ByteArray} (surrounded : Surrounded bytes wider)
    (valid : wider.IsValidUTF8) : bytes.IsValidUTF8 := by
  obtain ⟨before, after, -, -, rfl⟩ := surrounded
  rw [String.toUTF8_eq_toByteArray, String.toUTF8_eq_toByteArray] at valid
  have front := isValidUTF8_of_append_right valid
  rw [← String.utf8Encode_toList] at front
  exact isValidUTF8_of_append_left front

/-- Blank characters at the end are dropped with the others there. -/
theorem dropBlankEnd_of_blank {text after : List Char} (blank : ∀ c ∈ after, isBlank c = true) :
    dropBlankEnd (text ++ after) = dropBlankEnd text := by
  have reversed : ∀ c ∈ after.reverse, isBlank c = true :=
    fun c member => blank c (List.mem_reverse.mp member)
  unfold dropBlankEnd
  rw [List.reverse_append, List.dropWhile_append_of_pos reversed]

/-- Blank characters around a text are dropped with those at its ends. -/
theorem trimBlank_surrounded {before text after : String}
    (front : ∀ c ∈ before.toList, isBlank c = true) (back : ∀ c ∈ after.toList, isBlank c = true) :
    trimBlank (before ++ text ++ after) = trimBlank text := by
  have none : after.toList.dropWhile isBlank = [] := List.dropWhile_eq_nil_iff.mpr back
  unfold trimBlank
  rw [String.toList_append, String.toList_append, List.append_assoc,
    List.dropWhile_append_of_pos front, List.dropWhile_append, none]
  by_cases all : (text.toList.dropWhile isBlank).isEmpty = true
  · rw [if_pos all, List.isEmpty_iff.mp all]
  · rw [if_neg all, dropBlankEnd_of_blank back]

/-- A text stands between the blank characters at its ends. -/
theorem exists_around_trimBlank (text : String) :
    ∃ before after : String, (∀ c ∈ before.toList, isBlank c = true) ∧
      (∀ c ∈ after.toList, isBlank c = true) ∧ text = before ++ trimBlank text ++ after := by
  let rest := text.toList.dropWhile isBlank
  have back : dropBlankEnd rest ++ (rest.reverse.takeWhile isBlank).reverse = rest := by
    unfold dropBlankEnd
    rw [← List.reverse_append, List.takeWhile_append_dropWhile, List.reverse_reverse]
  refine ⟨.ofList (text.toList.takeWhile isBlank),
    .ofList (rest.reverse.takeWhile isBlank).reverse, ?_, ?_, ?_⟩
  · intro c member
    rw [String.toList_ofList] at member
    exact List.mem_takeWhile_imp member
  · intro c member
    rw [String.toList_ofList, List.mem_reverse] at member
    exact List.mem_takeWhile_imp member
  · apply String.toList_inj.mp
    rw [String.toList_append, String.toList_append, trimBlank, String.toList_ofList,
      String.toList_ofList, String.toList_ofList, List.append_assoc, back,
      List.takeWhile_append_dropWhile]

/-- Blank characters around a value do not change the word that it is read as. -/
theorem wordOf?_of_surrounded {bytes wider : ByteArray} (surrounded : Surrounded bytes wider) :
    wordOf? wider = wordOf? bytes := by
  by_cases valid : bytes.IsValidUTF8
  · obtain ⟨text, rfl⟩ := exists_text_of_isValidUTF8 valid
    obtain ⟨before, after, front, back, rfl⟩ := surrounded
    have joined : before.toUTF8 ++ text.toUTF8 ++ after.toUTF8 =
        (before ++ text ++ after).toUTF8 := rfl
    rw [joined, wordOf?_toUTF8, wordOf?_toUTF8, plainWord, plainWord,
      trimBlank_surrounded front back]
  · have invalid : ¬wider.IsValidUTF8 := fun whole => valid (surrounded.isValidUTF8 whole)
    rw [wordOf?_of_not_isValidUTF8 valid, wordOf?_of_not_isValidUTF8 invalid]

/-! ### Letters in either case -/

/-- The capitals have the code points of the ASCII capitals. -/
theorem isUpper_iff {c : Char} : c.isUpper = true ↔ 0x41 ≤ c.toNat ∧ c.toNat ≤ 0x5A := by
  simp [Char.isUpper, UInt32.le_iff_toNat_le]

/-- The small letters have the code points of the ASCII ones. -/
theorem isLower_iff {c : Char} : c.isLower = true ↔ 0x61 ≤ c.toNat ∧ c.toNat ≤ 0x7A := by
  simp [Char.isLower, UInt32.le_iff_toNat_le]

/-- The small letter of a capital is thirty-two code points further. -/
theorem toNat_toLower {c : Char} (upper : c.isUpper = true) :
    c.toLower.toNat = c.toNat + 0x20 := by
  have range := isUpper_iff.mp upper
  have valid : (c.toNat + 0x20).isValidChar := by
    unfold Nat.isValidChar
    omega
  rw [Char.toLower_eq_of_isUpper upper, Char.toNat_ofNat, if_pos valid]

/-- The capital of a small letter is thirty-two code points before it. -/
theorem toNat_toUpper {c : Char} (lower : c.isLower = true) :
    c.toUpper.toNat + 0x20 = c.toNat := by
  have range := isLower_iff.mp lower
  have valid : (c.toNat - 0x20).isValidChar := by
    unfold Nat.isValidChar
    omega
  rw [Char.toUpper_eq_of_isLower lower, Char.toNat_ofNat, if_pos valid]
  omega

/-- No letter is blank. -/
theorem isBlank_of_letter {c : Char} (low : 0x41 ≤ c.toNat) (high : c.toNat ≤ 0x7A) :
    isBlank c = false := by
  simp [isBlank]
  omega

/-- Whether a character is blank does not depend on its case. -/
theorem isBlank_toLower (c : Char) : isBlank c.toLower = isBlank c := by
  by_cases upper : c.isUpper = true
  · have range := isUpper_iff.mp upper
    have moved := toNat_toLower upper
    rw [isBlank_of_letter (by omega) (by omega), isBlank_of_letter (by omega) (by omega)]
  · rw [Char.toLower_eq_of_not_isUpper upper]

/-- A plain word may be put into lower case before its ends are cleared. -/
theorem plainWord_eq (text : String) : plainWord text =
    String.ofList (dropBlankEnd ((text.toList.map Char.toLower).dropWhile isBlank)) := by
  have same : isBlank ∘ Char.toLower = isBlank := funext isBlank_toLower
  apply String.toList_inj.mp
  rw [plainWord, String.toLower, String.toList_map, trimBlank, String.toList_ofList,
    String.toList_ofList, List.dropWhile_map, same, dropBlankEnd, dropBlankEnd, ← List.map_reverse,
    List.dropWhile_map, same, List.map_reverse]

/-- An ASCII character is one byte. -/
theorem utf8EncodeChar_of_ascii {c : Char} (ascii : c.toNat < 0x80) :
    String.utf8EncodeChar c = [UInt8.ofNat c.toNat] :=
  if_pos (Nat.le_of_lt_succ ascii)

/-- The byte of an ASCII code point holds it. -/
theorem toNat_ofNat_of_ascii {code : Nat} (ascii : code < 0x80) :
    (UInt8.ofNat code).toNat = code :=
  UInt8.toNat_ofNat_of_lt (Nat.lt_trans ascii (by decide))

/-- No byte of another character is an ASCII character. -/
theorem le_of_mem_utf8EncodeChar {c : Char} (wide : 0x80 ≤ c.toNat) :
    ∀ byte ∈ String.utf8EncodeChar c, 0x80 ≤ byte.toNat := by
  change 0x80 ≤ c.val.toNat at wide
  unfold String.utf8EncodeChar
  dsimp only
  generalize c.val.toNat = code at *
  split_ifs
  · omega
  all_goals
    simp only [List.forall_mem_cons, List.not_mem_nil, false_imp_iff, implies_true,
      UInt8.toNat_ofNat', and_true]
    omega

namespace SameLetter

/-- Being the same letter goes both ways. -/
theorem symm {byte other : UInt8} (same : SameLetter byte other) : SameLetter other byte := by
  rcases same with rfl | capital | small
  · exact .inl rfl
  · exact .inr (.inr capital)
  · exact .inr (.inl small)

/-- Bytes that are no ASCII characters have no case. -/
theorem eq_of_wide {byte other : UInt8} (same : SameLetter byte other)
    (wide : 0x80 ≤ other.toNat) : byte = other := by
  rcases same with same | ⟨low, high, moved⟩ | ⟨low, high, moved⟩
  · exact same
  · omega
  · omega

/-- A byte that is the letter of an ASCII character is that character in some case. -/
theorem exists_char {byte : UInt8} {c : Char} (ascii : c.toNat < 0x80)
    (same : SameLetter byte (UInt8.ofNat c.toNat)) :
    ∃ d : Char, String.utf8EncodeChar d = [byte] ∧ d.toLower = c.toLower := by
  have code := toNat_ofNat_of_ascii ascii
  rcases same with rfl | ⟨low, high, moved⟩ | ⟨low, high, moved⟩
  · exact ⟨c, utf8EncodeChar_of_ascii ascii, rfl⟩
  · have lower : c.isLower = true := isLower_iff.mpr (by omega)
    have capital := toNat_toUpper lower
    have encoded : UInt8.ofNat c.toUpper.toNat = byte := by
      apply UInt8.toNat_inj.mp
      rw [toNat_ofNat_of_ascii (by omega)]
      omega
    refine ⟨c.toUpper, ?_, Char.toLower_toUpper_eq_toLower c⟩
    rw [utf8EncodeChar_of_ascii (by omega), encoded]
  · have upper : c.isUpper = true := isUpper_iff.mpr (by omega)
    have small := toNat_toLower upper
    have encoded : UInt8.ofNat c.toLower.toNat = byte := by
      apply UInt8.toNat_inj.mp
      rw [toNat_ofNat_of_ascii (by omega)]
      omega
    refine ⟨c.toLower, ?_, Char.toLower_toLower_eq_toLower c⟩
    rw [utf8EncodeChar_of_ascii (by omega), encoded]

end SameLetter

/-- Bytes that differ from those of a character in case alone are those of the character in some
case. -/
theorem exists_char_of_recased {bytes : List UInt8} {c : Char}
    (recased : List.Forall₂ SameLetter bytes (String.utf8EncodeChar c)) :
    ∃ d : Char, String.utf8EncodeChar d = bytes ∧ d.toLower = c.toLower := by
  by_cases ascii : c.toNat < 0x80
  · rw [utf8EncodeChar_of_ascii ascii] at recased
    obtain ⟨byte, none, same, nothing, rfl⟩ := List.forall₂_cons_right_iff.mp recased
    obtain rfl := List.forall₂_nil_right_iff.mp nothing
    exact same.exists_char ascii
  · -- No byte of another character has a case, so all of them stay.
    have wide := le_of_mem_utf8EncodeChar (Nat.le_of_not_lt ascii)
    refine ⟨c, ?_, rfl⟩
    generalize String.utf8EncodeChar c = encoded at *
    induction recased with
    | nil => rfl
    | cons same _ ih =>
      obtain ⟨first, others⟩ := List.forall_mem_cons.mp wide
      rw [same.eq_of_wide first, ih others]

/-- Bytes that differ from those of characters in case alone are those of the characters in some
case. -/
theorem exists_chars_of_recased {bytes : List UInt8} {chars : List Char}
    (recased : List.Forall₂ SameLetter bytes (chars.flatMap String.utf8EncodeChar)) :
    ∃ others : List Char, others.flatMap String.utf8EncodeChar = bytes ∧
      others.map Char.toLower = chars.map Char.toLower := by
  induction chars generalizing bytes with
  | nil => exact ⟨[], (List.forall₂_nil_right_iff.mp recased).symm, rfl⟩
  | cons c chars ih =>
    rw [List.flatMap_cons] at recased
    have first := List.forall₂_take_append _ _ _ recased
    have later := List.forall₂_drop_append _ _ _ recased
    obtain ⟨d, encoded, sameChar⟩ := exists_char_of_recased first
    obtain ⟨others, rest, sameOthers⟩ := ih later
    refine ⟨d :: others, ?_, ?_⟩
    · rw [List.flatMap_cons, encoded, rest, List.take_append_drop]
    · rw [List.map_cons, List.map_cons, sameChar, sameOthers]

/-- A character and its lower case differ in case alone. -/
theorem sameLetter_toLower (c : Char) :
    List.Forall₂ SameLetter (String.utf8EncodeChar c.toLower) (String.utf8EncodeChar c) := by
  by_cases upper : c.isUpper = true
  · have range := isUpper_iff.mp upper
    have small := toNat_toLower upper
    have ascii : c.toNat < 0x80 := by omega
    have asciiLower : c.toLower.toNat < 0x80 := by omega
    have code := toNat_ofNat_of_ascii ascii
    have codeLower := toNat_ofNat_of_ascii asciiLower
    rw [utf8EncodeChar_of_ascii ascii, utf8EncodeChar_of_ascii asciiLower]
    exact .cons (.inr (.inr ⟨by omega, by omega, by omega⟩)) .nil
  · rw [Char.toLower_eq_of_not_isUpper upper]
    exact List.forall₂_same.mpr fun byte _ => .inl rfl

namespace Recased

/-- Differing in case alone goes both ways. -/
theorem symm {bytes other : ByteArray} (recased : Recased bytes other) : Recased other bytes :=
  List.Forall₂.flip (recased.imp fun _ _ same => same.symm)

/-- Bytes that differ from a text in case alone are a text, with the same letters. -/
theorem exists_text {bytes : ByteArray} {text : String} (recased : Recased bytes text.toUTF8) :
    ∃ other : String, bytes = other.toUTF8 ∧
      other.toList.map Char.toLower = text.toList.map Char.toLower := by
  have chars : List.Forall₂ SameLetter bytes.data.toList
      (text.toList.flatMap String.utf8EncodeChar) := textBytes_eq text ▸ recased
  obtain ⟨others, encoded, same⟩ := exists_chars_of_recased chars
  have sameBytes : bytes.data.toList = textBytes (.ofList others) := by
    rw [textBytes_eq, String.toList_ofList, encoded]
  refine ⟨.ofList others, ?_, ?_⟩
  · apply ByteArray.ext
    exact Array.toList_inj.mp sameBytes
  · rw [String.toList_ofList, same]

/-- A text and its lower case differ in case alone. -/
theorem toLower (text : String) : Recased text.toLower.toUTF8 text.toUTF8 := by
  change List.Forall₂ SameLetter (textBytes text.toLower) (textBytes text)
  rw [textBytes_eq, textBytes_eq, String.toLower, String.toList_map]
  induction text.toList with
  | nil => exact .nil
  | cons c chars ih =>
    rw [List.map_cons, List.flatMap_cons, List.flatMap_cons]
    exact List.rel_append (sameLetter_toLower c) ih

end Recased

/-- The case of its letters does not change the word that a value is read as. -/
theorem wordOf?_of_recased {bytes other : ByteArray} (recased : Recased bytes other) :
    wordOf? other = wordOf? bytes := by
  by_cases valid : other.IsValidUTF8
  · obtain ⟨text, rfl⟩ := exists_text_of_isValidUTF8 valid
    obtain ⟨cased, rfl, same⟩ := recased.exists_text
    rw [wordOf?_toUTF8, wordOf?_toUTF8, plainWord_eq, plainWord_eq, same]
  · have invalid : ¬bytes.IsValidUTF8 := by
      intro before
      obtain ⟨text, rfl⟩ := exists_text_of_isValidUTF8 before
      obtain ⟨cased, rfl, -⟩ := recased.symm.exists_text
      exact valid cased.isValidUTF8
    rw [wordOf?_of_not_isValidUTF8 valid, wordOf?_of_not_isValidUTF8 invalid]

/-! ### Spellings -/

/-- A word that is plain is read from its spellings and from nothing else. -/
theorem wordOf?_eq_some_iff {word : String} (plain : plainWord word = word) {bytes : ByteArray} :
    wordOf? bytes = some word ↔ Spells word bytes := by
  constructor
  · intro read
    by_cases valid : bytes.IsValidUTF8
    · obtain ⟨text, rfl⟩ := exists_text_of_isValidUTF8 valid
      rw [wordOf?_toUTF8] at read
      obtain rfl := Option.some.inj read
      obtain ⟨before, after, front, back, around⟩ := exists_around_trimBlank text
      exact ⟨(trimBlank text).toUTF8, Recased.toLower (trimBlank text), before, after, front, back,
        congrArg String.toUTF8 around⟩
    · rw [wordOf?_of_not_isValidUTF8 valid] at read
      contradiction
  · rintro ⟨cased, recased, surrounded⟩
    rw [wordOf?_of_surrounded surrounded, wordOf?_of_recased recased, wordOf?_toUTF8, plain]

end CharLexer
