import CharLexer.Text.Utf8
import Mathlib.Order.Bounds.Basic

/-!
# Bytes that are a text

A text is read from bytes exactly when they are its encoding (`textOfBytes_eq_ok`). Where they are
the encoding of no text, the place that is told is the end of the longest part from the front that
is one (`textOfBytes_eq_error`). One step of the reading is `exists_decode_of_isValidUTF8`: a part
that is well-formed begins with the character that is decoded at its place, and what is behind that
character is well-formed too.
-/
namespace CharLexer

/-- The ends of the well-formed parts of bytes that begin at a place. -/
def wellFormedEnds (bytes : ByteArray) (place : Nat) : Set Nat :=
  { stop | place ≤ stop ∧ stop ≤ bytes.size ∧ (bytes.extract place stop).IsValidUTF8 }

/-- A character is encoded in as many bytes as its size. -/
theorem size_utf8Encode_singleton (c : Char) : [c].utf8Encode.size = c.utf8Size := by
  rw [List.utf8Encode_singleton, List.size_toByteArray, String.length_utf8EncodeChar]

/-- What is decoded at a place is what stands there. -/
theorem extract_of_decode {bytes : ByteArray} {place : Nat} {c : Char}
    (decoded : bytes.utf8DecodeChar? place = some c) :
    bytes.extract place (place + c.utf8Size) = [c].utf8Encode := by
  have inside := ByteArray.le_size_of_utf8DecodeChar?_eq_some decoded
  rw [ByteArray.utf8DecodeChar?_eq_utf8DecodeChar?_extract] at decoded
  rw [List.utf8Encode_singleton,
    String.toByteArray_utf8EncodeChar_of_utf8DecodeChar?_eq_some decoded, ByteArray.extract_extract,
    Nat.add_zero, Nat.min_eq_left inside]

/-- A well-formed part with a byte begins with the character decoded at its place, and what is left
of it is well-formed. -/
theorem exists_decode_of_isValidUTF8 {bytes : ByteArray} {place stop : Nat}
    (before : place < stop) (inside : stop ≤ bytes.size)
    (valid : (bytes.extract place stop).IsValidUTF8) :
    ∃ c, bytes.utf8DecodeChar? place = some c ∧ place + c.utf8Size ≤ stop ∧
      (bytes.extract (place + c.utf8Size) stop).IsValidUTF8 := by
  obtain ⟨chars, encoded⟩ := valid
  have size : (bytes.extract place stop).size = stop - place := by
    rw [ByteArray.size_extract, Nat.min_eq_left inside]
  cases chars with
  | nil =>
    rw [encoded, List.utf8Encode_nil, ByteArray.size_empty] at size
    omega
  | cons c chars =>
    rw [List.utf8Encode_cons] at encoded
    rw [encoded, ByteArray.size_append, size_utf8Encode_singleton] at size
    have further : place + c.utf8Size ≤ stop := by omega
    refine ⟨c, ?_, further, ?_⟩
    · rw [ByteArray.utf8DecodeChar?_eq_utf8DecodeChar?_extract,
        ByteArray.extract_eq_extract_append_extract stop (Nat.le_of_lt before) inside, encoded,
        ByteArray.append_assoc]
      exact List.utf8DecodeChar?_utf8Encode_singleton_append
    · have behind : bytes.extract (place + c.utf8Size) stop =
          (bytes.extract place stop).extract c.utf8Size (stop - place) := by
        rw [ByteArray.extract_extract, Nat.add_sub_cancel' (Nat.le_of_lt before), Nat.min_self]
      have left : bytes.extract (place + c.utf8Size) stop = chars.utf8Encode := by
        rw [behind, encoded]
        apply ByteArray.extract_append_eq_right
        · exact (size_utf8Encode_singleton c).symm
        · rw [size_utf8Encode_singleton, size]
      rw [left]
      exact ByteArray.isValidUTF8_utf8Encode

/-- Where no character can be decoded, only the empty part is well-formed. -/
theorem eq_of_mem_wellFormedEnds {bytes : ByteArray} {place stop : Nat}
    (decoded : bytes.utf8DecodeChar? place = none) (member : stop ∈ wellFormedEnds bytes place) :
    stop = place := by
  obtain ⟨after, inside, valid⟩ := member
  rcases Nat.eq_or_lt_of_le after with same | before
  · exact same.symm
  · obtain ⟨c, found, -⟩ := exists_decode_of_isValidUTF8 before inside valid
    rw [decoded] at found
    contradiction

/-- The empty part is well-formed. -/
theorem mem_wellFormedEnds_self {bytes : ByteArray} {place : Nat} (inside : place ≤ bytes.size) :
    place ∈ wellFormedEnds bytes place := by
  refine ⟨Nat.le_refl place, inside, ?_⟩
  rw [ByteArray.extract_same]
  exact ByteArray.isValidUTF8_empty

/-- A character in front of a well-formed part leaves it well-formed. -/
theorem mem_wellFormedEnds_of_decode {bytes : ByteArray} {place stop : Nat} {c : Char}
    (decoded : bytes.utf8DecodeChar? place = some c)
    (member : stop ∈ wellFormedEnds bytes (place + c.utf8Size)) :
    stop ∈ wellFormedEnds bytes place := by
  obtain ⟨after, inside, valid⟩ := member
  refine ⟨by omega, inside, ?_⟩
  rw [ByteArray.extract_eq_extract_append_extract (place + c.utf8Size) (by omega) after,
    extract_of_decode decoded]
  exact ByteArray.isValidUTF8_utf8Encode.append valid

/-- Reading on as long as characters can be decoded comes to the end of the longest well-formed
part. -/
theorem isGreatest_wellFormedEnd {bytes : ByteArray} {place : Nat} (inside : place ≤ bytes.size) :
    IsGreatest (wellFormedEnds bytes place) (wellFormedEnd bytes place) := by
  fun_induction wellFormedEnd bytes place with
  | case1 place more c decoded ih =>
    obtain ⟨member, greatest⟩ := ih (ByteArray.le_size_of_utf8DecodeChar?_eq_some decoded)
    refine ⟨mem_wellFormedEnds_of_decode decoded member, fun stop reached => ?_⟩
    obtain ⟨after, within, valid⟩ := reached
    by_cases same : place = stop
    · have further := member.1
      omega
    · obtain ⟨first, found, further, rest⟩ :=
        exists_decode_of_isValidUTF8 (Nat.lt_of_le_of_ne after same) within valid
      rw [decoded] at found
      obtain rfl := Option.some.inj found
      exact greatest ⟨further, within, rest⟩
  | case2 place more decoded =>
    refine ⟨mem_wellFormedEnds_self inside, fun stop reached => ?_⟩
    exact Nat.le_of_eq (eq_of_mem_wellFormedEnds decoded reached)
  | case3 place beyond =>
    refine ⟨mem_wellFormedEnds_self inside, fun stop reached => ?_⟩
    have within := reached.2.1
    omega

/-- Well-formed bytes are read as the text that they encode. -/
theorem textOfBytes_of_isValidUTF8 {bytes : ByteArray} (valid : bytes.IsValidUTF8) :
    textOfBytes bytes = .ok (.fromUTF8 bytes valid) := by
  rw [textOfBytes, String.fromUTF8?, dif_pos valid]

/-- Other bytes are read up to a place. -/
theorem textOfBytes_of_not_isValidUTF8 {bytes : ByteArray} (invalid : ¬ bytes.IsValidUTF8) :
    textOfBytes bytes = .error (wellFormedEnd bytes 0) := by
  rw [textOfBytes, String.fromUTF8?, dif_neg invalid]

/-- A text is read from the bytes that encode it, and from no others. -/
theorem textOfBytes_eq_ok {bytes : ByteArray} {text : String} :
    textOfBytes bytes = .ok text ↔ bytes = text.toUTF8 := by
  constructor
  · intro read
    by_cases valid : bytes.IsValidUTF8
    · rw [textOfBytes_of_isValidUTF8 valid] at read
      obtain rfl := Except.ok.inj read
      rfl
    · rw [textOfBytes_of_not_isValidUTF8 valid] at read
      contradiction
  · rintro rfl
    exact textOfBytes_of_isValidUTF8 text.isValidUTF8

/-- Bytes that encode no text are read up to the end of the longest part from the front that
encodes one. -/
theorem textOfBytes_eq_error {bytes : ByteArray} {validUpTo : Nat} :
    textOfBytes bytes = .error validUpTo ↔
      ¬ bytes.IsValidUTF8 ∧ IsGreatest (wellFormedEnds bytes 0) validUpTo := by
  have greatest := isGreatest_wellFormedEnd (Nat.zero_le bytes.size)
  constructor
  · intro read
    by_cases valid : bytes.IsValidUTF8
    · rw [textOfBytes_of_isValidUTF8 valid] at read
      contradiction
    · rw [textOfBytes_of_not_isValidUTF8 valid] at read
      obtain rfl := Except.error.inj read
      exact ⟨valid, greatest⟩
  · rintro ⟨invalid, isGreatest⟩
    rw [textOfBytes_of_not_isValidUTF8 invalid, greatest.unique isGreatest]

/-- Characters are encoded in at least as many bytes. -/
theorem length_le_size_utf8Encode (chars : List Char) : chars.length ≤ chars.utf8Encode.size := by
  induction chars with
  | nil => exact Nat.zero_le _
  | cons c chars ih =>
    have positive := c.utf8Size_pos
    rw [List.utf8Encode_cons, ByteArray.size_append, size_utf8Encode_singleton, List.length_cons]
    omega

/-- A text has no more characters than bytes. -/
theorem length_le_size_toUTF8 (text : String) : text.length ≤ text.toUTF8.size := by
  rw [String.toUTF8, ← String.utf8Encode_toList, ← String.length_toList]
  exact length_le_size_utf8Encode text.toList

/-- A character cut off by the end is not counted, and neither is half a surrogate pair. -/
example :
    textOfBytes ⟨#[97, 0xC3]⟩ = .error 1 ∧ textOfBytes ⟨#[97, 98, 0xED, 0xA0, 0x80]⟩ = .error 2 ∧
      textOfBytes ⟨#[0xC3, 0xA4]⟩ = .ok "ä" := by
  cbv

end CharLexer
