import Mathlib.Data.List.Basic
import Mathlib.Tactic.SplitIfs

/-!
# Texts in order of bytes

The bytes of a text compare as its characters do. The first byte of a character tells how many there
are, and greater characters with as many bytes have the greater byte where they first differ
(`utf8EncodeChar_lt`). So what decides between two characters decides between two texts that go on
with them (`textBytes_lt`).
-/
namespace CharLexer

/-- The bytes of a text. -/
def textBytes (text : String) : List UInt8 := text.toUTF8.data.toList

/-- The bytes of a text are those of its characters. -/
theorem textBytes_eq (text : String) :
    textBytes text = text.toList.flatMap String.utf8EncodeChar := by
  unfold textBytes
  rw [String.toUTF8_eq_toByteArray, ← String.utf8Encode_toList, List.utf8Encode,
    List.data_toByteArray]

/-- A lower byte decides, whatever bytes follow. -/
theorem lead_lt {low high : Nat} (less : low < high) (byte : high < 256) (rest more : List UInt8) :
    UInt8.ofNat low :: rest < UInt8.ofNat high :: more := by
  apply List.cons_lt_cons_iff.mpr
  left
  rw [UInt8.lt_iff_toNat_lt, UInt8.toNat_ofNat', UInt8.toNat_ofNat']
  omega

/-- Where the bytes of all but the last six bits compare as these bits do, a byte of the last six
bits may be put behind them. -/
theorem trail_lt {low high : Nat} {front back : List UInt8} (less : low < high)
    (apart : low / 64 < high / 64 → ∀ rest more, front ++ rest < back ++ more)
    (level : low / 64 = high / 64 → front = back) (rest more : List UInt8) :
    front ++ UInt8.ofNat (low % 64 + 128) :: rest <
      back ++ UInt8.ofNat (high % 64 + 128) :: more := by
  by_cases same : low / 64 = high / 64
  · rw [level same]
    apply List.append_left_lt
    exact lead_lt (by omega) (by omega) _ _
  · exact apart (by omega) _ _

/-- Of two characters the lower has the lower bytes, whatever bytes follow. -/
theorem utf8EncodeChar_lt {c d : Char} (less : c < d) (rest more : List UInt8) :
    String.utf8EncodeChar c ++ rest < String.utf8EncodeChar d ++ more := by
  have codes : c.val.toNat < d.val.toNat := less
  have scalar : d.val.toNat < 0x110000 := by
    have valid := d.valid
    simp only [UInt32.isValidChar, Nat.isValidChar] at valid
    omega
  unfold String.utf8EncodeChar
  dsimp only
  generalize c.val.toNat = low at *
  generalize d.val.toNat = high at *
  split_ifs
  -- With fewer bytes the first is lower, and with more the character is not.
  all_goals try omega
  all_goals try exact lead_lt (by omega) (by omega) _ _
  · change [_] ++ _ :: _ < [_] ++ _ :: _
    apply trail_lt codes
    · intro apart rest more
      exact lead_lt (by omega) (by omega) _ _
    · intro same
      rw [same]
  · change [_, _] ++ _ :: _ < [_, _] ++ _ :: _
    apply trail_lt codes
    · intro apart rest more
      change [_] ++ _ :: _ < [_] ++ _ :: _
      apply trail_lt apart
      · intro apart rest more
        exact lead_lt (by omega) (by omega) _ _
      · intro same
        rw [show low / 4096 = high / 4096 by omega]
    · intro same
      rw [same, show low / 4096 = high / 4096 by omega]
  · change [_, _, _] ++ _ :: _ < [_, _, _] ++ _ :: _
    apply trail_lt codes
    · intro apart rest more
      change [_, _] ++ _ :: _ < [_, _] ++ _ :: _
      apply trail_lt apart
      · intro apart rest more
        change [_] ++ _ :: _ < [_] ++ _ :: _
        rw [show low / 4096 = low / 64 / 64 by omega, show high / 4096 = high / 64 / 64 by omega]
        apply trail_lt apart
        · intro apart rest more
          exact lead_lt (by omega) (by omega) _ _
        · intro same
          rw [show low / 262144 = high / 262144 by omega]
      · intro same
        rw [show low / 4096 = high / 4096 by omega, show low / 262144 = high / 262144 by omega]
    · intro same
      rw [same, show low / 4096 = high / 4096 by omega,
        show low / 262144 = high / 262144 by omega]

/-- A text that comes first by its characters comes first by its bytes. -/
theorem textBytes_lt {first second : String} (less : first < second) :
    textBytes first < textBytes second := by
  have chars : List.Lex (· < ·) first.toList second.toList := less
  rw [textBytes_eq, textBytes_eq]
  generalize first.toList = text at chars
  generalize second.toList = other at chars
  induction chars with
  | nil =>
    rw [List.flatMap_cons]
    obtain ⟨byte, bytes, encoded⟩ := List.exists_cons_of_ne_nil String.utf8EncodeChar_ne_nil
    rw [encoded]
    exact List.nil_lt_cons _ _
  | rel less =>
    rw [List.flatMap_cons, List.flatMap_cons]
    exact utf8EncodeChar_lt less _ _
  | cons _ ih =>
    rw [List.flatMap_cons, List.flatMap_cons]
    exact List.append_left_lt ih

end CharLexer
