import CharLexer.Proofs.Membership
import CharLexer.Proofs.Renaming

/-!
# Sets are exact

The characters of a set are kept in two halves, bits below 128 and code points from there on. Each
half holds the characters of the text that belong there and nothing else (`Charset.Represents`):
a character put into a set changes one bit or one code point, in one of the halves. So the
questions that are answered from the halves are answered as by the text, character by character,
and a character is classed by the first class whose text lists it (`sets_of_texts`).
-/
namespace CharLexer

namespace Charset

/-- The halves of a set hold some characters, each in the half of its code point, and no other. -/
structure Represents (set : Charset) (text : List Char) : Prop where
  low : ∀ code, set.low.getLsbD code = true ↔ ∃ c ∈ text, c.toNat < 128 ∧ c.toNat = code
  high : ∀ code, set.high.contains code = true ↔ ∃ c ∈ text, ¬c.toNat < 128 ∧ c.val = code

namespace Represents

variable {set : Charset} {text : List Char}

/-- A set without a bit and without a code point holds no character. -/
theorem fresh (text : String) : Represents ⟨text, 0#128, ∅⟩ [] where
  low code := by simp
  high code := by simp

/-- A character below 128 put into a set sets its own bit and no other. -/
theorem insert_low (represents : set.Represents text) {c : Char} (small : c.toNat < 128) :
    (set.insert c).Represents (text ++ [c]) := by
  have inserted : set.insert c = { set with low := set.low ||| BitVec.twoPow 128 c.toNat } :=
    if_pos small
  rw [inserted]
  constructor
  · intro code
    have bit : (BitVec.twoPow 128 c.toNat).getLsbD code = true ↔ c.toNat = code := by
      rw [BitVec.getLsbD_twoPow, decide_eq_true small, Bool.true_and, decide_eq_true_iff]
    rw [BitVec.getLsbD_or, Bool.or_eq_true, represents.low, bit]
    simp [or_and_right, exists_or, small]
  · intro code
    rw [represents.high]
    simp [or_and_right, exists_or, small]

/-- Any other character put into a set adds its code point. -/
theorem insert_high (represents : set.Represents text) {c : Char} (large : ¬c.toNat < 128) :
    (set.insert c).Represents (text ++ [c]) := by
  have inserted : set.insert c = { set with high := set.high.insert c.val } := if_neg large
  have border : 128 ≤ c.toNat := Nat.not_lt.mp large
  rw [inserted]
  constructor
  · intro code
    rw [represents.low]
    simp [or_and_right, exists_or, large]
  · intro code
    rw [Std.HashSet.contains_insert, Bool.or_eq_true, beq_iff_eq, represents.high, or_comm]
    simp [or_and_right, exists_or, border]

/-- A character put into a set is held besides those before. -/
theorem insert (represents : set.Represents text) (c : Char) :
    (set.insert c).Represents (text ++ [c]) := by
  by_cases small : c.toNat < 128
  · exact represents.insert_low small
  · exact represents.insert_high small

/-- Characters put into a set are held besides those before. -/
theorem foldl_insert (represents : set.Represents text) (more : List Char) :
    (more.foldl Charset.insert set).Represents (text ++ more) := by
  induction more generalizing set text with
  | nil => rwa [List.append_nil]
  | cons c more ih =>
    have held := ih (represents.insert c)
    rwa [List.append_assoc, List.singleton_append] at held

/-- The bits below 128 are all unset exactly when no character is held there. -/
theorem low_eq_zero_iff (represents : set.Represents text) :
    set.low = 0#128 ↔ ∀ c ∈ text, ¬c.toNat < 128 := by
  constructor
  · intro zero c member small
    have bit := (represents.low c.toNat).mpr ⟨c, member, small, rfl⟩
    rw [zero, BitVec.getLsbD_zero] at bit
    contradiction
  · intro none
    apply BitVec.eq_of_getLsbD_eq
    intro code _
    rw [BitVec.getLsbD_zero, Bool.eq_false_iff]
    intro bit
    obtain ⟨c, member, small, -⟩ := (represents.low code).mp bit
    exact none c member small

/-- There is no code point exactly when every character is held as a bit. -/
theorem high_isEmpty_iff (represents : set.Represents text) :
    set.high.isEmpty = true ↔ ∀ c ∈ text, c.toNat < 128 := by
  rw [Std.HashSet.isEmpty_iff_forall_contains]
  constructor
  · intro none c member
    apply Classical.byContradiction
    intro large
    have held := (represents.high c.val).mpr ⟨c, member, large, rfl⟩
    rw [none] at held
    contradiction
  · intro small code
    rw [Bool.eq_false_iff]
    intro held
    obtain ⟨c, member, large, -⟩ := (represents.high code).mp held
    exact large (small c member)

/-- A set has no member exactly when it holds no character. -/
theorem isEmpty_iff (represents : set.Represents text) : set.isEmpty = true ↔ text = [] := by
  rw [isEmpty, Bool.and_eq_true, beq_iff_eq, represents.low_eq_zero_iff,
    represents.high_isEmpty_iff, List.eq_nil_iff_forall_not_mem]
  constructor
  · rintro ⟨large, small⟩ c member
    exact large c member (small c member)
  · intro none
    exact ⟨fun c member => absurd member (none c), fun c member => absurd member (none c)⟩

end Represents

/-- The halves of a set hold the characters of its text. -/
theorem represents_ofString (text : String) : (ofString text).Represents text.toList :=
  (Represents.fresh text).foldl_insert text.toList

/-- A set is empty exactly when its text is. -/
theorem isEmpty_ofString {text : String} : (ofString text).isEmpty = true ↔ text = "" :=
  (represents_ofString text).isEmpty_iff.trans String.toList_eq_nil_iff

/-- Characters put into a set leave its text as it is. -/
theorem text_foldl_insert (set : Charset) (chars : List Char) :
    (chars.foldl insert set).text = set.text := by
  induction chars generalizing set with
  | nil => rfl
  | cons c chars ih =>
    have kept : (set.insert c).text = set.text := by
      unfold insert
      split <;> rfl
    rw [List.foldl_cons, ih, kept]

/-- A set remembers its text. -/
theorem text_ofString (text : String) : (ofString text).text = text :=
  text_foldl_insert _ _

/-- Sets are equal exactly when their texts are. -/
theorem beq_ofString {first second : String} :
    (ofString first == ofString second) = true ↔ first = second := by
  constructor
  · intro same
    change ((ofString first).text == (ofString second).text && _ && _) = true at same
    rw [Bool.and_eq_true, Bool.and_eq_true, text_ofString, text_ofString] at same
    exact beq_iff_eq.mp same.1.1
  · rintro rfl
    change ((ofString first).text == (ofString first).text &&
      (ofString first).low == (ofString first).low &&
      (ofString first).high.beq (ofString first).high) = true
    have text := beq_self_eq_true (ofString first).text
    have low := beq_self_eq_true (ofString first).low
    have high : (ofString first).high.beq (ofString first).high = true := Std.HashSet.Equiv.beq .rfl
    rw [text, low, high]
    rfl

end Charset

namespace Charsets

/-- The text of a class. -/
def Texts.ofClass (texts : Texts) : RunClass → String
  | .whitespace => texts.whitespace
  | .letters => texts.letters
  | .digits => texts.digits
  | .symbols => texts.symbols

/-- The set of a class is that of its text. -/
theorem ofClass_charsets (texts : Texts) (runClass : RunClass) :
    texts.charsets.ofClass runClass = .ofString (texts.ofClass runClass) := by
  cases runClass <;> rfl

variable {charsets : Charsets} {c : Char}

/-- A character is classed by the first set that contains it. -/
theorem classifyRun?_eq_some {runClass : RunClass} {set : Charset} :
    charsets.classifyRun? c = some (runClass, set) ↔
      set = charsets.ofClass runClass ∧ set.contains c = true ∧
        ∃ before after, RunClass.all = before ++ runClass :: after ∧
          ∀ earlier ∈ before, (charsets.ofClass earlier).contains c = false := by
  rw [classifyRun?, Option.map_eq_some_iff]
  constructor
  · rintro ⟨_, found, ⟨⟩⟩
    obtain ⟨contained, before, after, order, absent⟩ := List.find?_eq_some_iff_append.mp found
    exact ⟨rfl, contained, before, after, order,
      fun earlier member => (Bool.not_eq_true' _).mp (absent earlier member)⟩
  · rintro ⟨rfl, contained, before, after, order, absent⟩
    have found : charsets.classify? c = some runClass :=
      List.find?_eq_some_iff_append.mpr ⟨contained, before, after, order,
        fun earlier member => (Bool.not_eq_true' _).mpr (absent earlier member)⟩
    exact ⟨runClass, found, rfl⟩

/-- Every class is tried. -/
theorem mem_all (runClass : RunClass) : runClass ∈ RunClass.all := by
  cases runClass <;> decide

/-- A character is of no class exactly when no set contains it. -/
theorem classifyRun?_eq_none :
    charsets.classifyRun? c = none ↔
      ∀ runClass, (charsets.ofClass runClass).contains c = false := by
  rw [classifyRun?, Option.map_eq_none_iff, classify?, List.find?_eq_none]
  constructor
  · intro absent runClass
    exact Bool.eq_false_iff.mpr (absent runClass (mem_all runClass))
  · intro absent runClass _
    exact Bool.eq_false_iff.mp (absent runClass)

end Charsets

open Charset (ofString)

/-- A set contains the characters of its text and no other, and is empty when the text is. Two sets
are equal exactly when their texts are, and then contain the same characters. By five sets, a
character is of the first of whitespace, letters, digits and symbols whose text lists it, and comes
with the set of that text; it is of no class exactly when none of the four texts lists it. -/
theorem sets_of_texts :
    (∀ text c, (ofString text).contains c = true ↔ c ∈ text.toList) ∧
    (∀ text, (ofString text).isEmpty = true ↔ text = "") ∧
    (∀ first second, ((ofString first == ofString second) = true ↔ first = second) ∧
      ((ofString first == ofString second) = true →
        ∀ c, (ofString first).contains c = (ofString second).contains c)) ∧
    ∀ (texts : Charsets.Texts) (c : Char),
      (∀ runClass set, texts.charsets.classifyRun? c = some (runClass, set) ↔
        set = ofString (texts.ofClass runClass) ∧ c ∈ (texts.ofClass runClass).toList ∧
          ∃ before after,
            [RunClass.whitespace, .letters, .digits, .symbols] = before ++ runClass :: after ∧
              ∀ earlier ∈ before, c ∉ (texts.ofClass earlier).toList) ∧
      (texts.charsets.classifyRun? c = none ↔
        ∀ runClass, c ∉ (texts.ofClass runClass).toList) := by
  have listed : ∀ text c, (ofString text).contains c = true ↔ c ∈ text.toList := by
    intro text c
    rw [Charset.contains_ofString, List.contains_iff_mem]
  have unlisted : ∀ text c, (ofString text).contains c = false ↔ c ∉ text.toList := by
    intro text c
    rw [Bool.eq_false_iff, ne_eq, listed]
  refine ⟨listed, fun _ => Charset.isEmpty_ofString, fun first second => ⟨Charset.beq_ofString, ?_⟩,
    fun texts c => ⟨fun runClass set => ?_, ?_⟩⟩
  · intro same c
    rw [Charset.beq_ofString.mp same]
  · rw [Charsets.classifyRun?_eq_some, Charsets.ofClass_charsets]
    simp only [Charsets.ofClass_charsets, unlisted]
    constructor
    · rintro ⟨rfl, contained, first⟩
      exact ⟨rfl, (listed _ c).mp contained, first⟩
    · rintro ⟨rfl, member, first⟩
      exact ⟨rfl, (listed _ c).mpr member, first⟩
  · rw [Charsets.classifyRun?_eq_none]
    simp only [Charsets.ofClass_charsets, unlisted]

/-- A character on either side of the border between the halves, and one in two of the sets. -/
example :
    let texts : Charsets.Texts := ⟨"a", "a\x7f\u0080", "", "", "a"⟩
    let kind? := fun c => (texts.charsets.classify? c).map RunClass.kind
    kind? 'a' = some .letters ∧ kind? '\x7f' = some .digits ∧ kind? '\u0080' = some .digits ∧
      kind? '\u0081' = none := by
  cbv

end CharLexer
