import CharLexer.Lexer

/-!
# Sets seen by their members

A scan asks of a set whether it contains a character, and of the set of a class never whether it
contains a carriage return: what opens a token is looked up in the classes only behind the line
breaks, and a run takes every carriage return. So each step of a scan is the same by sets that agree
up to that (`Charsets.Agree.step`), and with it the whole scan (`tokens_of_agreeing`). How a set is
written does not matter: it contains the characters of its text (`Charset.contains_ofString`).
-/
namespace CharLexer

namespace Charset

/-- A member below 128 is one by its bit. -/
theorem contains_of_lt {set : Charset} {c : Char} (low : c.toNat < 128) :
    set.contains c = set.low.getLsbD c.toNat :=
  if_pos low

/-- Any other member is one by its code point. -/
theorem contains_of_not_lt {set : Charset} {c : Char} (high : ¬ c.toNat < 128) :
    set.contains c = set.high.contains c.val :=
  if_neg high

/-- A character put into a set is a member from then on, and no other character becomes one. -/
theorem contains_insert (set : Charset) (c d : Char) :
    (set.insert d).contains c = (d == c || set.contains c) := by
  have same : (d == c) = (d.toNat == c.toNat) := by
    rw [Bool.eq_iff_iff, beq_iff_eq, beq_iff_eq, Char.toNat_inj]
  by_cases lowD : d.toNat < 128
  · have inserted : set.insert d = { set with low := set.low ||| BitVec.twoPow 128 d.toNat } :=
      if_pos lowD
    rw [inserted]
    by_cases lowC : c.toNat < 128
    · rw [contains_of_lt lowC, contains_of_lt lowC, BitVec.getLsbD_or, BitVec.getLsbD_twoPow,
        decide_eq_true lowD, Bool.true_and, same, Bool.or_comm]
      rfl
    · have apart : (d.toNat == c.toNat) = false := by
        rw [beq_eq_false_iff_ne]
        omega
      rw [contains_of_not_lt lowC, contains_of_not_lt lowC, same, apart, Bool.false_or]
  · have inserted : set.insert d = { set with high := set.high.insert d.val } := if_neg lowD
    rw [inserted]
    by_cases lowC : c.toNat < 128
    · have apart : (d.toNat == c.toNat) = false := by
        rw [beq_eq_false_iff_ne]
        omega
      rw [contains_of_lt lowC, contains_of_lt lowC, same, apart, Bool.false_or]
    · have values : (d == c) = (d.val == c.val) := by
        rw [Bool.eq_iff_iff, beq_iff_eq, beq_iff_eq, Char.ext_iff]
      rw [contains_of_not_lt lowC, contains_of_not_lt lowC, Std.HashSet.contains_insert, values]

/-- Characters put into a set are members. -/
theorem contains_foldl_insert (set : Charset) (text : List Char) (c : Char) :
    (text.foldl insert set).contains c = (text.contains c || set.contains c) := by
  induction text generalizing set with
  | nil => rfl
  | cons d text ih =>
    rw [List.foldl_cons, ih, contains_insert, List.contains_cons, BEq.comm (a := c)]
    cases d == c <;> simp

/-- A set contains the characters of its text. -/
theorem contains_ofString (text : String) (c : Char) :
    (ofString text).contains c = text.toList.contains c := by
  have fresh : (⟨text, 0#128, ∅⟩ : Charset).contains c = false := by
    unfold contains
    split
    · exact BitVec.getLsbD_zero
    · exact Std.HashSet.contains_empty
  rw [ofString, contains_foldl_insert, fresh, Bool.or_false]

end Charset

/-- Sets by which the same characters are quotes, and the same are in each class but for the
carriage return. -/
structure Charsets.Agree (first second : Charsets) : Prop where
  quotes : ∀ c, first.quotes.contains c = second.quotes.contains c
  classes : ∀ runClass c, c ≠ '\r' →
    (first.ofClass runClass).contains c = (second.ofClass runClass).contains c

namespace Charsets.Agree

open Scan (extendsRun isOther)

variable {first second : Charsets}

/-- The same characters are quotes. -/
theorem isQuote (agree : first.Agree second) (c : Char) : first.isQuote c = second.isQuote c :=
  agree.quotes c

/-- A character that is no carriage return is of the same class. -/
theorem classify? (agree : first.Agree second) {c : Char} (noReturn : c ≠ '\r') :
    first.classify? c = second.classify? c := by
  have found (runClass : RunClass) := agree.classes runClass c noReturn
  simp only [Charsets.classify?, found]

/-- The same characters are of no class; a carriage return is not looked up. -/
theorem isOther (agree : first.Agree second) (c : Char) :
    isOther first c = isOther second c := by
  by_cases isReturn : c = '\r'
  · simp [Scan.isOther, isReturn]
  · rw [Scan.isOther, Scan.isOther, agree.isQuote, agree.classify? isReturn]

/-- A run takes the same characters, every carriage return among them. -/
theorem extendsRun (agree : first.Agree second) (runClass : RunClass) (c : Char) :
    extendsRun first runClass c = extendsRun second runClass c := by
  by_cases isReturn : c = '\r'
  · simp [Scan.extendsRun, isReturn]
  · rw [Scan.extendsRun, Scan.extendsRun, agree.classes runClass c isReturn]

/-- A character opens the same token; a carriage return is dropped before it is looked up. -/
theorem enter (agree : first.Agree second) (scan : Scan) (c : Char) :
    scan.enter first c = scan.enter second c := by
  rw [Scan.enter, Scan.enter, agree.isQuote]
  by_cases isReturn : c = '\r'
  · simp only [if_pos isReturn]
  · rw [agree.classify? isReturn]

/-- A character is read in the same way, whatever token is open. -/
theorem step (agree : first.Agree second) (compress : Bool) (scan : Scan) (c : Char) :
    scan.step first compress c = scan.step second compress c := by
  unfold Scan.step
  cases scan.inside with
  | nothing => exact agree.enter scan c
  | other start read => simp only [agree.isOther, agree.enter]
  | run runClass start read => simp only [agree.extendsRun, agree.enter]
  | quoted delimiter start read => rfl

/-- A text is read in the same way. -/
theorem readAll (agree : first.Agree second) (compress : Bool) (scan : Scan) (text : List Char) :
    scan.readAll first compress text = scan.readAll second compress text := by
  have steps : Scan.step first compress = Scan.step second compress := by
    funext scan c
    exact agree.step compress scan c
  rw [Scan.readAll, Scan.readAll, steps]

end Charsets.Agree

/-- By sets that agree, a scan gives the same tokens, raises the same events and has the same
counters. -/
theorem tokens_of_agreeing (lexer : Lexer) (compress : Bool) (first second : Charsets)
    (agree : first.Agree second) :
    let byFirst := { lexer with charsets := first }.tokens compress
    let bySecond := { lexer with charsets := second }.tokens compress
    byFirst.1.result = bySecond.1.result ∧ byFirst.1.events = bySecond.1.events ∧
      byFirst.2.metrics = bySecond.2.metrics := by
  intro byFirst bySecond
  have read : { lexer with charsets := first }.readRest compress =
      { lexer with charsets := second }.readRest compress :=
    agree.readAll compress _ _
  refine ⟨?_, ?_, ?_⟩
  · simp only [byFirst, bySecond, Lexer.tokens, Lexer.complete, read]
  · simp only [byFirst, bySecond, Lexer.tokens, Lexer.complete, read]
    rfl
  · simp only [byFirst, bySecond, Lexer.tokens, Lexer.complete, read]

/-- Sets written in another order, with characters repeated and with a carriage return among the
letters, are not equal. A scan of carriage returns in a run, behind one and in a string is the same
by them. -/
theorem tokens_of_agreeing_letters :
    let first : Charsets := { letters := .ofString "ba", quotes := .ofString "'\"" }
    let second : Charsets := { letters := .ofString "abba\r", quotes := .ofString "\"'\"" }
    let lexer : Lexer := { cursor := (Cursor.ofString "aa\rb\n\r'\r'").advance 1 }
    first.Agree second ∧ (first.letters == second.letters) = false ∧
      (first.quotes == second.quotes) = false ∧
      ({ lexer with charsets := first }.tokens true).1.result =
        ({ lexer with charsets := second }.tokens true).1.result := by
  intro first second lexer
  have agree : first.Agree second := by
    refine ⟨fun c => ?_, fun runClass c noReturn => ?_⟩
    · simp only [first, second, Charset.contains_ofString]
      have forth : ∀ d ∈ "'\"".toList, d ∈ "\"'\"".toList := by simp
      have back : ∀ d ∈ "\"'\"".toList, d ∈ "'\"".toList := by simp
      rw [Bool.eq_iff_iff, List.contains_iff_mem, List.contains_iff_mem]
      exact ⟨forth c, back c⟩
    · cases runClass with
      | letters =>
        simp only [first, second, Charsets.ofClass, Charset.contains_ofString]
        have forth : ∀ d ∈ "ba".toList, d ∈ "abba\r".toList := by simp
        have back : ∀ d ∈ "abba\r".toList, d ≠ '\r' → d ∈ "ba".toList := by simp
        rw [Bool.eq_iff_iff, List.contains_iff_mem, List.contains_iff_mem]
        exact ⟨forth c, fun member => back c member noReturn⟩
      | _ => rfl
  have letters : (first.letters == second.letters) = false := by decide
  have quotes : (first.quotes == second.quotes) = false := by decide
  exact ⟨agree, letters, quotes, (tokens_of_agreeing lexer true first second agree).1⟩

end CharLexer
