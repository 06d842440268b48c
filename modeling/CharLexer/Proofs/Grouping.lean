import CharLexer.Token.Lines
import Mathlib.Data.List.Sort

/-!
# Groups of tokens

Tokens are grouped by line one after another. What a grouping holds in the end is said here of the
list of tokens: under each line, those that start on it, in the order in which they were given
(`Lines.tokensOf?_ofTokens`). As the lines ascend, the entries of a grouping are known from that
(`Lines.toList_ofTokens`).
-/
namespace CharLexer

/-- The tokens of a list that start on a line. -/
def Token.onLine (line : Nat) (tokens : List Token) : List Token :=
  tokens.filter fun token => token.location.line == line

namespace Token

/-- A token in front stands first on its line. -/
theorem onLine_cons_of_eq {line : Nat} {token : Token} (here : token.location.line = line)
    (tokens : List Token) : onLine line (token :: tokens) = token :: onLine line tokens :=
  List.filter_cons_of_pos (by simpa using here)

/-- A token in front changes no other line. -/
theorem onLine_cons_of_ne {line : Nat} {token : Token} (elsewhere : token.location.line ≠ line)
    (tokens : List Token) : onLine line (token :: tokens) = onLine line tokens :=
  List.filter_cons_of_neg (by simpa using elsewhere)

/-- The tokens of a line are those that start on it. -/
theorem mem_onLine {line : Nat} {tokens : List Token} {token : Token} :
    token ∈ onLine line tokens ↔ token ∈ tokens ∧ token.location.line = line := by
  rw [onLine, List.mem_filter, beq_iff_eq]

end Token

namespace Lines

/-- A token comes behind those of its line and leaves the other lines alone. -/
theorem tokensOf?_add (lines : Lines) (token : Token) (line : Nat) :
    (lines.add token).tokensOf? line =
      if token.location.line = line then some ((lines.tokensOf? line).getD [] ++ [token])
      else lines.tokensOf? line := by
  simp only [tokensOf?, add, Std.TreeMap.getElem?_alter, Nat.compare_eq_eq]
  by_cases here : token.location.line = line
  · subst here
    rw [if_pos rfl, if_pos rfl]
    cases lines.newestFirst[token.location.line]? <;> simp
  · rw [if_neg here, if_neg here]

/-- Tokens come behind those of their lines, one after another. -/
theorem tokensOf?_foldl_add (lines : Lines) (tokens : List Token) (line : Nat) :
    (tokens.foldl add lines).tokensOf? line =
      if Token.onLine line tokens = [] then lines.tokensOf? line
      else some ((lines.tokensOf? line).getD [] ++ Token.onLine line tokens) := by
  induction tokens generalizing lines with
  | nil => rfl
  | cons token tokens ih =>
    rw [List.foldl_cons, ih, tokensOf?_add]
    by_cases here : token.location.line = line
    · rw [if_pos here, Token.onLine_cons_of_eq here, if_neg (List.cons_ne_nil _ _)]
      by_cases last : Token.onLine line tokens = []
      · rw [if_pos last, last]
      · rw [if_neg last, Option.getD_some, List.append_assoc, List.singleton_append]
    · rw [if_neg here, Token.onLine_cons_of_ne here]

/-- Under a line, a grouping holds the tokens that start on it, if there are any. -/
theorem tokensOf?_ofTokens (tokens : List Token) (line : Nat) :
    (ofTokens tokens).tokensOf? line =
      if Token.onLine line tokens = [] then none else some (Token.onLine line tokens) := by
  have fresh : empty.tokensOf? line = none := by simp [empty, tokensOf?]
  rw [ofTokens, tokensOf?_foldl_add, fresh, Option.getD_none, List.nil_append]

/-- The entries of a grouping are what it holds under each line. -/
theorem mem_toList {lines : Lines} {line : Nat} {group : List Token} :
    (line, group) ∈ lines.toList ↔ lines.tokensOf? line = some group := by
  simp only [toList, tokensOf?, List.mem_map, Option.map_eq_some_iff, Prod.exists, Prod.mk.injEq]
  constructor
  · rintro ⟨number, held, member, rfl, rfl⟩
    exact ⟨held, Std.TreeMap.mem_toList_iff_getElem?_eq_some.mp member, rfl⟩
  · rintro ⟨held, found, rfl⟩
    exact ⟨line, held, Std.TreeMap.mem_toList_iff_getElem?_eq_some.mpr found, rfl, rfl⟩

/-- The lines of a grouping ascend. -/
theorem ordered_toList (lines : Lines) :
    lines.toList.Pairwise fun first second => first.1 < second.1 := by
  have ordered := Std.TreeMap.ordered_keys_toList (t := lines.newestFirst)
  simp only [Nat.compare_eq_lt] at ordered
  exact List.pairwise_map.mpr ordered

/-- The lines of a grouping, without what they hold, ascend. -/
theorem ascending_numbers (lines : Lines) : lines.numbers.Pairwise (· < ·) :=
  List.pairwise_map.mpr lines.ordered_toList

/-- A grouping has one list of entries: that in which the lines ascend and each has what is held
under it. -/
theorem toList_eq_of_mem_iff {lines : Lines} {entries : List (Nat × List Token)}
    (ordered : entries.Pairwise fun first second => first.1 < second.1)
    (same : ∀ line group, (line, group) ∈ entries ↔ lines.tokensOf? line = some group) :
    lines.toList = entries := by
  let before := fun first second : Nat × List Token => first.1 < second.1
  have antisymm : Std.Antisymm before := ⟨fun _ _ forth back => absurd forth (Nat.lt_asymm back)⟩
  have irrefl : Std.Irrefl before := ⟨fun _ => Nat.lt_irrefl _⟩
  refine List.Pairwise.eq_of_mem_iff lines.ordered_toList ordered fun entry => ?_
  rw [mem_toList, ← same]

/-- The entries of a grouping of which the lines are known. -/
theorem toList_ofTokens {tokens : List Token} {numbers : List Nat}
    (ordered : numbers.Pairwise (· < ·))
    (occupied : ∀ line, line ∈ numbers ↔ Token.onLine line tokens ≠ []) :
    (ofTokens tokens).toList = numbers.map fun line => (line, Token.onLine line tokens) := by
  apply toList_eq_of_mem_iff
  · exact List.pairwise_map.mpr ordered
  · intro line group
    rw [tokensOf?_ofTokens]
    by_cases free : Token.onLine line tokens = []
    · have absent : line ∉ numbers := fun member => (occupied line).mp member free
      simp [free, absent]
    · have present := (occupied line).mpr free
      simp [free, present]

end Lines

end CharLexer
