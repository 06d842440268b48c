import CharLexer.Proofs.LineOrder
import Mathlib.Data.List.Dedup

/-!
# What a grouping holds

Tokens are grouped in whatever order they are given. The grouping has an entry for each line on
which one of them starts, and under it those tokens in the order in which they were given
(`groups_of_tokens`). One after another, its lines are the stable sort of the tokens by line, which
is the only list that a stable sort may give (`Token.stablySorted_iff`); it is all that a grouping
keeps of the order of the tokens (`Lines.beq_ofTokens`).
-/
namespace CharLexer

namespace Token

/-- Whether a list is a stable sort of some tokens by line. -/
structure StablySorted (tokens sorted : List Token) : Prop where
  /-- No token is lost or doubled. -/
  perm : sorted.Perm tokens
  /-- No token starts on an earlier line than one before it. -/
  ascending : Ascending sorted
  /-- The tokens of one line keep their order. -/
  stable : ∀ line, onLine line sorted = onLine line tokens

/-- Sorting by line is stable. -/
theorem stablySorted_sortByLine (tokens : List Token) :
    StablySorted tokens (sortByLine tokens) where
  perm := List.mergeSort_perm tokens _
  ascending := ascending_sortByLine tokens
  stable line := onLine_sortByLine line tokens

/-- Tokens have one stable sort by line. -/
theorem stablySorted_iff {tokens sorted : List Token} :
    StablySorted tokens sorted ↔ sorted = sortByLine tokens := by
  constructor
  · intro stably
    exact stably.ascending.eq_sortByLine stably.stable
  · rintro rfl
    exact stablySorted_sortByLine tokens

/-- A line has tokens if one of them starts on it. -/
theorem onLine_ne_nil {line : Nat} {tokens : List Token} :
    onLine line tokens ≠ [] ↔ ∃ token ∈ tokens, token.location.line = line := by
  constructor
  · intro occupied
    obtain ⟨token, member⟩ := List.exists_mem_of_ne_nil _ occupied
    exact ⟨token, mem_onLine.mp member⟩
  · rintro ⟨token, member⟩
    exact List.ne_nil_of_mem (mem_onLine.mpr member)

end Token

namespace Lines

/-- What a grouping of some tokens holds. -/
structure Groups (lines : Lines) (tokens : List Token) : Prop where
  /-- The lines strictly ascend. -/
  ascending : lines.numbers.Pairwise (· < ·)
  /-- A line is found if a token starts on it. -/
  found : ∀ line, (lines.tokensOf? line).isSome ↔ ∃ token ∈ tokens, token.location.line = line
  /-- Under a line stand the tokens that start on it, in the order in which they were given. -/
  held : ∀ line, ∀ group ∈ lines.tokensOf? line,
    group = tokens.filter fun token => token.location.line == line
  /-- The entries are what is found under the lines. -/
  entries : ∀ line group, (line, group) ∈ lines.toList ↔ lines.tokensOf? line = some group
  /-- No line is without a token. -/
  inhabited : ∀ entry ∈ lines.toList, entry.2 ≠ []
  /-- There are as many lines as the tokens have between them. -/
  count : lines.count = (tokens.map fun token => token.location.line).dedup.length
  /-- One after another, the lines are the tokens sorted by line. -/
  joined : lines.toList.flatMap (·.2) = Token.sortByLine tokens
  /-- That sort is stable. -/
  sorted : Token.StablySorted tokens (lines.toList.flatMap (·.2))

/-- Under a line is found what starts on it, unless that is nothing. -/
theorem tokensOf?_eq_some {tokens group : List Token} {line : Nat} :
    (ofTokens tokens).tokensOf? line = some group ↔
      Token.onLine line tokens ≠ [] ∧ group = Token.onLine line tokens := by
  rw [tokensOf?_ofTokens]
  by_cases free : Token.onLine line tokens = []
  · simp [free]
  · rw [if_neg free, Option.some.injEq, eq_comm]
    exact (and_iff_right free).symm

/-- A grouping has as many lines as it counts. -/
theorem length_numbers (lines : Lines) : lines.numbers.length = lines.count := by
  unfold numbers toList count
  rw [List.length_map, List.length_map, Std.TreeMap.length_toList]

/-- A grouping counts the lines on which tokens start, each once. -/
theorem count_ofTokens (tokens : List Token) :
    (ofTokens tokens).count = (tokens.map fun token => token.location.line).dedup.length := by
  have distinct : (ofTokens tokens).numbers.Nodup :=
    (ascending_numbers (ofTokens tokens)).imp Nat.ne_of_lt
  have same : (ofTokens tokens).numbers.Perm
      (tokens.map fun token => token.location.line).dedup := by
    apply (List.perm_ext_iff_of_nodup distinct (List.nodup_dedup _)).mpr
    intro line
    rw [mem_numbers_ofTokens, Token.onLine_ne_nil, List.mem_dedup, List.mem_map]
  rw [← length_numbers, same.length_eq]

/-- Tokens with the same stable sort have the same grouping, and no others. -/
theorem beq_ofTokens {first second : List Token} :
    (ofTokens first == ofTokens second) = true ↔
      Token.sortByLine first = Token.sortByLine second := by
  change ((ofTokens first).toList == (ofTokens second).toList) = true ↔ _
  rw [beq_iff_eq]
  constructor
  · intro same
    rw [← flatMap_ofTokens, ← flatMap_ofTokens, same]
  · intro same
    have onLine_eq (line : Nat) : Token.onLine line first = Token.onLine line second := by
      rw [← Token.onLine_sortByLine, same, Token.onLine_sortByLine]
    apply toList_eq_of_mem_iff (ordered_toList _)
    intro line group
    rw [mem_toList, tokensOf?_ofTokens, tokensOf?_ofTokens, onLine_eq]

end Lines

/-- Whatever the order of the tokens, their grouping has the lines on which they start, in ascending
order, and on each line its tokens as they were given. Two lists of tokens have one grouping exactly
when they have one stable sort by line. -/
theorem groups_of_tokens (tokens others : List Token) :
    (Lines.ofTokens tokens).Groups tokens ∧
      ((Lines.ofTokens tokens == Lines.ofTokens others) = true ↔
        Token.sortByLine tokens = Token.sortByLine others) := by
  have joined := Lines.flatMap_ofTokens tokens
  constructor
  · constructor
    case ascending => exact Lines.ascending_numbers _
    case found =>
      intro line
      rw [← Token.onLine_ne_nil, Option.isSome_iff_exists]
      simp only [Lines.tokensOf?_eq_some, exists_and_left, exists_eq, and_true]
    case held =>
      intro line group found
      exact (Lines.tokensOf?_eq_some.mp found).2
    case entries =>
      intro line group
      exact Lines.mem_toList
    case inhabited =>
      rintro ⟨line, group⟩ member
      have held := Lines.tokensOf?_eq_some.mp (Lines.mem_toList.mp member)
      rw [held.2]
      exact held.1
    case count => exact Lines.count_ofTokens tokens
    case joined => exact joined
    case sorted => exact Token.stablySorted_iff.mpr joined
  · exact Lines.beq_ofTokens

end CharLexer
