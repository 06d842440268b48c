import CharLexer.Proofs.ByLine

/-!
# Tokens in order of lines

A list of tokens is sorted by line so that the tokens of one line keep their order. Such a sort is
known by two facts, that the lines do not descend and that on every line stand the same tokens
(`Token.eq_sortByLine`). So the lines of a grouping, one after another, are the sort of the tokens
that were grouped (`Lines.flatMap_ofTokens`), and the tokens of a scan are sorted already
(`Lexer.sortByLine_tokens`).
-/
namespace CharLexer

/-- Whether the key of an item is not above that of another. -/
def keyLE {α : Type} (key : α → Nat) (first second : α) : Bool := key first ≤ key second

section keyLE

variable {α : Type} (key : α → Nat)

/-- Comparing by key is transitive. -/
theorem keyLE_trans (first second third : α) (left : keyLE key first second = true)
    (right : keyLE key second third = true) : keyLE key first third = true := by
  simp only [keyLE, decide_eq_true_eq] at *
  exact left.trans right

/-- Two items compare by key one way or the other. -/
theorem keyLE_total (first second : α) : keyLE key first second || keyLE key second first := by
  simp only [keyLE, Bool.or_eq_true, decide_eq_true_eq]
  exact Nat.le_total _ _

/-- The keys of a list that is sorted by key do not descend. -/
theorem pairwise_mergeSort_keyLE (items : List α) :
    (items.mergeSort (keyLE key)).Pairwise fun first second => key first ≤ key second := by
  have sorted := List.pairwise_mergeSort (keyLE_trans key) (keyLE_total key) items
  simp only [keyLE, decide_eq_true_eq] at sorted
  exact sorted

end keyLE

namespace Token

/-- The tokens in ascending order of lines, those of one line in the order in which they were
given. -/
def sortByLine (tokens : List Token) : List Token :=
  tokens.mergeSort (keyLE fun token => token.location.line)

/-- The tokens of a line have no token of another. -/
theorem onLine_onLine (line number : Nat) (tokens : List Token) :
    onLine line (onLine number tokens) = if number = line then onLine line tokens else [] := by
  by_cases same : number = line
  · subst same
    rw [if_pos rfl]
    simp only [onLine, List.filter_filter, Bool.and_self]
  · rw [if_neg same]
    refine List.filter_eq_nil_iff.mpr fun token member => ?_
    rw [(mem_onLine.mp member).2, beq_iff_eq]
    exact same

/-- Whether no token starts on an earlier line than one before it. -/
def Ascending (tokens : List Token) : Prop :=
  tokens.Pairwise fun first second => first.location.line ≤ second.location.line

/-- The first token starts on the lowest line. -/
theorem Ascending.first_le {first token : Token} {tokens : List Token}
    (ascending : Ascending (first :: tokens)) (member : token ∈ first :: tokens) :
    first.location.line ≤ token.location.line := by
  rcases List.mem_cons.mp member with rfl | later
  · exact Nat.le_refl _
  · exact List.rel_of_pairwise_cons ascending later

/-- Lists with the same tokens on every line have the same tokens. -/
theorem mem_of_onLine_eq {first second : List Token}
    (same : ∀ line, onLine line first = onLine line second) {token : Token}
    (member : token ∈ first) : token ∈ second := by
  have here : token ∈ onLine token.location.line first := mem_onLine.mpr ⟨member, rfl⟩
  rw [same] at here
  exact (mem_onLine.mp here).1

/-- Lists whose lines do not descend are equal when they have the same tokens on every line. -/
theorem Ascending.eq_of_onLine {first second : List Token} (left : Ascending first)
    (right : Ascending second) (same : ∀ line, onLine line first = onLine line second) :
    first = second := by
  induction first generalizing second with
  | nil =>
    refine (List.eq_nil_iff_forall_not_mem.mpr fun token member => ?_).symm
    exact List.not_mem_nil (mem_of_onLine_eq (fun line => (same line).symm) member)
  | cons token first ih =>
    cases second with
    | nil => exact absurd (mem_of_onLine_eq same List.mem_cons_self) List.not_mem_nil
    | cons other second =>
      -- Each list has the first token of the other, so both start on the same line.
      have level : other.location.line = token.location.line :=
        Nat.le_antisymm (right.first_le (mem_of_onLine_eq same List.mem_cons_self))
          (left.first_le (mem_of_onLine_eq (fun line => (same line).symm) List.mem_cons_self))
      have front := same token.location.line
      rw [onLine_cons_of_eq rfl, onLine_cons_of_eq level] at front
      obtain ⟨rfl, -⟩ := List.cons.inj front
      congr 1
      refine ih left.of_cons right.of_cons fun line => ?_
      have both := same line
      by_cases here : token.location.line = line
      · rw [onLine_cons_of_eq here, onLine_cons_of_eq here] at both
        exact (List.cons.inj both).2
      · rwa [onLine_cons_of_ne here, onLine_cons_of_ne here] at both

/-- The lines of a sorted list do not descend. -/
theorem ascending_sortByLine (tokens : List Token) : Ascending (sortByLine tokens) :=
  pairwise_mergeSort_keyLE _ tokens

/-- Sorting leaves the tokens of a line in their order. -/
theorem onLine_sortByLine (line : Nat) (tokens : List Token) :
    onLine line (sortByLine tokens) = onLine line tokens := by
  have level : (onLine line tokens).Pairwise fun first second =>
      keyLE (fun token => token.location.line) first second := by
    refine List.pairwise_of_forall_mem_list fun first here second there => ?_
    simp only [keyLE, (mem_onLine.mp here).2, (mem_onLine.mp there).2]
    exact decide_eq_true (Nat.le_refl _)
  have kept : (onLine line tokens).Sublist (sortByLine tokens) :=
    List.sublist_mergeSort (keyLE_trans _) (keyLE_total _) level List.filter_sublist
  have shorter : (onLine line tokens).Sublist (onLine line (sortByLine tokens)) := by
    have filtered := kept.filter fun token => token.location.line == line
    have twice := onLine_onLine line line tokens
    rw [if_pos rfl] at twice
    exact twice ▸ filtered
  refine (shorter.eq_of_length ?_).symm
  exact ((List.mergeSort_perm tokens _).filter _).length_eq.symm

/-- What is sorted by line is known by its lines. -/
theorem Ascending.eq_sortByLine {sorted tokens : List Token} (ascending : Ascending sorted)
    (same : ∀ line, onLine line sorted = onLine line tokens) : sorted = sortByLine tokens :=
  ascending.eq_of_onLine (ascending_sortByLine tokens) fun line => by
    rw [same, onLine_sortByLine]

/-- Tokens that run from line to line do not descend. -/
theorem Lined.ascending {line : Nat} {tokens : List Token} (lined : Lined line tokens) :
    Ascending tokens := by
  induction lined with
  | ended => exact List.pairwise_singleton _ _
  | within here goesOn more rest ih =>
    refine List.pairwise_cons.mpr ⟨fun token member => ?_, ih⟩
    exact here ▸ (rest.line_bounds token member).1
  | closing here ends rest ih =>
    refine List.pairwise_cons.mpr ⟨fun token member => ?_, ih⟩
    exact here ▸ Nat.le_of_succ_le (rest.line_bounds token member).1

end Token

namespace Lines

/-- The lines of a grouping are those on which tokens start. -/
theorem mem_numbers_ofTokens {tokens : List Token} {line : Nat} :
    line ∈ (ofTokens tokens).numbers ↔ Token.onLine line tokens ≠ [] := by
  simp only [numbers, List.mem_map, Prod.exists, mem_toList, tokensOf?_ofTokens,
    exists_and_right, exists_eq_right]
  by_cases free : Token.onLine line tokens = [] <;> simp [free]

/-- The entries of a grouping are its lines, each with the tokens that start on it. -/
theorem toList_ofTokens_numbers (tokens : List Token) :
    (ofTokens tokens).toList =
      (ofTokens tokens).numbers.map fun line => (line, Token.onLine line tokens) :=
  toList_ofTokens (ascending_numbers _) fun _ => mem_numbers_ofTokens

/-- Lines in ascending order, one after another, have on each of them the tokens that start on
it. -/
theorem onLine_flatMap {numbers : List Nat} (ordered : numbers.Pairwise (· < ·))
    (tokens : List Token) (line : Nat) :
    Token.onLine line (numbers.flatMap fun number => Token.onLine number tokens) =
      if line ∈ numbers then Token.onLine line tokens else [] := by
  have onLine_append (first second : List Token) :
      Token.onLine line (first ++ second) = Token.onLine line first ++ Token.onLine line second :=
    List.filter_append ..
  induction numbers with
  | nil => rfl
  | cons number numbers ih =>
    obtain ⟨above, ordered⟩ := List.pairwise_cons.mp ordered
    rw [List.flatMap_cons, onLine_append, ih ordered, Token.onLine_onLine]
    by_cases here : number = line
    · subst here
      have absent : number ∉ numbers := fun member => Nat.lt_irrefl _ (above number member)
      rw [if_pos rfl, if_neg absent, List.append_nil, if_pos List.mem_cons_self]
    · have same : line ∈ number :: numbers ↔ line ∈ numbers := by
        rw [List.mem_cons, or_iff_right (Ne.symm here)]
      simp only [if_neg here, List.nil_append, same]

/-- Lines in ascending order, one after another, do not descend. -/
theorem ascending_flatMap {numbers : List Nat} (ordered : numbers.Pairwise (· < ·))
    (tokens : List Token) :
    Token.Ascending (numbers.flatMap fun number => Token.onLine number tokens) := by
  refine List.pairwise_flatMap.mpr ⟨fun number _ => ?_, ordered.imp fun {low high} lt => ?_⟩
  · refine List.pairwise_of_forall_mem_list fun first here second there => ?_
    exact Nat.le_of_eq
      ((Token.mem_onLine.mp here).2.trans (Token.mem_onLine.mp there).2.symm)
  · intro first here second there
    rw [(Token.mem_onLine.mp here).2, (Token.mem_onLine.mp there).2]
    exact Nat.le_of_lt lt

/-- The lines of a grouping, one after another, are the tokens sorted by line. -/
theorem flatMap_ofTokens (tokens : List Token) :
    (ofTokens tokens).toList.flatMap (·.2) = Token.sortByLine tokens := by
  have ordered := ascending_numbers (ofTokens tokens)
  rw [toList_ofTokens_numbers, List.flatMap_map]
  refine (ascending_flatMap ordered tokens).eq_sortByLine fun line => ?_
  rw [onLine_flatMap ordered, ite_eq_left_iff, mem_numbers_ofTokens, not_not]
  exact Eq.symm

/-- The entries of a grouping in any order, sorted by their lines, are in its order. -/
theorem mergeSort_entries {lines : Lines} {entries : List (Nat × List Token)}
    (same : entries.Perm lines.toList) : entries.mergeSort (keyLE (·.1)) = lines.toList := by
  have sorted := pairwise_mergeSort_keyLE (fun entry => entry.1) entries
  have ordered := lines.ordered_toList.imp Nat.le_of_lt
  refine List.Perm.eq_of_pairwise ?_ sorted ordered ((List.mergeSort_perm ..).trans same)
  rintro ⟨line, group⟩ ⟨other, otherGroup⟩ here there le ge
  obtain rfl : line = other := Nat.le_antisymm le ge
  have member := same.mem_iff.mp ((List.mergeSort_perm ..).mem_iff.mp here)
  rw [mem_toList] at member there
  rw [Option.some.inj (member.symm.trans there)]

end Lines

/-- The tokens of a scan are sorted by line. -/
theorem Lexer.sortByLine_tokens (lexer : Lexer) (compress : Bool) :
    Token.sortByLine (lexer.tokens compress).1.result = (lexer.tokens compress).1.result := by
  obtain ⟨pieces, reading⟩ := Reading.exists_reading lexer.charsets lexer.cursor.rest
  have lined := Piece.lined_tokensToEnd compress lexer.startPlace pieces
  rw [← Lexer.tokens_of_reading compress reading] at lined
  exact (lined.ascending.eq_sortByLine fun _ => rfl).symm

end CharLexer
