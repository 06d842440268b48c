import CharLexer.Proofs.LateStart

/-!
# Cursors over one text

Someone who reads a text may keep several cursors over it, put a copy of one aside and go back to
it later. What can be done is an `Operation` on a list of cursors, each known by its place. An
operation changes at most the cursor at one place (`Operation.getElem?_perform`), and none of them
leaves the text (`Operation.text_after`). So after any operations every cursor obeys the laws of a
cursor that stands in the text (`Cursor.Sound`), and where it stands from then on depends on nothing
but how often it is read itself, until it goes back (`cursors_of_operations`).
-/
namespace CharLexer

namespace Cursor

/-! ### One cursor -/

/-- A read gives the character that was seen and moves by one. At the end it gives none and leaves
the cursor as it is. -/
theorem next_cases (cursor : Cursor) :
    (∃ c after, cursor.next = (some c, after) ∧ cursor.peek? = some c ∧
        after.text = cursor.text ∧ after.position = cursor.position + 1 ∧
        cursor.rest = c :: after.rest) ∨
      cursor.next = (none, cursor) ∧ cursor.peek? = none ∧ cursor.position = cursor.length ∧
        cursor.rest = [] := by
  have within := cursor.position_le
  by_cases more : cursor.position < cursor.text.size
  · left
    have inside : cursor.position < cursor.text.toList.length := by
      rw [Array.length_toList]
      exact more
    exact ⟨_, _, dif_pos more, Array.getElem?_eq_getElem more, rfl, rfl,
      List.drop_eq_getElem_cons inside⟩
  · right
    have all : cursor.text.toList.length ≤ cursor.position := by
      rw [Array.length_toList]
      omega
    have stands : cursor.position = cursor.text.size := by omega
    exact ⟨dif_neg more, Array.getElem?_eq_none (Nat.le_of_not_lt more), stands,
      List.drop_eq_nil_of_le all⟩

/-- Where a read gives a character, that is the first one left, and the others are left behind it. -/
theorem rest_of_next {cursor after : Cursor} {c : Char} (read : cursor.next = (some c, after)) :
    cursor.rest = c :: after.rest := by
  rcases cursor.next_cases with ⟨d, later, found, -, -, -, left⟩ | ⟨none, -⟩
  · cases read.symm.trans found
    exact left
  · cases read.symm.trans none

/-- A read gives the first of the characters that are left. -/
theorem next_eq_head? (cursor : Cursor) : cursor.next.1 = cursor.rest.head? := by
  rcases cursor.next_cases with ⟨c, after, read, -, -, -, left⟩ | ⟨read, -, -, left⟩
  · rw [read, left]
    rfl
  · rw [read, left]
    rfl

/-- Read until there is no character: those that were read, and the cursor then. -/
def readOn (cursor : Cursor) : List Char × Cursor :=
  match _read : cursor.next with
  | (some c, after) =>
    let (chars, last) := after.readOn
    (c :: chars, last)
  | (none, after) => ([], after)
termination_by cursor.rest.length
decreasing_by
  rw [rest_of_next _read]
  exact Nat.lt_succ_self _

/-- Reading on gives the characters that are left. -/
theorem readOn_chars (cursor : Cursor) : cursor.readOn.1 = cursor.rest := by
  fun_induction readOn cursor with
  | case1 cursor c after read chars last ended ih =>
    rw [ended] at ih
    rw [rest_of_next read, ← ih]
  | case2 cursor after stop =>
    rcases cursor.next_cases with ⟨c, later, found, -⟩ | ⟨-, -, -, nothing⟩
    · cases stop.symm.trans found
    · exact nothing.symm

/-- Reading on stops only where a read gives nothing. -/
theorem next_readOn (cursor : Cursor) : cursor.readOn.2.next.1 = none := by
  fun_induction readOn cursor with
  | case1 cursor c after read chars last ended ih =>
    rw [ended] at ih
    exact ih
  | case2 cursor after stop =>
    rcases cursor.next_cases with ⟨c, later, found, -⟩ | ⟨same, -⟩
    · cases stop.symm.trans found
    · cases stop.symm.trans same
      rw [stop]

/-- The laws of a cursor that stands in a text. It is not past the end, and it sees the character
at its position. It knows whether there is one. A read gives what is seen, and moves by one if that
is a character; otherwise the cursor stays as it is. Reading on until nothing is given, the
characters are those of the text from the position on. -/
structure Sound (source : String) (cursor : Cursor) : Prop where
  length : cursor.length = source.length
  within : cursor.position ≤ source.length
  sees : cursor.peek? = source.toList[cursor.position]?
  hasMore : cursor.hasMore = cursor.peek?.isSome
  atEnd : cursor.hasMore = !cursor.atEnd
  gives : cursor.next.1 = cursor.peek?
  moves : ∀ c, cursor.next.1 = some c → cursor.next.2.position = cursor.position + 1
  stays : cursor.next.1 = none → cursor.next.2 = cursor
  readsOn : cursor.readOn.1 = source.toList.drop cursor.position
  stops : cursor.readOn.2.next.1 = none

/-- Every cursor over a text obeys the laws. -/
theorem sound_of_text {source : String} {cursor : Cursor}
    (sameText : cursor.text = (ofString source).text) : cursor.Sound source := by
  have chars : cursor.text.toList = source.toList := congrArg Array.toList sameText
  have length : cursor.length = source.length := by
    rw [← length_ofString source]
    exact congrArg Array.size sameText
  refine
    { length := length
      within := length ▸ cursor.position_le
      sees := ?_
      hasMore := ?_
      atEnd := ?_
      gives := ?_
      moves := ?_
      stays := ?_
      readsOn := ?_
      stops := cursor.next_readOn }
  · rw [← chars, Array.getElem?_toList]
    rfl
  · apply Bool.eq_iff_iff.mpr
    simp [Cursor.hasMore, peek?]
  · rw [hasMore, atEnd, ← decide_not]
    apply decide_eq_decide.mpr
    omega
  · rcases cursor.next_cases with ⟨c, after, read, seen, -⟩ | ⟨read, seen, -⟩
    · rw [read, seen]
    · rw [read, seen]
  · intro c given
    rcases cursor.next_cases with ⟨d, after, read, -, -, moved, -⟩ | ⟨read, -⟩
    · rw [read]
      exact moved
    · rw [read] at given
      contradiction
  · intro given
    rcases cursor.next_cases with ⟨d, after, read, -⟩ | ⟨read, -⟩
    · rw [read] at given
      contradiction
    · rw [read]
  · rw [readOn_chars, ← chars]
    rfl

/-! ### Several cursors -/

/-- Something that is asked of a cursor. -/
inductive Question
  | hasMore
  | atEnd
  | isEmpty
  | peek
  | position
  | length
  deriving DecidableEq

/-- What an operation gives. -/
inductive Answer
  | truth (holds : Bool)
  | character (c? : Option Char)
  | count (number : Nat)
  /-- Nothing but its effect on the cursors. -/
  | done
  deriving DecidableEq

/-- Answer a question. -/
def answer (cursor : Cursor) : Question → Answer
  | .hasMore => .truth cursor.hasMore
  | .atEnd => .truth cursor.atEnd
  | .isEmpty => .truth cursor.isEmpty
  | .peek => .character cursor.peek?
  | .position => .count cursor.position
  | .length => .count cursor.length

/-- Something that is done with one of several cursors, each known by its place. -/
inductive Operation
  /-- Ask a cursor a question. -/
  | ask (place : Nat) (question : Question)
  /-- Read the next character of a cursor. -/
  | read (place : Nat)
  /-- Put a copy of a cursor behind all of them. -/
  | save (place : Nat)
  /-- Put a copy of a saved cursor into another place. -/
  | restore (place saved : Nat)
  deriving DecidableEq

namespace Operation

/-- Perform an operation: its answer, if there is a cursor at the place, and the cursors then. -/
def perform (cursors : List Cursor) : Operation → Option Answer × List Cursor
  | .ask place question => (cursors[place]?.map fun cursor => cursor.answer question, cursors)
  | .read place =>
    match cursors[place]? with
    | some cursor => (some (.character cursor.next.1), cursors.set place cursor.next.2)
    | none => (none, cursors)
  | .save place =>
    match cursors[place]? with
    | some cursor => (some .done, cursors ++ [cursor])
    | none => (none, cursors)
  | .restore place saved =>
    match cursors[saved]? with
    | some cursor => (some .done, cursors.set place cursor)
    | none => (none, cursors)

/-- The cursors after operations. -/
def after (cursors : List Cursor) (operations : List Operation) : List Cursor :=
  operations.foldl (fun cursors operation => (operation.perform cursors).2) cursors

/-- Operations may be performed in two parts. -/
theorem after_append (cursors : List Cursor) (first later : List Operation) :
    after cursors (first ++ later) = after (after cursors first) later :=
  List.foldl_append

/-- The place where an operation may leave another cursor than before. -/
def changed? : Operation → Option Nat
  | .ask _ _ => none
  | .read place => some place
  | .save _ => none
  | .restore place _ => some place

variable {cursors : List Cursor} {cursor : Cursor} {place : Nat}

/-- An operation leaves the cursors as they are, or puts one behind them that is there already, or
puts into one place the cursor that has read there or one from another place. -/
theorem perform_cases (cursors : List Cursor) (operation : Operation) :
    (operation.perform cursors).2 = cursors ∨
      (∃ place cursor, operation = .save place ∧ cursors[place]? = some cursor ∧
        (operation.perform cursors).2 = cursors ++ [cursor]) ∨
      (∃ place cursor, operation = .read place ∧ cursors[place]? = some cursor ∧
        (operation.perform cursors).2 = cursors.set place cursor.next.2) ∨
      ∃ place saved cursor, operation = .restore place saved ∧ cursors[saved]? = some cursor ∧
        (operation.perform cursors).2 = cursors.set place cursor := by
  cases operation with
  | ask place question => exact .inl rfl
  | read place =>
    cases found : cursors[place]? with
    | none => exact .inl (by simp only [perform, found])
    | some cursor =>
      exact .inr (.inr (.inl ⟨place, cursor, rfl, found, by simp only [perform, found]⟩))
  | save place =>
    cases found : cursors[place]? with
    | none => exact .inl (by simp only [perform, found])
    | some cursor => exact .inr (.inl ⟨place, cursor, rfl, found, by simp only [perform, found]⟩)
  | restore place saved =>
    cases found : cursors[saved]? with
    | none => exact .inl (by simp only [perform, found])
    | some cursor =>
      exact .inr (.inr (.inr ⟨place, saved, cursor, rfl, found, by simp only [perform, found]⟩))

/-- A cursor over the text, put into a place, leaves all cursors over it. -/
theorem text_set {text : Array Char} (sameText : ∀ cursor ∈ cursors, cursor.text = text)
    (same : cursor.text = text) : ∀ other ∈ cursors.set place cursor, other.text = text := by
  intro other member
  rcases List.mem_or_eq_of_mem_set member with kept | rfl
  · exact sameText other kept
  · exact same

/-- An operation leaves all cursors over the same text. -/
theorem text_perform {text : Array Char} (sameText : ∀ cursor ∈ cursors, cursor.text = text)
    (operation : Operation) : ∀ cursor ∈ (operation.perform cursors).2, cursor.text = text := by
  have there {place : Nat} {cursor : Cursor} (found : cursors[place]? = some cursor) :
      cursor.text = text := sameText cursor (List.mem_of_getElem? found)
  rcases perform_cases cursors operation with
    kept | ⟨_, cursor, -, found, saved⟩ | ⟨_, cursor, -, found, read⟩ |
      ⟨_, _, cursor, -, found, restored⟩
  · rw [kept]
    exact sameText
  · rw [saved]
    exact List.forall_mem_append.mpr ⟨sameText, List.forall_mem_singleton.mpr (there found)⟩
  · rw [read]
    exact text_set sameText ((text_next cursor).trans (there found))
  · rw [restored]
    exact text_set sameText (there found)

/-- Operations leave all cursors over the same text. -/
theorem text_after {text : Array Char} (sameText : ∀ cursor ∈ cursors, cursor.text = text)
    (operations : List Operation) : ∀ cursor ∈ after cursors operations, cursor.text = text := by
  induction operations generalizing cursors with
  | nil => exact sameText
  | cons operation operations ih => exact ih (text_perform sameText operation)

/-- An operation leaves the cursor at every place that it does not change. -/
theorem getElem?_perform (found : cursors[place]? = some cursor) {operation : Operation}
    (other : operation.changed? ≠ some place) :
    (operation.perform cursors).2[place]? = some cursor := by
  have inside : place < cursors.length := (List.getElem?_eq_some_iff.mp found).1
  rcases perform_cases cursors operation with
    kept | ⟨_, _, -, -, saved⟩ | ⟨moved, _, rfl, -, read⟩ | ⟨moved, _, _, rfl, -, restored⟩
  · rw [kept, found]
  · rw [saved, List.getElem?_append_left inside, found]
  · have differ : moved ≠ place := fun same => other (congrArg some same)
    rw [read, List.getElem?_set_ne differ, found]
  · have differ : moved ≠ place := fun same => other (congrArg some same)
    rw [restored, List.getElem?_set_ne differ, found]

/-- A read gives what the cursor gives, and leaves in its place the cursor that has read. -/
theorem perform_read (found : cursors[place]? = some cursor) :
    (Operation.read place).perform cursors =
      (some (.character cursor.next.1), cursors.set place cursor.next.2) := by
  simp only [perform, found]

/-- After operations that change a cursor only by reading it, it has read as often. -/
theorem getElem?_after (found : cursors[place]? = some cursor) {operations : List Operation}
    (reads : ∀ operation ∈ operations, operation.changed? = some place → operation = .read place) :
    (after cursors operations)[place]? =
      some (cursor.advance (operations.count (.read place))) := by
  -- The cursor at the place moves along the run, so the induction is for all that may stand there.
  induction operations generalizing cursors cursor with
  | nil => exact found
  | cons operation operations ih =>
    obtain ⟨first, later⟩ := List.forall_mem_cons.mp reads
    by_cases read : operation = .read place
    · subst read
      have inside := (List.getElem?_eq_some_iff.mp found).1
      have moved : ((Operation.read place).perform cursors).2[place]? = some cursor.next.2 := by
        rw [perform_read found]
        exact List.getElem?_set_self inside
      rw [List.count_cons_self]
      exact ih moved later
    · have kept := getElem?_perform found fun changed => read (first changed)
      rw [List.count_cons_of_ne read]
      exact ih kept later

/-- No operation takes a cursor away. -/
theorem length_after (cursors : List Cursor) (operations : List Operation) :
    cursors.length ≤ (after cursors operations).length := by
  induction operations generalizing cursors with
  | nil => exact Nat.le_refl _
  | cons operation operations ih =>
    have step : cursors.length ≤ (operation.perform cursors).2.length := by
      rcases perform_cases cursors operation with
        kept | ⟨_, _, -, -, saved⟩ | ⟨_, _, -, -, read⟩ | ⟨_, _, _, -, -, restored⟩
      · rw [kept]
      · rw [saved, List.length_append]
        omega
      · rw [read, List.length_set]
      · rw [restored, List.length_set]
    exact Nat.le_trans step (ih _)

/-- A saved cursor is gone back to: it is in both places then. -/
theorem getElem?_restore {saved : Nat} (inside : place < cursors.length)
    (found : cursors[saved]? = some cursor) (apart : place ≠ saved) {later : List Operation}
    (kept : ∀ operation ∈ later, operation.changed? ≠ some saved) :
    let back := after cursors (later ++ [.restore place saved])
    back[place]? = some cursor ∧ back[saved]? = some cursor := by
  intro back
  have unread : later.count (.read saved) = 0 := by
    apply List.count_eq_zero.mpr
    intro member
    exact kept _ member rfl
  have stays : (after cursors later)[saved]? = some cursor := by
    rw [getElem?_after found fun operation member changed =>
      absurd changed (kept operation member), unread]
    rfl
  have grown := length_after cursors later
  have restored : back = (after cursors later).set place cursor := by
    have last : back = ((Operation.restore place saved).perform (after cursors later)).2 :=
      after_append cursors later [.restore place saved]
    rw [last]
    simp only [perform, stays]
  rw [restored]
  constructor
  · exact List.getElem?_set_self (by omega)
  · rw [List.getElem?_set_ne apart, stays]

/-- A saved cursor is gone back to any number of times. -/
theorem getElem?_restores {saved : Nat} (here : cursors[place]? = some cursor)
    (found : cursors[saved]? = some cursor) (apart : place ≠ saved)
    {rounds : List (List Operation)}
    (kept : ∀ later ∈ rounds, ∀ operation ∈ later, operation.changed? ≠ some saved) :
    let back := after cursors (rounds.flatMap (· ++ [.restore place saved]))
    back[place]? = some cursor ∧ back[saved]? = some cursor := by
  induction rounds generalizing cursors with
  | nil => exact ⟨here, found⟩
  | cons later rounds ih =>
    obtain ⟨first, others⟩ := List.forall_mem_cons.mp kept
    have inside := (List.getElem?_eq_some_iff.mp here).1
    obtain ⟨back, stays⟩ := getElem?_restore inside found apart first
    rw [List.flatMap_cons, after_append]
    exact ih back stays others

end Operation

end Cursor

open Cursor (Operation)

/-- After any operations on cursors over a text, of which there is one at the start, every cursor
obeys the laws of a cursor in the text. Questions change none of them, and what a cursor is seen to
have next is what it gives when it is read. Wherever a cursor stands, operations that put no other
one into its place leave it where as many reads lead as were done with it, whatever is done with
others; the read behind them gives the character there. And a cursor that is saved is there as it
was, to go back to any number of times, whatever is done without touching it. -/
theorem cursors_of_operations (source : String) (operations : List Operation) :
    let reached := Operation.after [Cursor.ofString source] operations
    (∀ cursor ∈ reached, cursor.Sound source) ∧
      (∀ place question, ((Operation.ask place question).perform reached).2 = reached) ∧
      (∀ place, ((Operation.ask place .peek).perform reached).1 =
        ((Operation.read place).perform reached).1) ∧
      (∀ place cursor, reached[place]? = some cursor → ∀ later : List Operation,
        (∀ operation ∈ later, operation.changed? = some place → operation = .read place) →
        let reads := later.count (.read place)
        (Operation.after reached later)[place]? = some (cursor.advance reads) ∧
          (cursor.advance reads).position = min (cursor.position + reads) source.length ∧
          ((Operation.read place).perform (Operation.after reached later)).1 =
            some (.character source.toList[cursor.position + reads]?)) ∧
      ∀ place cursor, reached[place]? = some cursor → ∀ rounds : List (List Operation),
        let saved := reached.length
        (∀ later ∈ rounds, ∀ operation ∈ later, operation.changed? ≠ some saved) →
        let back := Operation.after reached
          (.save place :: rounds.flatMap (· ++ [.restore place saved]))
        back[place]? = some cursor ∧ back[saved]? = some cursor := by
  intro reached
  have sameText : ∀ cursor ∈ reached, cursor.text = (Cursor.ofString source).text :=
    Operation.text_after (List.forall_mem_singleton.mpr rfl) operations
  have sound {place : Nat} {cursor : Cursor} (found : reached[place]? = some cursor) :
      cursor.Sound source := Cursor.sound_of_text (sameText cursor (List.mem_of_getElem? found))
  refine ⟨fun cursor member => Cursor.sound_of_text (sameText cursor member), fun _ _ => rfl, ?_, ?_,
    ?_⟩
  · intro place
    cases found : reached[place]? with
    | none => simp only [Operation.perform, found, Option.map_none]
    | some cursor =>
      simp only [Operation.perform, found, Option.map_some, Cursor.answer, (sound found).gives]
  · intro place cursor found later only reads
    have stands : (Operation.after reached later)[place]? = some (cursor.advance reads) :=
      Operation.getElem?_after found only
    have left : cursor.rest = source.toList.drop cursor.position := by
      rw [← Cursor.readOn_chars, (sound found).readsOn]
    refine ⟨stands, ?_, ?_⟩
    · rw [Cursor.position_advance, (sound found).length]
    · rw [Operation.perform_read stands, Cursor.next_eq_head?, Cursor.rest_advance, left,
        List.drop_drop, List.head?_drop]
  · intro place cursor found rounds saved kept
    have inside : place < reached.length := (List.getElem?_eq_some_iff.mp found).1
    have copied : ((Operation.save place).perform reached).2 = reached ++ [cursor] := by
      simp only [Operation.perform, found]
    have here : (reached ++ [cursor])[place]? = some cursor := by
      rw [List.getElem?_append_left inside, found]
    have there : (reached ++ [cursor])[saved]? = some cursor := List.getElem?_concat_length
    intro back
    have started : back = Operation.after (reached ++ [cursor])
        (rounds.flatMap (· ++ [.restore place saved])) := by
      rw [← copied]
      rfl
    rw [started]
    exact Operation.getElem?_restores here there (Nat.ne_of_lt inside) kept

/-- One of two cursors reads the last character of a text, and the other does not notice. A copy of
it is gone back to twice. -/
theorem cursors_of_two_readers :
    let reached := Operation.after [Cursor.ofString "ab"] [.read 0, .save 0, .read 0]
    let first := (Cursor.ofString "ab").advance 1
    let later := [Operation.read 0, .read 1, .ask 0 .peek]
    let rounds := [[Operation.read 1, .read 1], [.ask 1 .hasMore, .read 1]]
    first ∈ reached ∧ first.Sound "ab" ∧ reached[1]? = some first ∧
      (∀ operation ∈ later, operation.changed? = some 1 → operation = .read 1) ∧
      (Operation.after reached later)[1]? = some (first.advance 1) ∧
      ((Operation.read 1).perform reached).1 = some (.character 'b') ∧
      ((Operation.read 1).perform (Operation.after reached later)).1 = some (.character none) ∧
      (∀ later ∈ rounds, ∀ operation ∈ later, operation.changed? ≠ some reached.length) ∧
      (Operation.after reached (.save 1 :: rounds.flatMap (· ++ [.restore 1 2])))[1]? =
        some first := by
  intro reached first later rounds
  have found : reached[1]? = some first := rfl
  have member : first ∈ reached := List.mem_of_getElem? found
  have only : ∀ operation ∈ later, operation.changed? = some 1 → operation = .read 1 := by decide
  have kept : ∀ later ∈ rounds, ∀ operation ∈ later,
      operation.changed? ≠ some reached.length := by decide
  obtain ⟨sound, -, -, reading, restoring⟩ :=
    cursors_of_operations "ab" [.read 0, .save 0, .read 0]
  obtain ⟨stands, -, ended⟩ := reading 1 first found later only
  obtain ⟨back, -⟩ := restoring 1 first found rounds kept
  exact ⟨member, sound first member, found, only, stands, by decide, ended, kept, back⟩

end CharLexer
