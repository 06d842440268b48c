import CharLexer.Command.Run
import CharLexer.Proofs.ByteOrder
import CharLexer.Proofs.Piece
import Mathlib

/-!
# What a walk finds

A walk takes the entries of each directory in the order of their names and descends in place. What
it finds is said here of the tree alone: the names that lead to a regular file through directories,
so through no link (`Node.Leads`). It either finds all of them, in ascending order, or stops at a
directory that does not tell its names, the first of those in that order (`Node.Walked`). A walk of a
directory is so when the walks of its entries are (`Node.walked_gather`), hence every walk is
(`Node.Proper.walked_behind`). As no two entries of a directory have one name, and no name is a path,
each file is found once and under a path of its own (`Command.files_of_directory`).
-/
namespace CharLexer

namespace Node

/-- Whether the node is a regular file, with bytes that can be read or not. -/
def isFile (node : Node) : Bool := node.fileSize?.isSome

/-- The names that lead from a node to another, each that of an entry in a directory. A link leads
nowhere. -/
inductive Leads : Node → List String → Node → Prop
  /-- No names lead away from a node. -/
  | here (node : Node) : Leads node [] node
  /-- The name of an entry leads to it. -/
  | entry {entries : List (String × Node)} {access : Access} {name : String} {child : Node}
      {names : List String} {node : Node} (listed : (name, child) ∈ entries)
      (further : Leads child names node) : Leads (.directory entries access) (name :: names) node

/-- Whether names lead to a regular file. -/
def HoldsFile (node : Node) (names : List String) : Prop :=
  ∃ file, node.Leads names file ∧ file.isFile = true

/-- Whether names lead to a directory. -/
def HoldsDirectory (node : Node) (names : List String) : Prop :=
  ∃ directory, node.Leads names directory ∧ directory.isDirectory = true

/-- Whether a text may be the name of an entry. -/
def IsName (name : String) : Prop := name.toList ≠ [] ∧ '/' ∉ name.toList

instance (name : String) : Decidable (IsName name) :=
  inferInstanceAs (Decidable (name.toList ≠ [] ∧ '/' ∉ name.toList))

/-- Whether the entries of every directory have names, and no two of them the same. -/
inductive Proper : Node → Prop
  /-- What is no directory has no entries. -/
  | leaf {node : Node} (entryless : node.isDirectory = false) : Proper node
  /-- A directory with distinct names, behind which there are proper nodes. -/
  | directory {entries : List (String × Node)} {access : Access}
      (distinct : (entries.map (·.1)).Nodup) (named : ∀ entry ∈ entries, IsName entry.1)
      (below : ∀ entry ∈ entries, Proper entry.2) : Proper (.directory entries access)

/-- Whether some names come before others, name by name in the order of their bytes. -/
def Before (first second : List String) : Prop :=
  first.map textBytes < second.map textBytes

instance : Std.Asymm Before where
  asymm _ _ before after := List.lt_asymm before after

/-- Names that come before others are not these. -/
theorem Before.ne {first second : List String} (before : Before first second) :
    first ≠ second := by
  rintro rfl
  exact List.lt_irrefl _ before

/-- Nothing comes before no names. -/
theorem not_before_nil (names : List String) : ¬ Before names [] := List.not_lt_nil _

/-- Names behind a lesser name come before others, whatever follows. -/
theorem before_of_lt {name other : String} (less : name < other) (names others : List String) :
    Before (name :: names) (other :: others) :=
  List.cons_lt_cons_iff.mpr (.inl (textBytes_lt less))

/-- Behind one name, the names come before others that do so without it. -/
theorem before_cons_iff {name : String} {names others : List String} :
    Before (name :: names) (name :: others) ↔ Before names others := by
  refine List.cons_lt_cons_iff.trans ⟨fun before => ?_, fun before => .inr ⟨rfl, before⟩⟩
  exact (before.resolve_left (List.lt_irrefl _)).2

/-- No names but none lead away from what is no directory, to a file that it may be. -/
theorem holdsFile_of_entryless {node : Node} (entryless : node.isDirectory = false)
    {names : List String} : node.HoldsFile names ↔ names = [] ∧ node.isFile = true := by
  constructor
  · rintro ⟨file, leads, isFile⟩
    cases leads with
    | here => exact ⟨rfl, isFile⟩
    | entry => contradiction
  · rintro ⟨rfl, isFile⟩
    exact ⟨node, .here node, isFile⟩

/-- What is no directory holds none. -/
theorem not_holdsDirectory_of_entryless {node : Node} (entryless : node.isDirectory = false)
    (names : List String) : ¬ node.HoldsDirectory names := by
  rintro ⟨directory, leads, isDirectory⟩
  cases leads with
  | here => rw [entryless] at isDirectory; contradiction
  | entry => contradiction

variable {entries : List (String × Node)} {access : Access} {names : List String}

/-- The files of a directory are those of its entries. -/
theorem holdsFile_directory :
    (directory entries access).HoldsFile names ↔
      ∃ entry ∈ entries, ∃ rest, entry.2.HoldsFile rest ∧ entry.1 :: rest = names := by
  constructor
  · rintro ⟨file, leads, isFile⟩
    cases leads with
    | here => contradiction
    | entry listed further => exact ⟨_, listed, _, ⟨file, further, isFile⟩, rfl⟩
  · rintro ⟨entry, listed, rest, ⟨file, further, isFile⟩, rfl⟩
    exact ⟨file, .entry listed further, isFile⟩

/-- The directories of a directory are itself and those of its entries. -/
theorem holdsDirectory_directory :
    (directory entries access).HoldsDirectory names ↔ names = [] ∨
      ∃ entry ∈ entries, ∃ rest, entry.2.HoldsDirectory rest ∧ entry.1 :: rest = names := by
  constructor
  · rintro ⟨node, leads, isDirectory⟩
    cases leads with
    | here => exact .inl rfl
    | entry listed further => exact .inr ⟨_, listed, _, ⟨node, further, isDirectory⟩, rfl⟩
  · rintro (rfl | ⟨entry, listed, rest, ⟨node, further, isDirectory⟩, rfl⟩)
    · exact ⟨_, .here _, rfl⟩
    · exact ⟨node, .entry listed further, isDirectory⟩

/-- The files of a directory are those of its first entry and those of the others. -/
theorem holdsFile_cons {entry : String × Node} :
    (directory (entry :: entries) access).HoldsFile names ↔
      (∃ rest, entry.2.HoldsFile rest ∧ entry.1 :: rest = names) ∨
        (directory entries access).HoldsFile names := by
  simp only [holdsFile_directory, List.exists_mem_cons_iff]

/-- The directories of a directory are those of its first entry and, with itself, those of the
others. -/
theorem holdsDirectory_cons {entry : String × Node} :
    (directory (entry :: entries) access).HoldsDirectory names ↔
      (∃ rest, entry.2.HoldsDirectory rest ∧ entry.1 :: rest = names) ∨
        (directory entries access).HoldsDirectory names := by
  simp only [holdsDirectory_directory, List.exists_mem_cons_iff]
  exact or_left_comm

/-- Whether every directory below a node at a path, and the node if it is one, tells its names. -/
def Listable (refusal? : Path → Option FileError) (path : Path) (node : Node) : Prop :=
  ∀ names, node.HoldsDirectory names → refusal? (path.below names) = none

/-- Names lead to a directory below a node at a path that does not tell its names, and there is none
before it. -/
structure StopsAt (refusal? : Path → Option FileError) (path : Path) (node : Node)
    (names : List String) (cause : FileError) : Prop where
  directory : node.HoldsDirectory names
  refused : refusal? (path.below names) = some cause
  first : ∀ others, node.HoldsDirectory others → Before others names →
    refusal? (path.below others) = none

section FirstEntry

variable {refusal? : Path → Option FileError} {path : Path} {entry : String × Node}

/-- A directory tells its names, and so do all below it, if its first entry does so and the directory
with the others. -/
theorem Listable.cons (first : entry.2.Listable refusal? (path.join ⟨entry.1⟩))
    (others : (directory entries access).Listable refusal? path) :
    (directory (entry :: entries) access).Listable refusal? path := by
  intro names held
  rcases holdsDirectory_cons.mp held with ⟨rest, inside, rfl⟩ | later
  · exact first rest inside
  · exact others names later

/-- What stops a walk of the first entry stops that of the directory, if the directory itself tells
its names: the other entries come later. -/
theorem StopsAt.of_first {cause : FileError} (told : refusal? path = none)
    (sorted : ∀ other ∈ entries, entry.1 < other.1)
    (stops : entry.2.StopsAt refusal? (path.join ⟨entry.1⟩) names cause) :
    (Node.directory (entry :: entries) access).StopsAt refusal? path (entry.1 :: names) cause where
  directory := holdsDirectory_cons.mpr (.inl ⟨names, stops.directory, rfl⟩)
  refused := stops.refused
  first others held before := by
    rcases holdsDirectory_cons.mp held with ⟨rest, inside, rfl⟩ | later
    · exact stops.first rest inside (before_cons_iff.mp before)
    rcases holdsDirectory_directory.mp later with rfl | ⟨other, listed, rest, -, rfl⟩
    · exact told
    · have after : Before (entry.1 :: names) (other.1 :: rest) :=
        before_of_lt (sorted other listed) names rest
      exact absurd before (Std.Asymm.asymm _ _ after)

/-- What stops a walk of the others stops that of the directory, if the first entry does not. -/
theorem StopsAt.of_later {cause : FileError}
    (listable : entry.2.Listable refusal? (path.join ⟨entry.1⟩))
    (stops : (Node.directory entries access).StopsAt refusal? path names cause) :
    (Node.directory (entry :: entries) access).StopsAt refusal? path names cause where
  directory := holdsDirectory_cons.mpr (.inr stops.directory)
  refused := stops.refused
  first others held before := by
    rcases holdsDirectory_cons.mp held with ⟨rest, inside, rfl⟩ | later
    · exact listable rest inside
    · exact stops.first others later before

end FirstEntry

/-- How a walk of a node at a path ends, so many names below its start: with the names of every file,
in ascending order, or at the first directory that does not tell its names. -/
inductive Walked (refusal? : Path → Option FileError) (depth : Nat) (path : Path) (node : Node) :
    Except WalkError (List (List String)) → Prop
  /-- Every directory tells its names. -/
  | complete {found : List (List String)} (listable : node.Listable refusal? path)
      (holds : ∀ names, names ∈ found ↔ node.HoldsFile names)
      (ascending : found.Pairwise Before) : Walked refusal? depth path node (.ok found)
  /-- One does not. -/
  | stopped {names : List String} {cause : FileError}
      (stops : node.StopsAt refusal? path names cause) :
      Walked refusal? depth path node (.error ⟨depth + names.length, path.below names, cause⟩)

/-- The names behind that of an entry which lead to the files there. -/
def behind (refusal? : Path → Option FileError) (deep : Bool) (depth : Nat) (path : Path)
    (node : Node) : Except WalkError (List (List String)) :=
  if node.isFile then .ok [[]] else if deep then node.walk refusal? deep depth path else .ok []

/-- The names behind that of an entry which is a file: none. -/
def direct (node : Node) : List (List String) := if node.isFile then [[]] else []

/-- Only a file stands where no names lead on. -/
theorem mem_direct {node : Node} {names : List String} :
    names ∈ node.direct ↔ names = [] ∧ node.isFile = true := by
  unfold direct
  cases node.isFile <;> simp

/-- No more than one file does. -/
theorem pairwise_direct (node : Node) : node.direct.Pairwise Before := by
  unfold direct
  split
  · exact List.pairwise_singleton _ _
  · exact .nil

variable {refusal? : Path → Option FileError} {deep : Bool} {depth : Nat} {path : Path}

/-- Entries are walked one by one. -/
theorem walkEntries_eq_map (entries : List (String × Node)) :
    walkEntries refusal? deep depth path entries = entries.map fun entry =>
      (entry.1, entry.2.behind refusal? deep (depth + 1) (path.join ⟨entry.1⟩)) := by
  induction entries with
  | nil => rfl
  | cons entry entries ih =>
    obtain ⟨name, child⟩ := entry
    have first : walkEntries refusal? deep depth path ((name, child) :: entries) =
        (name, child.behind refusal? deep (depth + 1) (path.join ⟨name⟩)) ::
          walkEntries refusal? deep depth path entries := by
      cases child <;> cases deep <;> rfl
    rw [first, ih, List.map_cons]

/-- A directory that tells its names is walked in their order. -/
theorem walk_of_told (told : refusal? path = none) :
    (directory entries access).walk refusal? deep depth path =
      gather ((entries.mergeSort nameLe).map fun entry =>
        (entry.1, entry.2.behind refusal? deep (depth + 1) (path.join ⟨entry.1⟩))) := by
  let found := fun entry : String × Node =>
    (entry.1, entry.2.behind refusal? deep (depth + 1) (path.join ⟨entry.1⟩))
  have alike : ∀ first ∈ entries, ∀ second ∈ entries,
      nameLe first second = nameLe (found first) (found second) := fun _ _ _ _ => rfl
  have sorted := List.map_mergeSort alike
  rw [walk, told, walkEntries_eq_map]
  exact congrArg gather sorted.symm

/-- A directory that does not tell its names stops the walk. -/
theorem walk_of_refused {cause : FileError} (refused : refusal? path = some cause) :
    (directory entries access).walk refusal? deep depth path = .error ⟨depth, path, cause⟩ := by
  rw [walk, refused]

/-- Behind what is no directory stands the file that it may be. -/
theorem behind_of_entryless {node : Node} (entryless : node.isDirectory = false) :
    node.behind refusal? deep depth path = .ok node.direct := by
  cases node with
  | directory entries access => contradiction
  | _ => cases deep <;> rfl

/-- The entries of a directory with distinct names are taken in the strict order of these. -/
theorem pairwise_mergeSort_nameLe {entries : List (String × Node)}
    (distinct : (entries.map (·.1)).Nodup) :
    (entries.mergeSort nameLe).Pairwise fun first second => first.1 < second.1 := by
  have trans (first second third : String × Node) (left : nameLe first second = true)
      (right : nameLe second third = true) : nameLe first third = true := by
    simp only [nameLe, decide_eq_true_eq] at *
    exact String.le_trans left right
  have total (first second : String × Node) :
      (nameLe first second || nameLe second first) = true := by
    simp only [nameLe, Bool.or_eq_true, decide_eq_true_eq]
    exact String.le_total _ _
  have sorted := List.pairwise_mergeSort trans total entries
  have apart : (entries.mergeSort nameLe).Pairwise fun first second => first.1 ≠ second.1 := by
    apply List.pairwise_map.mp
    exact ((List.mergeSort_perm entries nameLe).map (·.1)).nodup_iff.mpr distinct
  refine (sorted.and apart).imp fun {first second} both => ?_
  have le : first.1 ≤ second.1 := of_decide_eq_true both.1
  apply String.not_le.mp
  intro ge
  exact both.2 (String.le_antisymm le ge)

/-- If the walk of each of some entries in ascending order ends as it should, the walk of them all does
so, in a directory that tells its names. -/
theorem walked_gather {found : String × Node → Except WalkError (List (List String))}
    (told : refusal? path = none) (sorted : entries.Pairwise fun first second => first.1 < second.1)
    (each : ∀ entry ∈ entries,
      Walked refusal? (depth + 1) (path.join ⟨entry.1⟩) entry.2 (found entry)) :
    Walked refusal? depth path (directory entries access)
      (gather (entries.map fun entry => (entry.1, found entry))) := by
  induction entries with
  | nil =>
    refine .complete (fun names holds => ?_) (fun names => ?_) .nil
    · obtain rfl := (holdsDirectory_directory.mp holds).resolve_right (by simp)
      exact told
    · simp [holdsFile_directory]
  | cons entry entries ih =>
    obtain ⟨apart, sortedLater⟩ := List.pairwise_cons.mp sorted
    obtain ⟨first, later⟩ := List.forall_mem_cons.mp each
    rw [List.map_cons, gather]
    generalize found entry = here at first
    cases first with
    | @stopped names cause stops =>
      have depths : depth + 1 + names.length = depth + (entry.1 :: names).length := by
        rw [List.length_cons]
        omega
      have stopped : Walked refusal? depth path (directory (entry :: entries) access)
          (.error ⟨depth + (entry.1 :: names).length, path.below (entry.1 :: names), cause⟩) :=
        .stopped (stops.of_first told apart)
      rw [← depths] at stopped
      exact stopped
    | @complete here listable holds ascending =>
      have rest := ih sortedLater later
      generalize gather (entries.map fun entry => (entry.1, found entry)) = gathered at rest
      cases rest with
      | stopped stops => exact .stopped (stops.of_later listable)
      | @complete others listableLater holdsLater ascendingLater =>
        refine .complete (listable.cons listableLater) (fun names => ?_) ?_
        · rw [List.mem_append, List.mem_map, holdsLater, holdsFile_cons]
          simp only [holds]
        · refine List.pairwise_append.mpr ⟨?_, ascendingLater, ?_⟩
          · exact List.pairwise_map.mpr (ascending.imp before_cons_iff.mpr)
          · intro names member others memberLater
            obtain ⟨rest, -, rfl⟩ := List.mem_map.mp member
            obtain ⟨other, listed, more, -, rfl⟩ :=
              holdsFile_directory.mp ((holdsLater others).mp memberLater)
            exact before_of_lt (apart other listed) rest more

/-- The order in which the entries of a directory are listed does not matter. -/
theorem Walked.of_mem_iff {others : List (String × Node)}
    {outcome : Except WalkError (List (List String))} (same : ∀ entry, entry ∈ entries ↔ entry ∈ others)
    (walked : Walked refusal? depth path (directory entries access) outcome) :
    Walked refusal? depth path (directory others access) outcome := by
  have files (names : List String) : (directory entries access).HoldsFile names ↔
      (directory others access).HoldsFile names := by
    simp only [holdsFile_directory, same]
  have directories (names : List String) : (directory entries access).HoldsDirectory names ↔
      (directory others access).HoldsDirectory names := by
    simp only [holdsDirectory_directory, same]
  cases walked with
  | complete listable holds ascending =>
    exact .complete (fun names held => listable names ((directories names).mpr held))
      (fun names => (holds names).trans (files names)) ascending
  | stopped stops =>
    exact .stopped ⟨(directories _).mp stops.directory, stops.refused,
      fun names held before => stops.first names ((directories names).mpr held) before⟩

/-- A walk of a proper node finds every file behind it, or stops at the first directory that does not
tell its names. -/
theorem Proper.walked_behind {node : Node} (proper : node.Proper)
    (refusal? : Path → Option FileError) (depth : Nat) (path : Path) :
    Walked refusal? depth path node (node.behind refusal? true depth path) := by
  induction proper generalizing depth path with
  | @leaf node entryless =>
    rw [behind_of_entryless entryless]
    refine .complete (fun names held => ?_) (fun names => ?_) ?_
    · exact absurd held (not_holdsDirectory_of_entryless entryless names)
    · rw [holdsFile_of_entryless entryless, mem_direct]
    · exact node.pairwise_direct
  | @directory entries access distinct named below ih =>
    change Walked refusal? depth path _ ((Node.directory entries access).walk refusal? true depth path)
    cases told : refusal? path with
    | some cause =>
      rw [walk_of_refused told]
      have self : (Node.directory entries access).HoldsDirectory [] :=
        holdsDirectory_directory.mpr (.inl rfl)
      exact .stopped ⟨self, told, fun others _ before => absurd before (not_before_nil others)⟩
    | none =>
      rw [walk_of_told told]
      have sorted : (entries.mergeSort nameLe).Pairwise fun first second => first.1 < second.1 :=
        pairwise_mergeSort_nameLe distinct
      have walked : Walked refusal? depth path
          (Node.directory (entries.mergeSort nameLe) access) _ :=
        walked_gather told sorted fun entry listed =>
          ih entry (List.mem_mergeSort.mp listed) (depth + 1) (path.join ⟨entry.1⟩)
      exact walked.of_mem_iff fun entry => List.mem_mergeSort

/-- Entries of which each holds some files hold these together. -/
theorem gather_ok {found : String × Node → List (List String)} (entries : List (String × Node)) :
    gather (entries.map fun entry => (entry.1, .ok (found entry))) =
      .ok (entries.flatMap fun entry => (found entry).map (entry.1 :: ·)) := by
  induction entries with
  | nil => rfl
  | cons entry entries ih =>
    rw [List.map_cons, gather, ih]
    rfl

/-- The files behind a proper node can be listed in ascending order. -/
theorem Proper.exists_files {node : Node} (proper : node.Proper) :
    ∃ found : List (List String), (∀ names, names ∈ found ↔ node.HoldsFile names) ∧
      found.Pairwise Before := by
  have walked := proper.walked_behind (fun _ => none) 0 ⟨""⟩
  generalize node.behind (fun _ => none) true 0 ⟨""⟩ = outcome at walked
  cases walked with
  | complete listable holds ascending => exact ⟨_, holds, ascending⟩
  | stopped stops => exact absurd stops.refused (Option.some_ne_none _).symm

/-- Without depth, a walk of a directory that tells its names finds the files with a single name. -/
theorem Proper.walk_shallow (proper : (Node.directory entries access).Proper) (depth : Nat)
    (told : refusal? path = none) :
    ∃ found, (Node.directory entries access).walk refusal? false depth path = .ok found ∧
      found.Pairwise Before ∧
      ∀ names, names ∈ found ↔
        (Node.directory entries access).HoldsFile names ∧ names.length = 1 := by
  have behindEntry (entry : String × Node) :
      entry.2.behind refusal? false (depth + 1) (path.join ⟨entry.1⟩) = .ok entry.2.direct := by
    unfold behind direct
    split <;> rfl
  have distinct : (entries.map (·.1)).Nodup := by
    cases proper with
    | leaf entryless => contradiction
    | directory distinct named below => exact distinct
  refine ⟨(entries.mergeSort nameLe).flatMap fun entry => entry.2.direct.map (entry.1 :: ·), ?_, ?_,
    fun names => ?_⟩
  · rw [walk_of_told told]
    simp only [behindEntry]
    exact gather_ok _
  · refine List.pairwise_flatMap.mpr ⟨fun entry _ => ?_, ?_⟩
    · exact List.pairwise_map.mpr (entry.2.pairwise_direct.imp before_cons_iff.mpr)
    · refine (pairwise_mergeSort_nameLe distinct).imp fun {first second} less => ?_
      intro names here others there
      obtain ⟨rest, -, rfl⟩ := List.mem_map.mp here
      obtain ⟨more, -, rfl⟩ := List.mem_map.mp there
      exact before_of_lt less rest more
  · rw [holdsFile_directory, List.mem_flatMap]
    constructor
    · rintro ⟨entry, listed, member⟩
      obtain ⟨rest, found, rfl⟩ := List.mem_map.mp member
      obtain ⟨rfl, isFile⟩ := mem_direct.mp found
      exact ⟨⟨entry, List.mem_mergeSort.mp listed, [], ⟨_, .here _, isFile⟩, rfl⟩, rfl⟩
    · rintro ⟨⟨⟨name, child⟩, listed, rest, ⟨file, leads, isFile⟩, rfl⟩, single⟩
      obtain rfl : rest = [] := List.eq_nil_of_length_eq_zero (Nat.succ.inj single)
      cases leads with
      | here =>
        exact ⟨_, List.mem_mergeSort.mpr listed,
          List.mem_map_of_mem (mem_direct.mpr ⟨rfl, isFile⟩)⟩

/-- The names in a proper node are names. -/
theorem Proper.isName_of_leads {node other : Node} {names : List String} (proper : node.Proper)
    (leads : node.Leads names other) : ∀ name ∈ names, IsName name := by
  induction leads with
  | here => exact fun name member => absurd member List.not_mem_nil
  | @entry entries access name child names other listed further ih =>
    cases proper with
    | leaf entryless => contradiction
    | directory distinct named below =>
      exact List.forall_mem_cons.mpr ⟨named _ listed, ih (below _ listed)⟩

/-- Whatever stands in a proper node is proper. -/
theorem Proper.at? {node other : Node} {place : List String} (proper : node.Proper)
    (stands : node.at? place = some other) : other.Proper := by
  induction place generalizing node with
  | nil =>
    obtain rfl := Option.some.inj stands
    exact proper
  | cons name place ih =>
    obtain ⟨child, found, further⟩ := Option.bind_eq_some_iff.mp stands
    cases proper with
    | leaf entryless => cases node <;> contradiction
    | @directory entries access distinct named below =>
      have listed : (name, child) ∈ entries := by
        obtain ⟨front, back, rfl, -⟩ := List.lookup_eq_some_iff.mp found
        exact List.mem_append_right front List.mem_cons_self
      exact ih (below _ listed) further

end Node

namespace Path

/-- The characters of a path that go before a name joined to it. -/
def lead (path : Path) : List Char :=
  if path.text.isEmpty || path.text.toList.getLast? == some '/' then path.text.toList
  else path.text.toList ++ ['/']

/-- Names, each behind a slash. -/
def slashed (names : List String) : List Char := names.flatMap fun name => '/' :: name.toList

/-- A name is joined behind a slash. -/
theorem toList_join {path : Path} {name : String} (named : Node.IsName name) :
    (path.join ⟨name⟩).text.toList = path.lead ++ name.toList := by
  have relative : (⟨name⟩ : Path).isAbsolute = false := by
    apply beq_false_of_ne
    intro slash
    exact named.2 (List.mem_of_head? slash)
  rw [join, relative, if_neg Bool.false_ne_true, lead]
  split
  · rw [String.toList_append]
  · rw [String.toList_append, String.toList_append]
    rfl

/-- A slash goes before what is joined behind a name. -/
theorem lead_join {path : Path} {name : String} (named : Node.IsName name) :
    (path.join ⟨name⟩).lead = path.lead ++ name.toList ++ ['/'] := by
  have shown : (path.join ⟨name⟩).text.toList = path.lead ++ name.toList := toList_join named
  have inhabited : (path.join ⟨name⟩).text.isEmpty = false := by
    apply Bool.eq_false_iff.mpr
    intro isEmpty
    rw [String.isEmpty_iff.mp isEmpty] at shown
    exact named.1 (List.append_eq_nil_iff.mp shown.symm).2
  have unslashed : (path.join ⟨name⟩).text.toList.getLast? ≠ some '/' := by
    rw [shown, List.getLast?_append_of_ne_nil _ named.1]
    intro slash
    exact named.2 (List.mem_of_getLast? slash)
  rw [lead, inhabited, Bool.false_or, if_neg (by simpa using unslashed), shown]

/-- A path below another is that, and the names between slashes. -/
theorem toList_below {path : Path} {name : String} {names : List String}
    (named : ∀ name' ∈ name :: names, Node.IsName name') :
    (path.below (name :: names)).text.toList = path.lead ++ (name.toList ++ slashed names) := by
  induction names generalizing path name with
  | nil =>
    have first := named name List.mem_cons_self
    change (path.join ⟨name⟩).text.toList = _
    rw [toList_join first, slashed, List.flatMap_nil, List.append_nil]
  | cons next names ih =>
    obtain ⟨first, others⟩ := List.forall_mem_cons.mp named
    change ((path.join ⟨name⟩).below (next :: names)).text.toList = _
    rw [ih others, lead_join first]
    simp [slashed]

/-- A name ends where a slash or nothing follows. -/
theorem eq_of_name_slashed {name other : String} {names others : List String}
    (named : Node.IsName name) (otherNamed : Node.IsName other)
    (same : name.toList ++ slashed names = other.toList ++ slashed others) :
    name = other ∧ slashed names = slashed others := by
  have inside {text : String} (isName : Node.IsName text) :
      ∀ c ∈ text.toList, (c != '/') = true := by
    intro c member
    exact bne_iff_ne.mpr (ne_of_mem_of_not_mem member isName.2)
  have stop (rest : List String) : ∀ c ∈ (slashed rest).head?, (c != '/') = false := by
    cases rest <;> simp [slashed]
  have taken := congrArg (List.takeWhile (· != '/')) same
  have left := congrArg (List.dropWhile (· != '/')) same
  rw [takeWhile_append_of_head (inside named) (stop names),
    takeWhile_append_of_head (inside otherNamed) (stop others)] at taken
  rw [dropWhile_append_of_head (inside named) (stop names),
    dropWhile_append_of_head (inside otherNamed) (stop others)] at left
  exact ⟨String.toList_inj.mp taken, left⟩

/-- Names are known by their text between slashes. -/
theorem eq_of_slashed {names others : List String} (named : ∀ name ∈ names, Node.IsName name)
    (otherNamed : ∀ name ∈ others, Node.IsName name) (same : slashed names = slashed others) :
    names = others := by
  induction names generalizing others with
  | nil =>
    cases others with
    | nil => rfl
    | cons => contradiction
  | cons name names ih =>
    cases others with
    | nil => contradiction
    | cons other others =>
      obtain ⟨first, rest⟩ := List.forall_mem_cons.mp named
      obtain ⟨otherFirst, otherRest⟩ := List.forall_mem_cons.mp otherNamed
      obtain ⟨rfl, further⟩ := eq_of_name_slashed first otherFirst (List.cons.inj same).2
      rw [ih rest otherRest further]

/-- The paths of different names below a path are different. -/
theorem below_inj {path : Path} {names others : List String} (inhabited : names ≠ [])
    (otherInhabited : others ≠ []) (named : ∀ name ∈ names, Node.IsName name)
    (otherNamed : ∀ name ∈ others, Node.IsName name)
    (same : path.below names = path.below others) : names = others := by
  obtain ⟨name, names, rfl⟩ := List.exists_cons_of_ne_nil inhabited
  obtain ⟨other, others, rfl⟩ := List.exists_cons_of_ne_nil otherInhabited
  have chars := congrArg (fun path => path.text.toList) same
  simp only [toList_below named, toList_below otherNamed] at chars
  have same : slashed (name :: names) = slashed (other :: others) :=
    congrArg (List.cons '/') (List.append_cancel_left chars)
  exact eq_of_slashed named otherNamed same

end Path

/-- What a path leads to stands in the tree. -/
theorem FileTree.exists_at?_of_node {tree : FileTree} {path : Path} {node : Node}
    (leads : tree.node path = .ok node) : ∃ place, tree.root.at? place = some node := by
  unfold FileTree.node at leads
  cases resolved : tree.resolve .read path with
  | error cause => simp [resolved, bind, Except.bind] at leads
  | ok place =>
    refine ⟨place, ?_⟩
    simp only [resolved, bind, Except.bind] at leads
    split at leads
    next found => rw [found, Except.ok.inj leads]
    next => contradiction

namespace Command

/-- The setup of a run that goes into the directories below its path, or that does not. -/
def Setup.searching (setup : Setup) (recursive : Bool) : Setup :=
  { setup with options := { setup.options with recursive } }

/-- The files to be read are what a walk of the directory finds, or else why it ends early. -/
theorem Setup.files_searching (setup : Setup) {entries : List (String × Node)} {access : Access}
    (leads : setup.tree.node setup.options.path = .ok (.directory entries access))
    (recursive : Bool) :
    (setup.searching recursive).files =
      match (Node.directory entries access).walk setup.tree.refusal? recursive 0
        setup.options.path with
      | .ok found => .ok (found.map setup.options.path.below)
      | .error error => .error (.notListed error) := by
  have searched : (setup.searching recursive).tree.node (setup.searching recursive).options.path =
      .ok (.directory entries access) := leads
  rw [Setup.files, searched]
  change ((setup.tree.filesBelow recursive setup.options.path _).mapError _) = _
  rw [FileTree.filesBelow]
  cases (Node.directory entries access).walk setup.tree.refusal? recursive 0 setup.options.path <;>
    rfl

/-- How a setup finds the files below a directory that its path leads to: by some names each. -/
structure Setup.Finds (setup : Setup) (directory : Node) (found : List (List String)) : Prop where
  /-- They are the regular files below the directory, behind no link. -/
  complete : ∀ names, names ∈ found ↔ directory.HoldsFile names
  /-- Their names ascend, so none is found twice. -/
  ascending : found.Pairwise Node.Before
  /-- Each has a path of its own. -/
  apart : (found.map setup.options.path.below).Nodup
  /-- A search that goes into directories comes to its end with all of them if every directory tells its
  names, and otherwise fails at the first that does not. -/
  deep :
    (directory.Listable setup.tree.refusal? setup.options.path ∧
      (setup.searching true).files = .ok (found.map setup.options.path.below)) ∨
    ∃ names cause, directory.StopsAt setup.tree.refusal? setup.options.path names cause ∧
      (setup.searching true).files =
        .error (.notListed ⟨names.length, setup.options.path.below names, cause⟩)
  /-- A search that does not finds those with a single name, in the same order, if the directory itself
  tells its names, and otherwise fails. -/
  shallow : (setup.searching false).files =
    match setup.tree.refusal? setup.options.path with
    | none => .ok ((found.filter fun names => names.length == 1).map setup.options.path.below)
    | some cause => .error (.notListed ⟨0, setup.options.path, cause⟩)

/-- Wherever a path leads to a directory, itself perhaps through links, the files that stand below it
behind no link are found, each once and in the order of their names. Where links lead back to a
directory above, the search ends all the same; where a directory does not tell its names, it fails. -/
theorem files_of_directory {setup : Setup} {entries : List (String × Node)} {access : Access}
    (proper : setup.tree.root.Proper)
    (leads : setup.tree.node setup.options.path = .ok (.directory entries access)) :
    ∃ found, setup.Finds (.directory entries access) found := by
  obtain ⟨place, stands⟩ := FileTree.exists_at?_of_node leads
  have properHere := proper.at? stands
  -- Were every directory to tell its names, all files would be found.
  obtain ⟨found, holds, ascending⟩ := properHere.exists_files
  have named {names : List String} (member : names ∈ found) :
      names ≠ [] ∧ ∀ name ∈ names, Node.IsName name := by
    obtain ⟨file, leads, isFile⟩ := (holds names).mp member
    refine ⟨?_, properHere.isName_of_leads leads⟩
    rintro rfl
    cases leads
    contradiction
  refine ⟨found, holds, ascending, ?_, ?_, ?_⟩
  · apply List.Nodup.map_on _ (ascending.imp Node.Before.ne)
    intro names here others there same
    exact Path.below_inj (named here).1 (named there).1 (named here).2 (named there).2 same
  · rw [setup.files_searching leads]
    have walked : Node.Walked setup.tree.refusal? 0 setup.options.path _
        ((Node.directory entries access).walk setup.tree.refusal? true 0 setup.options.path) :=
      properHere.walked_behind _ _ _
    generalize (Node.directory entries access).walk _ true 0 _ = outcome at walked
    cases walked with
    | complete listable holdsAlso ascendingAlso =>
      obtain rfl := ascending.eq_of_mem_iff ascendingAlso fun names =>
        (holds names).trans (holdsAlso names).symm
      exact .inl ⟨listable, rfl⟩
    | stopped stops => exact .inr ⟨_, _, stops, by simp only [Nat.zero_add]⟩
  · rw [setup.files_searching leads]
    cases told : setup.tree.refusal? setup.options.path with
    | some cause => rw [Node.walk_of_refused told]
    | none =>
      obtain ⟨direct, walked, ascendingDirect, holdsDirect⟩ :=
        properHere.walk_shallow 0 told
      have same := (ascending.filter (fun names => names.length == 1)).eq_of_mem_iff ascendingDirect
        fun names => by rw [List.mem_filter, holds, holdsDirect, beq_iff_eq]
      rw [walked, same]

/-- A directory that is reached through a link, with a link back to it, and a name that goes on
where another ends. -/
theorem files_of_linked_directory :
    let entries : List (String × Node) := [
      ("up", .link ⟨"../in"⟩), ("to", .link ⟨"a.txt"⟩), ("a.txt", .file .empty),
      ("a", .directory [("b", .file .empty)])]
    let tree : FileTree :=
      ⟨.directory [("real", .directory entries), ("in", .link ⟨"real"⟩)], []⟩
    let options : Options := {
      path := ⟨"in"⟩, compressWhitespace := false, lines := false, format := .text
      letters? := none, digits? := none, symbols? := none, whitespace? := none, quotes? := none
      recursive := true, verbose := false }
    let setup := Setup.of tree (.ofList []) ⟨0, 0⟩ 0 options
    setup.tree.root.Proper ∧
      setup.tree.node setup.options.path = .ok (.directory entries) ∧
      (setup.searching true).files = .ok [⟨"in/a/b"⟩, ⟨"in/a.txt"⟩] ∧
      ∃ found, setup.Finds (.directory entries) found := by
  intro entries tree options setup
  have inner : (Node.directory [("b", .file .empty)]).Proper := by
    refine .directory (by decide) (by decide) ?_
    simp only [List.forall_mem_singleton]
    exact .leaf rfl
  have below : (Node.directory entries).Proper := by
    refine .directory (by decide) (by decide) ?_
    simp only [entries, List.forall_mem_cons]
    exact ⟨.leaf rfl, .leaf rfl, .leaf rfl, inner, List.forall_mem_nil _⟩
  have proper : setup.tree.root.Proper := by
    refine .directory (by decide) (by decide) ?_
    simp only [List.forall_mem_cons]
    exact ⟨below, .leaf rfl, List.forall_mem_nil _⟩
  have leads : setup.tree.node setup.options.path = .ok (.directory entries) := by cbv
  have walked : (Node.directory entries).walk setup.tree.refusal? true 0 setup.options.path =
      .ok [["a", "b"], ["a.txt"]] := by cbv
  have deep : (setup.searching true).files = .ok [⟨"in/a/b"⟩, ⟨"in/a.txt"⟩] := by
    rw [setup.files_searching leads, walked]
    cbv
  exact ⟨proper, leads, deep, files_of_directory proper leads⟩

/-- A directory that does not tell its names hides the file beside it: a search that goes into
directories fails. -/
theorem files_of_closed_directory :
    let entries : List (String × Node) := [
      ("a.txt", .file .empty), ("b", .directory [] { list? := some .permissionDenied })]
    let tree : FileTree := ⟨.directory [("d", .directory entries)], []⟩
    let options : Options := {
      path := ⟨"d"⟩, compressWhitespace := false, lines := false, format := .text
      letters? := none, digits? := none, symbols? := none, whitespace? := none, quotes? := none
      recursive := true, verbose := false }
    let setup := Setup.of tree (.ofList []) ⟨0, 0⟩ 0 options
    setup.tree.node setup.options.path = .ok (.directory entries) ∧
      (Node.directory entries).HoldsFile ["a.txt"] ∧
      (setup.searching true).files = .error (.notListed ⟨1, ⟨"d/b"⟩, .permissionDenied⟩) ∧
      ∀ files, (setup.searching true).files ≠ .ok files := by
  intro entries tree options setup
  have leads : setup.tree.node setup.options.path = .ok (.directory entries) := by cbv
  have holds : (Node.directory entries).HoldsFile ["a.txt"] :=
    ⟨_, .entry List.mem_cons_self (.here _), rfl⟩
  have fails : (setup.searching true).files =
      .error (.notListed ⟨1, ⟨"d/b"⟩, .permissionDenied⟩) := by cbv
  refine ⟨leads, holds, fails, fun files found => ?_⟩
  rw [fails] at found
  contradiction

end Command

end CharLexer
