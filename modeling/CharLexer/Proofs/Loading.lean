import CharLexer.Proofs.Resumption
import CharLexer.Proofs.Utf8
import CharLexer.Source
import Mathlib

/-!
# Conditions of loading

A source is loaded when what its path leads to meets six conditions, which are asked one after
another (`Source.Condition`). What each of them asks for is said here of the file tree, without the
loader, and so is the error that tells of each (`Source.Condition.Reports`). Loading fails exactly
when a condition is not met, and the error tells of the first of those (`load_by_conditions`).

The size that the conditions ask about is the one that the system tells of the file. It is the number
of its bytes in most trees but not in all (`FileTree.TellsSize`): where it is not, a file that has
bytes may be loaded as one that has none, or refused as one (`load_of_untold_bytes`).
-/
namespace CharLexer

open Log (Level)

namespace FileTree

/-- The size of the regular file that a path leads to. -/
def fileSize? (tree : FileTree) (path : Path) : Option Nat :=
  (tree.node path).toOption.bind Node.fileSize?

variable {tree : FileTree} {path : Path}

/-- The size is that of the node at the end of the path. -/
theorem fileSize?_of_node {node : Node} (found : tree.node path = .ok node) :
    tree.fileSize? path = node.fileSize? := by
  rw [fileSize?, found]
  rfl

/-- Nothing has no size. -/
theorem fileSize?_of_error {cause : FileError} (fails : tree.node path = .error cause) :
    tree.fileSize? path = none := by
  rw [fileSize?, fails]
  rfl

/-- What is read from a regular file is its content. -/
theorem read_of_regular {size : Nat} {content : Except FileError ByteArray}
    (found : tree.node path = .ok (.regular size content)) : tree.read path = content := by
  rw [read, found]
  rfl

/-- The bytes that are read from a regular file are its own. -/
theorem node_of_read {size : Nat} {bytes : ByteArray} (sized : tree.fileSize? path = some size)
    (reads : tree.read path = .ok bytes) : tree.node path = .ok (.regular size (.ok bytes)) := by
  cases found : tree.node path with
  | error cause =>
    rw [fileSize?_of_error found] at sized
    contradiction
  | ok node =>
    rw [fileSize?_of_node found] at sized
    cases node with
    | regular told content =>
      obtain rfl : told = size := Option.some.inj sized
      rw [read_of_regular found] at reads
      rw [reads]
    | directory entries access => contradiction
    | link target => contradiction
    | device => contradiction

/-- Whether the size that is told of the file at a path is the number of its bytes. -/
def TellsSize (tree : FileTree) (path : Path) : Prop :=
  ∀ size bytes, tree.node path = .ok (.regular size (.ok bytes)) → size = bytes.size

/-- The size of a file of some bytes is told. -/
theorem tellsSize_of_file {bytes : ByteArray} (found : tree.node path = .ok (.file bytes)) :
    tree.TellsSize path := by
  intro size held same
  rw [found] at same
  obtain ⟨rfl, content⟩ := Node.regular.inj (Except.ok.inj same)
  exact congrArg ByteArray.size (Except.ok.inj content)

end FileTree

namespace Source

/-- A condition on what a path leads to. -/
inductive Condition
  /-- Something stands there and can be examined. -/
  | found
  /-- It is a regular file. -/
  | regular
  /-- It is no larger than the limit. -/
  | small
  /-- It is not told to be empty, unless empty files are accepted. -/
  | inhabited
  /-- Its bytes can be read. -/
  | readable
  /-- They are a text. -/
  | text

namespace Condition

/-- Every condition, in the order in which they are asked. -/
def all : List Condition := [.found, .regular, .small, .inhabited, .readable, .text]

/-- Whether what a path leads to meets a condition. -/
def Holds (preferences : LoaderPreferences) (tree : FileTree) (path : Path) (limits : Limits) :
    Condition → Prop
  | .found => ∃ node, tree.node path = .ok node
  | .regular => ∃ size, tree.fileSize? path = some size
  | .small => ∀ size, tree.fileSize? path = some size → size ≤ limits.maxFileSize
  | .inhabited => tree.fileSize? path = some 0 → preferences.allowEmptyFiles = true
  | .readable => ∃ bytes, tree.read path = .ok bytes
  | .text => ∃ text, tree.read path = .ok (String.toUTF8 text)

/-- The error that tells that a condition is not met. -/
inductive Reports (tree : FileTree) (path : Path) (limits : Limits) : Condition → LoadError → Prop
  /-- Nothing stands at the path. -/
  | missing (fails : tree.node path = .error .notFound) :
      Reports tree path limits .found (.notFound path)
  /-- What stands there cannot be examined, for another cause. -/
  | unexamined {cause : FileError} (fails : tree.node path = .error cause)
      (other : cause ≠ .notFound) :
      Reports tree path limits .found (.unreadable path cause.message)
  /-- It is no regular file. -/
  | notAFile : Reports tree path limits .regular (.notAFile path)
  /-- Its size exceeds the limit; both are told. -/
  | tooLarge {size : Nat} (sized : tree.fileSize? path = some size) :
      Reports tree path limits .small (.tooLarge size limits.maxFileSize)
  /-- It is told to be empty. -/
  | empty : Reports tree path limits .inhabited .empty
  /-- Its bytes cannot be read. -/
  | unread {cause : FileError} (fails : tree.read path = .error cause) :
      Reports tree path limits .readable (.unreadable path cause.message)
  /-- They are no text; the length of the longest part from the front that is one is told. -/
  | notUtf8 {bytes : ByteArray} {validUpTo : Nat} (reads : tree.read path = .ok bytes)
      (longest : IsGreatest (wellFormedEnds bytes 0) validUpTo) :
      Reports tree path limits .text (.notUtf8 validUpTo)

end Condition

/-- An error tells of a condition that is not met, while those in front of it are. -/
structure FirstFault (preferences : LoaderPreferences) (tree : FileTree) (path : Path)
    (limits : Limits) (passed : List Condition) (failed : Condition) (error : LoadError) :
    Prop where
  /-- It is asked behind them. -/
  order : ∃ later, Condition.all = passed ++ failed :: later
  /-- The conditions in front are met. -/
  before : ∀ condition ∈ passed, condition.Holds preferences tree path limits
  /-- This one is not. -/
  fails : ¬ failed.Holds preferences tree path limits
  /-- The error tells so. -/
  reports : failed.Reports tree path limits error

/-- A source is what a path leads to, and is scanned to its end. -/
structure IsAt (source : Source) (tree : FileTree) (path : Path) : Prop where
  named : source.path = path
  /-- The size is the one that is told of the file, and the text encodes to its bytes. -/
  bytes : tree.node path = .ok (.regular source.size (.ok source.text.toUTF8))
  /-- The end of the text is placed at the number of its characters. -/
  ended : ∀ compress, ∃ ended, (scanText source.text compress {}).getLast? = some ended ∧
    ended.isTextEnd = true ∧ ended.location.offset = source.charCount
  charCount_le : source.charCount ≤ source.text.toUTF8.size

/-- Where the size of the file is told, it is the number of bytes of the text. -/
theorem IsAt.size_eq {source : Source} {tree : FileTree} {path : Path} (isAt : source.IsAt tree path)
    (tells : tree.TellsSize path) : source.size = source.text.toUTF8.size :=
  tells _ _ isAt.bytes

end Source

/-- The last token of a text is its end, behind all its characters. -/
theorem getLast?_scanText (source : String) (compress : Bool) (charsets : Charsets) :
    ∃ ended, (scanText source compress charsets).getLast? = some ended ∧
      ended.isTextEnd = true ∧ ended.location.offset = source.length := by
  obtain ⟨pieces, reading⟩ := Reading.exists_reading charsets source.toList
  rw [← Cursor.rest_ofString] at reading
  have scanned : scanText source compress charsets = _ := Lexer.scan_of_reading compress reading
  refine ⟨(⟨.textEnd, Piece.endOf .start pieces, ""⟩ : Token).stored, ?_, rfl, ?_⟩
  · rw [scanned, List.getLast?_concat]
    rfl
  · rw [Cursor.rest_ofString] at reading
    change (Piece.endOf .start pieces).offset = source.length
    rw [Piece.endOf_offset, reading.joined, String.length_toList]
    exact Nat.zero_add _

namespace Source

variable {preferences : LoaderPreferences} {tree : FileTree} {path : Path} {limits : Limits}

/-- A path that leads nowhere is an error of its own. -/
theorem load_of_error {cause : FileError} (fails : tree.node path = .error cause) :
    load preferences tree path limits = .error (.ofFileError path cause) := by
  rw [load, fails]

/-- What is no regular file is not loaded. -/
theorem load_of_not_regular {node : Node} (found : tree.node path = .ok node)
    (irregular : tree.fileSize? path = none) :
    load preferences tree path limits = .error (.notAFile path) := by
  rw [FileTree.fileSize?_of_node found] at irregular
  rw [load, found]
  simp only [irregular]

/-- A regular file is loaded by its size. -/
theorem load_of_regular {size : Nat} (sized : tree.fileSize? path = some size) :
    load preferences tree path limits = loadFile preferences tree path limits size := by
  cases found : tree.node path with
  | error cause =>
    rw [FileTree.fileSize?_of_error found] at sized
    contradiction
  | ok node =>
    rw [FileTree.fileSize?_of_node found] at sized
    rw [load, found]
    simp only [sized]

/-- A path that leads nowhere fails the first condition. -/
theorem firstFault_found {cause : FileError} (fails : tree.node path = .error cause) :
    FirstFault preferences tree path limits [] .found (.ofFileError path cause) where
  order := ⟨_, rfl⟩
  before := by simp
  fails := by
    rintro ⟨node, found⟩
    rw [fails] at found
    contradiction
  reports := by
    cases cause with
    | notFound => exact .missing fails
    | _ => exact .unexamined fails (by decide)

/-- What is no regular file fails the second condition. -/
theorem firstFault_regular {node : Node} (found : tree.node path = .ok node)
    (irregular : tree.fileSize? path = none) :
    FirstFault preferences tree path limits [.found] .regular (.notAFile path) where
  order := ⟨_, rfl⟩
  before := List.forall_mem_singleton.mpr ⟨node, found⟩
  fails := by
    rintro ⟨size, sized⟩
    rw [irregular] at sized
    contradiction
  reports := .notAFile

/-- A path that leads to a regular file meets the first two conditions. -/
theorem holds_of_fileSize? {size : Nat} (sized : tree.fileSize? path = some size) :
    ∀ condition ∈ [Condition.found, .regular],
      condition.Holds preferences tree path limits := by
  have found : ∃ node, tree.node path = .ok node := by
    cases found : tree.node path with
    | error cause =>
      rw [FileTree.fileSize?_of_error found] at sized
      contradiction
    | ok node => exact ⟨node, rfl⟩
  exact List.forall_mem_cons.mpr ⟨found, List.forall_mem_singleton.mpr ⟨size, sized⟩⟩

/-- A file above the limit fails the third condition. -/
theorem firstFault_small {size : Nat} (sized : tree.fileSize? path = some size)
    (large : limits.maxFileSize < size) :
    FirstFault preferences tree path limits [.found, .regular] .small
      (.tooLarge size limits.maxFileSize) where
  order := ⟨_, rfl⟩
  before := holds_of_fileSize? sized
  fails small := absurd (small size sized) (Nat.not_le_of_lt large)
  reports := .tooLarge sized

/-- A file within the limit meets the first three conditions. -/
theorem holds_of_le {size : Nat} (sized : tree.fileSize? path = some size)
    (within : size ≤ limits.maxFileSize) :
    ∀ condition ∈ [Condition.found, .regular, .small],
      condition.Holds preferences tree path limits := by
  have small : Condition.small.Holds preferences tree path limits := by
    intro told same
    rw [sized] at same
    obtain rfl := Option.some.inj same
    exact within
  exact List.forall_mem_append.mpr
    ⟨holds_of_fileSize? sized, List.forall_mem_singleton.mpr small⟩

/-- An empty file fails the fourth condition where empty files are refused. -/
theorem firstFault_inhabited (sized : tree.fileSize? path = some 0)
    (refused : preferences.allowEmptyFiles = false) :
    FirstFault preferences tree path limits [.found, .regular, .small] .inhabited .empty where
  order := ⟨_, rfl⟩
  before := holds_of_le sized (Nat.zero_le _)
  fails inhabited := by
    have accepted := inhabited sized
    rw [refused] at accepted
    contradiction
  reports := .empty

/-- A file within the limit that may be as small as it is meets the first four conditions. -/
theorem holds_of_inhabited {size : Nat} (sized : tree.fileSize? path = some size)
    (within : size ≤ limits.maxFileSize)
    (inhabited : ¬ (size = 0 ∧ preferences.allowEmptyFiles = false)) :
    ∀ condition ∈ [Condition.found, .regular, .small, .inhabited],
      condition.Holds preferences tree path limits := by
  have fourth : Condition.inhabited.Holds preferences tree path limits := by
    intro empty
    rw [sized] at empty
    obtain rfl := Option.some.inj empty
    simpa using inhabited
  exact List.forall_mem_append.mpr ⟨holds_of_le sized within, List.forall_mem_singleton.mpr fourth⟩

/-- A file that cannot be read fails the fifth condition. -/
theorem firstFault_readable {size : Nat} {cause : FileError}
    (sized : tree.fileSize? path = some size) (within : size ≤ limits.maxFileSize)
    (inhabited : ¬ (size = 0 ∧ preferences.allowEmptyFiles = false))
    (fails : tree.read path = .error cause) :
    FirstFault preferences tree path limits [.found, .regular, .small, .inhabited] .readable
      (.unreadable path cause.message) where
  order := ⟨_, rfl⟩
  before := holds_of_inhabited sized within inhabited
  fails := by
    rintro ⟨bytes, reads⟩
    rw [fails] at reads
    contradiction
  reports := .unread fails

/-- A file that can be read meets the first five conditions. -/
theorem holds_of_read {size : Nat} {bytes : ByteArray} (sized : tree.fileSize? path = some size)
    (within : size ≤ limits.maxFileSize)
    (inhabited : ¬ (size = 0 ∧ preferences.allowEmptyFiles = false))
    (reads : tree.read path = .ok bytes) :
    ∀ condition ∈ [Condition.found, .regular, .small, .inhabited, .readable],
      condition.Holds preferences tree path limits := by
  have fifth : Condition.readable.Holds preferences tree path limits := ⟨bytes, reads⟩
  exact List.forall_mem_append.mpr
    ⟨holds_of_inhabited sized within inhabited, List.forall_mem_singleton.mpr fifth⟩

/-- A file whose bytes are no text fails the last condition. -/
theorem firstFault_text {size validUpTo : Nat} {bytes : ByteArray}
    (sized : tree.fileSize? path = some size) (within : size ≤ limits.maxFileSize)
    (inhabited : ¬ (size = 0 ∧ preferences.allowEmptyFiles = false))
    (reads : tree.read path = .ok bytes) (stops : textOfBytes bytes = .error validUpTo) :
    FirstFault preferences tree path limits [.found, .regular, .small, .inhabited, .readable]
      .text (.notUtf8 validUpTo) where
  order := ⟨_, rfl⟩
  before := holds_of_read sized within inhabited reads
  fails := by
    rintro ⟨text, encoded⟩
    rw [reads] at encoded
    rw [textOfBytes_eq_ok.mpr (Except.ok.inj encoded)] at stops
    contradiction
  reports := .notUtf8 reads (textOfBytes_eq_error.mp stops).2

/-- A source whose text is that of the file at a path is what the path leads to. -/
theorem isAt_of_text {size : Nat} {text : String} (sized : tree.fileSize? path = some size)
    (reads : tree.read path = .ok text.toUTF8) : IsAt ⟨path, text, size⟩ tree path := by
  have found := FileTree.node_of_read sized reads
  exact ⟨rfl, found, fun compress => getLast?_scanText text compress {},
    length_le_size_toUTF8 text⟩

/-- How a load ends: with a source where every condition is met, and with the error of the first
condition that is not where some are not. -/
theorem load_cases (preferences : LoaderPreferences) (tree : FileTree) (path : Path)
    (limits : Limits) :
    (∃ source, load preferences tree path limits = .ok source ∧ source.IsAt tree path ∧
      ∀ condition, Condition.Holds preferences tree path limits condition) ∨
    ∃ error, load preferences tree path limits = .error error ∧
      ∃ passed failed, FirstFault preferences tree path limits passed failed error := by
  cases found : tree.node path with
  | error cause => exact .inr ⟨_, load_of_error found, _, _, firstFault_found found⟩
  | ok node =>
    cases sized : tree.fileSize? path with
    | none =>
      exact .inr ⟨_, load_of_not_regular found sized, _, _, firstFault_regular found sized⟩
    | some size =>
      rw [load_of_regular sized, loadFile]
      by_cases large : limits.maxFileSize < size
      · rw [if_pos large]
        exact .inr ⟨_, rfl, _, _, firstFault_small sized large⟩
      rw [if_neg large]
      have within := Nat.le_of_not_lt large
      by_cases empty : size = 0 ∧ preferences.allowEmptyFiles = false
      · rw [if_pos empty]
        obtain ⟨rfl, refused⟩ := empty
        exact .inr ⟨_, rfl, _, _, firstFault_inhabited sized refused⟩
      rw [if_neg empty]
      cases reads : tree.read path with
      | error cause =>
        exact .inr ⟨_, rfl, _, _, firstFault_readable sized within empty reads⟩
      | ok bytes =>
        cases decoded : textOfBytes bytes with
        | error validUpTo =>
          have fault := firstFault_text sized within empty reads decoded
          exact .inr ⟨_, by simp only [decoded], _, _, fault⟩
        | ok text =>
          obtain rfl := textOfBytes_eq_ok.mp decoded
          have passed := holds_of_read sized within empty reads
          refine .inl ⟨_, by simp only [decoded], isAt_of_text sized reads, fun condition => ?_⟩
          cases condition with
          | text => exact ⟨text, reads⟩
          | _ => exact passed _ (by simp)

/-- What is loaded is what the path leads to, within the limit. -/
theorem isAt_of_load {source : Source} (loads : load preferences tree path limits = .ok source) :
    source.IsAt tree path ∧ source.size ≤ limits.maxFileSize := by
  rcases load_cases preferences tree path limits with
    ⟨loaded, same, isAt, holds⟩ | ⟨error, fails, -⟩
  · rw [loads] at same
    obtain rfl := Except.ok.inj same
    have sized : tree.fileSize? path = some source.size := FileTree.fileSize?_of_node isAt.bytes
    exact ⟨isAt, holds .small source.size sized⟩
  · rw [loads] at fails
    contradiction

/-- Every condition is met by a regular file that is told to be within the limit, and to be empty
only if that is accepted, and whose bytes can be read and are a text; and by nothing else. -/
theorem forall_holds_iff :
    (∀ condition, Condition.Holds preferences tree path limits condition) ↔
      ∃ size bytes, tree.node path = .ok (.regular size (.ok bytes)) ∧ size ≤ limits.maxFileSize ∧
        (size = 0 → preferences.allowEmptyFiles = true) ∧ bytes.IsValidUTF8 := by
  constructor
  · intro holds
    obtain ⟨size, sized⟩ := holds .regular
    obtain ⟨text, reads⟩ := holds .text
    have found := FileTree.node_of_read sized reads
    refine ⟨size, text.toUTF8, found, holds .small _ sized, fun empty => ?_, text.isValidUTF8⟩
    rw [empty] at sized
    exact holds .inhabited sized
  · rintro ⟨size, bytes, found, within, inhabited, valid⟩ condition
    have sized : tree.fileSize? path = some size := FileTree.fileSize?_of_node found
    have reads := FileTree.read_of_regular found
    cases condition with
    | found => exact ⟨_, found⟩
    | regular => exact ⟨_, sized⟩
    | small =>
      intro told same
      rw [sized] at same
      exact Option.some.inj same ▸ within
    | inhabited =>
      intro empty
      rw [sized] at empty
      exact inhabited (Option.some.inj empty)
    | readable => exact ⟨_, reads⟩
    | text => exact ⟨.fromUTF8 bytes valid, reads⟩

/-- Where the size of the file is told, every condition is met by a regular file of so many bytes. -/
theorem forall_holds_iff_of_tellsSize (tells : tree.TellsSize path) :
    (∀ condition, Condition.Holds preferences tree path limits condition) ↔
      ∃ bytes, tree.node path = .ok (.file bytes) ∧ bytes.size ≤ limits.maxFileSize ∧
        (bytes.size = 0 → preferences.allowEmptyFiles = true) ∧ bytes.IsValidUTF8 := by
  rw [forall_holds_iff]
  constructor
  · rintro ⟨size, bytes, found, within, inhabited, valid⟩
    obtain rfl := tells size bytes found
    exact ⟨bytes, found, within, inhabited, valid⟩
  · rintro ⟨bytes, found, within, inhabited, valid⟩
    exact ⟨bytes.size, bytes, found, within, inhabited, valid⟩

/-- A load succeeds where every condition is met. -/
theorem exists_load_iff :
    (∃ source, load preferences tree path limits = .ok source) ↔
      ∀ condition, Condition.Holds preferences tree path limits condition := by
  rcases load_cases preferences tree path limits with
    ⟨source, loads, -, holds⟩ | ⟨error, fails, passed, failed, fault⟩
  · exact iff_of_true ⟨source, loads⟩ holds
  · refine iff_of_false ?_ fun holds => fault.fails (holds failed)
    rintro ⟨source, loads⟩
    rw [fails] at loads
    contradiction

/-- A load that fails tells of an error under its code. -/
theorem map_loadEvents_error (preferences : LoaderPreferences) (path : Path) (micros : Nat)
    (error : LoadError) :
    (loadEvents preferences path micros (.error error)).map
        (fun event => (event.level, event.code)) = [(.error, error.code)] :=
  rfl

/-- A load that succeeds tells so if timing is asked for. -/
theorem map_loadEvents_ok (preferences : LoaderPreferences) (path : Path) (micros : Nat)
    (source : Source) :
    (loadEvents preferences path micros (.ok source)).map (fun event => (event.level, event.code)) =
      if preferences.logTiming then [(.info, ⟨"L100"⟩)] else [] := by
  rw [loadEvents]
  cases timed : preferences.logTiming <;> rfl

end Source

/-- A path is loaded exactly when it leads to a regular file that is told to be within the limit, and
to be empty only if that is accepted, and whose bytes can be read and are a text. The source then has
that text, which encodes to those bytes, and the size that is told, and one event tells of it if
timing is asked for. Otherwise the error is that of the first condition that is not met, and one event
tells of it under its code. Where the size that is told is the number of bytes, it is these that have
to be within the limit, and the characters are no more than the size. -/
theorem load_by_conditions (preferences : LoaderPreferences) (tree : FileTree) (path : Path)
    (limits : Limits) (micros : Nat) :
    let outcome := Source.load preferences tree path limits
    let told := (Source.loadEvents preferences path micros outcome).map fun event =>
      (event.level, event.code)
    ((∃ source, outcome = .ok source) ↔
      ∃ size bytes, tree.node path = .ok (.regular size (.ok bytes)) ∧ size ≤ limits.maxFileSize ∧
        (size = 0 → preferences.allowEmptyFiles = true) ∧ bytes.IsValidUTF8) ∧
    (tree.TellsSize path →
      ((∃ source, outcome = .ok source) ↔
        ∃ bytes, tree.node path = .ok (.file bytes) ∧ bytes.size ≤ limits.maxFileSize ∧
          (bytes.size = 0 → preferences.allowEmptyFiles = true) ∧ bytes.IsValidUTF8) ∧
      ∀ source, outcome = .ok source →
        source.size = source.text.toUTF8.size ∧ source.charCount ≤ source.size) ∧
    match outcome with
    | .ok source =>
      source.IsAt tree path ∧ told = if preferences.logTiming then [(.info, ⟨"L100"⟩)] else []
    | .error error =>
      (∃ passed failed, Source.FirstFault preferences tree path limits passed failed error) ∧
        told = [(.error, error.code)] := by
  intro outcome told
  refine ⟨Source.exists_load_iff.trans Source.forall_holds_iff, fun tells => ⟨?_, ?_⟩, ?_⟩
  · exact Source.exists_load_iff.trans (Source.forall_holds_iff_of_tellsSize tells)
  · intro source loads
    have isAt := (Source.isAt_of_load loads).1
    have size := isAt.size_eq tells
    exact ⟨size, size ▸ isAt.charCount_le⟩
  rcases Source.load_cases preferences tree path limits with
    ⟨source, loads, isAt, -⟩ | ⟨error, fails, fault⟩
  · have loaded : outcome = .ok source := loads
    simp only [told, loaded]
    exact ⟨isAt, Source.map_loadEvents_ok preferences path micros source⟩
  · have failed : outcome = .error error := fails
    simp only [told, failed]
    exact ⟨fault, Source.map_loadEvents_error preferences path micros error⟩

/-- A file that is told to have no bytes has some: it is loaded with more characters than its size, or
refused as empty where empty files are. -/
theorem load_of_untold_bytes :
    let bytes := "Linux\n".toUTF8
    let tree : FileTree := ⟨.directory [("ostype", .regular 0 (.ok bytes))], []⟩
    let refusing : LoaderPreferences := { allowEmptyFiles := false }
    let source : Source := ⟨⟨"ostype"⟩, "Linux\n", 0⟩
    tree.read ⟨"ostype"⟩ = .ok bytes ∧ bytes.size = 6 ∧
      Source.load {} tree ⟨"ostype"⟩ = .ok source ∧ source.size ≠ bytes.size ∧
      ¬ source.charCount ≤ source.size ∧
      Source.load refusing tree ⟨"ostype"⟩ = .error .empty := by
  intro bytes tree refusing source
  have found (content : Except FileError ByteArray) :
      FileTree.node ⟨.directory [("ostype", .regular 0 content)], []⟩ ⟨"ostype"⟩ =
        .ok (.regular 0 content) := by cbv
  have sized : tree.fileSize? ⟨"ostype"⟩ = some 0 := FileTree.fileSize?_of_node (found _)
  have reads : tree.read ⟨"ostype"⟩ = .ok bytes := FileTree.read_of_regular (found _)
  have decoded : textOfBytes bytes = .ok "Linux\n" := textOfBytes_eq_ok.mpr rfl
  have size : bytes.size = 6 := by decide
  refine ⟨reads, size, ?_, by rw [size]; decide, by decide, ?_⟩
  · rw [Source.load_of_regular sized, Source.loadFile, if_neg (Nat.not_lt_zero _),
      if_neg (by decide), reads]
    simp only [decoded]
    rfl
  · rw [Source.load_of_regular sized, Source.loadFile, if_neg (Nat.not_lt_zero _),
      if_pos ⟨rfl, rfl⟩]

end CharLexer
