import CharLexer.Files.Tree
import CharLexer.Lexer
import CharLexer.Text.Utf8

/-!
# Sources

A source is read from a regular file that is no larger than the limit, is not empty unless empty
files are accepted, and whose bytes can be read and are a text. The first of these conditions that
fails is the error. Each failure is told under a code of its own; a success is told when timing is
asked for.
-/
namespace CharLexer

open Log (Code Event)

/-- A source text and the file it was read from. -/
structure Source where
  path : Path
  text : String
  /-- The size of the file in bytes. -/
  size : Nat

/-- Why no source was loaded. -/
inductive LoadError
  | notFound (path : Path)
  | notAFile (path : Path)
  | tooLarge (size limit : Nat)
  | empty
  /-- The bytes are a text only up to a place. -/
  | notUtf8 (validUpTo : Nat)
  /-- The file cannot be examined or read, for a reason told by the file system. -/
  | unreadable (path : Path) (reason : String)
  deriving DecidableEq

namespace LoadError

/-- The text of an error. -/
def message : LoadError → String
  | .notFound path => "file not found: " ++ path.text
  | .notAFile path => "not a regular file: " ++ path.text
  | .tooLarge size limit => s!"file is {size} bytes, limit is {limit}"
  | .empty => "file is empty"
  | .notUtf8 validUpTo => s!"invalid UTF-8 after byte {validUpTo}"
  | .unreadable path reason => "cannot read " ++ path.text ++ ": " ++ reason

/-- The code of an error. -/
def code : LoadError → Code
  | .notFound _ => .sourceNotFound
  | .notAFile _ => .sourceNotAFile
  | .tooLarge _ _ => .sourceTooLarge
  | .empty => .sourceEmpty
  | .notUtf8 _ => .sourceNotUtf8
  | .unreadable _ _ => .sourceUnreadable

/-- What the file system told, if it is the cause. -/
def reason? : LoadError → Option String
  | .unreadable _ reason => some reason
  | _ => none

/-- The error of a path that leads to no file. -/
def ofFileError (path : Path) : FileError → LoadError
  | .notFound => .notFound path
  | cause => .unreadable path cause.message

end LoadError

namespace Source

/-- The number of characters of the text. -/
def charCount (source : Source) : Nat := source.text.length

/-- Load the source of a regular file of some size. -/
def loadFile (preferences : LoaderPreferences) (tree : FileTree) (path : Path) (limits : Limits)
    (size : Nat) : Except LoadError Source :=
  if limits.maxFileSize < size then .error (.tooLarge size limits.maxFileSize)
  else if size = 0 ∧ preferences.allowEmptyFiles = false then .error .empty
  else match tree.read path with
    | .error cause => .error (.unreadable path cause.message)
    | .ok bytes =>
      match textOfBytes bytes with
      | .ok text => .ok ⟨path, text, size⟩
      | .error validUpTo => .error (.notUtf8 validUpTo)

/-- Load the source at a path. -/
def load (preferences : LoaderPreferences) (tree : FileTree) (path : Path)
    (limits : Limits := .current) : Except LoadError Source :=
  match tree.node path with
  | .error cause => .error (.ofFileError path cause)
  | .ok node =>
    match node.fileSize? with
    | none => .error (.notAFile path)
    | some size => loadFile preferences tree path limits size

/-- The events of a load that took some microseconds. -/
def loadEvents (preferences : LoaderPreferences) (path : Path) (micros : Nat) :
    Except LoadError Source → List Event
  | .error error =>
    [.raise .error error.code "Cannot load source file"
      [("path", path.text), ("reason", error.message)]]
  | .ok source =>
    if preferences.logTiming then
      [.raise .info .sourceLoaded "Loaded source file"
        [("path", path.text), ("bytes", toString source.size),
          ("chars", toString source.charCount), ("micros", toString micros)]]
    else []

end Source

end CharLexer
