import CharLexer.Files.Path
import CharLexer.Text.Quoted

/-!
# File trees

A file tree holds regular files, directories, symbolic links and devices. What the system tells of the
size of a regular file is kept apart from its bytes, which may be more or fewer, or out of reach. A
directory may refuse to tell its names, or to let a path go through it. A path is followed from the
working directory, or from the root when it is absolute, name by name; links are followed on the way,
forty at most. What can go wrong is a cause with a text of its own.

A path to be written may lead to a place where nothing stands yet, in a directory that is there. A
tree is laid out by writing to it, with the directories above made first.

Names and paths are texts: what has a name of other bytes is not in the tree.
-/
namespace CharLexer

/-- Why a path does not lead to what is asked for. -/
inductive FileError
  | notFound
  | notADirectory
  | isADirectory
  | nameTooLong
  | tooManyLinks
  | nulInName
  | notUtf8
  | permissionDenied
  | inputOutput
  deriving DecidableEq

namespace FileError

/-- The number of an error that the system tells. -/
def number? : FileError → Option Nat
  | .notFound => some 2
  | .notADirectory => some 20
  | .isADirectory => some 21
  | .nameTooLong => some 36
  | .tooManyLinks => some 40
  | .nulInName => none
  | .notUtf8 => none
  | .permissionDenied => some 13
  | .inputOutput => some 5

/-- What an error is called. -/
def kind : FileError → String
  | .notFound => "NotFound"
  | .notADirectory => "NotADirectory"
  | .isADirectory => "IsADirectory"
  | .nameTooLong => "InvalidFilename"
  | .tooManyLinks => "FilesystemLoop"
  | .nulInName => "InvalidInput"
  | .notUtf8 => "InvalidData"
  | .permissionDenied => "PermissionDenied"
  | .inputOutput => "Uncategorized"

/-- What an error says. -/
def text : FileError → String
  | .notFound => "No such file or directory"
  | .notADirectory => "Not a directory"
  | .isADirectory => "Is a directory"
  | .nameTooLong => "File name too long"
  | .tooManyLinks => "Too many levels of symbolic links"
  | .nulInName => "file name contained an unexpected NUL byte"
  | .notUtf8 => "stream did not contain valid UTF-8"
  | .permissionDenied => "Permission denied"
  | .inputOutput => "Input/output error"

/-- The text of an error, with its number if it has one. -/
def message (error : FileError) : String :=
  match error.number? with
  | some number => error.text ++ " (os error " ++ toString number ++ ")"
  | none => error.text

/-- All that is known of an error, as its fields. -/
def fields (error : FileError) : String :=
  match error.number? with
  | some number =>
    "Os \x7b code: " ++ toString number ++ ", kind: " ++ error.kind ++ ", message: " ++
      quoted error.text ++ " \x7d"
  | none => "Error \x7b kind: " ++ error.kind ++ ", message: " ++ quoted error.text ++ " \x7d"

end FileError

/-- What a directory refuses, and why. -/
structure Access where
  /-- Why its names are not told. -/
  list? : Option FileError := none
  /-- Why no path goes through it. -/
  search? : Option FileError := none
  deriving DecidableEq

/-- What stands at a place of a file tree. -/
inductive Node
  /-- A regular file: the size that the system tells, and the bytes that are read from it, or why they
  cannot be. -/
  | regular (size : Nat) (content : Except FileError ByteArray)
  /-- A directory with its names. -/
  | directory (entries : List (String × Node)) (access : Access := {})
  /-- A symbolic link. -/
  | link (target : Path)
  /-- A device, which is no regular file and has no bytes. -/
  | device

/-- A regular file of some bytes, which is told to be as large as these. -/
def Node.file (bytes : ByteArray) : Node := .regular bytes.size (.ok bytes)

namespace Node

/-- The entry of a name. -/
def entry? (node : Node) (name : String) : Option Node :=
  match node with
  | .directory entries _ => entries.lookup name
  | _ => none

/-- The size that is told of a regular file. -/
def fileSize? : Node → Option Nat
  | .regular size _ => some size
  | _ => none

/-- Whether the node is a directory. -/
def isDirectory : Node → Bool
  | .directory _ _ => true
  | _ => false

/-- The node at the end of some names, none of them followed as a link. -/
def at? (node : Node) : List String → Option Node
  | [] => some node
  | name :: rest => (node.entry? name).bind fun child => child.at? rest

/-- Entries with a node under a name, in the place of the one it replaces or else last. -/
def putEntry (entries : List (String × Node)) (name : String) (child : Node) :
    List (String × Node) :=
  if entries.any fun entry => entry.1 == name then
    entries.map fun entry => if entry.1 == name then (name, child) else entry
  else entries ++ [(name, child)]

/-- The node with another at the end of some names. Directories are made on the way where there
are none. -/
def put (node : Node) (place : List String) (child : Node) : Node :=
  match place with
  | [] => child
  | name :: rest =>
    let (entries, access) := match node with
      | .directory entries access => (entries, access)
      | _ => ([], {})
    let below := ((entries.lookup name).getD (.directory [])).put rest child
    .directory (putEntry entries name below) access

end Node

/-- A file tree and the place of the working directory in it. -/
structure FileTree where
  root : Node
  workingDirectory : List String

namespace FileTree

/-- The tree of nothing but an empty working directory. -/
def ofWorkingDirectory (path : Path) : FileTree :=
  ⟨(Node.directory []).put path.names (.directory []), path.names⟩

/-- The most links that are followed on one path. -/
def linkLimit : Nat := 40

/-- The most bytes of a name. -/
def nameLimit : Nat := 255

/-- The most bytes of a path. -/
def pathLimit : Nat := 4095

/-- What a path is followed for. -/
inductive Purpose
  /-- To read what it leads to. -/
  | read
  /-- To write a file, which need not be there. -/
  | write
  deriving DecidableEq

/-- Follow names from a place where no link is left to follow, up to so many links. -/
def follow (tree : FileTree) (purpose : Purpose) (links : Nat) (place : List String) :
    List String → Except FileError (List String)
  | [] => .ok place
  | name :: rest =>
    match tree.root.at? place with
    | some (.directory entries access) =>
      -- A slash at the end asks for a directory, but for no name in it.
      if name == "" then tree.follow purpose links place rest
      else if let some cause := access.search? then .error cause
      else if name == "." then tree.follow purpose links place rest
      else if name == ".." then tree.follow purpose links place.dropLast rest
      else if purpose = .write ∧ rest = [""] then .error .isADirectory
      else if nameLimit < name.utf8ByteSize then .error .nameTooLong
      else match entries.lookup name with
        | none => if purpose = .write ∧ rest = [] then .ok (place ++ [name]) else .error .notFound
        | some (.link target) =>
          match links with
          | 0 => .error .tooManyLinks
          | links + 1 =>
            tree.follow purpose links (if target.isAbsolute then [] else place)
              (target.steps ++ rest)
        | some _ => tree.follow purpose links (place ++ [name]) rest
    | some _ => .error .notADirectory
    | none => .error .notFound
termination_by names => (links, names.length)

/-- The place from which the names of a path are followed. -/
def origin (tree : FileTree) (path : Path) : List String :=
  if path.isAbsolute then [] else tree.workingDirectory

/-- The place that a path leads to. -/
def resolve (tree : FileTree) (purpose : Purpose) (path : Path) :
    Except FileError (List String) :=
  if path.text.toList.contains '\x00' then .error .nulInName
  else if path.text.isEmpty then .error .notFound
  else if pathLimit < path.text.utf8ByteSize then .error .nameTooLong
  else tree.follow purpose linkLimit (tree.origin path) path.steps

/-- What a path leads to, which is no link. -/
def node (tree : FileTree) (path : Path) : Except FileError Node := do
  let place ← tree.resolve .read path
  match tree.root.at? place with
  | some node => return node
  | none => throw .notFound

/-- Why the names in the directory that a path leads to are not told, if they are not. -/
def refusal? (tree : FileTree) (path : Path) : Option FileError :=
  match tree.node path with
  | .error cause => some cause
  | .ok (.directory _ access) => access.list?
  | .ok _ => some .notADirectory

/-- The bytes of the file that a path leads to. -/
def read (tree : FileTree) (path : Path) : Except FileError ByteArray := do
  match ← tree.node path with
  | .regular _ content => content
  | .device => return .empty
  | _ => throw .isADirectory

/-- Whether a file could be written at a path. -/
def writable (tree : FileTree) (path : Path) : Except FileError Unit := do
  let place ← tree.resolve .write path
  match tree.root.at? place with
  | some (.directory _ _) => throw .isADirectory
  | _ => return

/-- The root with a directory for each name that leads nowhere, and the place that names lead to
then. -/
def makeWay (root : Node) (links : Nat) (place : List String) :
    List String → Node × List String
  | [] => (root, place)
  | name :: rest =>
    if name == "" || name == "." then makeWay root links place rest
    else if name == ".." then makeWay root links place.dropLast rest
    else match root.at? (place ++ [name]), links with
      | none, links =>
        makeWay (root.put (place ++ [name]) (.directory [])) links (place ++ [name]) rest
      | some (.link target), links + 1 =>
        makeWay root links (if target.isAbsolute then [] else place) (target.steps ++ rest)
      | some _, links => makeWay root links (place ++ [name]) rest
termination_by names => (links, names.length)

/-- The tree with a directory at a path, and those above it. -/
def makeDirectory (tree : FileTree) (path : Path) : FileTree :=
  { tree with root := (makeWay tree.root linkLimit (tree.origin path) path.steps).1 }

/-- The tree with a node at a path, and the directories above it. A link that stands at the path is
followed, unless what is put there is a link. -/
def put (tree : FileTree) (path : Path) (node : Node) : FileTree :=
  let (root, place) := makeWay tree.root linkLimit (tree.origin path) path.steps.dropLast
  let made := { tree with root }
  let last := path.steps.getLast?.toList
  match node with
  | .link _ => { made with root := root.put (place ++ last) node }
  | node =>
    match made.follow .write linkLimit place last with
    | .ok place => { made with root := root.put place node }
    | .error _ => made

end FileTree

end CharLexer
