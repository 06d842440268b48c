import CharLexer.Files.Tree

/-!
# Walks

A walk lists the regular files below a directory, each by the names that lead to it. The entries of
a directory are taken in ascending order of their names, and a directory among them is walked in its
place. Links and devices are not listed, and links are not followed. Names are compared by code
points, which is the order of their bytes. The first directory that does not tell its names ends the
walk: a walk that goes on is complete.
-/
namespace CharLexer

/-- Why a walk ends early: a directory, so many names below the one where the walk started, does not
tell its names. -/
structure WalkError where
  depth : Nat
  path : Path
  cause : FileError
  deriving DecidableEq

/-- All that is known of an error, as its fields. -/
def WalkError.fields (error : WalkError) : String :=
  "Error \x7b depth: " ++ toString error.depth ++ ", inner: Io \x7b path: Some(" ++
    quotedPath error.path.text ++ "), err: " ++ error.cause.fields ++ " \x7d \x7d"

/-- Whether an entry comes before another, or both have one name. -/
def nameLe {α : Type} (first second : String × α) : Bool := decide (first.1 ≤ second.1)

/-- What the entries of a directory hold, one after another, with the name of each in front. -/
def gather : List (String × Except WalkError (List (List String))) →
    Except WalkError (List (List String))
  | [] => .ok []
  | (name, found) :: rest => do
    let here ← found
    let later ← gather rest
    return here.map (name :: ·) ++ later

mutual

/-- The names that lead to each file below a directory, which is at a path and so many names below
the start; without depth only to those directly in it. Why the directory at a path does not tell its
names is asked of `refusal?`. -/
def Node.walk (refusal? : Path → Option FileError) (deep : Bool) (depth : Nat) (path : Path) :
    Node → Except WalkError (List (List String))
  | .directory entries _ =>
    match refusal? path with
    | some cause => .error ⟨depth, path, cause⟩
    | none => gather ((walkEntries refusal? deep depth path entries).mergeSort nameLe)
  | _ => .ok []

/-- The names behind that of each entry of a directory that lead to the files there. -/
def walkEntries (refusal? : Path → Option FileError) (deep : Bool) (depth : Nat) (path : Path) :
    List (String × Node) → List (String × Except WalkError (List (List String)))
  | [] => []
  | (name, child) :: rest =>
    let found := match child with
      | .regular _ _ => .ok [[]]
      | .directory _ _ =>
        if deep then child.walk refusal? deep (depth + 1) (path.join ⟨name⟩) else .ok []
      | _ => .ok []
    (name, found) :: walkEntries refusal? deep depth path rest

end

/-- The path that some names lead to from another. -/
def Path.below (path : Path) (names : List String) : Path :=
  names.foldl (fun above name => above.join ⟨name⟩) path

/-- The paths of the files below a directory of the tree, whose path is given. -/
def FileTree.filesBelow (tree : FileTree) (deep : Bool) (path : Path) (directory : Node) :
    Except WalkError (List Path) := do
  let found ← directory.walk tree.refusal? deep 0 path
  return found.map path.below

end CharLexer
