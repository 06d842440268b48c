/-!
# Paths

A path is a text whose names are separated by slashes. Repeated slashes count as one. A path that
starts with a slash is absolute and replaces what it is joined to. Single dots count only at the
front of a relative path when a parent is taken. A path whose bytes are no text is not described.
-/
namespace CharLexer

/-- A path, as it is written. -/
structure Path where
  text : String
  deriving DecidableEq

namespace Path

/-- The pieces of a text between slashes, at least one. -/
def splitSlashes : List Char → List (List Char)
  | [] => [[]]
  | '/' :: rest => [] :: splitSlashes rest
  | c :: rest =>
    match splitSlashes rest with
    | [] => [[c]]
    | piece :: pieces => (c :: piece) :: pieces

/-- The pieces of a path between slashes. -/
def pieces (path : Path) : List String :=
  (splitSlashes path.text.toList).map String.ofList

/-- Whether the path starts at the root. -/
def isAbsolute (path : Path) : Bool := path.text.toList.head? == some '/'

/-- The names of a path. -/
def names (path : Path) : List String := path.pieces.filter fun piece => !piece.isEmpty

/-- The names to be followed one after another. A slash at the end asks for a directory; it is an
empty name behind the others. -/
def steps (path : Path) : List String :=
  if path.text.toList.getLast? == some '/' then path.names ++ [""] else path.names

/-- A path below another. -/
def join (path below : Path) : Path :=
  if below.isAbsolute then below
  else if path.text.isEmpty || path.text.toList.getLast? == some '/' then
    ⟨path.text ++ below.text⟩
  else ⟨path.text ++ "/" ++ below.text⟩

/-- Pieces, last first, without the empty ones and the dots in front; a dot that is the only piece
left stays. -/
def dropIdle : List String → List String
  | [] => []
  | [piece] => [piece]
  | piece :: rest => if piece == "" || piece == "." then dropIdle rest else piece :: rest

/-- The path without its last name. The root and the empty path have none. -/
def parent? (path : Path) : Option Path :=
  match dropIdle path.pieces.reverse with
  | [] => none
  | [piece] => if piece == "" then none else some ⟨""⟩
  | _ :: rest =>
    match dropIdle rest with
    | [""] => some ⟨"/"⟩
    | rest => some ⟨String.intercalate "/" rest.reverse⟩

end Path

end CharLexer
