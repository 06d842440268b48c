/-!
# Padding

A text narrower than its field is filled up with spaces; a wider one keeps its full length.
-/
namespace CharLexer

/-- Where a text stands in a field wider than itself. -/
inductive Alignment
  | left
  | right
  | center
  deriving DecidableEq

/-- So many spaces. -/
def spaces (count : Nat) : String :=
  String.ofList (List.replicate count ' ')

/-- Fill a text up to a width; the odd space of a centered text goes to its right. -/
def pad (alignment : Alignment) (width : Nat) (text : String) : String :=
  let missing := width - text.length
  match alignment with
  | .left => text ++ spaces missing
  | .right => spaces missing ++ text
  | .center => spaces (missing / 2) ++ text ++ spaces (missing - missing / 2)

/-- The text cut to a length. -/
def cut (length : Nat) (text : String) : String :=
  String.ofList (text.toList.take length)

end CharLexer
