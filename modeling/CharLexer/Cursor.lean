/-!
# Cursors

A cursor is a text and a place in it, which is never past its end. It looks at the character
there, moves past it, and stands still at the end. A cursor is a value: to return to a place, keep
the cursor that stands there.
-/
namespace CharLexer

/-- A text and the number of its characters already read. -/
structure Cursor where
  /-- The characters of the text. -/
  text : Array Char
  /-- How many of them have been read. -/
  position : Nat
  /-- No more have been read than there are. -/
  position_le : position ≤ text.size

namespace Cursor

/-- A cursor at the start of a text. -/
def ofString (text : String) : Cursor := ⟨text.toList.toArray, 0, Nat.zero_le _⟩

/-- The number of characters of the text. -/
def length (cursor : Cursor) : Nat := cursor.text.size

/-- Whether the text has no character. -/
def isEmpty (cursor : Cursor) : Bool := cursor.text.isEmpty

/-- Whether a character is left to read. -/
def hasMore (cursor : Cursor) : Bool := cursor.position < cursor.text.size

/-- Whether every character has been read. -/
def atEnd (cursor : Cursor) : Bool := cursor.text.size ≤ cursor.position

/-- The next character, without reading it. -/
def peek? (cursor : Cursor) : Option Char := cursor.text[cursor.position]?

/-- Read the next character. -/
def next (cursor : Cursor) : Option Char × Cursor :=
  if more : cursor.position < cursor.text.size then
    (some cursor.text[cursor.position], ⟨cursor.text, cursor.position + 1, more⟩)
  else (none, cursor)

/-- Read so many characters, or all that are left. -/
def advance (cursor : Cursor) : Nat → Cursor
  | 0 => cursor
  | count + 1 => cursor.next.2.advance count

/-- The characters left to read. -/
def rest (cursor : Cursor) : List Char := cursor.text.toList.drop cursor.position

/-- The cursor after every character has been read. -/
def toEnd (cursor : Cursor) : Cursor := ⟨cursor.text, cursor.length, Nat.le_refl _⟩

end Cursor

end CharLexer
