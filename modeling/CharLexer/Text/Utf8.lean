/-!
# Texts as bytes

Bytes are a text when they are well-formed UTF-8. Where they are not, the place of the fault is the
length of the longest part from the front that is.
-/
namespace CharLexer

/-- The end of the well-formed part that continues at a place: one character after another is
read until none can be. -/
def wellFormedEnd (bytes : ByteArray) (place : Nat) : Nat :=
  if _inside : place < bytes.size then
    match bytes.utf8DecodeChar? place with
    | some c => wellFormedEnd bytes (place + c.utf8Size)
    | none => place
  else place
termination_by bytes.size - place
decreasing_by
  have := c.utf8Size_pos
  omega

/-- The text that the bytes are, or the length of their longest well-formed part from the front. -/
def textOfBytes (bytes : ByteArray) : Except Nat String :=
  match String.fromUTF8? bytes with
  | some text => .ok text
  | none => .error (wellFormedEnd bytes 0)

end CharLexer
