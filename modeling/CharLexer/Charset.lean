import CharLexer.Text.Quoted
import Std.Data.HashSet

/-!
# Sets of characters

A set is given by a text that lists its characters. Membership is decided by one bit for each
character below 128 and by a hash set of code points for the others. Two sets are equal only when
their texts are: a set remembers how it was written.
-/
namespace CharLexer

/-- A set of characters with the text that lists them. -/
structure Charset where
  /-- The text that lists the characters. -/
  text : String
  /-- A bit for each member below 128. -/
  low : BitVec 128
  /-- The code points of the other members. -/
  high : Std.HashSet UInt32

namespace Charset

/-- Make a character a member, whatever the text says. -/
def insert (set : Charset) (c : Char) : Charset :=
  if c.toNat < 128 then { set with low := set.low ||| BitVec.twoPow 128 c.toNat }
  else { set with high := set.high.insert c.val }

/-- The set of the characters of a text. -/
def ofString (text : String) : Charset :=
  text.toList.foldl insert ⟨text, 0#128, ∅⟩

/-- Whether a character is a member. -/
def contains (set : Charset) (c : Char) : Bool :=
  if c.toNat < 128 then set.low.getLsbD c.toNat else set.high.contains c.val

/-- Whether the set has no member. -/
def isEmpty (set : Charset) : Bool := set.low == 0#128 && set.high.isEmpty

/-- How a set is shown: by its text, quoted. -/
def describe (set : Charset) : String := "CharSet(" ++ quoted set.text ++ ")"

/-- Two sets are equal when their texts and their members are. -/
instance : BEq Charset where
  beq first second :=
    first.text == second.text && first.low == second.low && first.high.beq second.high

end Charset

end CharLexer
