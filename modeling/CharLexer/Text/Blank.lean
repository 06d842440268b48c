/-!
# Blank characters

A character is blank when it has the Unicode property `White_Space`: twenty-five characters, among
them the next-line control, the no-break space and the two separators, and not the zero-width ones.
-/
namespace CharLexer

/-- Whether a character has the Unicode property `White_Space`. -/
def isBlank (c : Char) : Bool :=
  let code := c.toNat
  (0x09 ≤ code && code ≤ 0x0D) || code == 0x20 || code == 0x85 || code == 0xA0 ||
    code == 0x1680 || (0x2000 ≤ code && code ≤ 0x200A) || code == 0x2028 || code == 0x2029 ||
    code == 0x202F || code == 0x205F || code == 0x3000

/-- The characters without the blank ones at the end. -/
def dropBlankEnd (text : List Char) : List Char :=
  (text.reverse.dropWhile isBlank).reverse

/-- A text without the blank characters at its end. -/
def trimBlankEnd (text : String) : String :=
  String.ofList (dropBlankEnd text.toList)

/-- A text without the blank characters at its two ends. -/
def trimBlank (text : String) : String :=
  String.ofList (dropBlankEnd (text.toList.dropWhile isBlank))

end CharLexer
