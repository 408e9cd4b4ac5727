/-!
# Blank characters

White space as the Unicode property `White_Space` has it, and the trimming of texts by it.  The
narrower set of ASCII blanks, without the vertical tab, is the one that applies to raw bytes.
-/

namespace SmartScale

namespace Text

/-- The character has the property `White_Space`. -/
def isBlank (c : Char) : Bool :=
  let n := c.toNat
  (9 ≤ n && n ≤ 13) || n == 0x20 || n == 0x85 || n == 0xA0 || n == 0x1680 ||
    (0x2000 ≤ n && n ≤ 0x200A) || n == 0x2028 || n == 0x2029 || n == 0x202F || n == 0x205F ||
    n == 0x3000

/-- The byte is a blank, tab, line feed, form feed or carriage return. -/
def isBlankByte (b : UInt8) : Bool := b == 32 || b == 9 || b == 10 || b == 12 || b == 13

/-- Removes the elements at the end that a test accepts. -/
def dropEndWhile {α : Type} (test : α → Bool) (xs : List α) : List α :=
  (xs.reverse.dropWhile test).reverse

/-- Removes the elements at both ends that a test accepts. -/
def trimBy {α : Type} (test : α → Bool) (xs : List α) : List α :=
  dropEndWhile test (xs.dropWhile test)

/-- Removes the white space at both ends. -/
def trim (text : List Char) : List Char := trimBy isBlank text

end Text

end SmartScale
