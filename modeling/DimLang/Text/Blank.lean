/-!
# Blank characters

The blanks of the language are the white space characters of the whole character set, not only
those of its first 128 code points.

- `isBlank` decides whether a character is blank
- `trimStart`, `trimEnd` and `trim` remove blanks at the ends of a text
-/

namespace DimLang.Text

/-- Whether the character is white space: the five controls from tab to carriage return, the
space, the two spaces of the next 128 code points, and the spaces and separators beyond them. -/
def isBlank (c : Char) : Bool :=
  let n := c.toNat
  (9 ≤ n && n ≤ 13) || n == 0x20 || n == 0x85 || n == 0xA0 || n == 0x1680
    || (0x2000 ≤ n && n ≤ 0x200A) || n == 0x2028 || n == 0x2029 || n == 0x202F
    || n == 0x205F || n == 0x3000

/-- The text without its leading blanks. -/
def trimStart (cs : List Char) : List Char :=
  cs.dropWhile isBlank

/-- The text without its trailing blanks. -/
def trimEnd (cs : List Char) : List Char :=
  (cs.reverse.dropWhile isBlank).reverse

/-- The text without leading and trailing blanks. -/
def trim (cs : List Char) : List Char :=
  trimEnd (trimStart cs)

end DimLang.Text
