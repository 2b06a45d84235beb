/-!
# Blank characters

The blank characters are those of the Unicode `White_Space` property: the ASCII controls from
tab to carriage return, the space, next line, no-break space, the ogham space mark, the
spaces from en quad to hair space, the line and paragraph separators, the narrow no-break
space, the medium mathematical space and the ideographic space. Trimming drops blanks from
both ends of a text.
-/

namespace PinballScout

namespace Text

/-- Whether a character has the Unicode `White_Space` property. -/
def isBlank (c : Char) : Bool :=
  let n := c.toNat
  (0x09 ≤ n && n ≤ 0x0D) || n == 0x20 || n == 0x85 || n == 0xA0 || n == 0x1680 ||
    (0x2000 ≤ n && n ≤ 0x200A) || n == 0x2028 || n == 0x2029 || n == 0x202F ||
    n == 0x205F || n == 0x3000

/-- A text without its leading and trailing blanks. -/
def trimBlank (s : String) : String :=
  String.ofList ((s.toList.dropWhile isBlank).reverse.dropWhile isBlank).reverse

end Text

end PinballScout
