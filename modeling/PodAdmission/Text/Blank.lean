/-!
# White space

The characters with the Unicode property White_Space, and cutting them off a text. Container
commands, the configured runtime class and the lenient time reader use this class; the white space
between JSON tokens is a smaller one.
-/

namespace PodAdmission

/-- The character has the property White_Space. -/
def isBlank (c : Char) : Bool :=
  let n := c.toNat
  (0x09 ≤ n && n ≤ 0x0D) || n == 0x20 || n == 0x85 || n == 0xA0 || n == 0x1680
    || (0x2000 ≤ n && n ≤ 0x200A) || n == 0x2028 || n == 0x2029 || n == 0x202F || n == 0x205F
    || n == 0x3000

namespace Text

/-- Without the blanks that a character sequence starts with. -/
def dropBlanks (cs : List Char) : List Char :=
  cs.dropWhile isBlank

/-- Without the blanks that a text starts or ends with. -/
def trim (s : String) : String :=
  String.ofList (dropBlanks (dropBlanks s.toList).reverse).reverse

end Text

end PodAdmission
