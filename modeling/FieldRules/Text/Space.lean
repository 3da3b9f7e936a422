/-!
# White space

`isSpace` is the property `White_Space` of the Unicode standard.  `trim` takes such characters off
both ends of a text.
-/

set_option autoImplicit false

namespace FieldRules.Text

/-- Whether a character is white space. -/
def isSpace (c : Char) : Bool :=
  let n := c.toNat
  (9 ≤ n && n ≤ 13) || n == 0x20 || n == 0x85 || n == 0xA0 || n == 0x1680 ||
    (0x2000 ≤ n && n ≤ 0x200A) || n == 0x2028 || n == 0x2029 || n == 0x202F || n == 0x205F ||
    n == 0x3000

/-- Drops from the end the characters that satisfy a test. -/
def dropEndWhile (p : Char → Bool) (cs : List Char) : List Char :=
  (cs.reverse.dropWhile p).reverse

/-- Takes from both ends the characters that satisfy a test. -/
def trimBy (p : Char → Bool) (cs : List Char) : List Char :=
  dropEndWhile p (cs.dropWhile p)

/-- Takes the white space from both ends. -/
def trim (cs : List Char) : List Char :=
  trimBy isSpace cs

end FieldRules.Text
