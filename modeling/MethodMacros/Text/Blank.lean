/-!
# Blanks and line boundaries

Which characters count as blank depends on who asks: a pattern in its Unicode mode takes the
separators of all scripts, in its ASCII mode six control characters and the space.
-/

namespace MethodMacros.Text

/-- A blank of any script: the bidirectional classes of white space and separators, and the
general category of spaces. -/
def isBlank (c : Char) : Bool :=
  let n := c.toNat
  (9 ≤ n && n ≤ 13) || (28 ≤ n && n ≤ 32) || n == 0x85 || n == 0xA0 || n == 0x1680 ||
    (0x2000 ≤ n && n ≤ 0x200A) || n == 0x2028 || n == 0x2029 || n == 0x202F || n == 0x205F ||
    n == 0x3000

/-- A blank of the ASCII range: tab, line feed, vertical tab, form feed, carriage return, space. -/
def isAsciiBlank (c : Char) : Bool :=
  let n := c.toNat
  (9 ≤ n && n ≤ 13) || n == 32

/-- A character that ends a line of captured output. -/
def isLineBoundary (c : Char) : Bool :=
  let n := c.toNat
  (10 ≤ n && n ≤ 13) || (28 ≤ n && n ≤ 30) || n == 0x85 || n == 0x2028 || n == 0x2029

end MethodMacros.Text
