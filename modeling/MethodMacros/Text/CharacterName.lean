import MethodMacros.Text.CharacterName.Aliases
import MethodMacros.Text.CharacterName.BasicPlane
import MethodMacros.Text.CharacterName.Hangul
import MethodMacros.Text.CharacterName.HigherPlanes
import MethodMacros.Text.CharacterName.Packed
import MethodMacros.Text.CodePoints

/-!
# Names of characters

Each character has a name, and some have aliases.  Names are looked up without regard to the case of
letters, apart from those that follow a rule: the name of a Hangul syllable is built from its parts,
and that of a unified ideograph ends in its code point.
-/

namespace MethodMacros.Text

namespace CharacterName

/-- The code points of unified ideographs. -/
def unifiedIdeographs : List (Nat × Nat) :=
  [(0x3400, 0x4DBF), (0x4E00, 0x9FFF), (0x20000, 0x2A6DF), (0x2A700, 0x2B738), (0x2B740, 0x2B81D),
    (0x2B820, 0x2CEA1), (0x2CEB0, 0x2EBE0), (0x30000, 0x3134A)]

/-- A hexadecimal digit as names have them. -/
def isNameDigit (c : Char) : Bool := c.isDigit || ('A' ≤ c && c ≤ 'F')

/-- The unified ideograph with the given code point, which is written with four or five digits. -/
def unifiedIdeograph? (digits : List Char) : Option Nat :=
  let n := number 16 digits
  if (digits.length = 4 || digits.length = 5) && digits.all isNameDigit &&
      inIntervals unifiedIdeographs n then some n
  else none

/-- What is left of a text after a beginning. -/
def after? (start : String) (s : List Char) : Option (List Char) :=
  if start.toList.isPrefixOf s then some (s.drop start.length) else none

/-- The code point of a name that follows no rule. -/
def inTables (name : List Char) : Option Nat :=
  let words := splitAt ' ' (name.map Char.toUpper)
  ((findInTable basicPlane words).or (findInTable higherPlanes words)).or
    (findInTable aliases words)

end CharacterName

open CharacterName in
/-- The code point of the character with a given name. -/
def namedCharacter? (name : List Char) : Option Nat :=
  match after? "HANGUL SYLLABLE " name, after? "CJK UNIFIED IDEOGRAPH-" name with
  | some syllable, _ => hangulSyllable? syllable
  | none, some digits => unifiedIdeograph? digits
  | none, none => inTables name

end MethodMacros.Text
