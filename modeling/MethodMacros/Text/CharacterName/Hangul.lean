/-!
# Names of Hangul syllables

A syllable has an initial consonant, a vowel and possibly a final consonant, each with a short name, and
its own name strings these together.  The syllables are in the order of the three parts.
-/

namespace MethodMacros.Text.CharacterName

/-- The initial consonants. -/
def hangulInitials : List String :=
  ["G", "GG", "N", "D", "DD", "R", "M", "B", "BB", "S", "SS", "", "J", "JJ", "C", "K", "T", "P", "H"]

/-- The vowels. -/
def hangulVowels : List String :=
  ["A", "AE", "YA", "YAE", "EO", "E", "YEO", "YE", "O", "WA", "WAE", "OE", "YO", "U", "WEO", "WE", "WI",
    "YU", "EU", "YI", "I"]

/-- The final consonants, of which the first is none. -/
def hangulFinals : List String :=
  ["", "G", "GG", "GS", "N", "NJ", "NH", "D", "L", "LG", "LM", "LB", "LS", "LT", "LP", "LH", "M", "B",
    "BS", "S", "SS", "NG", "J", "C", "K", "T", "P", "H"]

/-- Letters that only vowels are written with. -/
def isVowelLetter (c : Char) : Bool := "AEIOUWY".toList.contains c

/-- The first Hangul syllable. -/
def firstHangulSyllable : Nat := 0xAC00

/-- The Hangul syllable with the given short name. -/
def hangulSyllable? (s : List Char) : Option Nat := do
  let start := s.takeWhile (!isVowelLetter ·)
  let rest := s.dropWhile (!isVowelLetter ·)
  let i ← hangulInitials.idxOf? (String.ofList start)
  let v ← hangulVowels.idxOf? (String.ofList (rest.takeWhile isVowelLetter))
  let f ← hangulFinals.idxOf? (String.ofList (rest.dropWhile isVowelLetter))
  return firstHangulSyllable + (i * hangulVowels.length + v) * hangulFinals.length + f

end MethodMacros.Text.CharacterName
