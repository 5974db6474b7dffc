import MethodMacros.Text.Numeral
import MethodMacros.Text.UpperCase

/-!
# Macro stems and guard tokens

A method name in camel case becomes the stem of its macros: upper case throughout, with an
underscore at each word boundary.  A word begins at an upper-case letter that follows a lower-case
letter, with nothing but digits between the two; so value2X gives VALUE2_X, and URL stays whole.

A class name becomes part of an include guard by turning its dots into underscores.
-/

namespace MethodMacros.Naming

open MethodMacros.Text

/-- Whether a lower-case letter has been seen, counting `c`, with only digits after it. -/
def stillAfterLower (afterLower : Bool) (c : Char) : Bool :=
  changesInUpper c || (isDigit c && afterLower)

/-- The stem of a name that continues a word.  The flag says whether the characters before end in
a lower-case letter and digits. -/
def stemFrom : Bool → List Char → List Char
  | _, [] => []
  | afterLower, c :: rest =>
      (if isUpper c && afterLower then '_' :: upper c else upper c) ++
        stemFrom (stillAfterLower afterLower c) rest

/-- The stem of the macros for a method. -/
def macroStem (name : String) : String :=
  String.ofList (stemFrom false name.toList)

/-- A class name as part of a guard: each dot is an underscore. -/
def guardToken (className : String) : String :=
  String.ofList (className.toList.map fun c => if c = '.' then '_' else c)

end MethodMacros.Naming
