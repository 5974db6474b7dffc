import MethodMacros.Text.Split

/-!
# Packed tables of names

The names of neighbouring characters often begin with the same words.  A packed table is a text of rows
that end in semicolons.  A row like `@0041` tells the code point that the next name belongs to, in
hexadecimal digits; without such a row a name belongs to the code point after the last one.  A row like
`3 B` is a name: it begins with the first three words of the name before it, and goes on with `B`.  Line
breaks do not count.
-/

namespace MethodMacros.Text.CharacterName

/-- A name, as the list of its words. -/
abbrev Words := List (List Char)

/-- The number that digits stand for in a base up to sixteen. -/
def number (base : Nat) (digits : List Char) : Nat :=
  digits.foldl
    (fun n c => n * base + (if c ≤ '9' then c.toNat - '0'.toNat else c.toNat - 'A'.toNat + 10)) 0

/-- One row of a packed table. -/
inductive Row where
  | position (codePoint : Nat)
  | name (shared : Nat) (more : Words)
  deriving DecidableEq, Repr

/-- Reads a row. -/
def Row.ofText : List Char → Row
  | '@' :: digits => .position (number 16 digits)
  | row =>
      match splitAt ' ' row with
      | [] => .name 0 []
      | shared :: more => .name (number 10 shared) more

/-- Looks for a name among rows; `next` is the code point of the next name, and `last` is the name before
it. -/
def findInRows (sought : Words) : Nat → Words → List (List Char) → Option Nat
  | _, _, [] => none
  | next, last, text :: rest =>
      match Row.ofText text with
      | .position codePoint => findInRows sought codePoint last rest
      | .name shared more =>
          let words := last.take shared ++ more
          if words = sought then some next else findInRows sought (next + 1) words rest

/-- The code point of a name in a packed table. -/
def findInTable (table : String) (sought : Words) : Option Nat :=
  findInRows sought 0 [] ((splitAt ';' (table.toList.filter (· != '\n'))).filter (!·.isEmpty))

end MethodMacros.Text.CharacterName
