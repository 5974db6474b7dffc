import MethodMacros.Text.Blank
import MethodMacros.Text.Numeral

/-!
# Integers in texts

A number in an environment variable or in a pattern may be written with decimal digits of any
script, with single underscores between them, a sign before them, and blanks around it.
-/

namespace MethodMacros.Text

/-- The value of digits after those that gave `n`. -/
def digitsFrom : List Char → Option Nat → Option Nat
  | [], n => n
  | '_' :: c :: rest, some n => do digitsFrom rest (some (n * 10 + (← decimalValue? c)))
  | c :: rest, n => do digitsFrom rest (some (n.getD 0 * 10 + (← decimalValue? c)))

/-- A text without the blanks around it. -/
def trimBlanks (s : List Char) : List Char :=
  ((s.dropWhile isBlank).reverse.dropWhile isBlank).reverse

/-- Reads an integer. -/
def integer? (s : List Char) : Option Int :=
  match trimBlanks s with
  | '+' :: digits => (digitsFrom digits none).map Int.ofNat
  | '-' :: digits => (digitsFrom digits none).map fun n => -(n : Int)
  | digits => (digitsFrom digits none).map Int.ofNat

end MethodMacros.Text
