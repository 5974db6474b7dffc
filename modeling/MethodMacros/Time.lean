/-!
# Times as they are compared

Times are kept in nanoseconds, and compared as binary fractions of seconds with 53 significant
digits: whole seconds plus a billionth for each nanosecond, rounded after the multiplication and
after the addition.  So two times that differ by less than about a quarter of a microsecond can
count as equal.
-/

namespace MethodMacros.Time

/-- The nearest number with at most 53 binary digits before its trailing zeros; of two that are
equally near, the one whose last digit is even. -/
def roundBinary (n : Nat) : Nat :=
  let excess := n.log2 + 1 - 53
  let unit := Nat.pow 2 excess
  let quotient := n / unit
  let remainder := n % unit
  if 2 * remainder > unit ∨ (2 * remainder = unit ∧ quotient % 2 = 1) then (quotient + 1) * unit
  else quotient * unit

/-- The same rounding, away from the sign. -/
def roundSigned : Int → Int
  | .ofNat n => roundBinary n
  | .negSucc n => -(roundBinary (n + 1) : Nat)

/-- The number of binary places that are kept behind the point. -/
def places : Nat := 82

/-- A billionth with 53 significant binary digits, as a multiple of `2 ^ (-places)`. -/
def billionth : Nat := 4835703278458517

/-- A time in nanoseconds, in seconds, as a multiple of `2 ^ (-places)`. -/
def seconds (time : Int) : Int :=
  let whole := time.fdiv 1000000000
  let rest := (time.fmod 1000000000).toNat
  roundSigned (whole * Nat.pow 2 places + roundBinary (rest * billionth))

/-- The first time is not later than the second. -/
def notLater (a b : Int) : Bool := seconds a ≤ seconds b

end MethodMacros.Time
