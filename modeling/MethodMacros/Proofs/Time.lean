import MethodMacros.Time
import Mathlib.Tactic.Ring

/-!
# Rounded times are in order

Times are rounded before they are compared, so two different times may count as equal.  What rounding
never does is to exchange them: `notLater_of_le` says that a time that is not later is not later when
both are rounded.  Each of the three roundings on the way keeps the order.

## Two units

Rounding keeps the order of numbers that are rounded to multiples of the same power of two.  A number
that is rounded to multiples of a smaller power is at most the first one with the greater unit, and
this stays so: it is a multiple of either unit, and `le_roundBinary` and `roundBinary_le` say that
rounding does not pass it.
-/

namespace MethodMacros.Time

/-- The number of binary places that rounding gives up. -/
def excess (n : Nat) : Nat := n.log2 + 1 - 53

/-- Rounds to a multiple of a unit; of two that are equally near, to the even one. -/
def roundTo (unit n : Nat) : Nat :=
  if 2 * (n % unit) > unit ∨ (2 * (n % unit) = unit ∧ n / unit % 2 = 1) then (n / unit + 1) * unit
  else n / unit * unit

theorem roundBinary_eq (n : Nat) : roundBinary n = roundTo (2 ^ excess n) n := rfl

/-! ## One unit -/

section Unit

variable {unit m n : Nat}

theorem le_roundTo (unit n : Nat) : n / unit * unit ≤ roundTo unit n := by
  unfold roundTo
  split
  · exact Nat.mul_le_mul_right unit (Nat.le_succ _)
  · exact Nat.le_refl _

theorem roundTo_le (unit n : Nat) : roundTo unit n ≤ (n / unit + 1) * unit := by
  unfold roundTo
  split
  · exact Nat.le_refl _
  · exact Nat.mul_le_mul_right unit (Nat.le_succ _)

/-- Rounding to multiples of one unit keeps the order. -/
theorem roundTo_mono (h : m ≤ n) : roundTo unit m ≤ roundTo unit n := by
  rcases Nat.lt_or_eq_of_le (Nat.div_le_div_right (c := unit) h) with hlt | heq
  · calc roundTo unit m ≤ (m / unit + 1) * unit := roundTo_le unit m
      _ ≤ n / unit * unit := Nat.mul_le_mul_right unit hlt
      _ ≤ roundTo unit n := le_roundTo unit n
  · -- Both lie between the same multiples, and what is left over decides.
    have hmod : m % unit ≤ n % unit := by
      have hm := Nat.div_add_mod m unit
      have hn := Nat.div_add_mod n unit
      rw [heq] at hm
      omega
    have hup : 2 * (m % unit) > unit ∨ (2 * (m % unit) = unit ∧ m / unit % 2 = 1) →
        2 * (n % unit) > unit ∨ (2 * (n % unit) = unit ∧ n / unit % 2 = 1) := by
      rw [heq]
      omega
    by_cases hm : 2 * (m % unit) > unit ∨ (2 * (m % unit) = unit ∧ m / unit % 2 = 1)
    · rw [roundTo, if_pos hm, roundTo, if_pos (hup hm), heq]
    · rw [roundTo, if_neg hm, heq]
      exact le_roundTo unit n

end Unit

/-! ## Two units -/

variable {m n : Nat}

/-- A rounded number does not pass the next power of two. -/
theorem roundBinary_le (n : Nat) : roundBinary n ≤ 2 ^ (53 + excess n) := by
  have hlt : n < 2 ^ (53 + excess n) := by
    refine Nat.lt_of_lt_of_le Nat.lt_log2_self (Nat.pow_le_pow_right Nat.two_pos ?_)
    unfold excess
    omega
  have hquotient : n / 2 ^ excess n < 2 ^ 53 := by
    rw [Nat.div_lt_iff_lt_mul (Nat.two_pow_pos _), ← Nat.pow_add]
    exact hlt
  calc roundBinary n ≤ (n / 2 ^ excess n + 1) * 2 ^ excess n := roundTo_le _ n
    _ ≤ 2 ^ 53 * 2 ^ excess n := Nat.mul_le_mul_right _ hquotient
    _ = 2 ^ (53 + excess n) := (Nat.pow_add 2 53 _).symm

/-- A rounded number does not fall below the power of two before it, if any places are given up. -/
theorem le_roundBinary (h : 0 < excess n) : 2 ^ (52 + excess n) ≤ roundBinary n := by
  have hlog : n.log2 = 52 + excess n := by
    unfold excess at h ⊢
    omega
  have hne : n ≠ 0 := by
    rintro rfl
    exact absurd h (by decide)
  have hquotient : 2 ^ 52 ≤ n / 2 ^ excess n := by
    rw [Nat.le_div_iff_mul_le (Nat.two_pow_pos _), ← Nat.pow_add, ← hlog]
    exact Nat.log2_self_le hne
  calc 2 ^ (52 + excess n) = 2 ^ 52 * 2 ^ excess n := Nat.pow_add 2 52 _
    _ ≤ n / 2 ^ excess n * 2 ^ excess n := Nat.mul_le_mul_right _ hquotient
    _ ≤ roundBinary n := le_roundTo _ n

theorem excess_mono (h : m ≤ n) : excess m ≤ excess n := by
  have hlog : m.log2 ≤ n.log2 := by
    by_cases hm : m = 0
    · subst hm
      exact Nat.zero_le _
    · exact (Nat.le_log2 (by omega)).mpr (Nat.le_trans (Nat.log2_self_le hm) h)
  unfold excess
  omega

/-- Rounding keeps the order. -/
theorem roundBinary_mono (h : m ≤ n) : roundBinary m ≤ roundBinary n := by
  rcases Nat.lt_or_eq_of_le (excess_mono h) with hlt | heq
  · calc roundBinary m ≤ 2 ^ (53 + excess m) := roundBinary_le m
      _ ≤ 2 ^ (52 + excess n) := Nat.pow_le_pow_right Nat.two_pos (by omega)
      _ ≤ roundBinary n := le_roundBinary (by omega)
  · rw [roundBinary_eq, roundBinary_eq, heq]
    exact roundTo_mono h

theorem roundSigned_mono {a b : Int} (h : a ≤ b) : roundSigned a ≤ roundSigned b := by
  cases a with
  | ofNat m =>
    cases b with
    | ofNat n => exact Int.ofNat_le.mpr (roundBinary_mono (Int.ofNat_le.mp h))
    | negSucc n => exact absurd (Int.le_trans (Int.natCast_nonneg m) h) (by omega)
  | negSucc m =>
    cases b with
    | ofNat n =>
      have hneg : -(roundBinary (m + 1) : Int) ≤ 0 := by omega
      exact Int.le_trans hneg (Int.natCast_nonneg _)
    | negSucc n =>
      have hle : n + 1 ≤ m + 1 := by omega
      exact Int.neg_le_neg (Int.ofNat_le.mpr (roundBinary_mono hle))

/-! ## Seconds -/

/-- The part of a second that nanoseconds make up is at most a second when it is rounded. -/
theorem roundBinary_rest_le {rest : Nat} (h : rest < 1000000000) :
    roundBinary (rest * billionth) ≤ 2 ^ places := by
  have hle : rest * billionth ≤ 2 ^ places := by
    calc rest * billionth ≤ 999999999 * billionth := Nat.mul_le_mul_right _ (by omega)
      _ ≤ 2 ^ places := by decide
  have hsecond : roundBinary (2 ^ places) = 2 ^ places := by decide +kernel
  exact hsecond ▸ roundBinary_mono hle

theorem seconds_mono {a b : Int} (h : a ≤ b) : seconds a ≤ seconds b := by
  have hwhole : a.fdiv 1000000000 ≤ b.fdiv 1000000000 := by
    rw [Int.fdiv_eq_ediv_of_nonneg _ (by decide), Int.fdiv_eq_ediv_of_nonneg _ (by decide)]
    exact Int.ediv_le_ediv (by decide) h
  refine roundSigned_mono ?_
  rcases Int.lt_or_eq_of_le hwhole with hlt | heq
  · have hrest : (a.fmod 1000000000).toNat < 1000000000 := by
      have := Int.fmod_lt_of_pos a (b := 1000000000) (by decide)
      omega
    have hround : (roundBinary ((a.fmod 1000000000).toNat * billionth) : Int) ≤ Nat.pow 2 places :=
      Int.ofNat_le.mpr (roundBinary_rest_le hrest)
    calc a.fdiv 1000000000 * Nat.pow 2 places +
          roundBinary ((a.fmod 1000000000).toNat * billionth)
        ≤ a.fdiv 1000000000 * Nat.pow 2 places + Nat.pow 2 places := Int.add_le_add_left hround _
      _ = (a.fdiv 1000000000 + 1) * Nat.pow 2 places := by ring
      _ ≤ b.fdiv 1000000000 * Nat.pow 2 places :=
          Int.mul_le_mul_of_nonneg_right hlt (Int.natCast_nonneg _)
      _ ≤ _ := Int.le_add_of_nonneg_right (Int.natCast_nonneg _)
  · have hrest : (a.fmod 1000000000).toNat ≤ (b.fmod 1000000000).toNat := by
      have ha := Int.mul_fdiv_add_fmod a 1000000000
      have hb := Int.mul_fdiv_add_fmod b 1000000000
      rw [heq] at ha
      omega
    have hround := roundBinary_mono (Nat.mul_le_mul_right billionth hrest)
    rw [heq]
    exact Int.add_le_add_left (Int.ofNat_le.mpr hround) _

/-- **Order.**  A time that is not later does not count as later. -/
theorem notLater_of_le {a b : Int} (h : a ≤ b) : notLater a b = true :=
  decide_eq_true (seconds_mono h)

theorem notLater_trans {a b c : Int} (hab : notLater a b = true) (hbc : notLater b c = true) :
    notLater a c = true :=
  decide_eq_true (Int.le_trans (of_decide_eq_true hab) (of_decide_eq_true hbc))

end MethodMacros.Time
