/-!
# Tables of code points

A property of characters is a table over code points.  Three shapes occur: closed intervals,
progressions with a fixed step, which suit scripts whose upper-case and lower-case letters
alternate, and runs, which are progressions that also say where each member is mapped.  All tables
are sorted, so a search ends at the first entry that starts beyond the code point sought.
-/

namespace MethodMacros.Text

/-- The code point lies in one of the closed intervals. -/
def inIntervals : List (Nat × Nat) → Nat → Bool
  | [], _ => false
  | (lo, hi) :: rest, n =>
      if n < lo then false else if n ≤ hi then true else inIntervals rest n

/-- The code point lies in one of the progressions `(first, last, step)`. -/
def inProgressions : List (Nat × Nat × Nat) → Nat → Bool
  | [], _ => false
  | (first, last, step) :: rest, n =>
      if n < first then false
      else if n ≤ last ∧ (n - first) % step = 0 then true
      else inProgressions rest n

/-- Where the runs `(first, last, step, image of first)` map a code point, if it is in one. -/
def imageInRuns : List (Nat × Nat × Nat × Nat) → Nat → Option Nat
  | [], _ => none
  | (first, last, step, image) :: rest, n =>
      if n < first then none
      else if n ≤ last ∧ (n - first) % step = 0 then some (image + (n - first))
      else imageInRuns rest n

/-- The code points that the runs map to `n`. -/
def preimagesInRuns : List (Nat × Nat × Nat × Nat) → Nat → List Nat
  | [], _ => []
  | (first, last, step, image) :: rest, n =>
      if image ≤ n ∧ n - image ≤ last - first ∧ (n - image) % step = 0 then
        (first + (n - image)) :: preimagesInRuns rest n
      else preimagesInRuns rest n

/-- The least multiple of `step` that is at least `n`. -/
def nextMultiple (step n : Nat) : Nat :=
  (n + step - 1) / step * step

/-- Some member of the runs lies between `lo` and `hi`. -/
def runsMeet (runs : List (Nat × Nat × Nat × Nat)) (lo hi : Nat) : Bool :=
  runs.any fun (first, last, step, _) =>
    let member := first + nextMultiple step (lo - first)
    member ≤ last && member ≤ hi

end MethodMacros.Text
