import MethodMacros.Failure
import MethodMacros.Proofs.Host.Questions

/-!
# Failures that escape

A command line reports the failures that it expects.  Any other failure escapes: it ends the program
as it is, without an exit code.  Whether a long action ends so is told from its steps, and where a
step only asks questions, from what it finds out.

* `Escapes`: a result is a failure that is not reported.
* `escapes_bind`, `escapes_mapM`, `escapes_mapError_file`: computations that may fail.
* `escapes_on_bind`: an action escapes if its first part does, or if what comes after it does on the
  host that it has left.
* `Finds.escapes_bind`: if the first part asks questions, the rest can be told on any host that
  agrees with the one at the beginning.
-/

namespace MethodMacros

variable {α β : Type}

/-- A result is a failure that the command line does not report. -/
def Escapes (x : Except Failure α) : Prop := ∃ f, x = .error f ∧ f.isReported = false

@[simp] theorem escapes_ok (a : α) : Escapes (.ok a) ↔ False := by simp [Escapes]

@[simp] theorem escapes_error (f : Failure) :
    Escapes (.error f : Except Failure α) ↔ f.isReported = false := by simp [Escapes]

@[simp] theorem escapes_pure (a : α) : Escapes (pure a) ↔ False := escapes_ok a

@[simp] theorem escapes_throw (f : Failure) :
    Escapes (throw f : Except Failure α) ↔ f.isReported = false := escapes_error f

/-- A computation escapes in one of its steps. -/
theorem escapes_bind {x : Except Failure α} {f : α → Except Failure β} :
    Escapes (x >>= f) ↔ Escapes x ∨ ∃ a, x = .ok a ∧ Escapes (f a) := by
  cases x with
  | error e => simp
  | ok a => simp

@[simp] theorem escapes_map (f : α → β) (x : Except Failure α) :
    Escapes (f <$> x) ↔ Escapes x := by
  cases x with
  | error e => exact (escapes_error e).trans (escapes_error e).symm
  | ok a => exact (escapes_ok (f a)).trans (escapes_ok a).symm

/-- Where no failure is reported, going through a list escapes if it does for one of its members. -/
theorem escapes_mapM {f : α → Except Failure β} {xs : List α}
    (hf : ∀ x failure, f x = .error failure → failure.isReported = false) :
    Escapes (xs.mapM f) ↔ ∃ x ∈ xs, Escapes (f x) := by
  constructor
  · rintro ⟨failure, hfailure, hreported⟩
    obtain ⟨x, hx, heq⟩ := exists_eq_error_of_mapM hfailure
    exact ⟨x, hx, failure, heq, hreported⟩
  · rintro ⟨x, hx, failure, heq, -⟩
    obtain ⟨first, hfirst⟩ := exists_mapM_eq_error hx heq
    obtain ⟨y, -, hy⟩ := exists_eq_error_of_mapM hfirst
    exact ⟨first, hfirst, hf y first hy⟩

/-- Errors about files are not reported, unless they are given another meaning. -/
@[simp] theorem escapes_mapError_file {x : Except FileError α} :
    Escapes (x.mapError .file) ↔ ∃ e, x = .error e := by
  cases x with
  | error e => simp [Failure.isReported]
  | ok a => simp

namespace Action

variable {h cur : Host}

/-- An action escapes in one of its steps. -/
theorem escapes_on_bind (a : Action Failure α) (f : α → Action Failure β) (h : Host) :
    Escapes ((a >>= f).on h).1 ↔ Escapes (a.on h).1 ∨
      ∃ x after, a.on h = (.ok x, after) ∧ Escapes ((f x).on after).1 := by
  rw [on_bind]
  rcases a.on h with ⟨e | x, after⟩
  · simp
  · constructor
    · intro hescapes
      exact .inr ⟨x, after, rfl, hescapes⟩
    · rintro (hescapes | ⟨y, last, heq, hescapes⟩)
      · exact absurd hescapes (escapes_ok x).mp
      · cases heq
        exact hescapes

/-- After questions an action escapes on account of what they found out. -/
theorem Finds.escapes_bind {a : Action Failure α} {f : α → Action Failure β}
    {result : Except Failure α} {P : α → Prop} (ha : a.Finds h result) (hagrees : h.Agrees cur)
    (hf : ∀ x after, result = .ok x → h.Agrees after → (Escapes ((f x).on after).1 ↔ P x)) :
    Escapes ((a >>= f).on cur).1 ↔ Escapes result ∨ ∃ x, result = .ok x ∧ P x := by
  obtain ⟨hresult, hafter⟩ := ha cur hagrees
  cases result with
  | error e =>
    rw [on_bind_error hresult]
    simp
  | ok x =>
    rw [on_bind_ok hresult]
    simpa using hf x _ rfl hafter

/-- Nothing escapes while something is said. -/
theorem escapes_tell_bind {m : Message} {f : Unit → Action Failure β} {P : Prop}
    (hagrees : h.Agrees cur)
    (hf : ∀ after, h.Agrees after → (Escapes ((f ()).on after).1 ↔ P)) :
    Escapes ((tell m >>= f).on cur).1 ↔ P := by
  have htell : (tell m : Action Failure Unit).Finds h (.ok ()) := .request rfl
  rw [htell.escapes_bind hagrees fun _ after _ => hf after]
  simp

/-- What questions ended with is found out. -/
theorem Finds.escapes {a : Action Failure α} {result : Except Failure α} (ha : a.Finds h result)
    (hagrees : h.Agrees cur) : Escapes (a.on cur).1 ↔ Escapes result := by
  rw [(ha cur hagrees).1]

end Action

end MethodMacros
