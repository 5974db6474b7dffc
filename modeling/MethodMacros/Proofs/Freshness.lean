import MethodMacros.Freshness
import MethodMacros.Proofs.Escaping
import MethodMacros.Proofs.Host.Asking

/-!
# What is up to date

Whether a header is up to date with its source is asked and not remembered.  The answer is a truth
value unless it cannot be told what one of the two paths leads to; their times are only asked for
when both lead to files, and then they can be told.

* `Host.modifiedAt`, `Host.freshness`: the answers, as computations about a host.
* `finds_isUpToDate`: they are what the action finds out.
* `exists_freshness_eq_error`: when there is no answer.
-/

namespace MethodMacros

open MethodMacros.Action

/-- An answer that was found out is the result of an attempt. -/
theorem finds_attempt {α : Type} {a : Action FileError (Except FileError α)} {h : Host}
    {result : Except FileError α} (ha : a.Finds h (.ok result)) : (attempt a).Finds h result := by
  refine .bind_ok ha ?_
  cases result with
  | error e => exact .throw e
  | ok x => exact .pure x

namespace Host

variable {h : Host} {path : String}

/-- The time of the last change of what a path leads to. -/
def modifiedAt (h : Host) (path : String) : Except FileError Int :=
  (askedAt path (h.files.status h.folder path)).map Status.modified

/-- The second path leads to a file that is at least as new as the one of the first. -/
def freshness (h : Host) (source output : Path) : Except FileError Bool := do
  if !(← h.tellsKind .file (toString source)) then return false
  if !(← h.tellsKind .file (toString output)) then return false
  return Time.notLater (← h.modifiedAt (toString source)) (← h.modifiedAt (toString output))

theorem IsKind.of_agrees {cur : Host} {kind : EntryKind} (hkind : h.IsKind kind path)
    (hagrees : h.Agrees cur) : cur.IsKind kind path := by
  obtain ⟨_, _, rfl⟩ := hagrees
  exact hkind

theorem IsKind.exists_modifiedAt {kind : EntryKind} (hkind : h.IsKind kind path) :
    ∃ time, h.modifiedAt path = .ok time := by
  obtain ⟨hpath, s, hstatus, -⟩ := hkind
  exact ⟨s.modified, by rw [modifiedAt, askedAt, if_pos hpath, hstatus]; rfl⟩

/-- It cannot be told whether a header is fresh where it cannot be told whether there is a source,
or where there is one and it cannot be told whether there is a header. -/
theorem exists_freshness_eq_error {source output : Path} :
    (∃ e, h.freshness source output = .error e) ↔
      (∃ e, h.Untold (toString source) e) ∨
        h.IsKind .file (toString source) ∧ ∃ e, h.Untold (toString output) e := by
  have huntold (p : Path) (e : FileError) :
      h.Untold (toString p) e ↔ h.tellsKind .file (toString p) = .error e :=
    tellsKind_eq_error.symm
  simp only [huntold, ← tellsKind_eq_true, freshness]
  rcases hsource : h.tellsKind .file (toString source) with e | _ | _
  · simp
  · simp [pure, Except.pure]
  · rcases houtput : h.tellsKind .file (toString output) with e | _ | _
    · simp
    · simp [pure, Except.pure]
    · obtain ⟨_, hold⟩ := (tellsKind_eq_true.mp hsource).exists_modifiedAt
      obtain ⟨_, hnew⟩ := (tellsKind_eq_true.mp houtput).exists_modifiedAt
      simp [hold, hnew, pure, Except.pure]

end Host

namespace Freshness

variable (h : Host) (source output : Path)

theorem finds_modified (path : Path) :
    (modified path).Finds h (h.modifiedAt (toString path)) :=
  .bind (finds_attempt (.status _)) fun _ => .pure _

theorem finds_compare : (compare source output).Finds h (h.freshness source output) := by
  refine .bind (finds_hasKind _ _ h) fun here => ?_
  cases here with
  | false => exact .pure false
  | true =>
    refine .bind (finds_hasKind _ _ h) fun there => ?_
    cases there with
    | false => exact .pure false
    | true =>
      exact .bind (finds_modified h source) fun _ =>
        .bind (finds_modified h output) fun _ => .pure _

/-- **Freshness.**  It is found out, and logged if there is nothing to do. -/
theorem finds_isUpToDate :
    (isUpToDate source output).Finds h ((h.freshness source output).mapError .file) := by
  have hcompare := (finds_compare h source output).mapError Failure.file
  unfold isUpToDate
  rcases hfresh : (h.freshness source output).mapError Failure.file with f | fresh
  · rw [hfresh] at hcompare
    exact hcompare.bind_error _
  · rw [hfresh] at hcompare
    refine hcompare.bind_ok ?_
    cases fresh with
    | false => exact .pure false
    | true => exact .bind_ok (.log _ _) (.pure true)

end Freshness

end MethodMacros
