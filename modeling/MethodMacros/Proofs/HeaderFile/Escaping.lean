import MethodMacros.Proofs.Escaping
import MethodMacros.Proofs.HeaderFile.EndStates
import MethodMacros.Proofs.HeaderFile.Timeless

/-!
# Headers whose failure escapes

A header is made in three stages, and each has its own way to fail without a report.  A pattern may
be one that cannot be read for another reason than its form.  A declaration may be one whose name
was not captured.  And the path of the header may hold a character that no path can hold.
`Host.HeaderEscapes` lists the three, and `escapes_generate` says that there are no others.

* `finds_collect`, `escapes_collect`: the first two stages, which look at nothing but their input.
* `Host.Unwritable`, `escapes_write`: the third.  It fails in this way before anything is written,
  or not at all.

That a later stage is reached depends on nothing but files and directories, so the list can be made
on any host that agrees with the one on which the header is made (`unwritable_of_agrees`).
-/

namespace MethodMacros

open MethodMacros.Action

variable {p : Path} {h cur : Host}

/-- A header cannot be written since the operating system does not take its path. -/
def Host.Unwritable (h : Host) (p : Path) : Prop :=
  ((HeaderFile.prepare p).on h).1 = .error .nullByte

/-- Making a header of a report ends with a failure that is not reported. -/
def Host.HeaderEscapes (h : Host) (config : Report.Config) (report : List String)
    (output : Path) : Prop :=
  (∃ e, config.patterns = .error e ∧ e.isReported = false) ∨
    (∃ patterns, config.patterns = .ok patterns ∧
      (Report.read patterns report).fault = some .nameNotCaptured) ∨
    (∃ records, Header.collect config report = .ok records) ∧ h.Unwritable output

theorem Host.Agrees.alike (hagrees : h.Agrees cur) : h.Alike cur := by
  obtain ⟨_, _, rfl⟩ := hagrees
  exact ⟨rfl, rfl, rfl, rfl, rfl⟩

namespace HeaderFile

/-- Whether a header can be written does not depend on the clock. -/
theorem unwritable_of_agrees (hagrees : h.Agrees cur) : cur.Unwritable p ↔ h.Unwritable p := by
  rw [Host.Unwritable, Host.Unwritable, (timeless_prepare p h cur hagrees.alike).result]

/-! ## Writing -/

/-- Writing escapes only if the operating system does not take the path. -/
theorem escapes_write (text : String) : Escapes ((write p text).on h).1 ↔ h.Unwritable p := by
  constructor
  · rintro ⟨f, hf, hreported⟩
    obtain ⟨-, hprepare⟩ := (ensures_write p text h).of_error (Prod.ext hf rfl)
    obtain ⟨prepared, hon⟩ := hprepare hreported
    exact congrArg Prod.fst hon
  · intro hprepare
    rw [Host.Unwritable] at hprepare
    refine ⟨.file .nullByte, ?_, rfl⟩
    rw [write, on_bind, on_outcome, hprepare]
    rfl

/-- The records of a report are found out, whatever is logged on the way. -/
theorem finds_collect (config : Report.Config) (report : List String) (h : Host) :
    (collect config report).Finds h ((Header.collect config report).mapError .generate) := by
  unfold collect Header.collect
  cases config.patterns with
  | error e => exact .throw _
  | ok patterns =>
    refine .bind_ok (.forM (fun _ => .request rfl) _) ?_
    dsimp only [mapError_ok, ok_bind]
    cases (Report.read patterns report).result with
    | error fault => exact .throw _
    | ok records => exact .pure records

/-- Collecting records escapes on account of the patterns, or of a name that was not captured. -/
theorem escapes_collect {config : Report.Config} {report : List String} :
    Escapes ((Header.collect config report).mapError .generate) ↔
      (∃ e, config.patterns = .error e ∧ e.isReported = false) ∨
        ∃ patterns, config.patterns = .ok patterns ∧
          (Report.read patterns report).fault = some .nameNotCaptured := by
  unfold Header.collect Report.Transcript.result
  cases config.patterns with
  | error e => simp [Failure.isReported]
  | ok patterns =>
    dsimp only [mapError_ok, ok_bind]
    cases hfault : (Report.read patterns report).fault with
    | none => simp [hfault]
    | some fault => cases fault <;> simp [hfault, Failure.isReported]

/-- **Making a header.**  It escapes in one of three ways. -/
theorem escapes_generate (hagrees : h.Agrees cur) (config : Report.Config)
    (report : List String) :
    Escapes ((generate config report p).on cur).1 ↔ h.HeaderEscapes config report p := by
  have hwrite : Escapes ((generate config report p).on cur).1 ↔
      Escapes ((Header.collect config report).mapError .generate) ∨
        ∃ records, (Header.collect config report).mapError Failure.generate = .ok records ∧
          h.Unwritable p := by
    refine (finds_collect config report h).escapes_bind hagrees fun records after _ hafter => ?_
    refine escapes_tell_bind hafter fun logged hlogged => ?_
    rw [escapes_on_bind, escapes_write, unwritable_of_agrees hlogged]
    refine or_iff_left ?_
    rintro ⟨_, written, -, hescapes⟩
    exact (escapes_ok _).mp hescapes
  simp only [hwrite, escapes_collect, Host.HeaderEscapes, mapError_eq_ok, exists_and_right,
    or_assoc]

end HeaderFile

end MethodMacros
