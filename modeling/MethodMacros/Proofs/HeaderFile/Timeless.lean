import MethodMacros.Proofs.HeaderFile.Parents
import MethodMacros.Proofs.Host.Timeless

/-!
# Headers without times

Making a header asks for kinds and permissions, never for times.  So what becomes of it, and what is
said about it, is the same on hosts that differ only in their times and their logs
(`timeless_generate`).

The proof goes along the action, with one statement for each of its parts.  Two of them ask for the
status of an entry, which has a time in it: `timeless_hasKind` looks only at its kind, and
`timeless_targetMode` only at its permissions.
-/

namespace MethodMacros

open MethodMacros.Action

theorem timeless_attempt {α : Type} {a : Action FileError (Except FileError α)} (ha : a.Timeless) :
    (attempt a).Timeless := by
  refine ha.bind fun answer => ?_
  cases answer with
  | error e => exact .throw e
  | ok x => exact .pure x

theorem timeless_hasKind (kind : EntryKind) (p : Path) : (hasKind kind p).Timeless := by
  refine .status_bind _ (fun answer => ?_) fun answer => ?_
  · rcases answer with ⟨errno, path, target⟩ | s
    · dsimp only
      split
      · exact .pure false
      · exact .throw _
    · exact .pure false
    · exact .pure _
  · rcases answer with e | s <;> rfl

namespace HeaderFile

variable (p : Path)

/-! ## Preparation -/

theorem timeless_acceptDirectory (e : FileError) : (acceptDirectory p e).Timeless := by
  cases e with
  | nullByte => exact .throw _
  | refused errno path target =>
    refine .bind (timeless_hasKind _ _) fun there => ?_
    cases there with
    | true => exact .pure ()
    | false => exact .throw _

theorem timeless_makeOr {next : String → Option String → Action FileError Unit}
    (hnext : ∀ path target, (next path target).Timeless) : (makeOr p next).Timeless := by
  refine .bind (.request rfl) fun answer => ?_
  split
  · exact .pure ()
  · exact hnext _ _
  · exact timeless_acceptDirectory p _

theorem timeless_makeDirectories (n : Nat) : (makeDirectories n p).Timeless := by
  induction n generalizing p with
  | zero =>
    rw [makeDirectories_zero]
    exact timeless_makeOr p fun _ _ => .throw _
  | succ n ih =>
    rw [makeDirectories_succ]
    refine timeless_makeOr p fun path target => ?_
    split
    · exact .throw _
    · refine .bind (ih _) fun _ => ?_
      rw [makeDirectory_eq]
      exact timeless_makeOr p fun _ _ => .throw _

theorem timeless_prepare : (prepare p).Timeless :=
  .bind (timeless_makeDirectories _ _) fun _ => timeless_attempt (.request rfl)

/-! ## Writing -/

theorem timeless_targetMode : (targetMode p).Timeless := by
  refine .status_bind _ (fun answer => ?_) fun answer => ?_
  · split
    · exact .pure _
    · exact .bind (.request rfl) fun _ => .bind (.request rfl) fun _ => .pure _
    · exact .throw _
  · rcases answer with e | s <;> rfl

theorem timeless_install (text temporary : String) : (install p text temporary).Timeless :=
  .bind (timeless_attempt (.request rfl)) fun _ =>
    .bind (timeless_targetMode p) fun _ =>
      .bind (timeless_attempt (.request rfl)) fun _ => timeless_attempt (.request rfl)

theorem timeless_failure (e : FileError) : (failure p e).Timeless := by
  cases e with
  | nullByte => exact .pure _
  | refused errno path target => exact .bind (.log _ _) fun _ => .pure _

theorem timeless_discard (temporary : String) : (discard temporary).Timeless := by
  refine .bind (.request rfl) fun answer => ?_
  split
  · exact .pure ()
  · exact .pure ()
  · exact .throw _

theorem timeless_write (text : String) : (write p text).Timeless := by
  refine .bind (timeless_prepare p).outcome fun prepared => ?_
  cases prepared with
  | error e => exact .bind (timeless_failure p e) fun _ => .throw _
  | ok temporary =>
    refine .bind (timeless_install p text temporary).outcome fun installed => ?_
    cases installed with
    | error e =>
      exact .bind (timeless_failure p e) fun _ =>
        .bind (timeless_discard temporary) fun _ => .throw _
    | ok _ => exact .log _ _

theorem timeless_collect (config : Report.Config) (report : List String) :
    (collect config report).Timeless := by
  unfold collect
  cases config.patterns with
  | error e => exact .throw _
  | ok patterns =>
    refine .bind (.forM (fun _ => .request rfl) _) fun _ => ?_
    cases (Report.read patterns report).result with
    | error fault => exact .throw _
    | ok records => exact .pure records

/-- **Making a header** depends on no times. -/
theorem timeless_generate (config : Report.Config) (report : List String) :
    (generate config report p).Timeless :=
  .bind (timeless_collect config report) fun _ =>
    .bind (.log _ _) fun _ => .bind (timeless_write p _) fun _ => .bind (.log _ _) fun _ => .pure _

end HeaderFile

end MethodMacros
