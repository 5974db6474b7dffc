import MethodMacros.Proofs.HeaderFile.Parents

/-!
# What making a header asks for

No tool is started to make a header (`toolless_generate`).  Finding out permissions and reporting a
failure do not even change a file (`leavesFiles_targetMode`, `looks_failure`).  So whoever follows
the action with other answers has to look at the few requests in between only, whether it is tools
that are different or operations that fail.
-/

namespace MethodMacros

open MethodMacros.Action

namespace HeaderFile

variable (p : Path)

theorem toolless_hasKind (kind : EntryKind) : (hasKind kind p).Asks Request.isToolless :=
  (looks_hasKind kind p).imp Request.isToolless_of_isLooking

theorem toolless_acceptDirectory (e : FileError) :
    (acceptDirectory p e).Asks Request.isToolless := by
  cases e with
  | nullByte => exact .throw _
  | refused errno path target =>
    refine .bind (toolless_hasKind _ _) fun there => ?_
    cases there with
    | true => exact .pure ()
    | false => exact .throw _

theorem toolless_makeOr {next : String → Option String → Action FileError Unit}
    (hnext : ∀ path target, (next path target).Asks Request.isToolless) :
    (makeOr p next).Asks Request.isToolless := by
  refine .bind (.request rfl) fun answer => ?_
  split
  · exact .pure ()
  · exact hnext _ _
  · exact toolless_acceptDirectory p _

theorem toolless_makeDirectories (n : Nat) : (makeDirectories n p).Asks Request.isToolless := by
  induction n generalizing p with
  | zero =>
    rw [makeDirectories_zero]
    exact toolless_makeOr p fun _ _ => .throw _
  | succ n ih =>
    rw [makeDirectories_succ]
    refine toolless_makeOr p fun path target => ?_
    split
    · exact .throw _
    · refine .bind (ih _) fun _ => ?_
      rw [makeDirectory_eq]
      exact toolless_makeOr p fun _ _ => .throw _

theorem toolless_prepare : (prepare p).Asks Request.isToolless :=
  .bind (toolless_makeDirectories _ _) fun _ => asks_attempt (.request rfl)

theorem leavesFiles_targetMode : (targetMode p).Asks Request.leavesFiles := by
  refine .bind (.request rfl) fun answer => ?_
  split
  · exact .pure _
  · exact .bind (.request rfl) fun _ => .bind (.request rfl) fun _ => .pure _
  · exact .throw _

theorem toolless_install (text temporary : String) :
    (install p text temporary).Asks Request.isToolless :=
  .bind (asks_attempt (.request rfl)) fun _ =>
    .bind ((leavesFiles_targetMode p).imp Request.isToolless_of_leavesFiles) fun _ =>
      .bind (asks_attempt (.request rfl)) fun _ => asks_attempt (.request rfl)

theorem looks_failure (e : FileError) : (failure p e).Asks Request.isLooking := by
  cases e with
  | nullByte => exact .pure _
  | refused errno path target => exact .bind (.request rfl) fun _ => .pure _

theorem toolless_failure (e : FileError) : (failure p e).Asks Request.isToolless :=
  (looks_failure p e).imp Request.isToolless_of_isLooking

theorem toolless_discard (temporary : String) :
    (discard temporary).Asks Request.isToolless := by
  refine .bind (.request rfl) fun answer => ?_
  split
  · exact .pure ()
  · exact .pure ()
  · exact .throw _

theorem toolless_write (text : String) : (write p text).Asks Request.isToolless := by
  refine .bind (toolless_prepare p).outcome fun prepared => ?_
  cases prepared with
  | error e => exact .bind (toolless_failure p e) fun _ => .throw _
  | ok temporary =>
    refine .bind (toolless_install p text temporary).outcome fun installed => ?_
    cases installed with
    | error e =>
      exact .bind (toolless_failure p e) fun _ =>
        .bind (toolless_discard temporary) fun _ => .throw _
    | ok _ => exact .request rfl

theorem toolless_collect (config : Report.Config) (report : List String) :
    (collect config report).Asks Request.isToolless := by
  unfold collect
  cases config.patterns with
  | error e => exact .throw _
  | ok patterns =>
    refine .bind (.forM (fun _ => .request rfl) _) fun _ => ?_
    cases (Report.read patterns report).result with
    | error fault => exact .throw _
    | ok records => exact .pure records

theorem toolless_generate (config : Report.Config) (report : List String) :
    (generate config report p).Asks Request.isToolless :=
  .bind (toolless_collect config report) fun _ =>
    .bind (.request rfl) fun _ => .bind (toolless_write p _) fun _ =>
      .bind (.request rfl) fun _ => .pure _

end HeaderFile

end MethodMacros
