import MethodMacros.Proofs.FileSystem.Moving
import MethodMacros.Proofs.HeaderFile.Requests
import MethodMacros.Proofs.HeaderFile.Temporary
import MethodMacros.Proofs.Host.Endings

/-!
# The age of a header

When a header has been written, its file is no older than the writing, however the clock goes on
meanwhile.  The time comes from the temporary file, which is written first; neither giving it its
permissions nor moving it changes its time.

* `Host.HasSince`: the temporary file is there, and it is no older than a given time.
* `Host.FileSince`: if a path leads to a file, the file is no older than a given time.
* `yields_createTemporary`, `yields_writeFile`, `yields_setMode`: the first is kept until the move.
* `yields_rename`: the move turns the first into the second, by `FileSystem.file_of_rename`.
* `yields_write`: the whole action.

The second statement has a condition, because after the move the path need not lead to a file at
all.
-/

namespace MethodMacros

open MethodMacros.Action

/-- A path leads to a file that is no older than a given time. -/
def Host.HasSince (h : Host) (start : Int) (path : String) : Prop :=
  ∃ t node, h.files.reach h.folder path false = .ok (.found t (.file node)) ∧ start ≤ node.modified

/-- If a path leads to a file at all, it is no older than a given time. -/
def Host.FileSince (h : Host) (start : Int) (path : String) : Prop :=
  ∀ l node, h.files.reach h.folder path true = .ok (.found l (.file node)) → start ≤ node.modified

variable {h mid after : Host} {start : Int} {temporary : String}

theorem Host.HasSince.of_eq (hsince : mid.HasSince start temporary)
    (hsame : after.files = mid.files ∧ after.folder = mid.folder) :
    after.HasSince start temporary := by
  obtain ⟨hfiles, hfolder⟩ := hsame
  obtain ⟨t, node, hfound, htime⟩ := hsince
  exact ⟨t, node, by rw [hfiles, hfolder, hfound], htime⟩

theorem Host.FileSince.of_eq {path : String} (hsince : mid.FileSince start path)
    (hsame : after.files = mid.files ∧ after.folder = mid.folder) :
    after.FileSince start path := by
  obtain ⟨hfiles, hfolder⟩ := hsame
  intro l node hfound
  rw [hfiles, hfolder] at hfound
  exact hsince l node hfound

/-- An attempt has a value where the answer is one. -/
theorem yields_attempt {α : Type} {a : Action FileError (Except FileError α)}
    {ok : α → Host → Prop} (ha : a.Yields h fun x after => ∀ value, x = .ok value → ok value after) :
    (attempt a).Yields h ok := by
  refine .bind (ha.imp fun x after hx => ?_)
  cases x with
  | error e => exact yields_throw e
  | ok value => exact yields_pure (hx value rfl)

/-- What a change to files that could be made has done. -/
theorem answerAt_effect_eq_ok {path : String} {result : Except Errno FileSystem}
    (hanswer : (h.answerAt path (Host.effect result)).1 = .ok ()) :
    ∃ files, result = .ok files ∧
      (h.answerAt path (Host.effect result)).2 = { h with files := files } := by
  unfold Host.answerAt at hanswer ⊢
  cases hpath : acceptable path with
  | false =>
    rw [hpath, if_neg Bool.false_ne_true] at hanswer
    cases hanswer
  | true =>
    cases result with
    | error e =>
      rw [hpath, if_pos rfl] at hanswer
      cases hanswer
    | ok files => exact ⟨files, rfl, rfl⟩

namespace HeaderFile

/-! ## The temporary file -/

/-- A temporary file that has been created is found. -/
theorem yields_createTemporary {ε : Type} (directory stem : String) (h : Host) :
    (request (.createTemporary directory stem) : Action ε _).Yields h fun x after =>
      ∀ temporary, x = .ok temporary → ∃ t node,
        after.files.reach after.folder temporary false = .ok (.found t (.file node)) := by
  refine yields_request fun x after hanswer temporary hx => ?_
  obtain ⟨hcreated, clock, rfl⟩ := hanswer.eq rfl
  have hperform := h.created_perform directory stem
  rw [Host.perform_eq, ← hcreated, hx] at hperform
  clear hanswer hcreated hx
  generalize (h.answer (.createTemporary directory stem)).2 = answered at hperform ⊢
  generalize hlater : answered.later = later at hperform
  cases hperform with
  | created temporary t node htemporary hstem hnamed hfree =>
    have hfiles : answered.files = h.files.insert t (.file node) := congrArg Host.files hlater
    have hfolder : answered.folder = h.folder := (congrArg Host.folder hlater :)
    refine ⟨t, node, ?_⟩
    dsimp only
    rw [hfiles, hfolder]
    exact FileSystem.reach_insert_of_vacant (isFinal_file node) hfree

/-- What is written to a file makes it as new as the writing. -/
theorem yields_writeFile {ε : Type} {content : String} {t : Location} {node : FileNode}
    (hstart : start ≤ h.clock)
    (hfound : h.files.reach h.folder temporary false = .ok (.found t (.file node))) :
    (request (.writeFile temporary content) : Action ε _).Yields h fun x after =>
      ∀ value, x = .ok value → after.HasSince start temporary := by
  refine yields_request fun x after hanswer value hx => ?_
  obtain ⟨hdone, clock, rfl⟩ := hanswer.eq rfl
  obtain ⟨files, hwrite, hafter⟩ := answerAt_effect_eq_ok (hdone.symm.trans hx)
  have htrue := FileSystem.reach_of_false (isFinal_file node) hfound
  obtain rfl := Except.ok.inj ((FileSystem.writeFile_of_reach htrue).symm.trans hwrite)
  rw [Host.answer, hafter]
  exact ⟨t, _, FileSystem.reach_insert_of_file hfound, hstart⟩

/-- Permissions do not change the time of a file. -/
theorem yields_setMode {ε : Type} {mode : Nat} (hsince : h.HasSince start temporary) :
    (request (.setMode temporary mode) : Action ε _).Yields h fun x after =>
      ∀ value, x = .ok value → after.HasSince start temporary := by
  refine yields_request fun x after hanswer value hx => ?_
  obtain ⟨t, node, hfound, htime⟩ := hsince
  obtain ⟨hdone, clock, rfl⟩ := hanswer.eq rfl
  obtain ⟨files, hmode, hafter⟩ := answerAt_effect_eq_ok (hdone.symm.trans hx)
  have htrue := FileSystem.reach_of_false (isFinal_file node) hfound
  obtain rfl := Except.ok.inj ((FileSystem.setMode_of_reach htrue).symm.trans hmode)
  rw [Host.answer, hafter]
  exact ⟨t, { node with mode := mode }, FileSystem.reach_insert_of_file hfound, htime⟩

/-- If the path of a header leads to a file when one was moved there, this is the file. -/
theorem yields_rename {ε : Type} {target : String} (hsince : h.HasSince start temporary) :
    (request (.rename temporary target) : Action ε _).Yields h fun x after =>
      ∀ value, x = .ok value → after.FileSince start target := by
  refine yields_request fun x after hanswer value hx => ?_
  obtain ⟨t, node, hfound, htime⟩ := hsince
  obtain ⟨hdone, clock, rfl⟩ := hanswer.eq rfl
  rw [hdone] at hx
  unfold Host.answer at hx ⊢
  dsimp only at hx ⊢
  split at hx
  · rename_i hacceptable
    rw [if_pos hacceptable]
    cases hrename : h.files.rename h.folder temporary target with
    | error e =>
      rw [hrename] at hx
      cases hx
    | ok files =>
      intro l node' hleads
      obtain rfl := FileSystem.file_of_rename hfound hrename hleads
      exact htime
  · cases hx

/-! ## The whole action -/

variable {p : Path} {text : String}

theorem yields_prepare (p : Path) (h : Host) :
    (prepare p).Yields h fun temporary after => ∃ t node,
      after.files.reach after.folder temporary false = .ok (.found t (.file node)) :=
  .bind fun _ _ _ _ => yields_attempt (yields_createTemporary _ _ _)

theorem yields_install {t : Location} {node : FileNode} (hstart : start ≤ h.clock)
    (hfound : h.files.reach h.folder temporary false = .ok (.found t (.file node))) :
    (install p text temporary).Yields h fun _ after => after.FileSince start (toString p) := by
  refine .bind (yields_attempt ((yields_writeFile hstart hfound).imp ?_))
  intro x written hwritten value hx
  have hsince := hwritten value hx
  refine .bind (((leavesFiles_targetMode p).yields_files written).imp fun mode asked hsame => ?_)
  refine .bind (yields_attempt ((yields_setMode (hsince.of_eq hsame)).imp ?_))
  intro x changed hchanged value hx
  exact yields_attempt (yields_rename (hchanged value hx))

/-- **Age.**  If the path of a header leads to a file when the header has been written, this file is
no older than the writing. -/
theorem yields_write (p : Path) (text : String) (hstart : start ≤ h.clock) :
    (write p text).Yields h fun _ after => after.FileSince start (toString p) := by
  refine .outcome_bind ((yields_prepare p h).later.imp ?_) fun e mid => yields_bind_throw _ _
  rintro temporary prepared ⟨⟨t, node, hfound⟩, hclock, -⟩
  refine .outcome_bind ((yields_install (Int.le_trans hstart hclock) hfound).imp ?_) fun e mid => ?_
  · rintro _ installed hsince
    refine Yields.imp (Asks.yields_files (.request rfl) installed) ?_
    exact fun _ last hsame => hsince.of_eq hsame
  · exact .bind fun _ f _ _ => .bind fun _ _ _ _ => yields_throw f

end HeaderFile

end MethodMacros
