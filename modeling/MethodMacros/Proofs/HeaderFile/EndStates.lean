import MethodMacros.Proofs.HeaderFile.Requests
import MethodMacros.Proofs.HeaderFile.Temporary

/-!
# How writing a header ends

Writing a header ends in one of two ways.  Either the header stands where its path led to, complete
and with the permissions that it was to have, or everything is as it was; and in both cases the
directories above the header may be new.  `written_or_grows` states this for runs in which any
operation may fail for reasons from outside, other than the removal of the temporary file: nothing
else could take that away.

## The steps

`ensures_targetMode` and `ensures_failure` are about the steps that leave the files as they are.
`Host.Moved` says what a move does to a file system, and where the path leads afterwards.  From these
and from what is known of the temporary file, `throughout_install` and `throughout_replace` go along
the action.  If a step fails between the creation and the move, the host is `Host.Stuck`: it still
has the temporary file, so this can be removed.

## Where the path leads

The header takes the place that its path led to when it was moved.  The path leads to it afterwards
if it did not lead to a link, or if it leads there without what stood in that place; `Host.Written`
says no more than this.  Otherwise the path runs through the link that it names, and then it may lead
nowhere: `write_linkedPath` is such a case.
-/

namespace MethodMacros

/-- A host has the files of another one. -/
structure Host.SameFiles (h after : Host) : Prop where
  files_eq : after.files = h.files
  folder_eq : after.folder = h.folder
  umask_eq : after.umask = h.umask

theorem Host.Agrees.sameFiles {h after : Host} (hagrees : h.Agrees after) : h.SameFiles after := by
  obtain ⟨clock, messages, rfl⟩ := hagrees
  exact ⟨rfl, rfl, rfl⟩

/-- The permissions that a header is to have: those of what its path leads to, or where it leads
nowhere all that the mask leaves. -/
def Host.TargetMode (h : Host) (path : Path) (mode : Nat) : Prop :=
  (∃ s, h.files.status h.folder (toString path) = .ok s ∧ mode = s.mode) ∨
    h.files.status h.folder (toString path) = .error .noEntry ∧ mode = clearMask 0o666 h.umask

namespace HeaderFile

open MethodMacros.Action

variable {p : Path} {h cur : Host} {temporary text : String} {t : Location} {node : FileNode}

/-! ## Permissions -/

/-- **Permissions.**  They are found out without a lasting change. -/
theorem ensures_targetMode (hpath : acceptable (toString p) = true) :
    (targetMode p).Ensures cur (fun mode after => cur.SameFiles after ∧ cur.TargetMode p mode)
      fun e after => cur.SameFiles after ∧ e ≠ .nullByte := by
  have hlater : cur.SameFiles cur.later := ⟨rfl, rfl, rfl⟩
  rw [targetMode, ensures_bind, ensures_status, askedAt, if_pos hpath]
  cases hstatus : cur.files.status cur.folder (toString p) with
  | ok s => exact ⟨hlater, .inl ⟨s, hstatus, rfl⟩⟩
  | error e =>
    cases e with
    | noEntry => exact ⟨⟨rfl, rfl, rfl⟩, .inr ⟨hstatus, rfl⟩⟩
    | _ => exact ⟨hlater, by simp⟩

/-! ## Failures -/

/-- A failure to write is reported, unless the path cannot be taken at all. -/
theorem ensures_failure (p : Path) (e : FileError) (cur : Host) :
    (failure p e).Ensures cur
      (fun f after => cur.Agrees after ∧ (f.isReported = false → e = .nullByte))
      fun _ _ => False := by
  cases e with
  | nullByte => exact ⟨.refl cur, fun _ => rfl⟩
  | refused errno path target =>
    unfold failure
    exact ⟨.logged cur _ _, fun hreported => by cases hreported⟩

end HeaderFile

/-! ## Moving the temporary file to its place -/

/-- The temporary file at `t` has been moved to the location `m` that the path of the header led
to. -/
structure Host.Moved (p : Path) (mid after : Host) (t m : Location) (node : FileNode) : Prop where
  folder_eq : after.folder = mid.folder
  umask_eq : after.umask = mid.umask
  names : mid.files.reach mid.folder (toString p) false = .ok (mid.files.reachedAt m)
  not_directory : ∀ mode, mid.files.get? m ≠ some (.directory mode)
  header : after.files.get? m = some (.file node)
  removed : t ≠ m → after.files.get? t = none
  others : ∀ k, k ≠ m → k ≠ t → after.files.get? k = mid.files.get? k

namespace Host.Moved

variable {p : Path} {h mid cur after : Host} {temporary : String} {t m : Location}
variable {node node' : FileNode}

/-- What a move does, seen from the host in which the permissions were asked for. -/
theorem of_rename {files : FileSystem} (hmid : h.Holds p mid temporary t node')
    (hcur : h.Holds p cur temporary t node) (hsame : mid.SameBut t cur)
    (hrename : cur.files.rename cur.folder temporary (toString p) = .ok files) :
    ∃ m, Moved p mid { cur.later with files := files } t m node := by
  obtain ⟨r, hreach, hplace, rfl⟩ := FileSystem.rename_eq_ok hcur.found hrename
  have hr := FileSystem.reach_reached_eq hreach
  have hdirectory : ∀ mode, cur.files.get? r.location ≠ some (.directory mode) := by
    intro mode hsome
    rw [FileSystem.reachedAt_of_some hsome] at hr
    exact hplace _ _ hr
  have hne : r.location ≠ [] := by
    intro hnil
    exact hdirectory 0o755 (by rw [hnil]; rfl)
  have hadmits := FileSystem.admits_erase_of_reach hcur.get?_temporary hreach hplace (.file node)
  have hback : cur.SameBut t mid :=
    ⟨hsame.folder_eq.symm, fun k hk => (hsame.get?_eq k hk).symm⟩
  have harrives : mid.files.Arrives r := by
    by_cases hrt : r.location = t
    · exact .of_isFinal (hrt ▸ hmid.get?_temporary) (isFinal_file _)
    · exact FileSystem.arrives_of_reach hreach (hsame.get?_eq _ hrt).symm
  refine ⟨r.location, hsame.folder_eq, hcur.umask_eq.trans hmid.umask_eq.symm, ?_, ?_, ?_, ?_, ?_⟩
  · have hnames := FileSystem.reach_transfer (hcur.keepsWays hback) hreach harrives
    rwa [hsame.folder_eq] at hnames
  · intro mode hsome
    have hrt : r.location ≠ t := hmid.ne_of_way (not_isFile_directory mode) hsome
    rw [← hsame.get?_eq _ hrt] at hsome
    exact hdirectory mode hsome
  · exact FileSystem.get?_insert_self hadmits hne
  · intro hrt
    exact (FileSystem.get?_insert_of_ne _ _ hrt).trans (FileSystem.get?_erase_self _ hcur.ne_nil)
  · intro k hkm hkt
    have hmoved := FileSystem.get?_insert_of_ne (cur.files.erase t) (.file node) hkm
    exact (hmoved.trans (FileSystem.get?_erase_of_ne _ hcur.not_directory hkt)).trans
      (hsame.get?_eq k hkt)

/-- A path that leads to the place of the header without what stood there leads to the header. -/
theorem reach_header (hmid : h.Holds p mid temporary t node') (hmoved : Moved p mid after t m node)
    {fs : FileSystem} {r : FileSystem.Reached}
    (hways : ∀ k e, ¬ e.IsFile → fs.get? k = some e → k ≠ m ∧ mid.files.get? k = some e)
    (hreach : fs.reach mid.folder (toString p) false = .ok r) (hr : r.location = m) :
    after.files.reach after.folder (toString p) false = .ok (.found m (.file node)) := by
  have hkeeps : fs.KeepsWays after.files := by
    intro k e he hget
    obtain ⟨hkm, hk⟩ := hways k e he hget
    rw [hmoved.others k hkm (hmid.ne_of_way he hk), hk]
  have harrives : after.files.Arrives r := .of_isFinal (hr ▸ hmoved.header) (isFinal_file node)
  have hfound := FileSystem.reach_transfer hkeeps hreach harrives
  rwa [hr, FileSystem.reachedAt_of_some hmoved.header, ← hmoved.folder_eq] at hfound

/-- The path leads to the header if it did not lead to a link. -/
theorem reach_of_not_link (hmid : h.Holds p mid temporary t node')
    (hmoved : Moved p mid after t m node)
    (hlink : ∀ target, mid.files.get? m ≠ some (.link target)) :
    after.files.reach after.folder (toString p) false = .ok (.found m (.file node)) := by
  refine hmoved.reach_header hmid (fun k e he hget => ⟨?_, hget⟩) hmoved.names
    (FileSystem.location_reachedAt _ _)
  rintro rfl
  cases e with
  | directory mode => exact hmoved.not_directory mode hget
  | link target => exact hlink target hget
  | file other => exact he ⟨other, rfl⟩

/-- The path leads to the header if it does not run through what stood in its place. -/
theorem reach_of_erase (hmid : h.Holds p mid temporary t node')
    (hmoved : Moved p mid after t m node)
    (hfree : (mid.files.erase m).reach mid.folder (toString p) false = .ok (.vacant m)) :
    after.files.reach after.folder (toString p) false = .ok (.found m (.file node)) := by
  have hnone := FileSystem.get?_of_reach_vacant hfree
  refine hmoved.reach_header hmid (fun k e he hget => ?_) hfree rfl
  have hkm : k ≠ m := by
    rintro rfl
    cases hnone.symm.trans hget
  exact ⟨hkm, FileSystem.get?_of_get?_erase hget⟩

end Host.Moved

/-! ## The steps between -/

/-- A step between the creation of the temporary file and its move has failed: the file is still
there, and the failure can be reported. -/
structure Host.Stuck (faults : Faults) (kept : Host → Prop) (p : Path) (h : Host)
    (temporary : String) (t : Location) (e : FileError) (after : Host) : Prop where
  kept_after : kept after
  holds : ∃ node, h.Holds p after temporary t node
  refused : faults.AreRefusals → e ≠ .nullByte

/-- An attempt to write the temporary file that fails leaves a temporary file. -/
theorem Host.Holds.spoiled {p : Path} {h cur : Host} {temporary : String} {t : Location}
    {node : FileNode} (hholds : h.Holds p cur temporary t node) (fault : Fault) :
    cur.SameBut t (cur.spoiled fault temporary) ∧
      ∃ node', h.Holds p (cur.spoiled fault temporary) temporary t node' := by
  unfold Host.spoiled
  cases fault.written with
  | none => exact ⟨⟨rfl, fun _ _ => rfl⟩, node, hholds.of_eq rfl rfl rfl⟩
  | some bytes =>
    rw [Option.map_some, FileSystem.writeFile_of_reach hholds.found_true]
    exact ⟨.of_insert rfl rfl, _, hholds.of_insert rfl rfl rfl⟩

namespace HeaderFile

open MethodMacros.Action

variable {faults : Faults} {kept : Host → Prop} {p : Path} {h prepared : Host}
variable {temporary text : String} {t : Location} {node : FileNode}

/-- The beginning of writing: the temporary file stands next to its place, with all its content. -/
def fill (p : Path) (text : String) : Action FileError String := do
  let temporary ← prepare p
  attempt (request (.writeFile temporary text))
  return temporary

/-- The temporary file gets its content, or some other. -/
theorem throughout_fill (faults : Faults) (hkept : KeptBeside p kept)
    (hholds : h.Holds p prepared temporary t node) (hprepared : kept prepared) (text : String) :
    (attempt (request (.writeFile temporary text)) : Action FileError Unit).Throughout
      (Host.performDespite faults) kept prepared
      (fun _ mid => kept mid ∧
        ∃ node', h.Holds p mid temporary t node' ∧ node'.content = Host.bytesOf text)
      fun e after => h.Stuck faults kept p temporary t e after := by
  refine throughout_attempt (throughout_writeFile hprepared ?_ ?_)
  · intro x mid heffected
    obtain ⟨rfl, rfl⟩ := heffected.eq_of_ok hholds.temporary_acceptable
      (FileSystem.writeFile_of_reach hholds.found_true)
    exact ⟨hkept.of_sameBut hholds (.of_insert rfl rfl) hprepared, _,
      hholds.of_insert rfl rfl rfl, rfl⟩
  · intro fault hfault
    obtain ⟨hsame, hspoiled⟩ := hholds.spoiled fault
    exact ⟨hkept.of_sameBut hholds hsame hprepared, hspoiled,
      fun hrefusals => hrefusals _ _ fault hfault⟩

/-- The temporary file gets its permissions, or it keeps those that it has. -/
theorem throughout_setMode_temporary (faults : Faults) (hkept : KeptBeside p kept)
    (hholds : h.Holds p prepared temporary t node) (hprepared : kept prepared) (mode : Nat) :
    (attempt (request (.setMode temporary mode)) : Action FileError Unit).Throughout
      (Host.performDespite faults) kept prepared
      (fun _ after => kept after ∧ h.Holds p after temporary t { node with mode := mode } ∧
        prepared.SameBut t after)
      fun e after => h.Stuck faults kept p temporary t e after := by
  refine throughout_attempt (throughout_setMode hprepared ?_ ?_)
  · intro x after heffected
    obtain ⟨rfl, rfl⟩ := heffected.eq_of_ok hholds.temporary_acceptable
      (FileSystem.setMode_of_reach hholds.found_true)
    exact ⟨hkept.of_sameBut hholds (.of_insert rfl rfl) hprepared,
      hholds.of_insert rfl rfl rfl, .of_insert rfl rfl⟩
  · intro fault hfault
    exact ⟨hkept.along.agrees hprepared (.later prepared), ⟨node, hholds.of_eq rfl rfl rfl⟩,
      fun hrefusals => hrefusals _ _ fault hfault⟩

/-- **Installing.**  The temporary file is moved to its place, or it is still there. -/
theorem throughout_install (faults : Faults) (hkept : KeptBeside p kept)
    (hholds : h.Holds p prepared temporary t node) (hprepared : kept prepared) (text : String) :
    (install p text temporary).Throughout (Host.performDespite faults) kept prepared
      (fun _ after => ∃ mid node' m node'',
        (attempt (request (.writeFile temporary text)) : Action FileError Unit).onIn
          (Host.performDespite faults) prepared = (.ok (), mid) ∧
        kept mid ∧ h.Holds p mid temporary t node' ∧ Host.Moved p mid after t m node'' ∧
        node''.content = Host.bytesOf text ∧ mid.TargetMode p node''.mode)
      fun e after => h.Stuck faults kept p temporary t e after := by
  refine .bind ((throughout_fill faults hkept hholds hprepared text).with_onIn.imp ?_
    fun _ _ => And.left)
  rintro _ mid ⟨⟨hmid, node', hholds', hcontent⟩, hfill⟩
  have hduring (cur : Host) (hcur : cur.files = mid.files ∧ cur.folder = mid.folder) : kept cur :=
    hkept.of_sameBut hholds' (.of_eq hcur.1 hcur.2 t) hmid
  refine .bind (((leavesFiles_targetMode p).throughout_leavesFiles hduring
    (ensures_targetMode hholds'.path_acceptable)).imp ?_ ?_)
  · rintro mode asked ⟨hsame, hmode⟩
    have hasked := hholds'.of_eq hsame.files_eq hsame.folder_eq hsame.umask_eq
    refine .bind ((throughout_setMode_temporary faults hkept hasked
      (hduring asked ⟨hsame.files_eq, hsame.folder_eq⟩) mode).imp ?_ fun _ _ => id)
    rintro _ cur ⟨hcur, hholds'', hbut⟩
    have hstuck (e : FileError) (he : faults.AreRefusals → e ≠ .nullByte) :
        h.Stuck faults kept p temporary t e cur.later :=
      ⟨hkept.along.agrees hcur (.later cur), ⟨_, hholds''.of_eq rfl rfl rfl⟩, he⟩
    refine throughout_attempt (throughout_rename hholds''.temporary_acceptable
      hholds''.path_acceptable hcur ?_ ?_ ?_)
    · intro files hrename
      have hmid' : mid.SameBut t cur := (Host.SameBut.of_eq hsame.files_eq hsame.folder_eq t).trans hbut
      obtain ⟨m, hmoved⟩ := Host.Moved.of_rename hholds' hholds'' hmid' hrename
      exact ⟨mid, node', m, _, hfill, hmid, hholds', hmoved, hcontent, hmode⟩
    · exact fun e => hstuck _ fun _ => by simp
    · exact fun fault hfault => hstuck _ fun hrefusals => hrefusals _ _ fault hfault
  · rintro e asked ⟨hsame, hne⟩
    exact ⟨hduring asked ⟨hsame.files_eq, hsame.folder_eq⟩,
      ⟨node', hholds'.of_eq hsame.files_eq hsame.folder_eq hsame.umask_eq⟩, fun _ => hne⟩

/-- Reporting a failure leaves the files as they are. -/
theorem throughout_failure (faults : Faults) {cur : Host}
    (hduring : ∀ after, cur.Agrees after → kept after) (e : FileError) :
    (failure p e).Throughout (Host.performDespite faults) kept cur
      (fun f after => cur.Agrees after ∧ (f.isReported = false → e = .nullByte))
      fun _ _ => False :=
  (looks_failure p e).throughout_looking hduring (ensures_failure p e cur)

end HeaderFile

/-! ## The whole action -/

/-- A header has taken its place: `mid` is the host in which its temporary file was complete, and
`m` the location that the path led to then. -/
structure Host.Replaced (answering : Answering) (kept : Host → Prop) (p : Path) (text : String)
    (h mid placed : Host) (m : Location) (node : FileNode) : Prop where
  filled : ∃ temporary, (HeaderFile.fill p text).onIn answering h = (.ok temporary, mid)
  kept_mid : kept mid
  moved : ∃ temporary t node', h.Holds p mid temporary t node' ∧ Host.Moved p mid placed t m node
  content : node.content = Host.bytesOf text
  mode : mid.TargetMode p node.mode

/-- Writing has failed.  What is kept is kept, and nothing but directories is new if the temporary
file could be removed; and the failure is reported unless the path could not be taken. -/
structure Host.Undone (faults : Faults) (kept : Host → Prop) (p : Path) (h : Host) (f : Failure)
    (after : Host) : Prop where
  kept_after : kept after
  grows : faults.SpareRemovals → h.Grows p.parent after
  unreported : faults.SpareRemovals → faults.AreRefusals → f.isReported = false → ∃ prepared,
    (HeaderFile.prepare p).onIn (Host.performDespite faults) h = (.error .nullByte, prepared)

namespace HeaderFile

open MethodMacros.Action

variable {faults : Faults} {kept : Host → Prop} {p : Path} {h : Host}

/-- Writing a header, up to the last entry in the log. -/
def replace (p : Path) (text : String) : Action Failure Unit := do
  match ← outcome (prepare p) with
  | .error e => throw (← failure p e)
  | .ok temporary =>
      match ← outcome (install p text temporary) with
      | .error e =>
          let f ← failure p e
          discard temporary
          throw f
      | .ok () => return ()

theorem write_eq (p : Path) (text : String) : write p text = (do
    replace p text
    Action.log .info ("Header written to " ++ toString p)) := by
  rw [write, replace, bind_assoc]
  refine bind_congr fun prepared => ?_
  cases prepared with
  | error e =>
    rw [bind_assoc]
    rfl
  | ok temporary =>
    rw [bind_assoc]
    refine bind_congr fun installed => ?_
    cases installed with
    | error e =>
      rw [bind_assoc]
      refine bind_congr fun f => ?_
      rw [bind_assoc]
      rfl
    | ok _ => rfl

/-- **Replacing.**  The header takes its place, or everything is undone. -/
theorem throughout_replace (faults : Faults) (hkept : KeptBeside p kept) (hh : kept h)
    (text : String) :
    (replace p text).Throughout (Host.performDespite faults) kept h
      (fun _ placed => ∃ mid m node,
        h.Replaced (Host.performDespite faults) kept p text mid placed m node)
      fun f after => h.Undone faults kept p f after := by
  refine .bind (Throughout.outcome ((throughout_prepare faults hkept hh).with_onIn.imp ?_ ?_))
  · rintro temporary prepared ⟨⟨hprepared, t, node, hholds⟩, hprepare⟩
    refine .bind (Throughout.outcome
      ((throughout_install faults hkept hholds hprepared text).imp ?_ ?_))
    · rintro _ placed ⟨mid, node', m, node'', hon, hmid, hholds', hmoved, hcontent, hmode⟩
      have hfill : (fill p text).onIn (Host.performDespite faults) h = (.ok temporary, mid) := by
        rw [fill, onIn_bind, hprepare]
        dsimp only
        rw [onIn_bind, hon]
        rfl
      exact throughout_pure ⟨mid, m, node'', ⟨temporary, hfill⟩, hmid,
        ⟨temporary, t, node', hholds', hmoved⟩, hcontent, hmode⟩
    · rintro e stuck ⟨hstuck, ⟨node', hholds'⟩, hrefused⟩
      refine .bind ((throughout_failure faults (fun _ => hkept.along.agrees hstuck) e).imp ?_
        fun _ _ => False.elim)
      rintro f last ⟨hagrees, hreported⟩
      have hsame := hagrees.sameFiles
      have hlast := hholds'.of_eq hsame.files_eq hsame.folder_eq hsame.umask_eq
      refine .bind ((throughout_discard faults hkept hlast
        (hkept.along.agrees hstuck hagrees)).imp ?_ ?_)
      · rintro _ final ⟨hfinal, hgrows⟩
        exact throughout_throw ⟨hfinal, hgrows,
          fun _ hrefusals hf => absurd (hreported hf) (hrefused hrefusals)⟩
      · rintro _ final ⟨hfinal, hfails⟩
        exact ⟨hfinal, fun hspares => absurd hspares hfails,
          fun hspares => absurd hspares hfails⟩
  · rintro e left ⟨⟨hleft, hgrows⟩, hprepare⟩
    refine .bind ((throughout_failure faults (fun _ => hkept.along.agrees hleft) e).imp ?_
      fun _ _ => False.elim)
    rintro f last ⟨hagrees, hreported⟩
    refine throughout_throw ⟨hkept.along.agrees hleft hagrees,
      fun _ => hgrows.trans (.of_agrees hagrees), fun _ _ hf => ?_⟩
    obtain rfl := hreported hf
    exact ⟨left, hprepare⟩

/-- An entry in the log changes no file. -/
theorem throughout_log (faults : Faults) (message : String) (h : Host) :
    (Action.log .info message : Action Failure Unit).Throughout (Host.performDespite faults) h.Agrees
      h (fun _ after => h.Agrees after) fun _ _ => False :=
  Asks.throughout_looking (.request rfl) (fun _ => id) (.logged h .info message)

/-- **Writing.**  The header takes its place, and nothing more is done to files, or everything is
undone. -/
theorem ensuresIn_write (faults : Faults) (p : Path) (text : String) (h : Host) :
    (write p text).EnsuresIn (Host.performDespite faults) h
      (fun _ after => ∃ mid placed m node,
        h.Replaced (Host.performDespite faults) (fun _ => True) p text mid placed m node ∧
          placed.Agrees after)
      fun f after => h.Undone faults (fun _ => True) p f after := by
  have hreplace := throughout_replace faults (keptBeside_true p) (h := h) trivial text
  rw [write_eq]
  refine (Throughout.bind (hreplace.imp ?_ fun _ _ => id)).2
  rintro _ placed ⟨mid, m, node, hreplaced⟩
  refine ((throughout_log faults _ placed).during_imp fun _ _ => trivial).imp ?_
    fun _ _ => False.elim
  rintro _ after hagrees
  exact ⟨mid, placed, m, node, hreplaced, hagrees⟩

end HeaderFile

/-! ## The end states -/

/-- A header has been written: `mid` is the host in which its temporary file was complete, and `m`
the location that the path led to then. -/
structure Host.Written (answering : Answering) (p : Path) (text : String) (h mid after : Host)
    (m : Location) (node : FileNode) : Prop where
  filled : ∃ temporary, (HeaderFile.fill p text).onIn answering h = (.ok temporary, mid)
  parent : mid.HasDirectory (toString p.parent)
  names : mid.files.reach mid.folder (toString p) false = .ok (mid.files.reachedAt m)
  header : after.files.get? m = some (.file node)
  content : node.content = Host.bytesOf text
  mode : mid.TargetMode p node.mode
  reached : (∀ target, mid.files.get? m ≠ some (.link target)) ∨
      (mid.files.erase m).reach mid.folder (toString p) false = .ok (.vacant m) →
    after.files.reach after.folder (toString p) false = .ok (.found m (.file node))
  others : ∀ k, k ≠ m → after.files.get? k = h.files.get? k ∨
    h.files.get? k = none ∧ ∃ e, after.files.get? k = some e ∧ mid.IsAbove p.parent k e
  umask_mid : mid.umask = h.umask
  umask_eq : after.umask = h.umask

namespace Host

variable {answering : Answering} {kept : Host → Prop} {p : Path} {text : String}
variable {h mid placed after : Host} {m : Location} {node : FileNode}

theorem Replaced.written (hreplaced : h.Replaced answering kept p text mid placed m node) :
    h.Written answering p text mid placed m node := by
  obtain ⟨temporary, t, node', hmid, hmoved⟩ := hreplaced.moved
  refine { hreplaced with
    parent := hmid.parent
    names := hmoved.names
    header := hmoved.header
    reached := ?_
    others := ?_
    umask_mid := hmid.umask_eq
    umask_eq := hmoved.umask_eq.trans hmid.umask_eq }
  · rintro (hlink | hfree)
    · exact hmoved.reach_of_not_link hmid hlink
    · exact hmoved.reach_of_erase hmid hfree
  · intro k hkm
    by_cases hkt : k = t
    · subst hkt
      exact .inl (by rw [hmoved.removed hkm, hmid.free])
    · rw [hmoved.others k hkm hkt]
      cases hget : h.files.get? k with
      | some e => exact .inl (hmid.keeps k e hget)
      | none =>
        cases hsome : mid.files.get? k with
        | none => exact .inl rfl
        | some e => exact .inr ⟨rfl, e, rfl, hmid.made k e hkt hget hsome⟩

/-- No entry is changed but the one that the header replaces. -/
theorem Written.eq_of_changed (hwritten : h.Written answering p text mid after m node)
    {k : Location} {e : Entry} (hbefore : h.files.get? k = some e)
    (hafter : after.files.get? k ≠ some e) : m = k := by
  refine Classical.byContradiction fun hne => ?_
  rcases hwritten.others k (Ne.symm hne) with hsame | ⟨hnone, -⟩
  · exact hafter (hsame.trans hbefore)
  · cases hbefore.symm.trans hnone

/-- A header that has been written stays so while files stay what they are. -/
theorem Written.of_agrees (hwritten : h.Written answering p text mid placed m node)
    (hagrees : placed.Agrees after) : h.Written answering p text mid after m node := by
  obtain ⟨clock, messages, rfl⟩ := hagrees
  exact { hwritten with }

end Host

namespace HeaderFile

open MethodMacros.Action

/-- **End states.**  Any operation may fail for reasons from outside, but for the removal of the
temporary file.  If writing succeeds, the location that the path led to holds the header, with all
its content and with its permissions, and all other locations are as before, except for directories
above the header.  If it fails, only such directories can be new. -/
theorem written_or_grows (faults : Faults) (hspares : faults.SpareRemovals) (p : Path)
    (text : String) (h : Host) :
    (write p text).EnsuresIn (Host.performDespite faults) h
      (fun _ after => ∃ mid m node,
        h.Written (Host.performDespite faults) p text mid after m node)
      fun _ after => h.Grows p.parent after := by
  refine (ensuresIn_write faults p text h).imp ?_ fun f after hundone => hundone.grows hspares
  rintro _ after ⟨mid, placed, m, node, hreplaced, hagrees⟩
  exact ⟨mid, m, node, hreplaced.written.of_agrees hagrees⟩

/-- On a host on which nothing else fails, a failure to write is reported unless the path cannot be
taken. -/
theorem ensures_write (p : Path) (text : String) (h : Host) :
    (write p text).Ensures h
      (fun _ after => ∃ mid m node, h.Written Host.perform p text mid after m node)
      fun f after => h.Grows p.parent after ∧
        (f.isReported = false → ∃ prepared, (prepare p).on h = (.error .nullByte, prepared)) := by
  rw [← ensuresIn_perform, ← Host.performDespite_none]
  refine (ensuresIn_write Faults.none p text h).imp ?_ ?_
  · rintro _ after ⟨mid, placed, m, node, hreplaced, hagrees⟩
    exact ⟨mid, m, node, hreplaced.written.of_agrees hagrees⟩
  · rintro f after hundone
    refine ⟨hundone.grows Faults.spareRemovals_none, fun hf => ?_⟩
    rw [← onIn_perform, ← Host.performDespite_none]
    exact hundone.unreported Faults.spareRemovals_none Faults.areRefusals_none hf

/-- Moving a file fails. -/
def failingRename : Faults := fun _ r =>
  match r with
  | .rename source target => some { error := .refused .accessDenied source (some target) }
  | _ => none

/-- A host with an old header that only its owner may read, with a link to it in another directory,
and with a link to that directory. -/
def oldHeaderHost : Host where
  files := .ofList [(["old"], .directory 0o755), (["include"], .directory 0o755),
    (["old", "x.h"], .file { mode := 0o600, modified := 0, content := Host.bytesOf "old" }),
    (["include", "x.h"], .link "../old/x.h"), (["current"], .link "include")]
  folder := []
  clock := 0

/-- A header is written below a linked directory, to where a link leads to an old header: it takes
the place of the link, with the permissions of the old header, and its path leads to it.  If it
cannot be moved, a directory that was missing above it is all that is new. -/
theorem written_or_grows_oldHeaderHost :
    let p : Path := ⟨.relative, ["current", "x.h"]⟩
    let q : Path := ⟨.relative, ["current", "new", "x.h"]⟩
    Faults.none.SpareRemovals ∧ failingRename.SpareRemovals ∧
      (∃ after mid node,
        (write p "new").onIn (Host.performDespite Faults.none) oldHeaderHost = (.ok (), after) ∧
        oldHeaderHost.Written (Host.performDespite Faults.none) p "new" mid after
          ["include", "x.h"] node ∧ node.mode = 0o600 ∧
        after.files.reach after.folder (toString p) false =
          .ok (.found ["include", "x.h"] (.file node))) ∧
      ∃ f after,
        (write q "new").onIn (Host.performDespite failingRename) oldHeaderHost = (.error f, after) ∧
        oldHeaderHost.Grows q.parent after := by
  intro p q
  have hfails : failingRename.SpareRemovals := fun _ _ => rfl
  have hwrite : ((write p "new").onIn (Host.performDespite Faults.none) oldHeaderHost).1.toOption =
      some () := by
    decide +kernel
  have hlook : (((write p "new").onIn (Host.performDespite Faults.none) oldHeaderHost).2.files.get?
      ["include", "x.h"]).map (fun e => (e.status.kind, e.status.mode)) = some (.file, 0o600) := by
    decide +kernel
  have hfree : let mid := ((fill p "new").onIn (Host.performDespite Faults.none) oldHeaderHost).2
      (mid.files.erase ["include", "x.h"]).reach mid.folder (toString p) false =
        .ok (.vacant ["include", "x.h"]) := by
    decide +kernel
  have hfailed : ((write q "new").onIn (Host.performDespite failingRename)
      oldHeaderHost).1.toOption.isNone = true := by
    decide +kernel
  refine ⟨Faults.spareRemovals_none, hfails, ?_, ?_⟩
  · have hon : (write p "new").onIn (Host.performDespite Faults.none) oldHeaderHost = (.ok (), _) :=
      Prod.ext (eq_ok_of_toOption hwrite) rfl
    obtain ⟨mid, m, node, hwritten⟩ :=
      (written_or_grows Faults.none Faults.spareRemovals_none p "new" oldHeaderHost).of_ok hon
    -- The link is gone, so it is where the header is now.
    have hm : m = ["include", "x.h"] := by
      refine hwritten.eq_of_changed (e := .link "../old/x.h") rfl fun hsame => ?_
      rw [hsame] at hlook
      cases hlook
    subst hm
    rw [hwritten.header] at hlook
    obtain ⟨temporary, hfilled⟩ := hwritten.filled
    rw [hfilled] at hfree
    exact ⟨_, mid, node, hon, hwritten, (Prod.mk.inj (Option.some.inj hlook)).2,
      hwritten.reached (.inr hfree)⟩
  · have hends := written_or_grows failingRename hfails q "new" oldHeaderHost
    rcases hon : (write q "new").onIn (Host.performDespite failingRename) oldHeaderHost with
      ⟨f | _, after⟩
    · exact ⟨f, after, rfl, hends.of_error hon⟩
    · rw [hon] at hfailed
      cases hfailed

/-- A host whose root directory holds a link to itself. -/
def linkedHost : Host := { files := ⟨[(["m"], .link ".")]⟩, folder := [], clock := 0 }

/-- A path that runs through the link that it names. -/
def linkedPath : Path := ⟨.relative, ["m", "m"]⟩

/-- A path that runs through the link that it names leads nowhere when a header has been written,
since the header has taken the place of the link. -/
theorem write_linkedPath :
    ∃ after, (write linkedPath "x").on linkedHost = (.ok (), after) ∧
      ∀ r, after.files.reach after.folder (toString linkedPath) false ≠ .ok r := by
  have hwrite : ((write linkedPath "x").on linkedHost).1.toOption = some () := by
    decide +kernel
  have hreach : (((write linkedPath "x").on linkedHost).2.files.reach
      ((write linkedPath "x").on linkedHost).2.folder (toString linkedPath)
        false).toOption.isNone = true := by
    decide +kernel
  exact ⟨_, Prod.ext (eq_ok_of_toOption hwrite) rfl, ne_ok_of_toOption hreach⟩

end HeaderFile

end MethodMacros
