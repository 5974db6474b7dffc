import MethodMacros.Proofs.FileSystem.Effects
import MethodMacros.Proofs.Freshness
import MethodMacros.Proofs.Jdk.Finding
import MethodMacros.Tool

/-!
# How running a tool escapes

A tool that cannot be started, or that fails, is reported.  What escapes is found before the start:
a path whose links cannot be followed, and an argument with a character that no argument can hold.
After the run of javah the header is looked at once more, and this can escape too.

* `Host.javapCommand`, `Host.javahCommand`: the command lines, as computations about a host.
* `Host.Unresolved`, `Unstartable`: the two things that are found before the start.
* `start_of_acceptable`, `start_of_not_acceptable`: a start fails for the characters of its arguments
  exactly if one of them cannot be taken.
* `escapes_javap`, `escapes_javahRun`, `escapes_refresh`: the runs of the two tools, and the look at
  the header.
-/

namespace MethodMacros

open MethodMacros.Action

namespace Host

variable {h : Host}

/-- The arguments for a list of places where classes are found. -/
def classpathArguments (h : Host) : List String → Except Failure (List String)
  | [] => .ok []
  | entries => do
      let resolved ← entries.mapM fun entry => h.resolved (.ofString entry)
      return ["-classpath", ":".intercalate (resolved.map toString)]

/-- The command line of javap. -/
def javapCommand (h : Host) (className tool : String) (classpath : List String) :
    Except Failure (List String) := do
  return [tool, "-s"] ++ (← h.classpathArguments classpath) ++ [className]

/-- The command line of javah. -/
def javahCommand (h : Host) (className : String) (output : Path) (tool : String)
    (classpath : List String) (verbose : Bool) : Except Failure (List String) := do
  let verbosity := if verbose then ["-verbose"] else []
  let target := ["-o", toString (← h.resolved output)]
  return [tool] ++ verbosity ++ target ++ (← h.classpathArguments classpath) ++ [className]

/-- The links of one of several paths cannot be followed. -/
def Unresolved (h : Host) (paths : List Path) : Prop :=
  ∃ p ∈ paths, ∃ e, h.resolve (toString p) = .error e

theorem unresolved_cons {p : Path} {paths : List Path} :
    h.Unresolved (p :: paths) ↔ (∃ e, h.resolve (toString p) = .error e) ∨ h.Unresolved paths := by
  simp [Unresolved]

/-- A command line, if there is one, holds a character that no argument can hold, or is started in a
directory whose path does. -/
def Unstartable (command : Except Failure (List String)) (folder : Option Tool.Folder) : Prop :=
  ∃ arguments, command = .ok arguments ∧
    (arguments ++ (folder.map Tool.Folder.name).toList).all acceptable = false

theorem escapes_classpathArguments {entries : List String} :
    Escapes (h.classpathArguments entries) ↔ h.Unresolved (entries.map .ofString) := by
  unfold Unresolved
  cases entries with
  | nil => simp [classpathArguments]
  | cons entry entries =>
    have hentries : Escapes (h.classpathArguments (entry :: entries)) ↔
        ∃ e ∈ entry :: entries, Escapes (h.resolved (.ofString e)) := by
      rw [classpathArguments, escapes_bind, escapes_mapM fun _ _ => isReported_of_resolved]
      · simp
      · simp
    rw [hentries]
    constructor
    · rintro ⟨e, he, hescapes⟩
      exact ⟨.ofString e, List.mem_map_of_mem he, escapes_resolved.mp hescapes⟩
    · rintro ⟨p, hp, hresolve⟩
      obtain ⟨e, he, rfl⟩ := List.mem_map.mp hp
      exact ⟨e, he, escapes_resolved.mpr hresolve⟩

end Host

namespace Tool

variable {h cur : Host}

/-! ## Starting -/

/-- A tool is started unless its command cannot be taken; then nothing else is looked at. -/
theorem start_of_acceptable {command : List String} {folder : Option String}
    (hcommand : command ≠ []) (htaken : (command ++ folder.toList).all acceptable = true) :
    (h.start command folder).1 ≠ .error .nullByte ∧
      (h.start command folder).1 ≠ .error .emptyCommand := by
  cases command with
  | nil => exact absurd rfl hcommand
  | cons name args =>
    unfold Host.start
    dsimp only
    rw [htaken, Bool.not_true, if_neg Bool.false_ne_true]
    cases h.startFolder folder with
    | error e => simp
    | ok l =>
      dsimp only
      split <;> simp

theorem start_of_not_acceptable {command : List String} {folder : Option String}
    (hcommand : command ≠ []) (htaken : (command ++ folder.toList).all acceptable = false) :
    (h.start command folder).1 = .error .nullByte := by
  cases command with
  | nil => exact absurd rfl hcommand
  | cons name args =>
    unfold Host.start
    dsimp only
    rw [htaken]
    rfl

/-- A run escapes if its command cannot be taken, and is reported otherwise. -/
theorem escapes_run {command : List String} (hcommand : command ≠ []) (folder : Option Folder) :
    Escapes ((run command folder).on cur).1 ↔
      (command ++ (folder.map Folder.name).toList).all acceptable = false := by
  refine escapes_tell_bind (.refl cur) fun told _ => ?_
  rw [on_bind, on_request, Host.perform, Host.answer]
  cases htaken : (command ++ (folder.map Folder.name).toList).all acceptable with
  | false =>
    have hstart := start_of_not_acceptable (h := told) hcommand htaken
    rw [hstart]
    exact iff_of_true ((escapes_error _).mpr rfl) rfl
  | true =>
    obtain ⟨hnull, hempty⟩ := start_of_acceptable (h := told) hcommand htaken
    refine iff_of_false ?_ Bool.true_eq_false.mp
    rcases hstart : told.start command (folder.map Folder.name) with ⟨e | finished, last⟩
    · rw [hstart] at hnull hempty
      cases e with
      | refused errno =>
        intro hescapes
        cases (escapes_error (.toolFailed command (-1) _)).mp hescapes
      | badFolder errno =>
        intro hescapes
        cases (escapes_error (.toolFailed command (-1) _)).mp hescapes
      | nullByte => exact absurd rfl hnull
      | emptyCommand => exact absurd rfl hempty
    · exact (escapes_ok _).mp

/-- That a tool failed is reported. -/
theorem not_escapes_succeeded (r : Result) : ¬ Escapes ((succeeded r).on h).1 := by
  unfold succeeded
  split
  · exact (escapes_ok r).mp
  · intro hescapes
    cases (escapes_error (.toolFailed r.command r.exitCode r.output)).mp hescapes

/-! ## The two tools -/

theorem finds_classpathArguments (entries : List String) :
    (classpathArguments entries).Finds h (h.classpathArguments entries) := by
  cases entries with
  | nil => exact .pure _
  | cons entry entries =>
    exact .bind (.mapM (fun entry => Jdk.finds_resolve h (.ofString entry)) _) fun _ => .pure _

/-- Running javap escapes if a place cannot be found, or if the command cannot be taken. -/
theorem escapes_javap (hagrees : h.Agrees cur) (className tool : String)
    (classpath : List String) (folder : Option Folder) :
    Escapes ((javap className tool classpath folder).on cur).1 ↔
      h.Unresolved (classpath.map .ofString) ∨
        Host.Unstartable (h.javapCommand className tool classpath) folder := by
  have hrun : Escapes ((javap className tool classpath folder).on cur).1 ↔
      Escapes (h.classpathArguments classpath) ∨
        ∃ arguments, h.classpathArguments classpath = .ok arguments ∧
          (([tool, "-s"] ++ arguments ++ [className]) ++
            (folder.map Folder.name).toList).all acceptable = false := by
    refine (finds_classpathArguments classpath).escapes_bind hagrees fun arguments after _ _ => ?_
    rw [escapes_on_bind, escapes_run (by simp)]
    refine or_iff_left ?_
    rintro ⟨r, last, -, hescapes⟩
    rcases (escapes_on_bind _ _ _).mp hescapes with hescapes | ⟨_, _, -, hescapes⟩
    · exact not_escapes_succeeded r hescapes
    · exact (escapes_ok _).mp hescapes
  rw [hrun, Host.escapes_classpathArguments, Host.Unstartable, Host.javapCommand,
    exists_bind_eq_ok]
  simp only [exists_pure_eq_ok]

/-- Running javah, up to the last look at the header. -/
def javahRun (className : String) (output : Path) (tool : String) (classpath : List String)
    (folder : Option Folder) (verbose : Bool) : Action Failure (Int × Result) := do
  let started ← request .time
  let verbosity := if verbose then ["-verbose"] else []
  let target := ["-o", toString (← Jdk.resolve output)]
  let command :=
    [tool] ++ verbosity ++ target ++ (← classpathArguments classpath) ++ [className]
  let result ← run command folder
  (Text.outputLines result.output).forM fun line => Action.log .info ("javah: " ++ line)
  let result ← succeeded result
  return (started, result)

theorem javah_eq (className : String) (output : Path) (tool : String) (classpath : List String)
    (folder : Option Folder) (verbose : Bool) :
    javah className output tool classpath folder verbose =
      javahRun className output tool classpath folder verbose >>= fun finished => do
        refresh output finished.1
        return finished.2 := by
  simp only [javah, javahRun, bind_assoc, pure_bind]

/-- Running javah escapes for the same reasons, and if the place of the header cannot be found. -/
theorem escapes_javahRun (hagrees : h.Agrees cur) (className : String) (output : Path)
    (tool : String) (classpath : List String) (folder : Option Folder) (verbose : Bool) :
    Escapes ((javahRun className output tool classpath folder verbose).on cur).1 ↔
      h.Unresolved (output :: classpath.map .ofString) ∨
        Host.Unstartable (h.javahCommand className output tool classpath verbose) folder := by
  have hrun : Escapes ((javahRun className output tool classpath folder verbose).on cur).1 ↔
      Escapes (h.resolved output) ∨ ∃ target, h.resolved output = .ok target ∧
        (Escapes (h.classpathArguments classpath) ∨
          ∃ arguments, h.classpathArguments classpath = .ok arguments ∧
            (([tool] ++ (if verbose then ["-verbose"] else []) ++ ["-o", toString target] ++
                arguments ++ [className]) ++
              (folder.map Folder.name).toList).all acceptable = false) := by
    have hlater : h.Agrees (cur.perform .time).2 := hagrees.trans (.later cur)
    unfold javahRun
    rw [on_bind, on_request]
    refine (Jdk.finds_resolve h output).escapes_bind hlater fun target found _ hfound => ?_
    refine (finds_classpathArguments classpath).escapes_bind hfound fun arguments after _ _ => ?_
    rw [escapes_on_bind, escapes_run (by simp)]
    refine or_iff_left ?_
    rintro ⟨r, last, -, hescapes⟩
    rcases (escapes_on_bind _ _ _).mp hescapes with hescapes | ⟨_, logged, -, hescapes⟩
    · have hlog : ((Text.outputLines r.output).forM fun line =>
          Action.log .info ("javah: " ++ line) : Action Failure PUnit).Finds last (.ok ⟨⟩) :=
        .forM (fun line => .log .info ("javah: " ++ line)) _
      exact (escapes_ok _).mp ((hlog.escapes (.refl last)).mp hescapes)
    · rcases (escapes_on_bind _ _ _).mp hescapes with hescapes | ⟨_, _, -, hescapes⟩
      · exact not_escapes_succeeded r hescapes
      · exact (escapes_ok _).mp hescapes
  rw [hrun, Host.escapes_classpathArguments, Host.Unstartable, Host.javahCommand,
    exists_bind_eq_ok]
  simp only [exists_bind_eq_ok, exists_pure_eq_ok, Host.unresolved_cons, ← Host.escapes_resolved]
  cases hresolved : h.resolved output with
  | error f => simp [Host.isReported_of_resolved hresolved]
  | ok target => simp

/-- The time of a file can be set. -/
theorem not_escapes_touch {kind : EntryKind} {path : String} (hkind : h.IsKind kind path) :
    ¬ Escapes (((attempt (request (.touch path))).mapError .file : Action Failure Unit).on h).1 := by
  obtain ⟨hpath, s, hstatus, -⟩ := hkind
  obtain ⟨l, e, hreach, -⟩ := FileSystem.status_eq_ok hstatus
  have hentry := FileSystem.entryAt_of_reach hreach
  have htouched : ∃ files, h.files.setModified h.folder path h.clock = .ok files := by
    unfold FileSystem.setModified
    rw [hentry]
    cases e with
    | file node => exact ⟨_, rfl⟩
    | directory mode => exact ⟨_, rfl⟩
    | link target => exact ⟨_, rfl⟩
  obtain ⟨files, hfiles⟩ := htouched
  rw [on_mapError, escapes_mapError_file, attempt, on_bind, on_request, Host.perform, Host.answer,
    hfiles]
  unfold Host.answerAt
  rw [hpath]
  rintro ⟨e, he⟩
  cases he

/-- The last look at the header escapes if it cannot be told what its path leads to. -/
theorem escapes_refresh (output : Path) (started : Int) :
    Escapes ((refresh output started).on h).1 ↔ ∃ e, h.Untold (toString output) e := by
  have hrefresh : Escapes ((refresh output started).on h).1 ↔
      Escapes ((h.tellsKind .file (toString output)).mapError .file) ∨
        ∃ x, (h.tellsKind .file (toString output)).mapError Failure.file = .ok x ∧ False := by
    refine ((finds_hasKind _ _ h).mapError _).escapes_bind (.refl h) fun here after hhere hafter => ?_
    cases here with
    | false => exact escapes_ok ()
    | true =>
      have hkind := tellsKind_eq_true.mp (mapError_eq_ok.mp hhere)
      obtain ⟨time, htime⟩ := hkind.exists_modifiedAt
      have hmodified := (Freshness.finds_modified h output).mapError Failure.file
      rw [htime] at hmodified
      rw [if_pos rfl, hmodified.escapes_bind hafter (P := fun _ => False)]
      · simp
      · rintro modified asked - hasked
        split
        · exact iff_of_false (not_escapes_touch (hkind.of_agrees hasked)) id
        · exact escapes_ok ()
  rw [hrefresh, escapes_mapError_file]
  simp [tellsKind_eq_error]

end Tool

end MethodMacros
