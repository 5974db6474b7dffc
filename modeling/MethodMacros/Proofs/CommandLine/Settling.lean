import MethodMacros.Proofs.CommandLine.Outcomes
import MethodMacros.Proofs.HeaderFile.Ages
import MethodMacros.Proofs.Time

/-!
# Regeneration settles

A command that runs a tool leaves a header that is up to date, unless the source has been changed in
the meantime.  So the same command line has nothing to do when it is carried out again (`settles`).

## The age of a header

The two tools differ in who makes a header new.  What javap prints goes to a temporary file that is
written after the start of the command and then moved to its place.  What javah writes can be as old
as it likes, for javah leaves a header alone that would not change; so the command looks at the
header after the run and touches it if it is older than the start.  Either way the header counts as
no older than the start of the command (`Host.CountsSince`), and a source that was there at the
start is older still.

Times are rounded before they are compared.  So `Host.CountsSince` says that a header *counts* as no
older, and not that it is: after rounding a time may equal a later one, but never pass it.

## The first run and the second

Nothing is known about the tools, and of the clock only that it does not go back: all that is said
here holds of each of the ends that a command line can have.

* `yields_refresh`, `yields_javah`, `yields_generate`: what makes the header new.
* `Command.yields_run`: the first run had nothing to do, or its header counts as no older than its
  start.  In either case there is nothing to do now.
* `Command.ends_of_skips`: a run that has nothing to do asks for the status of two paths, and
  changes nothing.
-/

namespace MethodMacros

open MethodMacros.Action CommandLine

/-- If a path leads to a file, the file does not count as older than a given time. -/
def Host.CountsSince (h : Host) (start : Int) (path : String) : Prop :=
  ∀ time, h.IsKind .file path → h.modifiedAt path = .ok time → Time.notLater start time = true

namespace Host

variable {h after : Host} {start : Int} {path : String}

theorem IsKind.exists_reach (hkind : h.IsKind .file path) :
    ∃ l node, h.files.reach h.folder path true = .ok (.found l (.file node)) ∧
      h.modifiedAt path = .ok node.modified := by
  obtain ⟨hpath, s, hstatus, hs⟩ := hkind
  obtain ⟨l, e, hreach, rfl⟩ := FileSystem.status_eq_ok hstatus
  cases e with
  | file node => exact ⟨l, node, hreach, by rw [modifiedAt, askedAt, if_pos hpath, hstatus]; rfl⟩
  | _ => cases hs

/-- A file that is no older than a time does not count as older either. -/
theorem FileSince.countsSince (hsince : h.FileSince start path) : h.CountsSince start path := by
  intro time hkind htime
  obtain ⟨l, node, hfound, hmodified⟩ := hkind.exists_reach
  cases hmodified.symm.trans htime
  exact Time.notLater_of_le (hsince l node hfound)

theorem CountsSince.of_le {earlier : Int} (hearlier : earlier ≤ start)
    (hsince : h.CountsSince start path) : h.CountsSince earlier path := fun time hkind htime =>
  Time.notLater_trans (Time.notLater_of_le hearlier) (hsince time hkind htime)

/-- Nothing but the files tells how old a file is. -/
theorem CountsSince.of_agrees (hsince : h.CountsSince start path) (hagrees : h.Agrees after) :
    after.CountsSince start path := by
  obtain ⟨_, _, rfl⟩ := hagrees
  exact hsince

/-- Whether there is anything to do is told by the files alone. -/
theorem skips_congr (hfiles : after.files = h.files) (hfolder : after.folder = h.folder)
    (className : String) (output : Path) (settings : ToolSettings) :
    after.skips className output settings = h.skips className output settings := by
  simp only [skips, freshness, tellsKind, modifiedAt, hfiles, hfolder]

theorem skips_of_agrees (hagrees : h.Agrees after) (className : String) (output : Path)
    (settings : ToolSettings) :
    after.skips className output settings = h.skips className output settings := by
  obtain ⟨clock, messages, hafter⟩ := hagrees
  exact skips_congr (by rw [hafter]) (by rw [hafter]) className output settings

/-- There is nothing to do where the source is no newer than a time that the output counts as no
older than. -/
theorem skips_of_countsSince {className : String} {output dir : Path} {settings : ToolSettings}
    {time : Int} (hforce : settings.force = false) (hdir : settings.sourceDir = some dir)
    (hsource : h.IsKind .file (toString (sourceFile className dir)))
    (htime : h.modifiedAt (toString (sourceFile className dir)) = .ok time) (hold : time ≤ start)
    (houtput : h.IsKind .file (toString output))
    (hsince : h.CountsSince start (toString output)) :
    h.skips className output settings = .ok true := by
  obtain ⟨made, hmade⟩ := houtput.exists_modifiedAt
  have hnotLater := Time.notLater_trans (Time.notLater_of_le hold) (hsince made houtput hmade)
  have hfresh : h.freshness (sourceFile className dir) output = .ok true := by
    simp only [freshness, tellsKind_eq_true.mpr hsource, tellsKind_eq_true.mpr houtput, htime, hmade,
      bind, Except.bind, Bool.not_true, Bool.false_eq_true, ↓reduceIte, hnotLater]
    rfl
  simp only [skips, hforce, hdir, hfresh, mapError_ok]

end Host

/-! ## What the first run leaves -/

variable {h : Host} {start : Int}

/-- A file that is touched is as new as the present. -/
theorem yields_touch {path : String} (hstart : start ≤ h.clock) (hkind : h.IsKind .file path) :
    (attempt (request (.touch path)) : Action FileError Unit).Yields h fun _ after =>
      after.CountsSince start path := by
  refine yields_attempt (yields_request fun x after hanswer value hx => ?_)
  obtain ⟨l, node, hfound, -⟩ := hkind.exists_reach
  obtain ⟨hdone, clock, rfl⟩ := hanswer.eq rfl
  obtain ⟨files, hmodified, hafter⟩ := answerAt_effect_eq_ok (hdone.symm.trans hx)
  obtain rfl :=
    Except.ok.inj ((FileSystem.setModified_of_reach hfound).symm.trans hmodified)
  rw [Host.answer, hafter]
  refine Host.FileSince.countsSince fun l' node' hfound' => ?_
  cases (FileSystem.reach_insert_of_file hfound).symm.trans hfound'
  exact hstart

namespace Tool

/-- Whatever time a file had, it counts as no older than a given time when it has been refreshed. -/
theorem yields_refresh (output : Path) (hstart : start ≤ h.clock) :
    (refresh output start).Yields h fun _ after => after.CountsSince start (toString output) := by
  have hasked := ((finds_hasKind .file output h).mapError Failure.file).yields
    (((looks_hasKind _ _).mapError _).imp Request.isQuestion_of_isLooking)
  refine .bind (hasked.later.imp ?_)
  rintro here asked ⟨⟨hhere, hagrees⟩, hclock, -⟩
  have htells := mapError_eq_ok.mp hhere
  cases here with
  | false =>
    refine yields_pure (Host.CountsSince.of_agrees (fun time hkind _ => ?_) hagrees)
    cases (tellsKind_eq_true.mpr hkind).symm.trans htells
  | true =>
    have hkind := (tellsKind_eq_true.mp htells).of_agrees hagrees
    have htimed := ((Freshness.finds_modified asked output).mapError Failure.file).yields
      ((asks_modified rfl).mapError _)
    refine .bind (htimed.later.imp ?_)
    rintro modified timed ⟨⟨hmodified, htimed⟩, hlater, -⟩
    split
    · exact .mapError (yields_touch (Int.le_trans hstart (Int.le_trans hclock hlater))
        (hkind.of_agrees htimed))
    · refine yields_pure (Host.CountsSince.of_agrees (fun time _ htime => ?_) htimed)
      cases (mapError_eq_ok.mp hmodified).symm.trans htime
      simpa using ‹¬ (!Time.notLater start modified) = true›

/-- A header that javah was asked for counts as no older than its run. -/
theorem yields_javah (className : String) (output : Path) (tool : String) (classpath : List String)
    (folder : Option Folder) (verbose : Bool) :
    (javah className output tool classpath folder verbose).Yields h fun _ after =>
      after.CountsSince h.clock (toString output) := by
  refine .bind (yields_request fun started asked hanswer => ?_)
  obtain ⟨rfl, -⟩ := hanswer.eq rfl
  refine .bind ((yields_trivial _ asked).imp fun target resolved hresolved => ?_)
  refine .bind ((yields_trivial _ resolved).imp fun arguments found hfound => ?_)
  refine .bind ((yields_trivial _ found).imp fun result ended hended => ?_)
  refine .bind ((yields_trivial _ ended).imp fun _ logged hlogged => ?_)
  refine .bind ((yields_trivial _ logged).imp fun _ succeeded hsucceeded => ?_)
  have hstart : h.clock ≤ succeeded.clock :=
    calc h.clock ≤ asked.clock := hanswer.clock_le
      _ ≤ resolved.clock := hresolved.1
      _ ≤ found.clock := hfound.1
      _ ≤ ended.clock := hended.1
      _ ≤ logged.clock := hlogged.1
      _ ≤ succeeded.clock := hsucceeded.1
  exact .bind ((yields_refresh output hstart).imp fun _ last hsince => yields_pure hsince)

end Tool

namespace HeaderFile

/-- A header that is made of a report is no older than the making. -/
theorem yields_generate (config : Report.Config) (report : List String) (output : Path) :
    (generate config report output).Yields h fun _ after =>
      after.FileSince h.clock (toString output) := by
  refine .bind ((yields_trivial _ h).imp fun records collected hcollected => ?_)
  refine .bind ((yields_trivial _ collected).imp fun _ logged hlogged => ?_)
  refine .bind ((yields_write output _ (Int.le_trans hcollected.1 hlogged.1)).imp ?_)
  rintro _ written hsince
  refine .bind ((Asks.yields_files (.request rfl) written).imp ?_)
  exact fun _ last hsame => yields_pure (hsince.of_eq hsame)

end HeaderFile

namespace CommandLine

/-- The class, the header and the settings of a command that runs a tool. -/
def Command.job? : Command → Option (String × Path × ToolSettings)
  | .javap config output settings => some (config.className, output, settings)
  | .javah className output settings _ => some (className, output, settings)
  | .parse _ _ _ => none

variable {command : Command} {className : String} {output : Path} {settings : ToolSettings}

/-- A command that runs a tool checks whether there is anything to do.  If there is, it makes its
header, which counts as no older than that. -/
theorem Command.exists_run_eq (hjob : command.job? = some (className, output, settings)) :
    ∃ (name : String) (regenerate : Action Failure Unit),
      (command.run = isSkippable className output settings name >>= fun skippable =>
        if skippable then pure () else regenerate) ∧
      ∀ mid : Host, regenerate.Yields mid fun _ after =>
        after.CountsSince mid.clock (toString output) := by
  cases command with
  | parse => cases hjob
  | javap config output settings =>
    cases hjob
    refine ⟨"javap", _, rfl, fun mid => ?_⟩
    refine .bind ((yields_trivial _ mid).imp fun tool located hlocated => ?_)
    refine .bind ((yields_trivial _ located).imp fun report printed hprinted => ?_)
    refine .bind ((HeaderFile.yields_generate config _ output).imp fun count made hmade => ?_)
    refine (yields_question rfl).imp fun _ last hsaid => ?_
    exact (hmade.countsSince.of_le (Int.le_trans hlocated.1 hprinted.1)).of_agrees hsaid.2
  | javah className output settings verbose =>
    cases hjob
    refine ⟨"javah", _, rfl, fun mid => ?_⟩
    refine .bind ((yields_trivial _ mid).imp fun tool located hlocated => ?_)
    refine .bind ((Tool.yields_javah className output _ _ _ verbose).imp fun _ made hmade => ?_)
    refine (yields_question rfl).imp fun _ last hsaid => ?_
    exact (hmade.of_le hlocated.1).of_agrees hsaid.2

/-- A command that ends with 0 has nothing to do, and leaves the files as they are, or its header
counts as no older than its start. -/
theorem Command.yields_run (hjob : command.job? = some (className, output, settings)) (h : Host) :
    command.run.Yields h fun _ after =>
      h.skips className output settings = .ok true ∧ h.Agrees after ∨
        after.CountsSince h.clock (toString output) := by
  obtain ⟨name, regenerate, hrun, hregenerate⟩ := Command.exists_run_eq hjob
  rw [hrun]
  have hasked := (finds_isSkippable className output settings name).yields (h := h)
    (asks_isSkippable name (fun _ _ => rfl) rfl fun _ => rfl)
  refine .bind (hasked.later.imp ?_)
  rintro skippable asked ⟨⟨hskips, hagrees⟩, hclock, -⟩
  cases skippable with
  | true => exact yields_pure (.inl ⟨hskips, hagrees⟩)
  | false => exact (hregenerate asked).imp fun _ last hsince => .inr (hsince.of_le hclock)

/-- An exit code of 0 is that of a command that has not failed. -/
theorem Command.yields_exitCode {done : Host → Prop}
    (hrun : command.run.Yields h fun _ after => done after) :
    command.exitCode.Yields h fun code after => code = 0 → done after := by
  refine .outcome_bind (hrun.imp fun _ after hdone => yields_pure fun _ => hdone) fun f mid => ?_
  dsimp only
  unfold reportFailure
  split
  · exact .bind fun _ _ _ _ => .bind fun _ _ _ _ => yields_pure fun hcode => by cases hcode
  · exact yields_throw f

end CommandLine

/-! ## The second run -/

/-- A request asks for the status of one of several paths, or tells the user something. -/
def Request.isCheck (paths : List String) : Request → Bool
  | .status path => paths.contains path
  | .tell _ => true
  | _ => false

theorem Request.isQuestion_of_isCheck {paths : List String} (r : Request)
    (hr : r.isCheck paths = true) : r.isQuestion = true := by
  cases r with
  | status | tell => rfl
  | _ => cases hr

namespace CommandLine

variable {command : Command} {className : String} {output dir : Path} {settings : ToolSettings}
variable {after last : Host} {asked : List Request} {code : Except Failure Nat}

/-- A command that has nothing to do looks at the source and the header, and does nothing else. -/
theorem Command.ends_of_skips (hjob : command.job? = some (className, output, settings))
    (hdir : settings.sourceDir = some dir) (hskips : h.skips className output settings = .ok true)
    (hends : command.exitCode.run.Ends h asked code last) : code = .ok 0 ∧ h.Agrees last ∧
      ∀ r ∈ asked, r.isCheck [toString (sourceFile className dir), toString output] = true := by
  obtain ⟨name, regenerate, hrun, -⟩ := Command.exists_run_eq hjob
  obtain ⟨first, rest, x, mid, rfl, hfirst, hrest⟩ := ends_of_outcome_bind hends
  have hfinds := finds_isSkippable (h := h) className output settings name
  have hasks : (isSkippable className output settings name).Asks
      (Request.isCheck [toString (sourceFile className dir), toString output]) := by
    refine asks_isSkippable name (fun dir' hdir' => ?_) (by simp [Request.isCheck]) fun _ => rfl
    cases hdir.symm.trans hdir'
    simp [Request.isCheck]
  rw [hskips] at hfinds
  rw [hrun] at hfirst
  obtain ⟨checks, none, checked, rfl, hchecks, hagrees, hnone⟩ :=
    hfinds.ends_bind Request.isQuestion_of_isCheck hasks (.refl h) hfirst
  cases hnone
  cases hrest
  exact ⟨rfl, hagrees, by simpa using hchecks⟩

/-- **Settling.**  Let a command line that runs a tool, with a directory of sources and without
force, end with 0; and let the source of its class be a file then whose time is not later than the
start, as it is if it was so before and nobody changed it, and let the path of the header lead to a
file.  Then there is nothing left to do.  On the same files, at any time, each command line with the
same settings about the tool ends with 0, whatever its patterns are and whether they can be read or
not; it asks for nothing but the status of the source and of the header, so it looks for no tool and
starts none; and it changes nothing. -/
theorem settles {args : List String} {time : Int} (hselected : selected? args = some command)
    (hjob : command.job? = some (className, output, settings)) (hforce : settings.force = false)
    (hdir : settings.sourceDir = some dir) (hfirst : (run args).run.Ends h asked (.ok 0) after)
    (hsource : after.IsKind .file (toString (sourceFile className dir)))
    (htime : after.modifiedAt (toString (sourceFile className dir)) = .ok time)
    (hold : time ≤ h.clock) (houtput : after.IsKind .file (toString output))
    {again : Host} (hfiles : again.files = after.files) (hfolder : again.folder = after.folder)
    {argsAgain : List String} {commandAgain : Command}
    (hselectedAgain : selected? argsAgain = some commandAgain)
    (hjobAgain : commandAgain.job? = some (className, output, settings)) :
    (∃ asked code last, (run argsAgain).run.Ends again asked code last) ∧
      ∀ asked code last, (run argsAgain).run.Ends again asked code last →
        code = .ok 0 ∧ again.Agrees last ∧
          ∀ r ∈ asked, r.isCheck [toString (sourceFile className dir), toString output] = true := by
  rw [run_of_selected hselected] at hfirst
  rw [run_of_selected hselectedAgain]
  have hskips : after.skips className output settings = .ok true := by
    have hleft := Command.yields_exitCode (Command.yields_run hjob h) asked 0 after hfirst rfl
    rcases hleft with ⟨hskips, hagrees⟩ | hsince
    · exact (Host.skips_of_agrees hagrees className output settings).trans hskips
    · exact Host.skips_of_countsSince hforce hdir hsource htime hold houtput hsince
  have hskipsAgain : again.skips className output settings = .ok true :=
    (Host.skips_congr hfiles hfolder className output settings).trans hskips
  exact ⟨⟨_, _, _, commandAgain.exitCode.run.ends_run again⟩, fun asked code last hends =>
    Command.ends_of_skips hjobAgain hdir hskipsAgain hends⟩

/-- A host with a header that is older than its source, and with a stand-in for javah that leaves
the header as it is. -/
def staleHost : Host where
  files := .ofList [
    (["Main.java"], .file { mode := 0o644, modified := 5000000000, content := [] }),
    (["Main.h"], .file { mode := 0o644, modified := 1000000000, content := [] }),
    (["javah"], .file { mode := 0o755, modified := 0, content := [], behaviour := some {} })]
  folder := []
  clock := 9000000000

/-- The first run starts javah and touches the header that javah has left; the second one has
nothing to do. -/
theorem settles_staleHost :
    let args := ["javah", "Main", "-o", "Main.h", "--source-dir", ".", "--javah-path", "/javah"]
    ∃ asked after, (run args).run.Ends staleHost asked (.ok 0) after ∧
      after.files ≠ staleHost.files ∧
      ∀ asked code last, (run args).run.Ends after asked code last →
        code = .ok 0 ∧ after.Agrees last ∧
          ∀ r ∈ asked, r.isCheck ["Main.java", "Main.h"] = true := by
  intro args
  let source : Path := ⟨.relative, ["Main.java"]⟩
  let output : Path := ⟨.relative, ["Main.h"]⟩
  let settings : ToolSettings :=
    ⟨[], none, some ⟨.relative, []⟩, false, some ⟨.single, ["javah"]⟩⟩
  have hread : readSettings args = .ok ⟨false, some (.javah "Main" output settings false)⟩ :=
    eq_ok_of_toOption (by decide +kernel)
  have hselected : selected? args = some (.javah "Main" output settings false) := by
    rw [selected?, hread]
  have hcode : ((run args).on staleHost).1 = .ok 0 :=
    eq_ok_of_toOption (by decide +kernel)
  have hchanged : ((run args).on staleHost).2.files ≠ staleHost.files := by decide +kernel
  have hsource : ((run args).on staleHost).2.tellsKind .file "Main.java" = .ok true :=
    eq_ok_of_toOption (by decide +kernel)
  have htime : ((run args).on staleHost).2.modifiedAt "Main.java" = .ok 5000000000 :=
    eq_ok_of_toOption (by decide +kernel)
  have houtput : ((run args).on staleHost).2.tellsKind .file "Main.h" = .ok true :=
    eq_ok_of_toOption (by decide +kernel)
  have hfirst : (run args).run.Ends staleHost ((run args).run.requests staleHost)
      ((run args).on staleHost).1 ((run args).on staleHost).2 := (run args).run.ends_run staleHost
  rw [hcode] at hfirst
  exact ⟨_, _, hfirst, hchanged, (settles hselected rfl rfl rfl hfirst
    (tellsKind_eq_true.mp hsource) htime (by decide) (tellsKind_eq_true.mp houtput) rfl rfl
    hselected rfl).2⟩

end CommandLine

end MethodMacros
