import MethodMacros.Proofs.CommandLine.Agreement
import MethodMacros.Proofs.CommandLine.ExitCodes
import MethodMacros.Proofs.CommandLine.Requests
import MethodMacros.Proofs.HeaderFile.Generating
import MethodMacros.Proofs.Host.Runs

/-!
# All or nothing

A command that makes a header of a report ends in exactly one of three ways.  There was nothing to
do, and nothing was done (`Command.Skips`).  Or the whole report was accepted, and its header is in
place (`Command.Makes`).  Or the command ends with another exit code than 0, or with none, and has
changed nothing but that there may be new directories above the header (`Command.Undoes`).
`existsUnique_outcome` says this of all command lines that ask for a header.

## Tools

Nothing is assumed about the tool that is run: `Tools` says how a tool ends, what it prints, and
which files it leaves, in any way whatever.  What a command has changed is then told by comparison
with the host that the tool has left.  `Command.Leaves` and `Command.Reports` are about this host:
the second says in addition that a report was taken.

## From the tool to the exit code

The action is followed with the answers of `Host.performWith`, part by part.

* `throughout_tool`, `throughout_javap`: a tool that ends with success gives a report; if it does
  not, or if it cannot be started, nothing more is done.
* `throughout_runParse`, `throughout_runJavap`: the two commands, up to the header.
* `throughout_generateFrom`: from the report on no tool is started, so it is enough to know how this
  part ends on a host, and that is `ensures_generateFrom`.
* `throughout_exitCode`: a failure is reported, or it escapes.
* `Outcome.describes_unique`: no end is described in two ways.

## Where the header is

The header is at the location that its path led to when it was moved there.  The path leads to it
afterwards, unless it runs through a link that stood in that place: then the header has taken the
place of the link, and `run_linkedPath` is a command line that ends with 0 although its path leads
nowhere.
-/

namespace MethodMacros

open MethodMacros.Action

/-- What becomes of a tool that is started by a command line in a directory: how it ends, or why it
cannot be started, and the files that it leaves. -/
abbrev Tools := Host → List String → Option String → Except StartError Finished × FileSystem

/-- The answers of a host, where tools are others than its own. -/
def Host.performWith (tools : Tools) : Answering := fun h r =>
  match r with
  | .start command folder =>
      ((tools h command folder).1, { h.later with files := (tools h command folder).2 })
  | r => h.perform r

namespace Host

variable {tools : Tools} {h cur left after : Host}

theorem performWith_of_isToolless (tools : Tools) (h : Host) (r : Request)
    (hr : r.isToolless = true) :
    performWith tools h r = h.perform r := by
  cases r with
  | start command folder => cases hr
  | _ => rfl

theorem performWith_of_isLooking (tools : Tools) (h : Host) (r : Request)
    (hr : r.isLooking = true) :
    performWith tools h r = h.perform r :=
  performWith_of_isToolless tools h r (Request.isToolless_of_isLooking r hr)

/-- The tools that a host has itself. -/
def ownTools : Tools := fun h command folder =>
  ((h.start command folder).1, (h.start command folder).2.files)

/-- With its own tools a host answers as ever. -/
theorem performWith_ownTools : performWith ownTools = perform := by
  funext h r
  cases r with
  | start command folder =>
    obtain ⟨files, hfiles⟩ := start_eq h command folder
    rw [performWith, perform_eq, answer, ownTools, hfiles]
    rfl
  | _ => rfl

end Host

namespace CommandLine

variable {tools : Tools} {h cur left after : Host}

/-- The class and the patterns of a command that makes a header of a report, and where the header is
to be. -/
def Command.header? : Command → Option (Report.Config × Path)
  | .javap config output _ => some (config, output)
  | .parse config output _ => some (config, output)
  | .javah _ _ _ _ => none

/-- The command line of the tool that a command starts, and the directory that it is started in.  A
command starts a tool if there is something to do, and if it knows which tool and with which
arguments. -/
def Command.starts (h : Host) : Command → Option (List String × Option String)
  | .javap config output settings =>
      match h.skips config.className output settings,
        h.toolFor .process "javap" settings.toolPath with
      | .ok false, .ok tool =>
          match h.javapCommand config.className (toString tool) settings.classpath with
          | .ok line => some (line, (settings.classesDir.map Tool.Folder.path).map Tool.Folder.name)
          | .error _ => none
      | _, _ => none
  | _ => none

/-- What is left when a command has started its tool, if it starts one, and has done nothing
else. -/
inductive Command.Leaves (tools : Tools) (h : Host) (command : Command) : Host → Prop where
  | untouched {left : Host} (hstarts : command.starts h = none) (hleft : h.Agrees left) :
      Command.Leaves tools h command left
  | started {line : List String} {folder : Option String} {asked left : Host}
      (hstarts : command.starts h = some (line, folder)) (hasked : h.Agrees asked)
      (hleft : ({ asked with files := (tools asked line folder).2 } : Host).Agrees left) :
      Command.Leaves tools h command left

/-- Where the report of a command comes from, and the host that is left when it has been taken from
there: from a file or the input, or from a tool that ended with success. -/
inductive Command.Reports (tools : Tools) (h : Host) : Command → String → Host → Prop where
  | captured {config : Report.Config} {output : Path} {input : Option Path} {text : List Char}
      {left : Host} (htext : h.inputText input = .ok text) (hleft : h.Agrees left) :
      Command.Reports tools h (.parse config output input)
        (String.ofList (Text.unifyNewlines text)) left
  | printed {config : Report.Config} {output : Path} {settings : ToolSettings}
      {line : List String} {folder : Option String} {bytes : List UInt8} {files : FileSystem}
      {asked left : Host}
      (hstarts : (Command.javap config output settings).starts h = some (line, folder))
      (hasked : h.Agrees asked) (hfinished : tools asked line folder = (.ok ⟨0, bytes⟩, files))
      (hleft : ({ asked with files := files } : Host).Agrees left) :
      Command.Reports tools h (.javap config output settings)
        (String.ofList (Text.Utf8.repair bytes)) left

theorem Command.Reports.trans {command : Command} {report : String}
    (hreports : command.Reports tools h report left) (hagrees : left.Agrees after) :
    command.Reports tools h report after := by
  cases hreports with
  | captured htext hleft => exact .captured htext (hleft.trans hagrees)
  | printed hstarts hasked hfinished hleft =>
    exact .printed hstarts hasked hfinished (hleft.trans hagrees)

/-- Whoever has taken a report has left what the tool left. -/
theorem Command.Reports.leaves {command : Command} {report : String}
    (hreports : command.Reports tools h report left) : command.Leaves tools h left := by
  cases hreports with
  | captured htext hleft => exact .untouched rfl hleft
  | printed hstarts hasked hfinished hleft =>
    refine .started hstarts hasked ?_
    rwa [hfinished]

/-! ## From the report on -/

/-- Either the whole report is accepted and its header is put in place, or there are at most new
directories. -/
theorem ensures_generateFrom (report : String) (config : Report.Config) (output : Path)
    (h : Host) : (generateFrom report config output).Ensures h
      (fun _ after => ∃ cur records header mid m node rest, h.Agrees cur ∧
        Header.collect config (Text.reportLines report) = .ok records ∧
        Header.generate config (Text.reportLines report) = .ok header ∧
        cur.Written Host.perform output header mid after m node ∧
        after.messages = .status ("Wrote " ++ toString records.length ++ " methods to: " ++
          toString output ++ "\n") :: rest)
      fun _ after => h.Grows output.parent after := by
  rw [generateFrom, ensures_bind]
  cases hcollect : Header.collect config (Text.reportLines report) with
  | error e =>
    obtain ⟨-, after, hon, hagrees⟩ :=
      HeaderFile.refused_of_collect (p := output) (h := h) hcollect
    rw [Ensures, hon]
    exact Host.Grows.of_agrees hagrees
  | ok records =>
    obtain ⟨_, header, cur, hcollect', -, hheader, hagrees, hwrite⟩ :=
      HeaderFile.proceeds_of_collect (p := output) (h := h) hcollect
    obtain rfl := Except.ok.inj (hcollect.symm.trans hcollect')
    have hfailed := HeaderFile.ensures_write output header cur
    rcases hwritten : (HeaderFile.write output header).on cur with ⟨f | _, written⟩
    · rw [Ensures, hwrite.of_error hwritten]
      exact (Host.Grows.of_agrees hagrees).trans (hfailed.of_error hwritten).1
    · obtain ⟨final, mid, m, node, hon, -, hplaced⟩ := hwrite.of_ok hwritten
      rw [Ensures, hon]
      exact ⟨cur, records, header, mid, m, node, final.messages, hagrees, rfl, hheader,
        hplaced.of_agrees ⟨_, _, rfl⟩, rfl⟩

/-! ## The commands -/

/-- There is nothing to do for a command, and nothing has been done. -/
def Command.Skips (h : Host) (command : Command) (after : Host) : Prop :=
  ∃ config output settings, command = .javap config output settings ∧
    h.skips config.className output settings = .ok true ∧ h.Agrees after

/-- The header of the whole report of a command is in place, and the number of its methods is what
the user was told last. -/
def Command.Makes (tools : Tools) (h : Host) (command : Command) (after : Host) : Prop :=
  ∃ config output report left records header mid m node rest,
    command.header? = some (config, output) ∧ command.Reports tools h report left ∧
      Header.collect config (Text.reportLines report) = .ok records ∧
      Header.generate config (Text.reportLines report) = .ok header ∧
      left.Written Host.perform output header mid after m node ∧
      after.messages = .status ("Wrote " ++ toString records.length ++ " methods to: " ++
        toString output ++ "\n") :: rest

/-- A command has done nothing but start a tool, and make directories above the header. -/
def Command.Undoes (tools : Tools) (h : Host) (command : Command) (after : Host) : Prop :=
  ∃ config output left, command.header? = some (config, output) ∧ command.Leaves tools h left ∧
    left.Grows output.parent after

theorem Command.Leaves.undoes {command : Command} {config : Report.Config} {output : Path}
    (hleaves : command.Leaves tools h left) (hheader : command.header? = some (config, output)) :
    command.Undoes tools h left :=
  ⟨config, output, left, hheader, hleaves, .refl _ _⟩

/-- What happens from the report on. -/
theorem throughout_generateFrom {command : Command} {config : Report.Config} {output : Path}
    {report : String} (hheader : command.header? = some (config, output))
    (hreports : command.Reports tools h report left) :
    (generateFrom report config output).Throughout (Host.performWith tools) (fun _ => True) left
      (fun _ after => command.Skips h after ∨ command.Makes tools h after)
      fun _ after => command.Undoes tools h after := by
  refine (toolless_generateFrom report config output).throughout
    (Host.performWith_of_isToolless tools)
    ((ensures_generateFrom report config output left).imp ?_ ?_)
  · rintro _ after ⟨cur, records, header, mid, m, node, rest, hagrees, hcollect, hgenerate,
      hplaced, hmessages⟩
    exact .inr ⟨config, output, report, cur, records, header, mid, m, node, rest, hheader,
      hreports.trans hagrees, hcollect, hgenerate, hplaced, hmessages⟩
  · rintro f after hgrows
    exact ⟨config, output, left, hheader, hreports.leaves, hgrows⟩

/-- A report that was captured is read, and all is as it was if this fails. -/
theorem throughout_runParse (config : Report.Config) (output : Path) (input : Option Path) :
    (runParse config output input).Throughout (Host.performWith tools) (fun _ => True) h
      (fun _ after => (Command.parse config output input).Skips h after ∨
        (Command.parse config output input).Makes tools h after)
      fun _ after => (Command.parse config output input).Undoes tools h after := by
  rw [runParse_eq]
  have hread := (finds_readText input).ensures (.refl h)
  refine .bind (((looks_readText input).throughout (Host.performWith_of_isLooking tools)
    hread).imp ?_ ?_)
  · rintro text read ⟨htext, hread⟩
    exact throughout_generateFrom rfl (.captured htext hread)
  · rintro f read ⟨-, hread⟩
    exact (Command.Leaves.untouched rfl hread).undoes rfl

/-- Something is logged before the rest is done. -/
theorem throughout_log_bind {ε α : Type} {level : Level} {text : String}
    {f : Unit → Action ε α} {ok : α → Host → Prop} {failed : ε → Host → Prop}
    (hf : (f ()).Throughout (Host.performWith tools) (fun _ => True) (h.logged level text) ok
      failed) :
    (Action.log level text >>= f).Throughout (Host.performWith tools) (fun _ => True) h ok failed :=
  .bind (throughout_request trivial hf)

/-- A tool that is started leaves its files; then what it printed is taken over, or the command has
failed. -/
theorem throughout_tool (tools : Tools) (folder : Option Tool.Folder) {command : Command}
    {config : Report.Config} {output : Path}
    (hheader : command.header? = some (config, output)) {line : List String}
    (hstarts : command.starts h = some (line, folder.map Tool.Folder.name))
    (hagrees : h.Agrees cur) :
    (Tool.run line folder >>= Tool.succeeded).Throughout (Host.performWith tools) (fun _ => True)
      cur
      (fun result after => ∃ asked bytes files, h.Agrees asked ∧
        tools asked line (folder.map Tool.Folder.name) = (.ok ⟨0, bytes⟩, files) ∧
        ({ asked with files := files } : Host).Agrees after ∧
        result.output = String.ofList (Text.Utf8.repair bytes))
      fun _ after => command.Undoes tools h after := by
  have hasked := hagrees.trans (.logged cur .info ("Running: " ++ Text.quotedList line))
  refine .bind (throughout_log_bind (.bind (throughout_request trivial ?_)))
  revert hasked
  generalize cur.logged .info ("Running: " ++ Text.quotedList line) = asked
  intro hasked
  have hfailed (last : Host)
      (hlast : ({ asked with files := (tools asked line (folder.map Tool.Folder.name)).2 } :
        Host).Agrees last) : command.Undoes tools h last :=
    (Command.Leaves.started hstarts hasked hlast).undoes hheader
  rcases hended : tools asked line (folder.map Tool.Folder.name) with ⟨e | finished, files⟩
  · rw [hended] at hfailed
    have hanswer : Host.performWith tools asked (.start line (folder.map Tool.Folder.name)) =
        (.error e, { asked.later with files := files }) := by
      rw [Host.performWith, hended]
    rw [hanswer]
    dsimp only
    cases Tool.startMessage line folder e with
    | error failure => exact throughout_throw (hfailed _ ⟨_, _, rfl⟩)
    | ok message => exact throughout_log_bind (throughout_throw (hfailed _ ⟨_, _, rfl⟩))
  · rw [hended] at hfailed
    have hanswer : Host.performWith tools asked (.start line (folder.map Tool.Folder.name)) =
        (.ok finished, { asked.later with files := files }) := by
      rw [Host.performWith, hended]
    rw [hanswer]
    dsimp only
    refine throughout_log_bind (throughout_pure ?_)
    unfold Tool.succeeded
    dsimp only
    split
    · rename_i hcode
      obtain ⟨code, bytes⟩ := finished
      obtain rfl := hcode
      exact throughout_pure ⟨asked, bytes, files, hasked, hended, ⟨_, _, rfl⟩, rfl⟩
    · exact throughout_throw (hfailed _ ⟨_, _, rfl⟩)

/-- A command that knows its tool starts it. -/
theorem starts_eq_some {config : Report.Config} {output tool : Path} {settings : ToolSettings}
    {line : List String} (hskips : h.skips config.className output settings = .ok false)
    (htool : h.toolFor .process "javap" settings.toolPath = .ok tool)
    (hline : h.javapCommand config.className (toString tool) settings.classpath = .ok line) :
    (Command.javap config output settings).starts h =
      some (line, (settings.classesDir.map Tool.Folder.path).map Tool.Folder.name) := by
  simp only [Command.starts, hskips, htool, hline]

/-- What javap prints is taken over, or the command has failed. -/
theorem throughout_javap {config : Report.Config} {output tool : Path} {settings : ToolSettings}
    (hskips : h.skips config.className output settings = .ok false)
    (htool : h.toolFor .process "javap" settings.toolPath = .ok tool) (hagrees : h.Agrees cur) :
    (Tool.javap config.className (toString tool) settings.classpath
      (settings.classesDir.map .path)).Throughout (Host.performWith tools) (fun _ => True) cur
      (fun report after => (Command.javap config output settings).Reports tools h report after)
      fun _ after => (Command.javap config output settings).Undoes tools h after := by
  rw [Tool.javap]
  have hasked := (Tool.finds_classpathArguments settings.classpath).ensures hagrees
  refine .bind (((looks_classpathArguments _).throughout (Host.performWith_of_isLooking tools)
    hasked).imp ?_ ?_)
  · rintro arguments asked ⟨harguments, hasked⟩
    have hline : h.javapCommand config.className (toString tool) settings.classpath =
        .ok ([toString tool, "-s"] ++ arguments ++ [config.className]) := by
      rw [Host.javapCommand, harguments]
      rfl
    have hstarts := starts_eq_some hskips htool hline
    have hran := throughout_tool tools (settings.classesDir.map .path) rfl hstarts hasked
    dsimp only
    rw [← bind_assoc]
    refine .bind (hran.imp ?_ fun _ _ => id)
    rintro result after ⟨asked, bytes, files, hasked, hfinished, hafter, houtput⟩
    refine throughout_pure ?_
    rw [houtput]
    exact .printed hstarts hasked hfinished hafter
  · rintro f asked ⟨harguments, hasked⟩
    have hline : h.javapCommand config.className (toString tool) settings.classpath = .error f := by
      rw [Host.javapCommand, harguments]
      rfl
    have hstarts : (Command.javap config output settings).starts h = none := by
      simp only [Command.starts, hskips, htool, hline]
    exact (Command.Leaves.untouched hstarts hasked).undoes rfl

/-- A report is taken from javap, unless there is nothing to do. -/
theorem throughout_runJavap (config : Report.Config) (output : Path) (settings : ToolSettings) :
    (runJavap config output settings).Throughout (Host.performWith tools) (fun _ => True) h
      (fun _ after => (Command.javap config output settings).Skips h after ∨
        (Command.javap config output settings).Makes tools h after)
      fun _ after => (Command.javap config output settings).Undoes tools h after := by
  have hasked := (finds_isSkippable config.className output settings "javap").ensures (.refl h)
  refine .bind (((toolless_isSkippable _ _ _ _).throughout (Host.performWith_of_isToolless tools)
    hasked).imp ?_ ?_)
  · rintro skippable asked ⟨hskips, hasked⟩
    cases skippable with
    | true => exact throughout_pure (.inl ⟨config, output, settings, rfl, hskips, hasked⟩)
    | false =>
      have hlocated :=
        (Jdk.finds_locate .process "javap" h settings.toolPath).ensures hasked
      refine .bind (((Jdk.looks_locate _ _ _).throughout (Host.performWith_of_isLooking tools)
        hlocated).imp ?_ ?_)
      · rintro tool located ⟨htool, hlocated⟩
        refine .bind ((throughout_javap hskips htool hlocated).imp ?_ fun _ _ => id)
        rintro report left hreports
        exact throughout_generateFrom rfl hreports
      · rintro f located ⟨htool, hlocated⟩
        have hstarts : (Command.javap config output settings).starts h = none := by
          simp only [Command.starts, hskips, htool]
        exact (Command.Leaves.untouched hstarts hlocated).undoes rfl
  · rintro f asked ⟨hskips, hasked⟩
    have hstarts : (Command.javap config output settings).starts h = none := by
      simp only [Command.starts, hskips]
    exact (Command.Leaves.untouched hstarts hasked).undoes rfl

/-! ## Up to the exit code -/

theorem Command.Undoes.trans {command : Command} (hundoes : command.Undoes tools h left)
    (hagrees : left.Agrees after) : command.Undoes tools h after := by
  obtain ⟨config, output, cur, hheader, hleaves, hgrows⟩ := hundoes
  exact ⟨config, output, cur, hheader, hleaves, hgrows.trans (.of_agrees hagrees)⟩

/-- Reporting a failure is adding messages, and never ends with 0. -/
theorem ensures_reportFailure (name : CommandName) (f : Failure) (h : Host) :
    (reportFailure name f).Ensures h (fun code after => code ≠ 0 ∧ h.Agrees after)
      fun _ after => h.Agrees after := by
  unfold reportFailure
  split
  · exact ⟨Nat.one_ne_zero, _, _, rfl⟩
  · exact .refl h

theorem ensures_refuse (grammar : Grammar) (message : String) (h : Host) :
    (refuse ⟨grammar, .refused message⟩).Ensures h (fun code after => code ≠ 0 ∧ h.Agrees after)
      fun _ after => h.Agrees after :=
  ⟨Nat.succ_ne_zero 1, _, _, rfl⟩

/-- A command ends with 0 if there was nothing to do, or if its header is in place. -/
theorem throughout_exitCode {command : Command}
    (hrun : command.run.Throughout (Host.performWith tools) (fun _ => True) h
      (fun _ after => command.Skips h after ∨ command.Makes tools h after)
      fun _ after => command.Undoes tools h after) :
    command.exitCode.Throughout (Host.performWith tools) (fun _ => True) h
      (fun code after => code = 0 ∧ (command.Skips h after ∨ command.Makes tools h after) ∨
        code ≠ 0 ∧ command.Undoes tools h after)
      fun _ after => command.Undoes tools h after := by
  refine .bind (Throughout.outcome (hrun.imp ?_ ?_))
  · rintro _ after hdone
    exact throughout_pure (.inl ⟨rfl, hdone⟩)
  · rintro f after hundoes
    refine (toolless_reportFailure command.name f).throughout (Host.performWith_of_isToolless tools)
      ((ensures_reportFailure command.name f after).imp ?_ ?_)
    · rintro code last ⟨hcode, hlast⟩
      exact .inr ⟨hcode, hundoes.trans hlast⟩
    · rintro f last hlast
      exact hundoes.trans hlast

/-! ## Command lines -/

/-- The command that a command line selects. -/
def selected? (args : List String) : Option Command :=
  match readSettings args with
  | .ok settings => settings.command
  | .error _ => none

/-- A command line that selects a command ends as the command does. -/
theorem run_of_selected {args : List String} {command : Command}
    (hselected : selected? args = some command) : run args = command.exitCode := by
  unfold selected? at hselected
  split at hselected
  · exact run_of_command ‹_› hselected
  · cases hselected

/-- A command line selects a command that makes a header of a report, or it is refused. -/
inductive AsksForHeader (args : List String) : Prop where
  | selected {command : Command} {config : Report.Config} {output : Path}
      (hselected : selected? args = some command)
      (hheader : command.header? = some (config, output))
  | refused {grammar : Grammar} {message : String}
      (hrefused : readSettings args = .error ⟨grammar, .refused message⟩)

/-- The ways in which such a command line may end. -/
inductive Outcome where
  | skipped
  | made
  | undone

/-- What is so when a command line has ended in one of these ways. -/
def Outcome.Describes (tools : Tools) (args : List String) (h : Host) :
    Outcome → Except Failure Nat × Host → Prop
  | .skipped, (result, after) => result = .ok 0 ∧
      ∃ command, selected? args = some command ∧ command.Skips h after
  | .made, (result, after) => result = .ok 0 ∧
      ∃ command, selected? args = some command ∧ command.Makes tools h after
  | .undone, (result, after) => result ≠ .ok 0 ∧
      match selected? args with
      | some command => command.Undoes tools h after
      | none => h.Agrees after

/-- A command that has something to do is not skipped. -/
theorem Command.Makes.not_skips {command : Command} (hmakes : command.Makes tools h after)
    (left : Host) : ¬ command.Skips h left := by
  rintro ⟨config, output, settings, rfl, hskips, -⟩
  obtain ⟨_, _, _, _, _, _, _, _, _, _, -, hreports, -⟩ := hmakes
  cases hreports with
  | printed hstarts =>
    simp only [Command.starts, hskips] at hstarts
    cases hstarts

/-- A command line ends in one way only. -/
theorem Outcome.describes_unique {args : List String} {ending : Except Failure Nat × Host}
    {outcome other : Outcome} (houtcome : outcome.Describes tools args h ending)
    (hother : other.Describes tools args h ending) : other = outcome := by
  have hexclusive (hskipped : Outcome.skipped.Describes tools args h ending)
      (hmade : Outcome.made.Describes tools args h ending) : False := by
    obtain ⟨-, command, hcommand, hskips⟩ := hskipped
    obtain ⟨-, command', hcommand', hmakes⟩ := hmade
    obtain rfl := Option.some.inj (hcommand.symm.trans hcommand')
    exact hmakes.not_skips _ hskips
  cases outcome <;> cases other
  case skipped.skipped | made.made | undone.undone => rfl
  case skipped.made => exact (hexclusive houtcome hother).elim
  case made.skipped => exact (hexclusive hother houtcome).elim
  case skipped.undone | made.undone => exact absurd houtcome.1 hother.1
  case undone.skipped | undone.made => exact absurd hother.1 houtcome.1

/-- A command that makes a header has nothing to do, or makes it, or fails and leaves nothing. -/
theorem throughout_command (tools : Tools) (h : Host) {command : Command}
    {config : Report.Config} {output : Path}
    (hheader : command.header? = some (config, output)) :
    command.run.Throughout (Host.performWith tools) (fun _ => True) h
      (fun _ after => command.Skips h after ∨ command.Makes tools h after)
      fun _ after => command.Undoes tools h after := by
  cases command with
  | javap config output settings => exact throughout_runJavap config output settings
  | parse config output input => exact throughout_runParse config output input
  | javah className output settings verbose => cases hheader

/-- **All or nothing.**  A command line that asks for a header of a report ends in exactly one of
three ways, whatever the tool does that it runs.  There was nothing to do: then it ends with 0 and
has changed nothing.  The whole report was accepted: then it ends with 0 and the header is in place.
Or it ends with another exit code or with none: then nothing is left but what the tool left, and new
directories above the header. -/
theorem existsUnique_outcome (tools : Tools) {args : List String} (hargs : AsksForHeader args)
    (h : Host) :
    ∃! outcome : Outcome,
      outcome.Describes tools args h ((run args).onIn (Host.performWith tools) h) := by
  suffices hexists : ∃ outcome : Outcome,
      outcome.Describes tools args h ((run args).onIn (Host.performWith tools) h) by
    obtain ⟨outcome, houtcome⟩ := hexists
    exact ⟨outcome, houtcome, fun other hother => Outcome.describes_unique houtcome hother⟩
  cases hargs with
  | @selected command config output hselected hheader =>
    have hends := (throughout_exitCode (throughout_command tools h hheader)).2
    rw [run_of_selected hselected]
    rcases hon : command.exitCode.onIn (Host.performWith tools) h with ⟨f | code, after⟩
    · exact ⟨.undone, by simp, by simpa only [hselected] using hends.of_error hon⟩
    · rcases hends.of_ok hon with ⟨rfl, hskips | hmakes⟩ | ⟨hcode, hundoes⟩
      · exact ⟨.skipped, rfl, command, hselected, hskips⟩
      · exact ⟨.made, rfl, command, hselected, hmakes⟩
      · exact ⟨.undone, by simpa using hcode, by simpa only [hselected] using hundoes⟩
  | @refused grammar message hrefused =>
    have hrun : run args = refuse ⟨grammar, .refused message⟩ := by
      unfold run
      rw [hrefused]
    have hselected : selected? args = none := by
      unfold selected?
      rw [hrefused]
    have hends := ((toolless_refuse ⟨grammar, .refused message⟩).throughout
      (Host.performWith_of_isToolless tools) (ensures_refuse grammar message h)).2
    rw [hrun]
    rcases hon : (refuse ⟨grammar, .refused message⟩).onIn (Host.performWith tools) h with
      ⟨f | code, after⟩
    · exact ⟨.undone, by simp, by simpa only [hselected] using hends.of_error hon⟩
    · obtain ⟨hcode, hagrees⟩ := hends.of_ok hon
      exact ⟨.undone, by simpa using hcode, by simpa only [hselected] using hagrees⟩

/-- The command line that runs javap on a host where javap prints the report of one method. -/
theorem existsUnique_outcome_capturedHost :
    let h := capturedHost capturedReport
    let args := ["javap", "Main", "-o", "Main.h", "--javap-path", "bin/javap"]
    AsksForHeader args ∧
      Outcome.made.Describes Host.ownTools args h
        ((run args).onIn (Host.performWith Host.ownTools) h) := by
  intro h args
  let config : Report.Config := { className := "Main" }
  let output : Path := ⟨.relative, ["Main.h"]⟩
  let settings : ToolSettings := ⟨[], none, none, false, some ⟨.relative, ["bin", "javap"]⟩⟩
  have hread : readSettings args = .ok ⟨false, some (.javap config output settings)⟩ :=
    eq_ok_of_toOption (by decide +kernel)
  have hselected : selected? args = some (.javap config output settings) := by
    rw [selected?, hread]
  have hargs : AsksForHeader args := .selected hselected rfl
  have hcode : ((run args).onIn (Host.performWith Host.ownTools) h).1 = .ok 0 := by
    have hcode : ((run args).on h).1.toOption = some 0 := by decide +kernel
    rw [Host.performWith_ownTools, onIn_perform]
    exact eq_ok_of_toOption hcode
  have hunique := existsUnique_outcome Host.ownTools hargs h
  -- From here on only the exit code counts, so that the run is not looked into.
  revert hcode hunique
  generalize (run args).onIn (Host.performWith Host.ownTools) h = ending
  obtain ⟨result, after⟩ := ending
  rintro hcode ⟨outcome, houtcome, -⟩
  refine ⟨hargs, ?_⟩
  cases outcome with
  | skipped =>
    obtain ⟨-, command, hcommand, config', output', settings', rfl, hskips, -⟩ := houtcome
    cases hselected.symm.trans hcommand
    cases hskips
  | made => exact houtcome
  | undone => exact absurd hcode houtcome.1

/-- A command line that ends with 0 although its path leads nowhere then: it ran through the link
that it names, and the header has taken the place of the link. -/
theorem run_linkedPath :
    ∃ after, (run ["parse", "Main", "-o", "m/m"]).on HeaderFile.linkedHost = (.ok 0, after) ∧
      after.files ≠ HeaderFile.linkedHost.files ∧
      ∀ r, after.files.reach after.folder "m/m" false ≠ .ok r := by
  have hcode : ((run ["parse", "Main", "-o", "m/m"]).on HeaderFile.linkedHost).1.toOption =
      some 0 := by
    decide +kernel
  have hreach : (((run ["parse", "Main", "-o", "m/m"]).on HeaderFile.linkedHost).2.files.reach
      ((run ["parse", "Main", "-o", "m/m"]).on HeaderFile.linkedHost).2.folder "m/m"
        false).toOption.isNone = true := by
    decide +kernel
  refine ⟨_, on_eq_of_fst (eq_ok_of_toOption hcode), ?_, ne_ok_of_toOption hreach⟩
  decide +kernel

end CommandLine

end MethodMacros
