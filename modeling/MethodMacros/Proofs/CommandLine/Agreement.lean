import MethodMacros.Proofs.CommandLine.ExitCodes
import MethodMacros.Proofs.CommandLine.Requests
import MethodMacros.Proofs.Text.ReportLines
import MethodMacros.Proofs.Text.Utf8

/-!
# Two ways to the same header

A report can be captured beforehand and parsed, or it can be taken from javap.  The two commands
read it differently: a file is decoded strictly and its line terminators are unified, while what a
tool prints is decoded leniently and taken as it is.  For a report that is text they end alike all
the same, in success and in failure.  The main statement is `parse_agrees_javap`.

## What makes them agree

Both ways of decoding give back the text that was encoded.  Unifying the terminators changes the
text, but not the lines it is cut into, and a header is made of the lines (`generateFrom_congr`).
Up to there either command only looks around and adds to the log, or lets a tool do so; from there
on they differ in nothing but the times, on which nothing depends.  The proof goes in these steps:

* `exists_runParse_on`, `exists_runJavap_on`: up to the report, each command has said nothing to its
  user and has changed nothing, and goes on as `generateFrom` with a report.
* `timeless_generateFrom`: from there on, two hosts that differ in times end alike.
* `endAlike_run`: so the commands end alike, and `endAlike_exitCode` says the same of their exit
  codes and of what is reported.

`Host.Prints` is what the tool has to do.  `prints_of_executable` gives it for a tool on a host.
-/

namespace MethodMacros

open MethodMacros.Action

/-- A tool, whenever it is started, prints bytes, ends with success, and touches nothing. -/
def Host.Prints (h : Host) (command : List String) (folder : Option Tool.Folder)
    (bytes : List UInt8) : Prop :=
  ∀ cur, h.Agrees cur → cur.start command (folder.map Tool.Folder.name) = (.ok ⟨0, bytes⟩, cur)

namespace Host

variable {h cur : Host}

/-- What is executed is told by the files, not by the time. -/
theorem firstExecutable_of_agrees (hagrees : h.Agrees cur) (folder : Location)
    (paths : List String) (noted : Option Errno) (last : Errno) :
    cur.firstExecutable folder paths noted last = h.firstExecutable folder paths noted last := by
  obtain ⟨clock, messages, rfl⟩ := hagrees
  induction paths generalizing noted last with
  | nil => rfl
  | cons path rest ih =>
    have hexecutable : ({ h with clock := clock, messages := messages } : Host).executable folder
        path = h.executable folder path := rfl
    rw [firstExecutable, firstExecutable, hexecutable]
    cases h.executable folder path with
    | ok b => rfl
    | error e => exact ih _ e

/-- A tool that neither records its arguments nor writes an output, and is not ended by a signal,
prints. -/
theorem prints_of_executable {name : String} {args : List String} {folder : Option Tool.Folder}
    {l : Location} {b : Behaviour}
    (htaken : (name :: args ++ (folder.map Tool.Folder.name).toList).all acceptable = true)
    (hfolder : h.startFolder (folder.map Tool.Folder.name) = .ok l)
    (hexecutable : h.firstExecutable l (h.commandPaths name) none .noEntry = .ok b)
    (hrecord : b.recordArguments = none) (houtput : b.outputText = none)
    (hcode : exitCodeOf b = 0) :
    h.Prints (name :: args) folder (b.standardOutput ++ b.standardError) := by
  intro cur hagrees
  have hfirst := firstExecutable_of_agrees hagrees l (h.commandPaths name) none .noEntry
  obtain ⟨clock, messages, rfl⟩ := hagrees
  rw [hexecutable] at hfirst
  have hfolder' : ({ h with clock := clock, messages := messages } : Host).startFolder
      (folder.map Tool.Folder.name) = .ok l := hfolder
  have hpaths : ({ h with clock := clock, messages := messages } : Host).commandPaths name =
      h.commandPaths name := rfl
  simp only [start, htaken, hfolder', hpaths, hfirst, Bool.not_true, Bool.false_eq_true,
    ↓reduceIte, behave, hrecord, houtput, hcode]

end Host

/-! ## Looking around says nothing -/

section Looking

variable {ε α : Type} {h cur : Host}

/-- Looking around adds to the log at most, and the log is not said to the user. -/
theorem said_perform_of_isLooking (h : Host) (r : Request) (hr : r.isLooking = true) :
    (h.perform r).2.said = h.said := by
  rw [Host.said_perform]
  cases r with
  | tell message =>
    cases message with
    | log entry => rfl
    | status text => cases hr
    | print text => cases hr
  | _ => rfl

/-- What is found out by looking around is found out without a word to the user. -/
theorem Finds.on_of_looks {a : Action ε α} {x : α} (ha : a.Finds h (.ok x))
    (hlooks : a.Asks Request.isLooking) (hagrees : h.Agrees cur) :
    ∃ after, a.on cur = (.ok x, after) ∧ h.Agrees after ∧ after.said = cur.said := by
  obtain ⟨hresult, hafter⟩ := ha cur hagrees
  exact ⟨_, on_eq_of_fst hresult, hafter, hlooks.on_eq said_perform_of_isLooking cur⟩

end Looking

namespace CommandLine

variable {h cur : Host} {config : Report.Config} {output : Path} {settings : ToolSettings}

/-! ## Up to the report -/

/-- A report that was captured before is read, and then a header is made of it. -/
theorem exists_runParse_on (config : Report.Config) (output : Path) {input : Option Path}
    {text : List Char} (hinput : h.inputText input = .ok text) :
    ∃ cur, h.Agrees cur ∧ cur.said = h.said ∧
      (runParse config output input).on h =
        (generateFrom (String.ofList (Text.unifyNewlines text)) config output).on cur := by
  have hfinds := finds_readText (h := h) input
  rw [hinput] at hfinds
  obtain ⟨cur, hon, hagrees, hsaid⟩ := Finds.on_of_looks hfinds (looks_readText input) (.refl h)
  refine ⟨cur, hagrees, hsaid, ?_⟩
  rw [runParse_eq, on_bind, hon]

/-- Where there is something to do, this is found out without a word to the user. -/
theorem exists_isSkippable_on (tool : String) {className : String}
    (hskips : h.skips className output settings = .ok false) :
    ∃ cur, (isSkippable className output settings tool).on h = (.ok false, cur) ∧ h.Agrees cur ∧
      cur.said = h.said := by
  unfold isSkippable
  unfold Host.skips at hskips
  cases hforce : settings.force with
  | true => exact ⟨h, rfl, .refl h, rfl⟩
  | false =>
    cases hsource : settings.sourceDir with
    | none => exact ⟨h, rfl, .refl h, rfl⟩
    | some sourceDir =>
      rw [hforce, hsource] at hskips
      dsimp only at hskips
      have hfinds := Freshness.finds_isUpToDate h (sourceFile className sourceDir) output
      rw [hskips] at hfinds
      obtain ⟨cur, hon, hagrees, hsaid⟩ :=
        Finds.on_of_looks hfinds (asks_isUpToDate rfl rfl fun _ => rfl) (.refl h)
      refine ⟨cur, ?_, hagrees, hsaid⟩
      dsimp only
      rw [on_bind, hon]
      rfl

/-- What a tool prints is decoded when it has run to its end. -/
theorem exists_run_on {command : List String} {folder : Option Tool.Folder} {bytes : List UInt8}
    (hagrees : h.Agrees cur) (hprints : h.Prints command folder bytes) :
    ∃ after, (Tool.run command folder).on cur =
      (.ok ⟨command, 0, String.ofList (Text.Utf8.repair bytes)⟩, after) ∧ h.Agrees after ∧
        after.said = cur.said := by
  let asked := cur.logged .info ("Running: " ++ Text.quotedList command)
  have hasked : h.Agrees asked := hagrees.trans (.logged cur _ _)
  let left := asked.later.logged .debug (command.headD "" ++ " exited with " ++ toString (0 : Int))
  refine ⟨left, ?_, (hasked.trans (.later asked)).trans (.logged _ _ _), rfl⟩
  rw [Tool.run, on_log_bind, on_bind, on_request, Host.perform_eq, Host.answer,
    hprints asked hasked]
  rfl

/-- What javap prints is decoded, if it ends with success. -/
theorem exists_javap_on {className tool : String} {classpath command : List String}
    {folder : Option Tool.Folder} {bytes : List UInt8} (hagrees : h.Agrees cur)
    (hcommand : h.javapCommand className tool classpath = .ok command)
    (hprints : h.Prints command folder bytes) :
    ∃ after, (Tool.javap className tool classpath folder).on cur =
      (.ok (String.ofList (Text.Utf8.repair bytes)), after) ∧ h.Agrees after ∧
        after.said = cur.said := by
  obtain ⟨arguments, harguments, hcommand⟩ := bind_eq_ok hcommand
  obtain rfl := Except.ok.inj hcommand
  have hfinds := Tool.finds_classpathArguments (h := h) classpath
  rw [harguments] at hfinds
  obtain ⟨resolved, hon, hresolved, hsaid⟩ :=
    Finds.on_of_looks hfinds (looks_classpathArguments classpath) hagrees
  obtain ⟨after, hrun, hafter, hsaid'⟩ := exists_run_on hresolved hprints
  refine ⟨after, ?_, hafter, hsaid'.trans hsaid⟩
  rw [Tool.javap, on_bind, hon]
  dsimp only
  rw [on_bind, hrun]
  rfl

/-- A report is taken from javap, and then a header is made of it. -/
theorem exists_runJavap_on {tool : Path} {command : List String} {bytes : List UInt8}
    (hskips : h.skips config.className output settings = .ok false)
    (htool : h.toolFor .process "javap" settings.toolPath = .ok tool)
    (hcommand : h.javapCommand config.className (toString tool) settings.classpath = .ok command)
    (hprints : h.Prints command (settings.classesDir.map .path) bytes) :
    ∃ cur, h.Agrees cur ∧ cur.said = h.said ∧
      (runJavap config output settings).on h =
        (generateFrom (String.ofList (Text.Utf8.repair bytes)) config output).on cur := by
  obtain ⟨asked, hasked, hagrees, hsaid⟩ := exists_isSkippable_on "javap" hskips
  have hfinds := Jdk.finds_locate .process "javap" h settings.toolPath
  rw [htool] at hfinds
  obtain ⟨located, hlocated, hagrees', hsaid'⟩ :=
    Finds.on_of_looks hfinds (Jdk.looks_locate _ _ _) hagrees
  obtain ⟨cur, hcur, hagrees'', hsaid''⟩ := exists_javap_on hagrees' hcommand hprints
  refine ⟨cur, hagrees'', hsaid''.trans (hsaid'.trans hsaid), ?_⟩
  rw [runJavap, on_bind, hasked]
  dsimp only [Bool.false_eq_true, ↓reduceIte]
  rw [if_neg Bool.false_ne_true, on_bind, hlocated]
  dsimp only
  rw [on_bind, hcur]

/-! ## From the report on -/

/-- What is made of a report does not depend on times. -/
theorem timeless_generateFrom (report : String) (config : Report.Config) (output : Path) :
    (generateFrom report config output).Timeless :=
  .bind (HeaderFile.timeless_generate output config _) fun _ => .request rfl

/-- Nothing is made of a report but its lines. -/
theorem generateFrom_congr {report report' : String}
    (hlines : Text.reportLines report = Text.reportLines report') (config : Report.Config)
    (output : Path) : generateFrom report config output = generateFrom report' config output := by
  rw [generateFrom, generateFrom, hlines]

/-- The name of a command occurs in the log only. -/
theorem endAlike_reportFailure (name name' : CommandName) (f : Failure) (halike : h.Alike cur) :
    EndAlike h cur ((reportFailure name f).on h) ((reportFailure name' f).on cur) := by
  unfold reportFailure
  split
  · exact ⟨rfl, { halike with }, [.status ("Error: " ++ f.message ++ "\n")], rfl, rfl⟩
  · exact ⟨rfl, halike, [], rfl, rfl⟩

/-- Commands that end alike have the same exit code. -/
theorem endAlike_exitCode {command command' : Command}
    (hend : EndAlike h cur (command.run.on h) (command'.run.on cur)) :
    EndAlike h cur (command.exitCode.on h) (command'.exitCode.on cur) := by
  obtain ⟨hresult, halike, hsaid⟩ := hend
  rw [exitCode_on, exitCode_on]
  revert hresult halike hsaid
  rcases command.run.on h with ⟨f | _, after⟩ <;> rcases command'.run.on cur with ⟨f' | _, after'⟩
  · rintro hresult halike ⟨told, htold, htold'⟩
    obtain rfl := Except.error.inj hresult
    obtain ⟨hcode, hlast, more, hmore, hmore'⟩ :=
      endAlike_reportFailure command.name command'.name f halike
    refine ⟨hcode, hlast, more ++ told, ?_, ?_⟩
    · rw [hmore, htold, List.append_assoc]
    · rw [hmore', htold', List.append_assoc]
  · rintro ⟨⟩
  · rintro ⟨⟩
  · rintro - halike hsaid
    exact ⟨rfl, halike, hsaid⟩

/-! ## The whole commands -/

section Agreement

variable {input tool : Path} {command : List String} {text : String}

/-- The two commands end alike on a report that is text. -/
theorem endAlike_run (hinput : acceptable (toString input) = true)
    (hread : h.files.readFile h.folder (toString input) = .ok (Host.bytesOf text))
    (hskips : h.skips config.className output settings = .ok false)
    (htool : h.toolFor .process "javap" settings.toolPath = .ok tool)
    (hcommand : h.javapCommand config.className (toString tool) settings.classpath = .ok command)
    (hprints : h.Prints command (settings.classesDir.map .path) (Host.bytesOf text)) :
    EndAlike h h ((Command.parse config output (some input)).run.on h)
      ((Command.javap config output settings).run.on h) := by
  have htext : h.inputText (some input) = .ok text.toList := by
    rw [Host.inputText, askedAt, if_pos hinput, hread]
    dsimp only [mapError_ok]
    rw [Text.Utf8.decode_bytesOf, mapError_ok]
  obtain ⟨cur, hcur, hsaid, hparse⟩ := exists_runParse_on config output htext
  obtain ⟨cur', hcur', hsaid', hjavap⟩ := exists_runJavap_on hskips htool hcommand hprints
  have hlines := Text.reportLines_unifyNewlines text
  rw [Text.Utf8.repair_bytesOf, String.ofList_toList] at hjavap
  rw [generateFrom_congr hlines] at hparse
  rw [Command.run, Command.run, hparse, hjavap]
  obtain ⟨hresult, halike, htold⟩ :=
    timeless_generateFrom text config output cur cur' (hcur.alike.symm.trans hcur'.alike)
  rw [hsaid, hsaid'] at htold
  exact ⟨hresult, halike, htold⟩

/-- **Agreement.**  Let a file hold a text, and let javap print the same text, in the encoding that
both are read in.  Then the command line that parses the file and the one that runs javap end with
the same exit code or the same failure to report none.  They tell their users the same, which
includes the number of methods and what a reported failure says.  And their paths lead to the same
entries, up to the times of last changes. -/
theorem parse_agrees_javap {parseArgs javapArgs : List String} {parsed printed : Settings}
    (hparse : readSettings parseArgs = .ok parsed)
    (hparsed : parsed.command = some (.parse config output (some input)))
    (hjavap : readSettings javapArgs = .ok printed)
    (hprinted : printed.command = some (.javap config output settings))
    (hinput : acceptable (toString input) = true)
    (hread : h.files.readFile h.folder (toString input) = .ok (Host.bytesOf text))
    (hskips : h.skips config.className output settings = .ok false)
    (htool : h.toolFor .process "javap" settings.toolPath = .ok tool)
    (hcommand : h.javapCommand config.className (toString tool) settings.classpath = .ok command)
    (hprints : h.Prints command (settings.classesDir.map .path) (Host.bytesOf text)) :
    ((Command.parse config output (some input)).run.on h).1 =
        ((Command.javap config output settings).run.on h).1 ∧
      EndAlike h h ((run parseArgs).on h) ((run javapArgs).on h) ∧
      ∀ path followLast,
        (((run parseArgs).on h).2.files.entryAt ((run parseArgs).on h).2.folder path followLast).map
            (fun (l, e) => (l, e.timeless)) =
          (((run javapArgs).on h).2.files.entryAt ((run javapArgs).on h).2.folder path
            followLast).map fun (l, e) => (l, e.timeless) := by
  have hend : EndAlike h h ((Command.parse config output (some input)).run.on h)
      ((Command.javap config output settings).run.on h) :=
    endAlike_run hinput hread hskips htool hcommand hprints
  rw [run_of_command hparse hparsed, run_of_command hjavap hprinted]
  have hexit := endAlike_exitCode hend
  exact ⟨hend.result, hexit, hexit.alike.entryAt⟩

end Agreement

/-- A host with a report in a file, and with a stand-in for javap that prints the same report. -/
def capturedHost (report : String) : Host where
  files := .ofList [
    (["r.txt"], .file { mode := 0o644, modified := 0, content := Host.bytesOf report }),
    (["bin"], .directory 0o755),
    (["bin", "javap"], .file
      { mode := 0o755, modified := 0, content := [],
        behaviour := some { standardOutput := Host.bytesOf report } })]
    (by simp [entryAmong, List.lookup_cons, Entry.isDirectory])
  folder := []
  clock := 0

/-- The report of a class with one method, with two kinds of line terminators. -/
def capturedReport : String := "void main(int);\r\n  Signature: (I)V\r"

/-- The two command lines on such a host, which both make the header of one method. -/
theorem parse_agrees_javap_capturedHost :
    let h := capturedHost capturedReport
    let parseArgs := ["parse", "Main", "-o", "Main.h", "--input", "r.txt"]
    let javapArgs := ["javap", "Main", "-o", "Main.h", "--javap-path", "bin/javap"]
    EndAlike h h ((run parseArgs).on h) ((run javapArgs).on h) ∧
      ∃ after, (run parseArgs).on h = (.ok 0, after) := by
  intro h parseArgs javapArgs
  let config : Report.Config := { className := "Main" }
  let output : Path := ⟨.relative, ["Main.h"]⟩
  let settings : ToolSettings := ⟨[], none, none, false, some ⟨.relative, ["bin", "javap"]⟩⟩
  have hparse : readSettings parseArgs =
      .ok ⟨false, some (.parse config output (some ⟨.relative, ["r.txt"]⟩))⟩ :=
    eq_ok_of_toOption (by decide +kernel)
  have hjavap : readSettings javapArgs = .ok ⟨false, some (.javap config output settings)⟩ :=
    eq_ok_of_toOption (by decide +kernel)
  have hread : h.files.readFile h.folder "r.txt" = .ok (Host.bytesOf capturedReport) :=
    eq_ok_of_toOption (by decide +kernel)
  have hskips : h.skips "Main" output settings = .ok false := rfl
  have htool : h.toolFor .process "javap" settings.toolPath =
      .ok ⟨.relative, ["bin", "javap"]⟩ :=
    eq_ok_of_toOption (by decide +kernel)
  have hcommand : h.javapCommand "Main" "bin/javap" settings.classpath =
      .ok ["bin/javap", "-s", "Main"] := rfl
  have hexecutable : h.firstExecutable [] (h.commandPaths "bin/javap") none .noEntry =
      .ok { standardOutput := Host.bytesOf capturedReport } :=
    eq_ok_of_toOption (by decide +kernel)
  have hprints : h.Prints ["bin/javap", "-s", "Main"] none (Host.bytesOf capturedReport) := by
    rw [← List.append_nil (Host.bytesOf capturedReport)]
    exact Host.prints_of_executable (by decide +kernel) rfl hexecutable rfl rfl rfl
  have hcode : ((run parseArgs).on h).1.toOption = some 0 := by
    decide +kernel
  exact ⟨(parse_agrees_javap hparse rfl hjavap rfl (by decide +kernel) hread hskips htool hcommand
    hprints).2.1, _, on_eq_of_fst (eq_ok_of_toOption hcode)⟩

end CommandLine

end MethodMacros
