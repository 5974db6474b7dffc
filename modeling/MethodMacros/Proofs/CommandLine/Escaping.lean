import MethodMacros.CommandLine.Commands
import MethodMacros.Proofs.HeaderFile.Escaping
import MethodMacros.Proofs.Tool

/-!
# How commands escape

`Command.Escapes` lists the ways in which a command can end with a failure that is not reported, and
`escapes_run` says that there are no others.  Up to the start of a tool the ways are stated about
the host at the beginning, since until then only questions are asked.  What comes after a tool has
run is stated about the host that it left.

* `Host.skips`, `Host.CheckEscapes`: whether there is anything to do, and that this cannot be told.
* `Host.StartEscapes`: a tool is not run for a failure that escapes.
* `Host.inputText`, `Host.InputEscapes`: the report that was captured, and why it cannot be read.
* `runParse_eq`, `runJavap_eq`, `runJavah_eq`: each command is a first part, which ends with a
  report or a finished tool, and what is made of it.

## One start for two commands

The two commands that run a tool share all that happens before its start: whether to skip the rest
is checked, the tool is located, and it is run.  So this part is one action, `unlessSkipped`, with
what is run as a parameter, and `escapes_unlessSkipped` is proved of it once.
-/

namespace MethodMacros

open MethodMacros.Action CommandLine

namespace Host

variable {h : Host}

/-! ## Before a tool runs -/

/-- There is nothing to do. -/
def skips (h : Host) (className : String) (output : Path) (settings : ToolSettings) :
    Except Failure Bool :=
  match settings.force, settings.sourceDir with
  | false, some sourceDir =>
      (h.freshness (sourceFile className sourceDir) output).mapError .file
  | _, _ => .ok false

/-- It cannot be told whether there is anything to do. -/
def CheckEscapes (h : Host) (className : String) (output : Path) (settings : ToolSettings) : Prop :=
  settings.force = false ∧ ∃ sourceDir, settings.sourceDir = some sourceDir ∧
    ((∃ e, h.Untold (toString (sourceFile className sourceDir)) e) ∨
      h.IsKind .file (toString (sourceFile className sourceDir)) ∧
        ∃ e, h.Untold (toString output) e)

/-- A tool named `name` is not run for a failure that escapes.  It is started by a command line that
depends on its path, and in which certain paths occur with all links followed. -/
def StartEscapes (h : Host) (name className : String) (output : Path) (settings : ToolSettings)
    (paths : List Path) (command : String → Except Failure (List String)) : Prop :=
  h.CheckEscapes className output settings ∨
    h.skips className output settings = .ok false ∧
      (h.StuckLocating .process name settings.toolPath ∨
        ∃ tool, h.toolFor .process name settings.toolPath = .ok tool ∧
          (h.Unresolved paths ∨
            Unstartable (command (toString tool)) (settings.classesDir.map .path)))

/-- The check fails for the reasons that are listed. -/
theorem escapes_skips {className : String} {output : Path} {settings : ToolSettings} :
    Escapes (h.skips className output settings) ↔ h.CheckEscapes className output settings := by
  unfold skips CheckEscapes
  cases settings.force with
  | true => simp
  | false =>
    cases settings.sourceDir with
    | none => simp
    | some sourceDir =>
      rw [escapes_mapError_file, exists_freshness_eq_error]
      simp

/-! ## Reading a report -/

/-- The text of a report that was captured before. -/
def inputText (h : Host) : Option Path → Except Failure (List Char)
  | none => .ok h.standardInput.toList
  | some path =>
      match askedAt (toString path) (h.files.readFile h.folder (toString path)) with
      | .ok bytes => (Text.Utf8.decode bytes).mapError .undecodable
      | .error .nullByte => .error (.file .nullByte)
      | .error e => .error (.read path e)

/-- A report cannot be read: the path of its file cannot be taken, or its bytes are no text. -/
def InputEscapes (h : Host) (path : Path) : Prop :=
  acceptable (toString path) = false ∨
    ∃ bytes e, h.files.readFile h.folder (toString path) = .ok bytes ∧
      Text.Utf8.decode bytes = .error e

theorem escapes_inputText {input : Option Path} :
    Escapes (h.inputText input) ↔ ∃ path, input = some path ∧ h.InputEscapes path := by
  cases input with
  | none => simp [inputText]
  | some path =>
    simp only [Option.some.injEq, exists_eq_left', inputText, InputEscapes, askedAt]
    cases hpath : acceptable (toString path) with
    | false => simp [Failure.isReported]
    | true =>
      cases hread : h.files.readFile h.folder (toString path) with
      | error e => simp [Failure.isReported]
      | ok bytes =>
        cases hdecode : Text.Utf8.decode bytes with
        | error e => simp [Failure.isReported, hdecode]
        | ok text => simp [hdecode]

end Host

namespace CommandLine

variable {h : Host}

/-! ## The commands -/

/-- Whether there is anything to do is found out from the times of source and header, unless force or
the want of a source answers it. -/
theorem finds_isSkippable (className : String) (output : Path) (settings : ToolSettings)
    (tool : String) :
    (isSkippable className output settings tool).Finds h (h.skips className output settings) := by
  unfold isSkippable Host.skips
  cases settings.force with
  | true => exact .pure false
  | false =>
    cases settings.sourceDir with
    | none => exact .pure false
    | some sourceDir =>
      have hfresh := Freshness.finds_isUpToDate h (sourceFile className sourceDir) output
      dsimp only
      rcases hresult : (h.freshness (sourceFile className sourceDir) output).mapError
        Failure.file with f | fresh
      · rw [hresult] at hfresh
        exact hfresh.bind_error _
      · rw [hresult] at hfresh
        refine hfresh.bind_ok ?_
        cases fresh with
        | false => exact .pure false
        | true => exact .bind_ok (.request rfl) (.pure true)

/-- Reads a report that was captured before. -/
def readText (input : Option Path) : Action Failure (List Char) :=
  match input with
  | some path => readInput path
  | none => do return (← request .standardInput).toList

/-- A report is read, its terminators are unified, and a header is made of it. -/
theorem runParse_eq (config : Report.Config) (output : Path) (input : Option Path) :
    runParse config output input = readText input >>= fun text =>
      generateFrom (String.ofList (Text.unifyNewlines text)) config output := by
  cases input with
  | some path => rfl
  | none => rfl

/-- The report that was captured is found out, or why it cannot be read. -/
theorem finds_readText (input : Option Path) :
    (readText input).Finds h (h.inputText input) := by
  cases input with
  | none => exact .bind_ok (.request rfl) (.pure _)
  | some path =>
    refine .bind_ok (.readFile _) ?_
    rw [Host.inputText]
    rcases askedAt (toString path) (h.files.readFile h.folder (toString path)) with e | bytes
    · cases e with
      | nullByte => exact .throw _
      | refused errno path target => exact .throw _
    · dsimp only
      cases Text.Utf8.decode bytes with
      | error e => exact .throw _
      | ok text => exact .pure text

/-- A tool is located and run, if there is anything to do. -/
def unlessSkipped {α : Type} (name className : String) (output : Path) (settings : ToolSettings)
    (run : Path → Action Failure α) : Action Failure (Option α) := do
  if ← isSkippable className output settings name then return none
  else
    let tool ← Jdk.locate .process name settings.toolPath
    let result ← run tool
    return some result

/-- The report that javap is asked for. -/
def javapReport (config : Report.Config) (output : Path) (settings : ToolSettings) :
    Action Failure (Option String) :=
  unlessSkipped "javap" config.className output settings fun tool =>
    Tool.javap config.className (toString tool) settings.classpath (settings.classesDir.map .path)

/-- The run of javah that writes the header. -/
def javahFinished (className : String) (output : Path) (settings : ToolSettings)
    (verbose : Bool) : Action Failure (Option (Int × Tool.Result)) :=
  unlessSkipped "javah" className output settings fun tool =>
    Tool.javahRun className output (toString tool) settings.classpath
      (settings.classesDir.map .path) verbose

/-- A report is taken from javap, and a header is made of it, unless there is nothing to do. -/
theorem runJavap_eq (config : Report.Config) (output : Path) (settings : ToolSettings) :
    runJavap config output settings = javapReport config output settings >>= fun report =>
      match report with
      | none => pure ()
      | some report => generateFrom report config output := by
  unfold runJavap javapReport unlessSkipped
  rw [bind_assoc]
  refine congrArg (_ >>= ·) (funext fun skippable => ?_)
  cases skippable with
  | true => rfl
  | false => simp only [Bool.false_eq_true, ↓reduceIte, bind_assoc, pure_bind]

/-- A header is made by javah and refreshed, unless there is nothing to do. -/
theorem runJavah_eq (className : String) (output : Path) (settings : ToolSettings)
    (verbose : Bool) :
    runJavah className output settings verbose =
      javahFinished className output settings verbose >>= fun finished =>
        match finished with
        | none => pure ()
        | some (started, _) => (do
            Tool.refresh output started
            say ("Header written to: " ++ toString output ++ "\n")) := by
  unfold runJavah javahFinished unlessSkipped
  rw [bind_assoc]
  refine congrArg (_ >>= ·) (funext fun skippable => ?_)
  cases skippable with
  | true => rfl
  | false => simp only [Bool.false_eq_true, ↓reduceIte, Tool.javah_eq, bind_assoc, pure_bind]

/-- What escapes from a run of a tool escapes before its start. -/
theorem escapes_unlessSkipped {α : Type} {name className : String} {output : Path}
    {settings : ToolSettings} {run : Path → Action Failure α} {paths : List Path}
    {command : String → Except Failure (List String)}
    (hrun : ∀ tool cur, h.Agrees cur → (Escapes ((run tool).on cur).1 ↔
      h.Unresolved paths ∨
        Host.Unstartable (command (toString tool)) (settings.classesDir.map .path))) :
    Escapes ((unlessSkipped name className output settings run).on h).1 ↔
      h.StartEscapes name className output settings paths command := by
  have hskips : Escapes ((unlessSkipped name className output settings run).on h).1 ↔
      Escapes (h.skips className output settings) ∨
        ∃ skippable, h.skips className output settings = .ok skippable ∧ skippable = false ∧
          (Escapes (h.toolFor .process name settings.toolPath) ∨
            ∃ tool, h.toolFor .process name settings.toolPath = .ok tool ∧
              (h.Unresolved paths ∨
                Host.Unstartable (command (toString tool)) (settings.classesDir.map .path))) := by
    refine (finds_isSkippable className output settings name).escapes_bind (.refl h)
      fun skippable asked _ hasked => ?_
    cases skippable with
    | true => exact iff_of_false (escapes_ok none).mp fun hfalse => by cases hfalse.1
    | false =>
      refine Iff.trans ?_ (and_iff_right rfl).symm
      refine (Jdk.finds_locate .process name h settings.toolPath).escapes_bind hasked
        fun tool found _ hfound => ?_
      rw [escapes_on_bind, hrun tool found hfound]
      refine or_iff_left ?_
      rintro ⟨_, last, -, hescapes⟩
      exact (escapes_ok _).mp hescapes
  rw [hskips, Host.StartEscapes, Host.escapes_skips, Host.escapes_toolFor]
  refine or_congr Iff.rfl ⟨?_, ?_⟩
  · rintro ⟨_, hskip, rfl, hlater⟩
    exact ⟨hskip, hlater⟩
  · rintro ⟨hskip, hlater⟩
    exact ⟨false, hskip, rfl, hlater⟩

/-- A command ends with a failure that escapes. -/
def Command.Escapes (h : Host) : Command → Prop
  | .javap config output settings =>
      h.StartEscapes "javap" config.className output settings (settings.classpath.map .ofString)
          (fun tool => h.javapCommand config.className tool settings.classpath) ∨
        ∃ report after, (javapReport config output settings).on h = (.ok (some report), after) ∧
          after.HeaderEscapes config (Text.reportLines report) output
  | .javah className output settings verbose =>
      h.StartEscapes "javah" className output settings
          (output :: settings.classpath.map .ofString)
          (fun tool => h.javahCommand className output tool settings.classpath verbose) ∨
        ∃ finished after,
          (javahFinished className output settings verbose).on h = (.ok (some finished), after) ∧
            ∃ e, after.Untold (toString output) e
  | .parse config output input =>
      (∃ path, input = some path ∧ h.InputEscapes path) ∨
        ∃ text, h.inputText input = .ok text ∧ h.HeaderEscapes config
          (Text.reportLines (String.ofList (Text.unifyNewlines text))) output

/-- From the report on a command escapes in the ways in which making a header does. -/
theorem escapes_generateFrom {cur : Host} (hagrees : h.Agrees cur) (report : String)
    (config : Report.Config) (output : Path) :
    Escapes ((generateFrom report config output).on cur).1 ↔
      h.HeaderEscapes config (Text.reportLines report) output := by
  unfold generateFrom
  rw [escapes_on_bind, HeaderFile.escapes_generate hagrees]
  refine or_iff_left ?_
  rintro ⟨count, written, -, hescapes⟩
  exact (escapes_ok ()).mp hescapes

/-- **Escaping.**  A command escapes in the ways that are listed, and in no other. -/
theorem escapes_run (command : Command) :
    Escapes (command.run.on h).1 ↔ command.Escapes h := by
  cases command with
  | javap config output settings =>
    rw [Command.run, runJavap_eq, escapes_on_bind, Command.Escapes]
    refine or_congr (escapes_unlessSkipped fun tool cur hagrees =>
      Tool.escapes_javap hagrees _ _ _ _) ⟨?_, ?_⟩
    · rintro ⟨report, after, hon, hescapes⟩
      cases report with
      | none => exact absurd hescapes (escapes_ok ()).mp
      | some report =>
        exact ⟨report, after, hon, (escapes_generateFrom (.refl after) _ _ _).mp hescapes⟩
    · rintro ⟨report, after, hon, hescapes⟩
      exact ⟨some report, after, hon, (escapes_generateFrom (.refl after) _ _ _).mpr hescapes⟩
  | javah className output settings verbose =>
    have hlast (started : Int) (after : Host) :
        Escapes ((do
          Tool.refresh output started
          say ("Header written to: " ++ toString output ++ "\n") : Action Failure Unit).on after).1 ↔
          ∃ e, after.Untold (toString output) e := by
      rw [escapes_on_bind, Tool.escapes_refresh]
      refine or_iff_left ?_
      rintro ⟨_, refreshed, -, hescapes⟩
      exact (escapes_ok ()).mp hescapes
    rw [Command.run, runJavah_eq, escapes_on_bind, Command.Escapes]
    refine or_congr (escapes_unlessSkipped fun tool cur hagrees =>
      Tool.escapes_javahRun hagrees _ _ _ _ _ _) ⟨?_, ?_⟩
    · rintro ⟨finished, after, hon, hescapes⟩
      cases finished with
      | none => exact absurd hescapes (escapes_ok ()).mp
      | some finished => exact ⟨finished, after, hon, (hlast finished.1 after).mp hescapes⟩
    · rintro ⟨finished, after, hon, huntold⟩
      exact ⟨some finished, after, hon, (hlast finished.1 after).mpr huntold⟩
  | parse config output input =>
    rw [Command.run, runParse_eq, Command.Escapes, ← Host.escapes_inputText]
    exact (finds_readText input).escapes_bind (.refl h) fun text found _ hfound =>
      escapes_generateFrom hfound _ _ _

end CommandLine

end MethodMacros
