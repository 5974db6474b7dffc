import MethodMacros.Proofs.CommandLine.Outcomes
import MethodMacros.Proofs.Host.Arguments
import MethodMacros.Proofs.Host.Endings

/-!
# Names in another directory

A tool can be started in another directory than the one that its user works in.  `Host.SameNames`
says that it works with what its user named all the same: it is the tool that was looked at, and its
arguments lead to the places and to the header that were named.  `sameNames_iff_of_start` says when
this is so, for whatever a command line starts.

The arguments are absolute paths, and nothing is wrong with them unless a place holds a colon or a
path is too long.  The path of the tool itself is handed over as it is.  If it is relative, it is
looked at from one directory and executed from another one, and if it is a name without a slash, it
is even searched for.  So it may be that nothing is executed, or another file.

* `Host.Regains`, `startedAt_eq_iff`: the tool that was looked at is executed again.
* `regains_of_toolFor`: this is so if no relative path was asked for or is in a variable.
* `Command.Calls`, `Command.Calls.sameNames_iff`: the command line that belongs to a command, and
  when it works with what was named.
* `Command.startsOnly_run`: nothing else is started.

`not_sameNames_divergingHost` is a tool that is looked at in one directory and is missing in the
other.
-/

namespace MethodMacros

open MethodMacros.Action CommandLine

namespace Host

variable {h : Host} {l : Location} {name : String} {tool : Path}

/-! ## The tool itself -/

/-- A tool that was looked at from one directory is executed in another one, if it has an absolute
path, if its path leads to the same from there, or if it is what the search path gives. -/
inductive Regains (h : Host) (l : Location) (name : String) : Prop where
  | absolute (hroot : Path.rootOf name.toList ≠ .relative)
  | followed (hslash : '/' ∈ name.toList)
      (hsame : h.executableAt l name = h.executableAt h.folder name)
  | searched (hslash : '/' ∉ name.toList)
      (hsame : h.firstExecutableAt l (candidates ((h.setting? "PATH").getD defaultSearchPath) name)
        none .noEntry = h.executableAt h.folder name)

/-- There is no other way in which the tool that was looked at is executed again. -/
theorem startedAt_eq_iff :
    h.startedAt l name = h.executableAt h.folder name ↔ h.Regains l name := by
  constructor
  · intro hsame
    by_cases hslash : '/' ∈ name.toList
    · exact .followed hslash (startedAt_of_slash (h := h) hslash ▸ hsame)
    · refine .searched hslash ?_
      rwa [startedAt, commandPaths, if_neg (by simpa using hslash)] at hsame
  · rintro (hroot | ⟨hslash, hsame⟩ | ⟨hslash, hsame⟩)
    · exact startedAt_of_root hroot
    · rw [startedAt_of_slash hslash, hsame]
    · rwa [startedAt, commandPaths, if_neg (by simpa using hslash)]

/-- The root of a home is the root of its tool. -/
theorem root_toolIn (home : Path) (hname : (Path.ofString name).root = .relative) :
    (Jdk.toolIn home name).root = home.root := by
  have hchild (p : Path) (s : String) (hs : (Path.ofString s).root = .relative) :
      (p.child s).root = p.root := by
    change (Path.append p (Path.ofString s)).root = p.root
    unfold Path.append
    rw [hs]
  rw [Jdk.toolIn, hchild _ _ hname, hchild _ _ (by decide)]

/-- The homes that a variable gives begin as its text does. -/
theorem root_of_mem_homesOf {value : Option String} {home : Path}
    (hhome : home ∈ Jdk.homesOf value) :
    ∃ text, value = some text ∧ text ≠ "" ∧ home.root = Path.rootOf text.toList := by
  unfold Jdk.homesOf at hhome
  split at hhome
  · cases hhome
  · cases hhome
  · rename_i text hempty
    refine ⟨text, rfl, fun hnil => hempty (hnil ▸ rfl), ?_⟩
    rcases hhome with _ | ⟨_, _ | ⟨_, hnone⟩⟩
    · rfl
    · rfl
    · cases hnone

/-- What is found around the tool on the search path was resolved. -/
theorem root_of_mem_pathHomes {homes : List Path} {home : Path}
    (hhomes : h.pathHomes .process name = .ok homes) (hhome : home ∈ homes) :
    home.root ≠ .relative := by
  unfold pathHomes at hhomes
  split at hhomes
  · cases hhomes
    cases hhome
  · cases hhomes
    cases hhome
  · obtain ⟨found, hfound, hdone⟩ := bind_eq_ok hhomes
    cases hdone
    have hroot : found.root ≠ .relative := root_of_resolved hfound
    rcases hhome with _ | ⟨_, _ | ⟨_, hnone⟩⟩
    · exact hroot
    · exact hroot
    · cases hnone

/-- **Absolute tools.**  A tool is executed again from everywhere, if neither a relative path was
asked for nor one of the variables holds one. -/
theorem regains_of_toolFor {explicit : Option Path}
    (hname : (Path.ofString name).root = .relative)
    (hexplicit : ∀ p, explicit = some p → p.root ≠ .relative)
    (hvariables : ∀ key ∈ ["JAVA_HOME", "JDK_HOME"], ∀ text, h.setting? key = some text →
      text ≠ "" → Path.rootOf text.toList ≠ .relative)
    (htool : h.toolFor .process name explicit = .ok tool) (l : Location) :
    h.Regains l (toString tool) := by
  refine .absolute (Path.rootOf_toString_ne ?_)
  cases explicit with
  | some p =>
    obtain ⟨here, -, hdone⟩ := bind_eq_ok htool
    cases here with
    | false => cases hdone
    | true =>
      cases hdone
      exact hexplicit _ rfl
  | none =>
    obtain ⟨home, hhome, hdone⟩ := bind_eq_ok htool
    cases hdone
    rw [root_toolIn home hname]
    obtain ⟨found, hfound, hrest⟩ := bind_eq_ok hhome
    cases found with
    | some first =>
      cases hrest
      rcases List.mem_append.mp (findM?_eq_some hfound).1 with hmem | hmem
      · obtain ⟨text, htext, hempty, hroot⟩ := root_of_mem_homesOf hmem
        exact hroot ▸ hvariables _ (by simp) text htext hempty
      · obtain ⟨text, htext, hempty, hroot⟩ := root_of_mem_homesOf hmem
        exact hroot ▸ hvariables _ (by simp) text htext hempty
    | none =>
      obtain ⟨homes, hhomes, hrest⟩ := bind_eq_ok hrest
      obtain ⟨found, hfound, hdone⟩ := bind_eq_ok hrest
      cases found with
      | none => cases hdone
      | some first =>
        cases hdone
        exact root_of_mem_pathHomes hhomes (findM?_eq_some hfound).1

/-- What a user named is what a tool works with that is started in a directory: the tool that was
looked at is executed, and each place on its command line and its header lead to what was named. -/
structure SameNames (h : Host) (l : Location) (tool : Path) (classpath : List String)
    (output : Option Path) (line : List String) : Prop where
  executed : h.startedAt l (line.headD "") = h.executableAt h.folder (toString tool)
  places : List.Forall₂ (h.SameFile l) classpath (placesOf line.tail)
  header : ∀ p, output = some p →
    ∃ inside, outputArgument line.tail = some inside ∧ h.SameFile l (toString p) inside

/-- Each of the three is told on its own. -/
theorem sameNames_cons_iff {classpath args : List String} {output : Option Path}
    (hplaces : List.Forall₂ (h.SameFile l) classpath (placesOf args) ↔
      ∀ entry ∈ classpath, h.Listable entry ∧ h.Fits entry)
    (hheader : ∀ p, output = some p →
      ((∃ inside, outputArgument args = some inside ∧ h.SameFile l (toString p) inside) ↔
        h.Fits (toString p))) :
    h.SameNames l tool classpath output (toString tool :: args) ↔
      h.Regains l (toString tool) ∧ (∀ entry ∈ classpath, h.Listable entry ∧ h.Fits entry) ∧
        ∀ p, output = some p → h.Fits (toString p) := by
  rw [← startedAt_eq_iff, ← hplaces, ← forall₂_congr hheader]
  exact ⟨fun hsame => ⟨hsame.executed, hsame.places, hsame.header⟩,
    fun ⟨hexecuted, hplaces, hheader⟩ => ⟨hexecuted, hplaces, hheader⟩⟩

end Host

namespace CommandLine

variable {h : Host} {command : Command} {tool : Path} {line : List String} {folder : Option String}

/-- The places where classes are found. -/
def Command.classpath : Command → List String
  | .javap _ _ settings => settings.classpath
  | .javah _ _ settings _ => settings.classpath
  | .parse _ _ _ => []

/-- The header that a tool writes itself. -/
def Command.target? : Command → Option Path
  | .javah _ output _ _ => some output
  | _ => none

/-- The tool that a command finds, and the command line and the directory that it is started
with. -/
inductive Command.Calls (h : Host) : Command → Path → List String → Option String → Prop where
  | javap {config : Report.Config} {output tool : Path} {settings : ToolSettings}
      {line : List String} (htool : h.toolFor .process "javap" settings.toolPath = .ok tool)
      (hline : h.javapCommand config.className (toString tool) settings.classpath = .ok line) :
      Command.Calls h (.javap config output settings) tool line (settings.classesDir.map toString)
  | javah {className : String} {output tool : Path} {settings : ToolSettings} {verbose : Bool}
      {line : List String} (htool : h.toolFor .process "javah" settings.toolPath = .ok tool)
      (hline : h.javahCommand className output (toString tool) settings.classpath verbose =
        .ok line) :
      Command.Calls h (.javah className output settings verbose) tool line
        (settings.classesDir.map toString)

/-- A tool works with what its user named exactly if it is executed again, and if what is handed
over can be listed and is not too long. -/
theorem Command.Calls.sameNames_iff (hcalls : command.Calls h tool line folder)
    (hfolder : h.files.IsFolder h.folder) (l : Location) :
    h.SameNames l tool command.classpath command.target? line ↔
      h.Regains l (toString tool) ∧ (∀ entry ∈ command.classpath, h.Listable entry ∧ h.Fits entry) ∧
        ∀ p, command.target? = some p → h.Fits (toString p) := by
  cases hcalls with
  | @javap config output tool settings line _ hline =>
    obtain ⟨arguments, harguments, hdone⟩ := bind_eq_ok hline
    cases hdone
    refine Host.sameNames_cons_iff ?_ fun p hp => by cases hp
    exact Host.forall₂_placesOf_iff hfolder ["-s"] (by decide) harguments l
  | @javah className output tool settings verbose line _ hline =>
    obtain ⟨target, htarget, hrest⟩ := bind_eq_ok hline
    obtain ⟨arguments, harguments, hdone⟩ := bind_eq_ok hrest
    cases hdone
    have hverbosity : "-classpath" ∉ (if verbose then ["-verbose"] else []) := by
      cases verbose <;> decide
    clear hline hrest
    generalize (if verbose then ["-verbose"] else []) = verbosity at hverbosity ⊢
    have hfirst : "-classpath" ∉ verbosity ++ ["-o", toString target] := by
      have hno : toString target ≠ "-classpath" := Host.ne_of_resolved htarget (by decide)
      simp [hverbosity, hno.symm]
    have hheader : Host.outputArgument (verbosity ++ ["-o", toString target] ++ arguments ++
        [className]) = some (toString target) := Host.outputArgument_eq htarget verbosity harguments
    have hsame : h.SameFile l (toString output) (toString target) ↔ h.Fits (toString output) :=
      Host.sameFile_iff hfolder (fun r hreach => FileSystem.resolve_of_reach hreach) htarget l
    change h.SameNames l tool settings.classpath (some output) (toString tool ::
      (verbosity ++ ["-o", toString target] ++ arguments ++ [className])) ↔ _
    refine Host.sameNames_cons_iff (Host.forall₂_placesOf_iff hfolder _ hfirst harguments l) ?_
    rintro p ⟨⟩
    rw [hheader, ← hsame]
    exact ⟨fun ⟨inside, hinside, hp⟩ => Option.some.inj hinside ▸ hp, fun hp => ⟨_, rfl, hp⟩⟩

end CommandLine

/-! ## What a run starts -/

/-- A request starts nothing but one command line in one directory. -/
def Request.startsAs (line : List String) (folder : Option String) : Request → Bool
  | .start line' folder' => line' = line && folder' = folder
  | _ => true

namespace Tool

variable {h cur : Host} {className tool : String} {classpath : List String}
variable {output : Path} {folder : Option Folder} {verbose : Bool}

/-- Nothing is started but the command that is run. -/
theorem startsOnly_run (command : List String) (folder : Option Folder) (cur : Host) :
    (run command folder).StartsOnly cur fun line place =>
      line = command ∧ place = folder.map Folder.name := by
  have hasks : (run command folder).Asks (Request.startsAs command (folder.map Folder.name)) := by
    refine .bind (.request rfl) fun _ => .bind (.request (by simp [Request.startsAs])) fun x => ?_
    cases x with
    | ok finished => exact .bind (.request rfl) fun _ => .pure _
    | error e =>
      dsimp only
      split
      · exact .throw _
      · exact .bind (.request rfl) fun _ => .throw _
  exact hasks.startsOnly (fun line place hstart => by simpa [Request.startsAs] using hstart) cur

theorem questions_classpathArguments (entries : List String) :
    (classpathArguments entries).Asks Request.isQuestion :=
  (looks_classpathArguments entries).imp Request.isQuestion_of_isLooking

theorem toolless_succeeded (r : Result) : (succeeded r).Asks Request.isToolless := by
  unfold succeeded
  split
  · exact .pure r
  · exact .throw _

theorem toolless_refresh (output : Path) (started : Int) :
    (refresh output started).Asks Request.isToolless := by
  refine .bind ((asks_hasKind _ rfl).mapError _) fun here => ?_
  cases here with
  | false => exact .pure _
  | true =>
    refine .bind ((asks_modified rfl).mapError _) fun modified => ?_
    split
    · exact (asks_attempt (.request rfl)).mapError _
    · exact .pure _

/-- Running javap starts its command line. -/
theorem startsOnly_javap (hcur : h.Agrees cur) :
    (javap className tool classpath folder).StartsOnly cur fun line place =>
      h.javapCommand className tool classpath = .ok line ∧ place = folder.map Folder.name := by
  refine (finds_classpathArguments classpath).startsOnly_bind (questions_classpathArguments _) hcur
    fun arguments mid harguments _ => ?_
  refine .bind ((startsOnly_run _ folder mid).imp ?_) fun result _ ended _ =>
    ((toolless_succeeded result).bind fun _ => .pure _).startsOnly_of_toolless ended
  rintro line place ⟨rfl, rfl⟩
  exact ⟨by rw [Host.javapCommand, harguments]; rfl, rfl⟩

/-- Running javah starts its command line. -/
theorem startsOnly_javah (hcur : h.Agrees cur) :
    (javah className output tool classpath folder verbose).StartsOnly cur fun line place =>
      h.javahCommand className output tool classpath verbose = .ok line ∧
        place = folder.map Folder.name := by
  refine .bind ((Asks.request rfl).startsOnly_of_toolless cur) fun started _ timed hends => ?_
  have htimed : h.Agrees timed := by
    cases hends with
    | ask hanswer hnext =>
      cases hnext
      obtain ⟨-, clock, hafter⟩ := hanswer.eq rfl
      exact hcur.trans ⟨clock, cur.messages, hafter⟩
  refine (Jdk.finds_resolve h output).startsOnly_bind
    ((Jdk.looks_resolve output).imp Request.isQuestion_of_isLooking) htimed
    fun target found htarget hfound => ?_
  refine (finds_classpathArguments classpath).startsOnly_bind (questions_classpathArguments _) hfound
    fun arguments mid harguments _ => ?_
  refine .bind ((startsOnly_run _ folder mid).imp ?_) fun result _ ended _ => ?_
  · rintro line place ⟨rfl, rfl⟩
    exact ⟨by rw [Host.javahCommand, htarget, harguments]; rfl, rfl⟩
  · refine Asks.startsOnly_of_toolless (.bind (.forM (fun _ => .request rfl) _) fun _ => ?_) ended
    exact .bind (toolless_succeeded result) fun _ =>
      .bind (toolless_refresh output started) fun _ => .pure _

end Tool

namespace CommandLine

variable {h : Host} {command : Command} {line : List String} {folder : Option String}

theorem questions_isSkippable (className : String) (output : Path) (settings : ToolSettings)
    (tool : String) : (isSkippable className output settings tool).Asks Request.isQuestion :=
  asks_isSkippable tool (fun _ _ => rfl) rfl fun _ => rfl

theorem questions_locate (tool : String) (explicit : Option Path) :
    (Jdk.locate .process tool explicit).Asks Request.isQuestion :=
  (Jdk.looks_locate _ _ _).imp Request.isQuestion_of_isLooking

theorem name_of_path (folder : Option Path) :
    (folder.map Tool.Folder.path).map Tool.Folder.name = folder.map toString := by
  cases folder <;> rfl

/-- What is started after a tool was located, if there is anything to do. -/
theorem startsOnly_regenerate {name className : String} {output : Path} {settings : ToolSettings}
    {run : Path → Action Failure Unit} {P : List String → Option String → Prop}
    (hrun : ∀ tool cur, h.toolFor .process name settings.toolPath = .ok tool → h.Agrees cur →
      (run tool).StartsOnly cur P) :
    (isSkippable className output settings name >>= fun skippable =>
      if skippable then pure () else Jdk.locate .process name settings.toolPath >>= run).StartsOnly
        h P := by
  refine (finds_isSkippable className output settings name).startsOnly_bind
    (questions_isSkippable _ _ _ _) (.refl h) fun skippable asked _ hasked => ?_
  cases skippable with
  | true => exact (Asks.pure _).startsOnly_of_toolless asked
  | false =>
    exact (Jdk.finds_locate .process name h settings.toolPath).startsOnly_bind
      (questions_locate _ _) hasked hrun

/-- What a command starts is the command line of the tool that it finds. -/
theorem Command.startsOnly_run (command : Command) (h : Host) :
    command.run.StartsOnly h fun line folder => ∃ tool, command.Calls h tool line folder := by
  cases command with
  | parse config output input =>
    refine Asks.startsOnly_of_toolless ?_ h
    rw [Command.run, runParse_eq]
    exact .bind ((looks_readText input).imp Request.isToolless_of_isLooking) fun _ =>
      toolless_generateFrom _ _ _
  | javap config output settings =>
    refine startsOnly_regenerate fun tool found htool hfound => ?_
    refine .bind ((Tool.startsOnly_javap hfound).imp ?_) fun report _ printed _ =>
      (toolless_generateFrom _ _ _).startsOnly_of_toolless printed
    rintro line place ⟨hline, rfl⟩
    rw [name_of_path]
    exact ⟨tool, .javap htool hline⟩
  | javah className output settings verbose =>
    refine startsOnly_regenerate fun tool found htool hfound => ?_
    refine .bind ((Tool.startsOnly_javah hfound).imp ?_) fun _ _ ended _ =>
      (Asks.request rfl).startsOnly_of_toolless ended
    rintro line place ⟨hline, rfl⟩
    rw [name_of_path]
    exact ⟨tool, .javah htool hline⟩

/-- What a command line starts is the command line of the tool that its command finds. -/
theorem startsOnly_of_selected {args : List String} (hselected : selected? args = some command)
    (h : Host) :
    (run args).StartsOnly h fun line folder => ∃ tool, command.Calls h tool line folder := by
  rw [run_of_selected hselected]
  refine (command.startsOnly_run h).outcome_bind fun result mid => ?_
  cases result with
  | ok _ => exact (Asks.pure 0).startsOnly_of_toolless mid
  | error f => exact (toolless_reportFailure command.name f).startsOnly_of_toolless mid

/-- **Names in another directory.**  A command line starts nothing but the tool that its command
finds, with the command line that belongs to it.  In whatever directory this is done, the tool works
with what its user named exactly if it is executed again from there, if no place where classes are
found holds a colon, and if no path is too long when it is written from the root directory. -/
theorem sameNames_iff_of_start {args : List String} {asked : List Request}
    {code : Except Failure Nat} {after : Host} (hselected : selected? args = some command)
    (hends : (run args).run.Ends h asked code after) (hstart : .start line folder ∈ asked)
    (hfolder : h.files.IsFolder h.folder) (l : Location) :
    ∃ tool, command.Calls h tool line folder ∧
      (h.SameNames l tool command.classpath command.target? line ↔
        h.Regains l (toString tool) ∧
          (∀ entry ∈ command.classpath, h.Listable entry ∧ h.Fits entry) ∧
          ∀ p, command.target? = some p → h.Fits (toString p)) := by
  obtain ⟨tool, hcalls⟩ :=
    startsOnly_of_selected hselected h asked code after hends line folder hstart
  exact ⟨tool, hcalls, hcalls.sameNames_iff hfolder l⟩

/-- A host with tools in one directory and classes in another one. -/
def divergingHost : Host where
  files := .ofList [
    (["tools"], .directory 0o755),
    (["tools", "javap"], .file
      { mode := 0o755, modified := 0, content := [],
        behaviour := some { standardOutput := Host.bytesOf capturedReport } }),
    (["tools", "javah"], .file
      { mode := 0o755, modified := 0, content := [], behaviour := some { outputText := some [] } }),
    (["classes"], .directory 0o755)]
  folder := []
  clock := 0

/-- The requests of a run that start a tool. -/
def startedBy (requests : List Request) : List (List String × Option String) :=
  requests.filterMap fun r =>
    match r with
    | .start line folder => some (line, folder)
    | _ => none

theorem start_mem_of_startedBy {requests : List Request}
    (hmem : (line, folder) ∈ startedBy requests) : .start line folder ∈ requests := by
  obtain ⟨r, hr, hstarted⟩ := List.mem_filterMap.mp hmem
  cases r with
  | start line' folder' =>
    cases hstarted
    exact hr
  | _ => cases hstarted

/-- A tool with an absolute path, a place that is relative and a header that is relative too: all
three are found again. -/
theorem sameNames_divergingHost :
    let args := ["javah", "a.B", "-o", "o.h", "-cp", "lib", "--javah-path", "/tools/javah",
      "--classes-dir", "classes"]
    let line := ["/tools/javah", "-o", "/o.h", "-classpath", "/lib", "a.B"]
    .start line (some "classes") ∈ (run args).run.requests divergingHost ∧
      divergingHost.SameNames ["classes"] ⟨.single, ["tools", "javah"]⟩ ["lib"]
        (some ⟨.relative, ["o.h"]⟩) line := by
  intro args line
  let settings : ToolSettings := ⟨["lib"], some ⟨.relative, ["classes"]⟩, none, false,
    some ⟨.single, ["tools", "javah"]⟩⟩
  have hread : readSettings args =
      .ok ⟨false, some (.javah "a.B" ⟨.relative, ["o.h"]⟩ settings false)⟩ :=
    eq_ok_of_toOption (by decide +kernel)
  have hselected : selected? args = some (.javah "a.B" ⟨.relative, ["o.h"]⟩ settings false) := by
    rw [selected?, hread]
  have hstart : .start line (some "classes") ∈ (run args).run.requests divergingHost := by
    refine start_mem_of_startedBy ?_
    have hstarted : startedBy ((run args).run.requests divergingHost) =
        [(line, some "classes")] := by
      decide +kernel
    rw [hstarted]
    exact List.mem_singleton.mpr rfl
  obtain ⟨tool, hcalls, hsame⟩ := sameNames_iff_of_start hselected
    ((run args).run.ends_run divergingHost) hstart (FileSystem.IsFolder.nil _) ["classes"]
  have htool : divergingHost.toolFor .process "javah" settings.toolPath =
      .ok ⟨.single, ["tools", "javah"]⟩ :=
    eq_ok_of_toOption (by decide +kernel)
  obtain rfl : tool = ⟨.single, ["tools", "javah"]⟩ := by
    cases hcalls with
    | javah htool' => exact Except.ok.inj (htool'.symm.trans htool)
  have hlib : divergingHost.resolved (.ofString "lib") = .ok ⟨.single, ["lib"]⟩ :=
    eq_ok_of_toOption (by decide +kernel)
  refine ⟨hstart, hsame.mpr ⟨.absolute (by decide), ?_, ?_⟩⟩
  · rintro entry (_ | ⟨_, ⟨⟩⟩)
    refine ⟨fun p hp => ?_, Host.fits_of_resolve (by decide +kernel)⟩
    cases hlib.symm.trans hp
    decide
  · rintro p ⟨⟩
    exact Host.fits_of_resolve (by decide +kernel)

/-- A tool with a relative path is looked for below the directory that it is started in, where it is
not. -/
theorem not_sameNames_divergingHost :
    let args :=
      ["javap", "a.B", "-o", "o.h", "--javap-path", "tools/javap", "--classes-dir", "classes"]
    let line := ["tools/javap", "-s", "a.B"]
    .start line (some "classes") ∈ (run args).run.requests divergingHost ∧
      divergingHost.startFolder (some "classes") = .ok ["classes"] ∧
      ¬ divergingHost.SameNames ["classes"] ⟨.relative, ["tools", "javap"]⟩ [] none line ∧
      ((run args).on divergingHost).1 = .ok 1 := by
  intro args line
  refine ⟨start_mem_of_startedBy ?_, eq_ok_of_toOption (by decide +kernel), fun hsame => ?_,
    eq_ok_of_toOption (by decide +kernel)⟩
  · have hstarted : startedBy ((run args).run.requests divergingHost) =
        [(line, some "classes")] := by
      decide +kernel
    rw [hstarted]
    exact List.mem_singleton.mpr rfl
  · have hexecuted := congrArg (fun found => found.toOption.isSome) hsame.executed
    revert hexecuted
    decide +kernel

end CommandLine

end MethodMacros
