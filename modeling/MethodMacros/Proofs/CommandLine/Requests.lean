import MethodMacros.Proofs.CommandLine.Escaping
import MethodMacros.Proofs.HeaderFile.Requests

/-!
# What commands ask for

Finding out whether there is anything to do, and where a tool is, is looking around.  A tool is
started once, and making a header starts none.  What follows from this is said where it is used:
what is found out does not depend on the time or on the answers of tools, and up to the report a
command leaves no trace but its log.

* `asks_isUpToDate`, `asks_isSkippable`: the check asks for the status of the source and of the
  header, and logs.  The kind of requests is a parameter here, since a later result needs to know
  which two paths are asked about.
* `looks_find`, `looks_locate`, `looks_classpathArguments`, `looks_readText`: the other questions.
* `toolless_generateFrom`, `toolless_reportFailure`, `toolless_refuse`: what comes after the report,
  and what comes in its place.
-/

namespace MethodMacros

open MethodMacros.Action

section Checking

variable {only : Request → Bool} {source output : Path}

theorem asks_modified {p : Path} (hp : only (.status (toString p)) = true) :
    (Freshness.modified p).Asks only :=
  .bind (asks_attempt (.request hp)) fun _ => .pure _

theorem asks_compare (hsource : only (.status (toString source)) = true)
    (houtput : only (.status (toString output)) = true) :
    (Freshness.compare source output).Asks only := by
  refine .bind (asks_hasKind _ hsource) fun here => ?_
  cases here with
  | false => exact .pure false
  | true =>
    refine .bind (asks_hasKind _ houtput) fun there => ?_
    cases there with
    | false => exact .pure false
    | true =>
      exact .bind (asks_modified hsource) fun _ => .bind (asks_modified houtput) fun _ => .pure _

/-- Whether a header is up to date is found out from the status of two paths. -/
theorem asks_isUpToDate (hsource : only (.status (toString source)) = true)
    (houtput : only (.status (toString output)) = true)
    (hlog : ∀ entry, only (.tell (.log entry)) = true) :
    (Freshness.isUpToDate source output).Asks only := by
  refine .bind ((asks_compare hsource houtput).mapError _) fun fresh => ?_
  cases fresh with
  | false => exact .pure false
  | true => exact .bind (.request (hlog _)) fun _ => .pure true

end Checking

section Looking

namespace Jdk

variable (environment : Environment) (tool : String)

theorem looks_valueOf (name : String) : (valueOf environment name).Asks Request.isLooking := by
  cases environment with
  | process => exact .request rfl
  | given settings => exact .pure _

theorem looks_hasTool (home : Path) : (hasTool home tool).Asks Request.isLooking :=
  (looks_hasKind _ _).mapError _

theorem looks_firstRunnable (paths : List String) :
    (firstRunnable paths).Asks Request.isLooking := by
  induction paths with
  | nil => exact .pure none
  | cons path rest ih =>
    refine .bind (.request rfl) fun runnable => ?_
    split
    · exact .pure _
    · exact ih

theorem looks_onPath : (onPath environment tool).Asks Request.isLooking := by
  unfold onPath searchPath
  split
  · exact looks_firstRunnable _
  · refine .bind (.bind (looks_valueOf environment "PATH") fun path => ?_) fun path => ?_
    · cases path with
      | none => exact .bind (.request rfl) fun _ => .pure _
      | some path => exact .pure path
    · split
      · exact .pure none
      · exact looks_firstRunnable _

theorem looks_resolve (path : Path) : (resolve path).Asks Request.isLooking := by
  refine .bind (.request rfl) fun answer => ?_
  split
  · exact .pure _
  · exact .throw _
  · exact .throw _

theorem looks_atHome (home : Path) : (atHome tool home).Asks Request.isLooking := by
  refine .bind (looks_hasTool tool home) fun here => ?_
  cases here with
  | true => exact .bind (.request rfl) fun _ => .pure _
  | false =>
    refine .bind (looks_hasTool tool home.parent) fun above => ?_
    cases above with
    | true => exact .bind (.request rfl) fun _ => .pure _
    | false => exact .bind (.request rfl) fun _ => .pure none

theorem looks_atVariable (name : String) :
    (atVariable environment tool name).Asks Request.isLooking := by
  refine .bind (looks_valueOf environment name) fun value => ?_
  split
  · exact .pure none
  · exact .pure none
  · exact looks_atHome tool _

theorem looks_aroundPath : (aroundPath environment tool).Asks Request.isLooking := by
  refine .bind (looks_onPath environment tool) fun path => ?_
  split
  · exact .pure none
  · exact .pure none
  · exact .bind (looks_resolve _) fun _ => looks_atHome tool _

theorem looks_find : (find environment tool).Asks Request.isLooking := by
  refine .bind (looks_atVariable environment tool _) fun home => ?_
  cases home with
  | some home => exact .pure home
  | none =>
    refine .bind (looks_atVariable environment tool _) fun home => ?_
    cases home with
    | some home => exact .pure home
    | none =>
      refine .bind (looks_aroundPath environment tool) fun home => ?_
      cases home with
      | some home => exact .pure home
      | none => exact .throw _

theorem looks_locate (explicit : Option Path) :
    (locate environment tool explicit).Asks Request.isLooking := by
  cases explicit with
  | none => exact .bind (looks_find environment tool) fun _ => .pure _
  | some path =>
    refine .bind ((looks_hasKind _ _).mapError _) fun there => ?_
    cases there with
    | true => exact .pure path
    | false => exact .throw _

end Jdk

theorem looks_classpathArguments (entries : List String) :
    (Tool.classpathArguments entries).Asks Request.isLooking := by
  cases entries with
  | nil => exact .pure []
  | cons entry entries => exact .bind (.mapM (fun _ => Jdk.looks_resolve _) _) fun _ => .pure _

end Looking

/-! ## Commands -/

namespace CommandLine

theorem toolless_generateFrom (report : String) (config : Report.Config) (output : Path) :
    (generateFrom report config output).Asks Request.isToolless :=
  .bind (HeaderFile.toolless_generate output config _) fun _ => .request rfl

theorem looks_readText (input : Option Path) : (readText input).Asks Request.isLooking := by
  cases input with
  | none => exact .bind (.request rfl) fun _ => .pure _
  | some path =>
    refine .bind (.request rfl) fun answer => ?_
    split
    · split
      · exact .pure _
      · exact .throw _
    · exact .throw _
    · exact .throw _

/-- Whether there is anything to do is found out from the status of the source and the output. -/
theorem asks_isSkippable {only : Request → Bool} {className : String} {output : Path}
    {settings : ToolSettings} (tool : String)
    (hsource : ∀ dir, settings.sourceDir = some dir →
      only (.status (toString (sourceFile className dir))) = true)
    (houtput : only (.status (toString output)) = true) (htell : ∀ m, only (.tell m) = true) :
    (isSkippable className output settings tool).Asks only := by
  unfold isSkippable
  split
  · rename_i dir _ hdir
    refine .bind (asks_isUpToDate (hsource dir hdir) houtput fun _ => htell _) fun fresh => ?_
    cases fresh with
    | true => exact .bind (.request (htell _)) fun _ => .pure true
    | false => exact .pure false
  · exact .pure false

theorem toolless_isSkippable (className : String) (output : Path) (settings : ToolSettings)
    (tool : String) : (isSkippable className output settings tool).Asks Request.isToolless :=
  asks_isSkippable tool (fun _ _ => rfl) rfl fun _ => rfl

theorem toolless_reportFailure (name : CommandName) (f : Failure) :
    (reportFailure name f).Asks Request.isToolless := by
  unfold reportFailure
  split
  · exact .bind (.request rfl) fun _ => .bind (.request rfl) fun _ => .pure 1
  · exact .throw f

theorem toolless_refuse (r : Refusal) : (refuse r).Asks Request.isToolless := by
  unfold refuse
  split
  · exact .bind (.bind (.request rfl) fun _ => .pure _) fun _ =>
      .bind (.request rfl) fun _ => .pure 0
  · exact .bind (.bind (.request rfl) fun _ => .pure _) fun _ =>
      .bind (.request rfl) fun _ => .bind (.request rfl) fun _ => .pure 2

end CommandLine

end MethodMacros
