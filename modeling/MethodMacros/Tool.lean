import MethodMacros.Freshness
import MethodMacros.Jdk
import MethodMacros.Text.Lines

/-!
# Running tools

The two tools of a JDK that are used here are run to their end, and what they print is taken as a
whole.  One prints a report, the other writes a header itself.  A tool that cannot be started counts
as one that failed.
-/

namespace MethodMacros.Tool

/-- The directory that a tool is started in, as it was given: by its text, or as a path in normal
form. Messages tell the two apart. -/
inductive Folder where
  | text (s : String)
  | path (p : Path)
  deriving DecidableEq, Repr

/-- The path of a directory. -/
def Folder.name : Folder → String
  | .text s => s
  | .path p => toString p

/-- A directory as messages show it. -/
def Folder.shown : Folder → String
  | .text s => Text.quoted s
  | .path p => "PosixPath(" ++ Text.quoted (toString p) ++ ")"

/-- A command that was run, and how it ended. -/
structure Result where
  command : List String
  exitCode : Int
  output : String
  deriving DecidableEq, Repr

/-- The wording of a failure to start, and nothing where the program is at fault. -/
def startMessage (command : List String) (folder : Option Folder) :
    StartError → Except Failure String
  | .refused e => .ok (e.message (Text.quoted (command.headD "")))
  | .badFolder e => .ok (e.message ((folder.map Folder.shown).getD ""))
  | .nullByte => .error (.file .nullByte)
  | .emptyCommand => .error .emptyCommand

/-- Runs a command. -/
def run (command : List String) (folder : Option Folder) : Action Failure Result := do
  Action.log .info ("Running: " ++ Text.quotedList command)
  match ← Action.request (.start command (folder.map Folder.name)) with
  | .ok finished =>
      Action.log .debug
        (command.headD "" ++ " exited with " ++ toString finished.exitCode)
      return ⟨command, finished.exitCode, String.ofList (Text.Utf8.repair finished.output)⟩
  | .error e =>
      match startMessage command folder e with
      | .error failure => throw failure
      | .ok message =>
          Action.log .error ("Failed to start " ++ command.headD "" ++ ": " ++ message)
          throw (.toolFailed command (-1) message)

/-- Passes on a result, unless the tool failed. -/
def succeeded (r : Result) : Action Failure Result := do
  if r.exitCode = 0 then return r else throw (.toolFailed r.command r.exitCode r.output)

/-- The arguments for a list of places where classes are found. -/
def classpathArguments : List String → Action Failure (List String)
  | [] => return []
  | entries => do
      let resolved ← entries.mapM fun entry => Jdk.resolve (.ofString entry)
      return ["-classpath", ":".intercalate (resolved.map toString)]

/-- Lets javap print the report of a class. -/
def javap (className tool : String) (classpath : List String) (folder : Option Folder) :
    Action Failure String := do
  let command := [tool, "-s"] ++ (← classpathArguments classpath) ++ [className]
  return (← succeeded (← run command folder)).output

/-- Makes a file as new as the present, if it is older than a given time. -/
def refresh (output : Path) (started : Int) : Action Failure Unit := do
  if ← (isFile output).mapError .file then
    let modified ← (Freshness.modified output).mapError .file
    if !Time.notLater started modified then
      (attempt (Action.request (.touch (toString output)))).mapError .file

/-- Lets javah write the header of a class.  It leaves a header alone that would not change, so the
header is made as new as the run. -/
def javah (className : String) (output : Path) (tool : String) (classpath : List String)
    (folder : Option Folder) (verbose : Bool) : Action Failure Result := do
  let started ← Action.request .time
  let verbosity := if verbose then ["-verbose"] else []
  let target := ["-o", toString (← Jdk.resolve output)]
  let command :=
    [tool] ++ verbosity ++ target ++ (← classpathArguments classpath) ++ [className]
  let result ← run command folder
  (Text.outputLines result.output).forM fun line => Action.log .info ("javah: " ++ line)
  let result ← succeeded result
  refresh output started
  return result

end MethodMacros.Tool
