import MethodMacros.CommandLine.Settings
import MethodMacros.Tool

/-!
# Carrying out commands

A command line ends with an exit code: 0 if the command did what it should or had nothing to do, 1
if it failed or none was given, and 2 if the command line was not understood.  A failure that is not
expected is no exit code; it ends the program as it is.
-/

namespace MethodMacros.CommandLine

/-- Writes a text to standard error. -/
def say (text : String) : Action Failure Unit := Action.tell (.status text)

/-- The output is up to date, and nobody asked to make it all the same. -/
def isSkippable (className : String) (output : Path) (settings : ToolSettings) (tool : String) :
    Action Failure Bool := do
  match settings.force, settings.sourceDir with
  | false, some sourceDir =>
      let source := sourceFile className sourceDir
      if ← Freshness.isUpToDate source output then
        say ("Source file: [" ++ toString source ++ "] is not modified, skipping '" ++ tool ++
          "' execution\n")
        return true
      else return false
  | _, _ => return false

/-- Makes a header of a report, and says so. -/
def generateFrom (report : String) (config : Report.Config) (output : Path) :
    Action Failure Unit := do
  let count ← HeaderFile.generate config (Text.reportLines report) output
  say ("Wrote " ++ toString count ++ " methods to: " ++ toString output ++ "\n")

/-- Runs javap and makes a header of its report. -/
def runJavap (config : Report.Config) (output : Path) (settings : ToolSettings) :
    Action Failure Unit := do
  unless ← isSkippable config.className output settings "javap" do
    let tool ← Jdk.locate .process "javap" settings.toolPath
    let report ← Tool.javap config.className (toString tool) settings.classpath
      (settings.classesDir.map .path)
    generateFrom report config output

/-- Runs javah, which writes the header. -/
def runJavah (className : String) (output : Path) (settings : ToolSettings) (verbose : Bool) :
    Action Failure Unit := do
  unless ← isSkippable className output settings "javah" do
    let tool ← Jdk.locate .process "javah" settings.toolPath
    let _ ← Tool.javah className output (toString tool) settings.classpath
      (settings.classesDir.map .path) verbose
    say ("Header written to: " ++ toString output ++ "\n")

/-- Reads a report from a file, which has to be well-formed text. -/
def readInput (path : Path) : Action Failure (List Char) := do
  match ← Action.request (.readFile (toString path)) with
  | .ok bytes =>
      match Text.Utf8.decode bytes with
      | .ok s => return s
      | .error e => throw (.undecodable e)
  | .error .nullByte => throw (.file .nullByte)
  | .error e => throw (.read path e)

/-- Makes a header of a report that was captured before. -/
def runParse (config : Report.Config) (output : Path) (input : Option Path) :
    Action Failure Unit := do
  let text ← match input with
    | some path => readInput path
    | none => pure (← Action.request .standardInput).toList
  generateFrom (String.ofList (Text.unifyNewlines text)) config output

/-- Carries out a command. -/
def Command.run : Command → Action Failure Unit
  | .javap config output tool => runJavap config output tool
  | .javah className output tool verbose => runJavah className output tool verbose
  | .parse config output input => runParse config output input

/-- Reports a failure to the user, if it is one to report. -/
def reportFailure (name : CommandName) (f : Failure) : Action Failure Nat := do
  if f.isReported then
    Action.log .error (name.text ++ " failed: " ++ f.message)
    say ("Error: " ++ f.message ++ "\n")
    return 1
  else throw f

/-- Carries out a command to its exit code. -/
def Command.exitCode (command : Command) : Action Failure Nat := do
  match ← Action.outcome command.run with
  | .ok () => return 0
  | .error f => reportFailure command.name f

/-- The number of columns to lay texts out for. -/
def columns : Action Failure Int := do
  return columnsOf (← Action.request (.variable "COLUMNS"))

/-- Shows why a command line is not carried out. -/
def refuse (r : Refusal) : Action Failure Nat := do
  match r.ending with
  | .help =>
      Action.tell (.print (r.grammar.helpText (← columns)))
      return 0
  | .refused message =>
      say (r.grammar.usageText (← columns) ++ "\n")
      say (r.grammar.program ++ ": error: " ++ message ++ "\n")
      return 2

/-- Carries out a command line that was understood. -/
def Settings.run (s : Settings) : Action Failure Nat := do
  match s.command with
  | some command => command.exitCode
  | none =>
      say (mainGrammar.helpText (← columns))
      return 1

/-- Carries out a command line. -/
def run (args : List String) : Action Failure Nat :=
  match readSettings args with
  | .ok settings => settings.run
  | .error refusal => refuse refusal

/-- A log entry is shown to the user. -/
def isShown (verbose : Bool) : Level → Bool
  | .debug => false
  | .info => verbose
  | .error => true

/-- What of a message goes to standard error. -/
def errorText (verbose : Bool) : Message → String
  | .log entry =>
      if isShown verbose entry.level then entry.level.word ++ ": " ++ entry.message ++ "\n" else ""
  | .status text => text
  | .print _ => ""

/-- What of a message goes to standard output. -/
def outputText : Message → String
  | .print text => text
  | _ => ""

/-- A command line asks for more output.  One that is not understood asks for nothing. -/
def asksVerbose (args : List String) : Bool :=
  match readSettings args with
  | .ok settings => settings.verbose
  | .error _ => false

end MethodMacros.CommandLine
