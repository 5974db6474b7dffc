import MethodMacros.CommandLine.Usage
import MethodMacros.Path
import MethodMacros.Report.Patterns

/-!
# The commands and their settings

There are three commands: one runs javap and makes a header of its report, one runs javah, which
writes a header itself, and one makes a header of a report that was captured before.  Here is what
each may be given, and how a command line becomes settings.
-/

namespace MethodMacros.CommandLine

open Report (Config)

/-- The commands. -/
inductive CommandName where
  | javap
  | javah
  | parse
  deriving DecidableEq, Repr

/-- A command as it is written. -/
def CommandName.text : CommandName → String
  | .javap => "javap"
  | .javah => "javah"
  | .parse => "parse"

/-! ## Options -/

/-- More output on standard error. -/
def verboseOption : OptionSpec where
  names := ["--verbose", "-v"]
  help := "Log progress to stderr"

/-- Where the header goes. -/
def outputOption : OptionSpec where
  names := ["--output", "-o"]
  value := some "OUTPUT"
  required := true
  help := "Header file to write"

/-- Where classes are found. -/
def classpathOption : OptionSpec where
  names := ["--classpath", "-cp"]
  value := some "CLASSPATH"
  help := "Classpath entry passed to the tool (repeatable)"

/-- Where a tool is started. -/
def classesDirOption : OptionSpec where
  names := ["--classes-dir"]
  value := some "CLASSES_DIR"
  help := "Compiled classes directory, used as the tool's working directory"

/-- Where sources are found, so that a header is not made anew without need. -/
def sourceDirOption (tool : String) : OptionSpec where
  names := ["--source-dir"]
  value := some "SOURCE_DIR"
  help := "Java source root; when the source is older than the output, " ++ tool ++ " is not run"

/-- Makes the header anew in any case. -/
def forceOption : OptionSpec where
  names := ["--force"]
  help := "Regenerate even if the output is up to date"

/-- Which tool to run. -/
def toolPathOption (tool : String) : OptionSpec where
  names := ["--" ++ tool ++ "-path"]
  value := some (String.ofList (tool.toList.map Char.toUpper) ++ "_PATH")
  help := "Path to the " ++ tool ++ " executable (default: found in JAVA_HOME/JDK_HOME)"

/-- The pattern for error lines. -/
def errorRegexOption : OptionSpec where
  names := ["--error-regex"]
  value := some "ERROR_REGEX"
  help := "Regex matching javap error lines (default: ^ERROR:.*$)"

/-- The pattern for declarations. -/
def nameRegexOption : OptionSpec where
  names := ["--name-regex"]
  value := some "NAME_REGEX"
  help := "Regex matching method declarations, group 1 is the name"

/-- The pattern for signatures. -/
def signatureRegexOption : OptionSpec where
  names := ["--signature-regex"]
  value := some "SIGNATURE_REGEX"
  help := "Regex matching signature lines, group 1 is the signature"

/-- More output of javah. -/
def javahVerboseOption : OptionSpec where
  names := ["--javah-verbose"]
  help := "Pass -verbose to javah"

/-- Where the report is. -/
def inputOption : OptionSpec where
  names := ["--input", "-i"]
  value := some "INPUT"
  help := "File holding javap -s output (default: stdin)"

/-- The options about a tool. -/
def toolOptions (tool : String) : List OptionSpec :=
  [classpathOption, classesDirOption, sourceDirOption tool, forceOption, toolPathOption tool]

/-- The options about patterns. -/
def patternOptions : List OptionSpec :=
  [errorRegexOption, nameRegexOption, signatureRegexOption]

/-! ## Grammars -/

/-- What a command is for. -/
def CommandName.help : CommandName → String
  | .javap => "Run javap -s on a class and write name/signature macros"
  | .javah => "Run javah on a class to write its JNI function header"
  | .parse => "Write name/signature macros from already captured javap output"

/-- All commands. -/
def CommandName.all : List CommandName := [.javap, .javah, .parse]

/-- The grammar of the whole command line, up to the command. -/
def mainGrammar : Grammar where
  program := "jni-headers"
  description := some "Generate C headers exposing JNI method names and signatures"
  positional :=
    .command "command" "Available commands" (CommandName.all.map fun c => ⟨c.text, c.help⟩)
  options := [helpOption, verboseOption]

/-- The options of a command, after those that all commands have. -/
def CommandName.options : CommandName → List OptionSpec
  | .javap => toolOptions "javap" ++ patternOptions
  | .javah => toolOptions "javah" ++ [javahVerboseOption]
  | .parse => inputOption :: patternOptions

/-- The grammar of what follows a command. -/
def CommandName.grammar (c : CommandName) : Grammar where
  program := mainGrammar.program ++ " " ++ c.text
  positional := .value "class_name" "Fully qualified class name"
  options := [helpOption, outputOption] ++ c.options

/-! ## Settings -/

/-- The settings about a tool. -/
structure ToolSettings where
  classpath : List String
  classesDir : Option Path
  sourceDir : Option Path
  force : Bool
  toolPath : Option Path
  deriving DecidableEq, Repr

/-- What is to be done. -/
inductive Command where
  | javap (config : Config) (output : Path) (tool : ToolSettings)
  | javah (className : String) (output : Path) (tool : ToolSettings) (verbose : Bool)
  | parse (config : Config) (output : Path) (input : Option Path)
  deriving DecidableEq, Repr

/-- The name of a command. -/
def Command.name : Command → CommandName
  | .javap _ _ _ => .javap
  | .javah _ _ _ _ => .javah
  | .parse _ _ _ => .parse

/-- A command line that was understood. -/
structure Settings where
  verbose : Bool
  command : Option Command
  deriving DecidableEq, Repr

/-- All values that an option was given. -/
def Contents.all (c : Contents) (o : OptionSpec) : List String :=
  c.given.filterMap fun g => if g.option = o then g.value else none

/-- The value that an option was given last. -/
def Contents.last? (c : Contents) (o : OptionSpec) : Option String :=
  (c.all o).getLast?

/-- The path that an option was given last. -/
def Contents.path? (c : Contents) (o : OptionSpec) : Option Path :=
  (c.last? o).map .ofString

/-- An option was given. -/
def Contents.has (c : Contents) (o : OptionSpec) : Bool :=
  c.given.any (·.option = o)

/-- The class and the patterns that are asked for. -/
def Contents.config (c : Contents) : Config :=
  let base : Config := { className := c.positional.headD "" }
  { base with
    errorPattern := (c.last? errorRegexOption).getD base.errorPattern
    namePattern := (c.last? nameRegexOption).getD base.namePattern
    signaturePattern := (c.last? signatureRegexOption).getD base.signaturePattern }

/-- The settings about a tool that are asked for. -/
def Contents.tool (c : Contents) (tool : String) : ToolSettings where
  classpath := c.all classpathOption
  classesDir := c.path? classesDirOption
  sourceDir := c.path? (sourceDirOption tool)
  force := c.has forceOption
  toolPath := c.path? (toolPathOption tool)

/-- The command that is asked for. -/
def CommandName.command (name : CommandName) (c : Contents) : Command :=
  let output := (c.path? outputOption).getD ⟨.relative, []⟩
  match name with
  | .javap => .javap c.config output (c.tool "javap")
  | .javah => .javah (c.positional.headD "") output (c.tool "javah") (c.has javahVerboseOption)
  | .parse => .parse c.config output (c.path? inputOption)

/-- Why a command line is not carried out, and the grammar that it falls under. -/
structure Refusal where
  grammar : Grammar
  ending : Ending
  deriving DecidableEq, Repr

/-- Reads what follows a command.  Arguments that fit nowhere are passed on. -/
def CommandName.read (name : CommandName) (args : List String) :
    Except Refusal (Command × List String) := do
  let c ← (name.grammar.read args).mapError (Refusal.mk name.grammar)
  return (name.command c, c.extras)

/-- Reads the command and what follows it. -/
def readCommand (positional : List String) : Except Refusal (Option Command × List String) :=
  match positional with
  | [] => .ok (none, [])
  | text :: args =>
      match CommandName.all.find? (·.text = text) with
      | some name => do
          let (command, extras) ← name.read args
          return (some command, extras)
      | none => .ok (none, [])

/-- Reads a command line. -/
def readSettings (args : List String) : Except Refusal Settings := do
  let c ← (mainGrammar.read args).mapError (Refusal.mk mainGrammar)
  let (command, extras) ← readCommand c.positional
  match c.extras ++ extras with
  | [] => return ⟨c.has verboseOption, command⟩
  | unknown =>
      throw ⟨mainGrammar, .refused ("unrecognized arguments: " ++ " ".intercalate unknown)⟩

end MethodMacros.CommandLine
