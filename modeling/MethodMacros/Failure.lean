import MethodMacros.Header
import MethodMacros.Host.Program
import MethodMacros.Text.Utf8

/-!
# Failures

Why a command of this library fails, with the wording of each cause.  Some causes are expected and
reported to the user of the command line; the others are not caught there.
-/

namespace MethodMacros

/-- What an error of the operating system refers to. -/
def FileError.message : FileError → String
  | .refused e path none => e.message (Text.quoted path)
  | .refused e path (some target) =>
      e.message (Text.quoted path ++ " -> " ++ Text.quoted target)
  | .nullByte => "embedded null byte"

/-- The wording of bytes that are not well-formed text. -/
def Text.Utf8.DecodeError.message (e : Text.Utf8.DecodeError) : String :=
  match e.bytes with
  | [b] =>
      "'utf-8' codec can't decode byte 0x" ++ String.ofList (Text.hexDigits 2 b.toNat) ++
        " in position " ++ toString e.start ++ ": " ++ e.cause.message
  | bytes =>
      "'utf-8' codec can't decode bytes in position " ++ toString e.start ++ "-" ++
        toString (e.start + bytes.length - 1) ++ ": " ++ e.cause.message

/-- Why a command fails. -/
inductive Failure where
  | generate (e : Header.GenerateError)
  | write (path : Path) (e : FileError)
  | toolFailed (command : List String) (exitCode : Int) (output : String)
  | noJdk (tool : String)
  | noTool (tool : String) (path : Path)
  | read (path : Path) (e : FileError)
  | undecodable (e : Text.Utf8.DecodeError)
  | file (e : FileError)
  | linkCircle (path : String)
  | emptyCommand
  deriving DecidableEq, Repr

/-- The wording of a failure. -/
def Failure.message : Failure → String
  | .generate e => e.message
  | .write path e => "Cannot write header " ++ toString path ++ ": " ++ e.message
  | .toolFailed command exitCode output =>
      command.headD "" ++ " exited with code: [" ++ toString exitCode ++ "], output: [" ++ output ++
        "]"
  | .noJdk tool =>
      "Cannot find JDK home directory with bin/" ++ tool ++ ", check JAVA_HOME or JDK_HOME"
  | .noTool tool path =>
      "Cannot find " ++ tool ++ " at " ++ toString path ++ ", check --" ++ tool ++ "-path"
  | .read path e => "Cannot read " ++ toString path ++ ": " ++ e.message
  | .undecodable e => e.message
  | .file e => e.message
  | .linkCircle path => "Symlink loop from " ++ Text.quoted path
  | .emptyCommand =>
      "create_subprocess_exec() missing 1 required positional argument: 'program'"

/-- A pattern error that is a matter of the pattern's form. -/
def Report.PatternError.isReported : Report.PatternError → Bool
  | .unreadable _ _ (.malformed _ _) | .withoutGroup _ _ => true
  | .unreadable _ _ _ => false

/-- The command line reports this failure. -/
def Failure.isReported : Failure → Bool
  | .generate (.patterns e) => e.isReported
  | .generate (.report .nameNotCaptured) => false
  | .generate (.report _) => true
  | .write _ _ | .toolFailed _ _ _ | .noJdk _ | .noTool _ _ | .read _ _ => true
  | .undecodable _ | .file _ | .linkCircle _ | .emptyCommand => false

end MethodMacros
