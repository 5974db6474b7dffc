import MethodMacros.CommandLine.Commands

/-!
# The program

The command line is carried out on the computer itself: each request of a command is answered by the
operating system.  Nothing is decided here; what a command asks for, and what it makes of the
answers, is `CommandLine.run`.

Two requests get a fixed answer.  The mask for new files and the permissions of existing ones cannot
be asked for, so the usual ones are told.  No tool is ever started; a command that needs one ends as
if the tool were forbidden.
-/

namespace MethodMacros.Computer

/-- The number of an error of the operating system. -/
def errorNumber : IO.Error → Option UInt32
  | .alreadyExists _ n _ | .noFileOrDirectory _ n _ | .permissionDenied _ n _
  | .inappropriateType _ n _ | .resourceExhausted _ n _ | .invalidArgument _ n _
  | .noSuchThing _ n _ | .otherError n _ | .resourceBusy n _ | .unsatisfiedConstraints n _
  | .illegalOperation n _ | .unsupportedOperation n _ => some n
  | _ => none

/-- The reason that an error of the operating system stands for.  Its number may be given with a
minus sign, as a word. -/
def refusalOf (e : IO.Error) : Errno :=
  let isReason (n : UInt32) (reason : Errno) : Bool :=
    reason.code = n.toNat || reason.code = (0 - n).toNat
  ((errorNumber e).bind fun n => Errno.all.find? (isReason n)).getD .accessDenied

/-- Carries out an operation on a path, and possibly a second one. -/
def onPath {α : Type} (path : String) (operation : IO α) (target : Option String := none) :
    IO (Except FileError α) := do
  if (path :: target.toList).all acceptable then
    match ← operation.toBaseIO with
    | .ok a => return .ok a
    | .error e => return .error (.refused (refusalOf e) path target)
  else return .error .nullByte

/-- A time in nanoseconds. -/
def nanoseconds (t : IO.FS.SystemTime) : Int := t.sec * 1000000000 + t.nsec.toNat

/-- The kind of an entry whose links were followed; what is no directory is taken for a file only if
it is a regular one. -/
def kindOf : IO.FS.FileType → EntryKind
  | .dir => .directory
  | .file => .file
  | _ => .link

/-- The status of what a path leads to. -/
def readStatus (path : String) : IO Status := do
  let m ← ((← IO.currentDir) / path).metadata
  let mode := if kindOf m.type = .directory then 0o755 else 0o644
  return ⟨kindOf m.type, mode, nanoseconds m.modified⟩

/-- What three bits of permissions allow. -/
def accessOf (bits : Nat) : IO.AccessRight where
  read := bits.testBit 2
  write := bits.testBit 1
  execution := bits.testBit 0

/-- Sets the permissions of a file. -/
def setMode (path : String) (mode : Nat) : IO Unit :=
  IO.setAccessRights path ⟨accessOf (mode >>> 6), accessOf (mode >>> 3), accessOf mode⟩

/-- A random lower-case letter. -/
def randomLetter : IO Char := do
  return Char.ofNat ('a'.toNat + (← IO.rand 0 25))

/-- Creates a temporary file under a random name. -/
def createTemporary (directory stem : String) : IO String := do
  let letters ← (List.range 8).mapM fun _ => randomLetter
  let current ← IO.currentDir
  let folder := if directory = "." then current else current / directory
  let path := toString (folder / ("." ++ stem ++ "." ++ String.ofList letters ++ ".tmp"))
  let _ ← IO.FS.Handle.mk path .writeNew
  setMode path 0o600
  return path

/-- The present, which is the time of a file that is made just now. -/
def present : IO Int := do
  let (_, path) ← IO.FS.createTempFile
  let status ← readStatus (toString path)
  IO.FS.removeFile path
  return status.modified

/-- The path of what a path leads to, `n` components of which may be missing. -/
def resolve : Nat → Path → IO String
  | n, path => do
      match ← (IO.FS.realPath (toString path)).toBaseIO, n with
      | .ok found, _ => return toString found
      | .error e, n + 1 =>
          if refusalOf e = .noEntry then
            return toString ((Path.ofString (← resolve n path.parent)).child path.name)
          else throw e
      | .error e, 0 => throw e

/-- Says something to the user. -/
def say (verbose : Bool) (m : Message) : IO Unit := do
  IO.eprint (CommandLine.errorText verbose m)
  IO.print (CommandLine.outputText m)

/-- Answers a request. -/
def answer (verbose : Bool) : (r : Request) → IO r.Answer
  | .status path => onPath path (readStatus path)
  | .makeDirectory path => onPath path (IO.FS.createDir path)
  | .createTemporary directory stem =>
      onPath (directory ++ stem) (Computer.createTemporary directory stem)
  | .writeFile path content => onPath path (IO.FS.writeFile path content)
  | .readFile path => onPath path (return (← IO.FS.readBinFile path).toList)
  | .setMode path mode => onPath path (Computer.setMode path mode)
  | .rename source target => onPath source (IO.FS.rename source target) (some target)
  | .removeFile path => onPath path (IO.FS.removeFile path)
  | .touch path => onPath path (do IO.FS.writeBinFile path (← IO.FS.readBinFile path))
  | .exchangeUmask _ => return 0o022
  | .isRunnable path => do
      match ← onPath path (readStatus path) with
      | .ok s => return s.kind == .file
      | .error _ => return false
  | .resolve path =>
      let p := Path.ofString path
      onPath path (Computer.resolve p.parts.length p)
  | .time => present
  | .variable name => IO.getEnv name
  | .standardInput => do
      let bytes ← (← IO.getStdin).readBinToEnd
      return String.ofList (Text.Utf8.repair bytes.toList)
  | .start _ _ => return .error (.refused .accessDenied)
  | .tell m => say verbose m

/-- Carries out a program. -/
def carryOut {α : Type} (verbose : Bool) : Program α → IO α
  | .done a => return a
  | .ask r next => do carryOut verbose (next (← answer verbose r))

end MethodMacros.Computer

open MethodMacros in
/-- Carries out a command line.  A failure that no command reports is shown as it is. -/
def main (args : List String) : IO UInt32 := do
  match ← Computer.carryOut (CommandLine.asksVerbose args) (CommandLine.run args).run with
  | .ok code => return UInt32.ofNat code
  | .error failure =>
      IO.eprintln failure.message
      return 1
