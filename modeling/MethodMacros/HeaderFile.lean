import MethodMacros.Failure

/-!
# Writing header files

A header is written next to its place, under a temporary name, and then moved over what was there.
Whoever looks at the place sees the old header or the new one, and never a part.

## The order of steps

Missing directories come first, then the temporary file, its content and its permissions, and the
move last.  If a step fails, those before the temporary file leave nothing behind but directories,
and those after it are followed by its removal.  The permissions are those of the header that is
replaced, or of what a link there leads to; where nothing is, the mask for new files decides.
-/

namespace MethodMacros

/-- Errors that say that a path leads nowhere. -/
def Errno.isAbsence : Errno → Bool
  | .noEntry | .notDirectory | .linkLoop => true
  | _ => false

/-- A path leads to an entry of the given kind.  Other errors than absence are passed on. -/
def hasKind (kind : EntryKind) (path : Path) : Action FileError Bool := do
  match ← Action.request (.status (toString path)) with
  | .ok s => return s.kind == kind
  | .error (.refused e p t) => if e.isAbsence then return false else throw (.refused e p t)
  | .error .nullByte => return false

/-- A path leads to a regular file. -/
def isFile (path : Path) : Action FileError Bool := hasKind .file path

/-- A request whose answer is a result or an error. -/
def attempt {α : Type} (answer : Action FileError (Except FileError α)) :
    Action FileError α := do
  match ← answer with
  | .ok a => return a
  | .error e => throw e

namespace HeaderFile

/-- Accepts that a directory exists already, and passes on any other error. -/
def acceptDirectory (path : Path) (e : FileError) : Action FileError Unit := do
  match e with
  | .nullByte => throw e
  | _ => if ← hasKind .directory path then return () else throw e

/-- Makes a directory whose parent exists. -/
def makeDirectory (path : Path) : Action FileError Unit := do
  match ← Action.request (.makeDirectory (toString path)) with
  | .ok () => return ()
  | .error (.refused .noEntry p t) => throw (.refused .noEntry p t)
  | .error e => acceptDirectory path e

/-- Makes a directory and the directories above it, `n` levels up at most. -/
def makeDirectories : Nat → Path → Action FileError Unit
  | n, path => do
      match ← Action.request (.makeDirectory (toString path)) with
      | .ok () => return ()
      | .error (.refused .noEntry p t) =>
          match n with
          | 0 => throw (.refused .noEntry p t)
          | n + 1 =>
              if path.parent = path then throw (.refused .noEntry p t)
              makeDirectories n path.parent
              makeDirectory path
      | .error e => acceptDirectory path e

/-- The permissions that the header is to have. -/
def targetMode (path : Path) : Action FileError Nat := do
  match ← Action.request (.status (toString path)) with
  | .ok s => return s.mode
  | .error (.refused .noEntry _ _) =>
      let umask ← Action.request (.exchangeUmask 0)
      let _ ← Action.request (.exchangeUmask umask)
      return clearMask 0o666 umask
  | .error e => throw e

/-- Makes the missing directories and the temporary file. -/
def prepare (path : Path) : Action FileError String := do
  makeDirectories path.parent.parts.length path.parent
  attempt (Action.request (.createTemporary (toString path.parent) path.name))

/-- Fills the temporary file and moves it to its place. -/
def install (path : Path) (text temporary : String) : Action FileError Unit := do
  attempt (Action.request (.writeFile temporary text))
  let mode ← targetMode path
  attempt (Action.request (.setMode temporary mode))
  attempt (Action.request (.rename temporary (toString path)))

/-- Logs an error of the operating system, and turns it into the failure of the command. -/
def failure (path : Path) (e : FileError) : Action Failure Failure := do
  match e with
  | .nullByte => return .file .nullByte
  | _ =>
      Action.log .error ("Failed to write header " ++ toString path ++ ": " ++ e.message)
      return .write path e

/-- Removes the temporary file of a failed attempt, which may be gone already. -/
def discard (temporary : String) : Action Failure Unit := do
  match ← Action.request (.removeFile temporary) with
  | .ok () | .error (.refused .noEntry _ _) => return ()
  | .error e => throw (.file e)

/-- Replaces the file at a path by a header. -/
def write (path : Path) (text : String) : Action Failure Unit := do
  match ← Action.outcome (prepare path) with
  | .error e => throw (← failure path e)
  | .ok temporary =>
      match ← Action.outcome (install path text temporary) with
      | .error e =>
          let f ← failure path e
          discard temporary
          throw f
      | .ok () => Action.log .info ("Header written to " ++ toString path)

/-- The records of a report.  What happens while it is read goes into the log, also if it cannot be
read to its end. -/
def collect (config : Report.Config) (report : List String) :
    Action Failure (List Report.MethodRecord) := do
  match config.patterns with
  | .error e => throw (.generate (.patterns e))
  | .ok patterns =>
      let t := Report.read patterns report
      t.log.forM fun entry => Action.tell (.log entry)
      match t.result with
      | .error fault => throw (.generate (.report fault))
      | .ok records => return records

/-- Writes the header that a report gives, and returns the number of its methods. -/
def generate (config : Report.Config) (report : List String) (path : Path) :
    Action Failure Nat := do
  let records ← collect config report
  let count := records.length
  Action.log .info
    ("Rendered header for " ++ config.className ++ " with " ++ toString count ++ " methods")
  write path (Header.render config.className records)
  Action.log .info ("Wrote " ++ toString count ++ " methods for " ++ config.className)
  return count

end HeaderFile

end MethodMacros
