import MethodMacros.Host.Program
import MethodMacros.Text.Utf8

/-!
# A host as a value

A host is all that programs can see and change: files, the working directory, the mask for
permissions, the clock, the environment, standard input, and the messages so far.  Running a program
on a host gives its result and the host as it is afterwards, or the whole list of states on the way.

The clock goes on by one tick with each request, so that later changes have later times.  Names of
temporary files are numbered, and names that are taken are passed over.
-/

namespace MethodMacros

/-- The computer that programs run on. -/
structure Host where
  files : FileSystem
  folder : Location
  umask : Mask := 0o022
  clock : Int
  environment : List (String × String) := []
  standardInput : String := ""
  messages : List Message := []
  deriving Repr

namespace Host

/-- The time between two requests, in nanoseconds. -/
def tick : Int := 1000003

/-- The bytes of a text. -/
def bytesOf (s : String) : List UInt8 := s.toUTF8.toList

/-- Answers a request about a path, unless the path cannot be taken. -/
def answerAt {α : Type} (h : Host) (path : String) (result : Except Errno (α × FileSystem)) :
    Except FileError α × Host :=
  if acceptable path then
    match result with
    | .ok (a, files) => (.ok a, { h with files := files })
    | .error e => (.error (.refused e path), h)
  else (.error .nullByte, h)

/-- An operation that gives nothing but the file system afterwards. -/
def effect (result : Except Errno FileSystem) : Except Errno (Unit × FileSystem) :=
  result.map fun files => ((), files)

/-! ## Temporary files -/

/-- The letters of the random part of a temporary name. -/
def temporaryLetters (n : Nat) : List Char :=
  (List.range 8).reverse.map fun i => Char.ofNat (97 + n / Nat.pow 26 i % 26)

/-- The path of a temporary file.  The directory is made absolute by name alone. -/
def temporaryPath (h : Host) (directory stem : String) (n : Nat) : String :=
  let start := match Path.rootOf directory.toList with
    | .relative => h.folder
    | _ => []
  let location := (Path.components directory.toList).foldl FileSystem.lexicalStep start
  let root := match Path.rootOf directory.toList with
    | .double => "//"
    | _ => "/"
  let name := "." ++ stem ++ "." ++ String.ofList (temporaryLetters n) ++ ".tmp"
  if location.isEmpty then root ++ name
  else root ++ "/".intercalate location ++ "/" ++ name

/-- Creates a temporary file under the first name, from number `n` on, that is not taken. -/
def createTemporary (h : Host) (directory stem : String) : Nat → Nat →
    Except FileError String × Host
  | 0, n =>
      let path := h.temporaryPath directory stem n
      (.error (.refused .alreadyExists path), h)
  | tries + 1, n =>
      let path := h.temporaryPath directory stem n
      match h.files.createFile h.folder h.umask 0o600 h.clock path with
      | .ok files =>
          if acceptable path then (.ok path, { h with files := files })
          else (.error .nullByte, h)
      | .error .alreadyExists => createTemporary h directory stem tries (n + 1)
      | .error e => if acceptable path then (.error (.refused e path), h) else (.error .nullByte, h)

/-! ## Tools -/

/-- The value of an environment variable. -/
def setting? (h : Host) (name : String) : Option String :=
  h.environment.lookup name

/-- The paths that a command may stand for.  A name without a slash is searched for. -/
def commandPaths (h : Host) (name : String) : List String :=
  if name.toList.contains '/' then [name]
  else candidates ((h.setting? "PATH").getD defaultSearchPath) name

/-- What is run when a path is executed. -/
def executable (h : Host) (folder : Location) (path : String) : Except Errno Behaviour := do
  match ← h.files.entryAt folder path true with
  | (_, .file node) =>
      if node.mode &&& 0o111 = 0 then throw .accessDenied
      match node.behaviour with
      | some b => return b
      | none => throw .badFormat
  | _ => throw .accessDenied

/-- The first of several paths that can be executed, with the error that counts if there is none:
the first that is not about a missing file, or else the last. -/
def firstExecutable (h : Host) (folder : Location) : List String → Option Errno → Errno →
    Except Errno Behaviour
  | [], noted, last => .error (noted.getD last)
  | path :: rest, noted, _ =>
      match h.executable folder path with
      | .ok b => .ok b
      | .error e =>
          let noted :=
            if e = .noEntry ∨ e = .notDirectory then noted else noted.or (some e)
          h.firstExecutable folder rest noted e

/-- Where the last option for output points to. -/
def outputArgument : List String → Option String
  | [] => none
  | arg :: rest =>
      match outputArgument rest with
      | some path => some path
      | none => if arg = "-o" then rest.head? else none

/-- Writes a file on behalf of a tool, which goes on if that is not possible. -/
def toolWrites (h : Host) (folder : Location) (path : String) (content : List UInt8) : Host :=
  match h.files.writeFile folder h.umask h.clock path content with
  | .ok files => { h with files := files }
  | .error _ => h

/-- What a tool records about a run: each argument on a line, then its working directory. -/
def recordOf (args : List String) (folder : Location) : List UInt8 :=
  bytesOf (String.join ((args ++ [absolutePath folder]).map (· ++ "\n")))

/-- Signals that do not end a tool: the null signal, and those about children, continuation, urgent
data and the size of the window. -/
def harmlessSignals : List Nat := [0, 17, 18, 23, 28]

/-- The exit code of a tool, which is negative if a signal ended it. -/
def exitCodeOf (b : Behaviour) : Int :=
  match b.killSignal.filter fun signal => !harmlessSignals.contains signal with
  | some signal => -(signal : Int)
  | none => b.exitCode % 256

/-- Lets a tool do what it does. -/
def behave (h : Host) (b : Behaviour) (args : List String) (folder : Location) :
    Finished × Host :=
  let h := match b.recordArguments with
    | some path => h.toolWrites h.folder path (recordOf args folder)
    | none => h
  let h := match b.outputText, outputArgument args with
    | some content, some path => h.toolWrites folder path content
    | _, _ => h
  (⟨exitCodeOf b, b.standardOutput ++ b.standardError⟩, h)

/-- The directory that a tool is started in. -/
def startFolder (h : Host) : Option String → Except Errno Location
  | none => .ok h.folder
  | some path => do
      match ← h.files.entryAt h.folder path true with
      | (l, .directory _) => return l
      | _ => throw .notDirectory

/-- Starts a tool and waits for its end. -/
def start (h : Host) (command : List String) (folder : Option String) :
    Except StartError Finished × Host :=
  match command with
  | [] => (.error .emptyCommand, h)
  | name :: args =>
      if !(command ++ folder.toList).all acceptable then (.error .nullByte, h)
      else
        match h.startFolder folder with
        | .error e => (.error (.badFolder e), h)
        | .ok l =>
            match h.firstExecutable l (h.commandPaths name) none .noEntry with
            | .error e => (.error (.refused e), h)
            | .ok b =>
                let (finished, h) := h.behave b args l
                (.ok finished, h)

/-! ## Answers -/

/-- A path leads to a file that may be executed. -/
def isRunnable (h : Host) (path : String) : Bool :=
  acceptable path &&
    match h.files.entryAt h.folder path true with
    | .ok (_, .file node) => node.mode &&& 0o111 != 0
    | _ => false

/-- The path of what a path leads to, in which no link is left unless links form a circle. -/
def resolve (h : Host) (path : String) : Except FileError String :=
  if acceptable path then
    let resolved := absolutePath (h.files.resolve h.folder path).location
    match h.files.status h.folder resolved with
    | .error .linkLoop => .error (.refused .linkLoop resolved)
    | _ => .ok resolved
  else .error .nullByte

/-- Answers a request. -/
def answer (h : Host) : (r : Request) → r.Answer × Host
  | .status path => h.answerAt path ((h.files.status h.folder path).map (·, h.files))
  | .makeDirectory path => h.answerAt path (effect (h.files.makeDirectory h.folder h.umask path))
  | .createTemporary directory stem => h.createTemporary directory stem 10000 0
  | .writeFile path content =>
      h.answerAt path (effect (h.files.writeFile h.folder h.umask h.clock path (bytesOf content)))
  | .readFile path => h.answerAt path ((h.files.readFile h.folder path).map (·, h.files))
  | .setMode path mode => h.answerAt path (effect (h.files.setMode h.folder path mode))
  | .rename source target =>
      if acceptable source && acceptable target then
        match h.files.rename h.folder source target with
        | .ok files => (.ok (), { h with files := files })
        | .error e => (.error (.refused e source (some target)), h)
      else (.error .nullByte, h)
  | .removeFile path => h.answerAt path (effect (h.files.removeFile h.folder path))
  | .touch path => h.answerAt path (effect (h.files.setModified h.folder path h.clock))
  | .exchangeUmask mask => (h.umask, { h with umask := mask })
  | .isRunnable path => (h.isRunnable path, h)
  | .resolve path => (h.resolve path, h)
  | .time => (h.clock, h)
  | .variable name => (h.setting? name, h)
  | .standardInput => (h.standardInput, h)
  | .start command folder => h.start command folder
  | .tell message => ((), { h with messages := message :: h.messages })

/-- Answers a request, and lets the clock go on. -/
def perform (h : Host) (r : Request) : r.Answer × Host :=
  let (a, after) := h.answer r
  (a, { after with clock := after.clock + tick })

end Host

namespace Program

variable {α : Type}

/-- Runs a program on a host. -/
def run : Program α → Host → α × Host
  | .done a, h => (a, h)
  | .ask r next, h =>
      let (x, after) := h.perform r
      (next x).run after

/-- The states of the host while a program runs, from the first to the last. -/
def states : Program α → Host → List Host
  | .done _, h => [h]
  | .ask r next, h =>
      let (x, after) := h.perform r
      h :: (next x).states after

@[simp] theorem run_done (a : α) (h : Host) : (Program.done a).run h = (a, h) := rfl

theorem run_ask (r : Request) (next : r.Answer → Program α) (h : Host) :
    (Program.ask r next).run h = (next (h.perform r).1).run (h.perform r).2 := rfl

/-- Running two programs in a row is running the second where the first ended. -/
theorem run_bind {β : Type} (p : Program α) (f : α → Program β) (h : Host) :
    (p.bind f).run h = (f (p.run h).1).run (p.run h).2 := by
  induction p generalizing h with
  | done a => rfl
  | ask r next ih => simp [bind, run_ask, ih]

end Program

end MethodMacros
