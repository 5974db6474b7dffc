import MethodMacros.FileSystem.Walk

/-!
# Operations on files

Each operation either gives the file system as it is afterwards or the reason why nothing was done.
Paths are followed from the working directory `cwd`; operations on an entry itself (making a
directory, renaming, removing) leave a link at the end of the path alone, and those on the content
or permissions go through it.
-/

namespace MethodMacros

/-- A mask for the permissions of what is made: the nine permissions to read, to write and to
execute can be masked, and no others. -/
abbrev Mask := Fin 0o1000

namespace Mask

/-- The mask that a number stands for: bits above the nine of a mask do not count. -/
def ofNat (n : Nat) : Mask := ⟨n % 0o1000, Nat.mod_lt n (by decide)⟩

instance (n : Nat) : OfNat Mask n := ⟨ofNat n⟩

end Mask

/-- The permissions that remain when those of a mask are taken away. -/
def clearMask (mode : Nat) (mask : Mask) : Nat :=
  mode ^^^ (mode &&& mask)

/-- A permission remains if the mask does not hold it. -/
theorem testBit_clearMask (mode : Nat) (mask : Mask) (i : Nat) :
    (clearMask mode mask).testBit i = (mode.testBit i && !mask.val.testBit i) := by
  rw [clearMask, Nat.testBit_xor, Nat.testBit_and]
  cases mode.testBit i <;> cases mask.val.testBit i <;> rfl

/-- The kinds of entries. -/
inductive EntryKind where
  | directory
  | file
  | link
  deriving DecidableEq, Repr

/-- What can be asked about an entry without opening it. -/
structure Status where
  kind : EntryKind
  mode : Nat
  modified : Int
  deriving DecidableEq, Repr

/-- The status of an entry. -/
def Entry.status : Entry → Status
  | .directory mode => ⟨.directory, mode, 0⟩
  | .file node => ⟨.file, node.mode, node.modified⟩
  | .link _ => ⟨.link, 0o777, 0⟩

/-- An entry with other permissions. -/
def Entry.withMode (mode : Nat) : Entry → Entry
  | .directory _ => .directory mode
  | .file node => .file { node with mode := mode }
  | .link target => .link target

namespace FileSystem

variable (fs : FileSystem) (cwd : Location)

/-- The status of the entry that a path leads to, with links followed. -/
def status (path : String) : Except Errno Status := do
  let (_, e) ← fs.entryAt cwd path true
  return e.status

/-- The permission bit that directories pass on to those made in them. -/
def inheritedBit : Nat := 0o2000

/-- What a directory at a location has from the one above it. -/
def inheritedMode (l : Location) : Nat :=
  match fs.get? l.dropLast with
  | some (.directory mode) => mode &&& inheritedBit
  | _ => 0

/-- Makes a directory. -/
def makeDirectory (umask : Mask) (path : String) : Except Errno FileSystem := do
  match ← fs.reach cwd path false with
  | .found _ _ => throw .alreadyExists
  | .vacant l =>
      return fs.insert l (.directory (clearMask 0o777 umask ||| fs.inheritedMode l))

/-- Creates an empty file where nothing is. -/
def createFile (umask : Mask) (mode : Nat) (time : Int) (path : String) : Except Errno FileSystem := do
  match ← fs.reach cwd path false with
  | .found _ _ => throw .alreadyExists
  | .vacant l =>
      return fs.insert l (.file { mode := clearMask mode umask, modified := time, content := [] })

/-- Replaces the content of a file, which is created if it does not exist. -/
def writeFile (umask : Mask) (time : Int) (path : String) (content : List UInt8) :
    Except Errno FileSystem := do
  match ← fs.reach cwd path true with
  | .found l (.file node) =>
      return fs.insert l
        (.file { node with modified := time, content := content, behaviour := none })
  | .found _ _ => throw .isDirectory
  | .vacant l =>
      return fs.insert l
        (.file { mode := clearMask 0o666 umask, modified := time, content := content })

/-- The content of a file. -/
def readFile (path : String) : Except Errno (List UInt8) := do
  match ← fs.entryAt cwd path true with
  | (_, .file node) => return node.content
  | _ => throw .isDirectory

/-- Sets the permissions of a file or directory. -/
def setMode (path : String) (mode : Nat) : Except Errno FileSystem := do
  let (l, e) ← fs.entryAt cwd path true
  return fs.insert l (e.withMode mode)

/-- Sets the time of the last change of a file. -/
def setModified (path : String) (time : Int) : Except Errno FileSystem := do
  match ← fs.entryAt cwd path true with
  | (l, .file node) => return fs.insert l (.file { node with modified := time })
  | _ => return fs

/-- Removes a file or a link. -/
def removeFile (path : String) : Except Errno FileSystem := do
  match ← fs.entryAt cwd path false with
  | (_, .directory _) => throw .isDirectory
  | (l, _) => return fs.erase l

/-- Makes a link, whatever its target is. -/
def makeLink (path target : String) : Except Errno FileSystem := do
  match ← fs.reach cwd path false with
  | .found _ _ => throw .alreadyExists
  | .vacant l => return fs.insert l (.link target)

/-- Removes an entry, with all that lies below it if it is a directory. -/
def removeTree (path : String) : Except Errno FileSystem := do
  let (l, _) ← fs.entryAt cwd path false
  return fs.erase l

/-- Lets the file that a path leads to do something when it is run. -/
def setBehaviour (path : String) (behaviour : Behaviour) : Except Errno FileSystem := do
  match ← fs.entryAt cwd path true with
  | (l, .file node) => return fs.insert l (.file { node with behaviour := some behaviour })
  | _ => throw .isDirectory

/-- Makes the directories along a list of names that do not exist yet; `made` is the text of the
path so far. -/
def makeDirectoriesAlong (umask : Mask) (made : String) : List String → FileSystem →
    Except Errno FileSystem
  | [], fs => .ok fs
  | name :: rest, fs =>
      let path := made ++ name
      match fs.makeDirectory cwd umask path with
      | .ok after => makeDirectoriesAlong umask (path ++ "/") rest after
      | .error .alreadyExists => makeDirectoriesAlong umask (path ++ "/") rest fs
      | .error e => .error e

/-- Makes a directory and those above it, as far as they do not exist yet. -/
def makeDirectories (umask : Mask) (path : Path) : Except Errno FileSystem :=
  makeDirectoriesAlong cwd umask path.root.text path.parts fs

/-- A path that ends in something else than the name of an entry. -/
def endsSpecially (path : String) : Bool :=
  match (namesOf path).getLast? with
  | none => true
  | some name => name = "." || name = ".."

/-- Moves a file to another place, where it replaces a file or a link, but not a directory. -/
def rename (source target : String) : Except Errno FileSystem := do
  let (l, e) ← fs.entryAt cwd source false
  if endsSpecially target then
    let _ ← fs.walk true linkLimit (startOf cwd target) (namesOf target).dropLast
    throw .busy
  match ← fs.reach cwd target false with
  | .found _ (.directory _) => throw .isDirectory
  | .found m _ => return (fs.erase l).insert m e
  | .vacant m => return (fs.erase l).insert m e

end FileSystem

end MethodMacros
