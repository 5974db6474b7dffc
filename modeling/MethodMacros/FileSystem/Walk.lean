import MethodMacros.FileSystem.Basic
import MethodMacros.Path

/-!
# Walking along a path

A path given to the operating system is followed name by name, and links on the way are replaced by
what they point to.  Only a limited number of links is followed, so a walk ends even if links form a
circle.  Between two links the walk goes through the names of the path, and at each link the number
of links that may still follow goes down.
-/

namespace MethodMacros

/-- Why the operating system refuses something. -/
inductive Errno where
  | noEntry
  | badFormat
  | accessDenied
  | busy
  | alreadyExists
  | notDirectory
  | isDirectory
  | nameTooLong
  | linkLoop
  deriving DecidableEq, Repr

/-- All these reasons. -/
def Errno.all : List Errno :=
  [.noEntry, .badFormat, .accessDenied, .busy, .alreadyExists, .notDirectory, .isDirectory,
    .nameTooLong, .linkLoop]

/-- The number of an error. -/
def Errno.code : Errno → Nat
  | .noEntry => 2
  | .badFormat => 8
  | .accessDenied => 13
  | .busy => 16
  | .alreadyExists => 17
  | .notDirectory => 20
  | .isDirectory => 21
  | .nameTooLong => 36
  | .linkLoop => 40

/-- The wording of an error. -/
def Errno.text : Errno → String
  | .noEntry => "No such file or directory"
  | .badFormat => "Exec format error"
  | .accessDenied => "Permission denied"
  | .busy => "Device or resource busy"
  | .alreadyExists => "File exists"
  | .notDirectory => "Not a directory"
  | .isDirectory => "Is a directory"
  | .nameTooLong => "File name too long"
  | .linkLoop => "Too many levels of symbolic links"

namespace FileSystem

/-- Where a walk ends: at an entry, or at a name that a directory does not hold yet. -/
inductive Reached where
  | found (l : Location) (e : Entry)
  | vacant (l : Location)
  deriving DecidableEq, Repr

/-- How far a walk gets without following a link. -/
inductive Stop where
  | reached (r : Reached)
  | failed (e : Errno)
  | link (directory : Location) (target : String) (rest : List String)
  deriving Repr

/-- The greatest number of bytes in a name. -/
def nameLimit : Nat := 255

/-- The number of bytes from which on a path is too long. -/
def pathLimit : Nat := 4096

/-- The number of links that one walk may follow. -/
def linkLimit : Nat := 40

/-- Walks from a location along names, up to the first link that has to be followed. -/
def steps (fs : FileSystem) (followLast : Bool) (l : Location) : List String → Stop
  | [] =>
      match fs.get? l with
      | some e => .reached (.found l e)
      | none => .failed .noEntry
  | name :: rest =>
      match fs.get? l with
      | some (.directory _) =>
          if name = "." then steps fs followLast l rest
          else if name = ".." then steps fs followLast l.dropLast rest
          else if nameLimit < name.utf8ByteSize then .failed .nameTooLong
          else
            match fs.get? (l ++ [name]) with
            | none => if rest.isEmpty then .reached (.vacant (l ++ [name])) else .failed .noEntry
            | some (.link target) =>
                if rest.isEmpty && !followLast then
                  .reached (.found (l ++ [name]) (.link target))
                else .link l target rest
            | some _ => steps fs followLast (l ++ [name]) rest
      | some _ => .failed .notDirectory
      | none => .failed .noEntry

/-- The names of a path.  A slash at the end asks for a directory, as a dot does. -/
def namesOf (path : String) : List String :=
  let names := Path.components path.toList
  if path.toList.getLast? = some '/' && !names.isEmpty then names ++ ["."] else names

/-- Where a path starts. -/
def startOf (cwd : Location) (path : String) : Location :=
  match Path.rootOf path.toList with
  | .relative => cwd
  | _ => []

/-- Walks along names, following at most `n` links. -/
def walk (fs : FileSystem) (followLast : Bool) : Nat → Location → List String →
    Except Errno Reached
  | n, l, names =>
      match fs.steps followLast l names with
      | .reached r => .ok r
      | .failed e => .error e
      | .link directory target rest =>
          match n with
          | 0 => .error .linkLoop
          | n + 1 => walk fs followLast n (startOf directory target) (namesOf target ++ rest)

/-- Walks along a path from a working directory.  With `followLast` a link at the very end is
followed too. -/
def reach (fs : FileSystem) (cwd : Location) (path : String) (followLast : Bool) :
    Except Errno Reached :=
  if path = "" then .error .noEntry
  else if pathLimit ≤ path.utf8ByteSize then .error .nameTooLong
  else fs.walk followLast linkLimit (startOf cwd path) (namesOf path)

/-- The entry that a path leads to. -/
def entryAt (fs : FileSystem) (cwd : Location) (path : String) (followLast : Bool) :
    Except Errno (Location × Entry) := do
  match ← fs.reach cwd path followLast with
  | .found l e => return (l, e)
  | .vacant _ => throw .noEntry

/-! ## The location behind a path -/

/-- A location, and whether links could be followed all the way to it. -/
structure Resolved where
  location : Location
  complete : Bool
  deriving DecidableEq, Repr

/-- One step along a path by a name, without looking at any entry. -/
def lexicalStep (l : Location) (name : String) : Location :=
  if name = "." then l else if name = ".." then l.dropLast else l ++ [name]

/-- Follows links as far as they lead, and goes on by name where nothing exists.  `open` holds the
links that are being followed: one that comes up again is part of a circle, and from there on
nothing is followed any more.  Since each link is followed only once at a time, `n` need not exceed
the number of entries. -/
def resolveFrom (fs : FileSystem) : Nat → List Location → Location → List String → Resolved
  | n, followed, l, names =>
      names.foldl
        (fun r name =>
          if !r.complete || name = "." || name = ".." then
            { r with location := lexicalStep r.location name }
          else
            let next := r.location ++ [name]
            match fs.get? next with
            | some (.link target) =>
                if followed.contains next then ⟨next, false⟩
                else
                  match n with
                  | 0 => ⟨next, false⟩
                  | n + 1 =>
                      resolveFrom fs n (next :: followed) (startOf r.location target)
                        (Path.components target.toList)
            | _ => ⟨next, true⟩)
        ⟨l, true⟩

/-- The location behind a path, which need not exist. -/
def resolve (fs : FileSystem) (cwd : Location) (path : String) : Resolved :=
  fs.resolveFrom fs.entries.length [] (startOf cwd path) (Path.components path.toList)

end FileSystem

/-- The path of a location, from the root directory. -/
def absolutePath (l : Location) : String :=
  "/" ++ "/".intercalate l

end MethodMacros
